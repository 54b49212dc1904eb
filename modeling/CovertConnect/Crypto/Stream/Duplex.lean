import CovertConnect.Crypto.Stream.Sender
import CovertConnect.Crypto.Stream.Transport

namespace CovertConnect.Crypto

open CovertConnect.Data

/-! # Both directions at once

A connection has a stream at each end, and both are written to and read from at
the same time.  What one direction does leaves the other one alone, so each of
them is a link of its own. -/

namespace EncryptedStream

variable {S R : Type}

/-- Nothing of the reading direction differs. -/
structure SameReader (this after : EncryptedStream S R) : Prop where
  cipher : after.readCipher = this.readCipher
  buffer : after.readBuffer = this.readBuffer
  state : after.readState = this.readState
  readed : after.readed = this.readed
  padding : after.padding = this.padding
  encLimit : after.encLimit = this.encLimit

namespace SameReader

variable {this middle after : EncryptedStream S R}

theorem refl : this.SameReader this := ⟨rfl, rfl, rfl, rfl, rfl, rfl⟩

theorem trans (first : this.SameReader middle) (second : middle.SameReader after) :
    this.SameReader after :=
  ⟨second.cipher.trans first.cipher, second.buffer.trans first.buffer, second.state.trans first.state,
    second.readed.trans first.readed, second.padding.trans first.padding,
    second.encLimit.trans first.encLimit⟩

theorem readCodec (same : this.SameReader after) : after.readCodec = this.readCodec := by
  simp only [EncryptedStream.readCodec, same.cipher, same.padding, same.encLimit]

theorem readPlace (same : this.SameReader after) : after.readPlace = this.readPlace := by
  simp only [EncryptedStream.readPlace, same.cipher, same.readed]

theorem resting (same : this.SameReader after) (resting : this.Resting) : after.Resting := by
  unfold Resting at resting ⊢
  rw [same.state, same.buffer, same.readCodec, same.readed]
  exact resting

theorem awaits [Aead] (same : this.SameReader after) {codec : Codec} {last : Place}
    {rest payload : Bytes} (awaits : this.Awaits codec last rest payload) :
    after.Awaits codec last rest payload := by
  unfold Awaits at awaits ⊢
  rw [same.readCodec, same.state, same.buffer, same.readed, same.readPlace]
  exact awaits

end SameReader

section Writing

variable [Aead] [AsyncWrite S]

omit [Aead] in
theorem pollWriteBuffer_sameReader (this : EncryptedStream S R) (noPending : Bool) :
    this.SameReader (this.pollWriteBuffer noPending).2 := by
  unfold pollWriteBuffer
  split
  · exact ⟨rfl, rfl, rfl, rfl, rfl, rfl⟩
  · exact ⟨rfl, rfl, rfl, rfl, rfl, rfl⟩

omit [AsyncWrite S] in
theorem assembleDataToBuffer_sameReader [Rng R] (this : EncryptedStream S R) (buf : Bytes) :
    this.SameReader (this.assembleDataToBuffer buf) := ⟨rfl, rfl, rfl, rfl, rfl, rfl⟩

/-- Writing leaves the reading direction alone. -/
theorem pollWrite_sameReader [Rng R] (this : EncryptedStream S R) (buf : Bytes) :
    this.SameReader (this.pollWrite buf).2 := by
  have drained := this.pollWriteBuffer_sameReader false
  unfold pollWrite
  dsimp only
  split
  · rename_i poll
    rwa [poll] at drained
  · rename_i poll
    rwa [poll] at drained
  · rename_i emptied poll
    rw [poll] at drained
    generalize (if maxPacketSize < buf.length then buf.take maxPacketSize else buf) = chunk
    have filled := drained.trans ((emptied.assembleDataToBuffer_sameReader chunk).trans
      ((emptied.assembleDataToBuffer chunk).pollWriteBuffer_sameReader true))
    split
    · rename_i poll'
      rwa [poll'] at filled
    · rename_i poll'
      rwa [poll'] at filled
    · rename_i poll'
      rwa [poll'] at filled

omit [Aead] in
theorem pollThrough_sameReader (this : EncryptedStream S R)
    (call : S → Poll (Except IoError Unit) × S) :
    this.SameReader (this.pollThrough call).2 := by
  have drained := this.pollWriteBuffer_sameReader false
  unfold pollThrough
  split
  · rename_i poll
    rwa [poll] at drained
  · rename_i poll
    rwa [poll] at drained
  · rename_i poll
    rw [poll] at drained
    exact drained.trans ⟨rfl, rfl, rfl, rfl, rfl, rfl⟩

end Writing

end EncryptedStream

namespace Endpoint

theorem incoming_of_writes {before after : Endpoint} {bytes : Bytes}
    (writes : Writes before bytes after) : after.incoming = before.incoming := by
  have kept : ∀ {sink next : Endpoint} {offered : Bytes} {answer : Poll (Except IoError Nat)},
      AsyncWrite.pollWrite sink offered = (answer, next) → next.incoming = sink.incoming := by
    intro sink next offered answer poll
    obtain rfl : (pollWrite sink offered).2 = next := congrArg Prod.snd poll
    unfold pollWrite
    split <;> rfl
  induction writes with
  | done => rfl
  | pending poll _ ih | failed poll _ ih | accept poll _ ih => exact ih.trans (kept poll)

theorem outgoing_of_reads {before after : Endpoint} {bytes : Bytes}
    (reads : Reads before bytes after) : after.outgoing = before.outgoing := by
  have kept : ∀ {source next : Endpoint} {room : Nat} {answer : Poll (Except IoError Bytes)},
      AsyncRead.pollRead source room = (answer, next) → next.outgoing = source.outgoing := by
    intro source next room answer poll
    obtain rfl : (pollRead source room).2 = next := congrArg Prod.snd poll
    unfold pollRead
    split <;> rfl
  induction reads with
  | done => rfl
  | pending poll _ ih | failed poll _ ih | chunk poll _ ih => exact ih.trans (kept poll)

end Endpoint

namespace Link

variable {W R : Type}

/-- The end goes on reading as if nothing had happened. -/
structure KeepsReading (before after : EncryptedStream Endpoint R) : Prop where
  reader : before.SameReader after
  incoming : after.inner.incoming = before.inner.incoming

/-- The end goes on writing as if nothing had happened. -/
structure KeepsWriting (before after : EncryptedStream Endpoint W) : Prop where
  writer : before.SameWriter after
  outgoing : after.inner.outgoing = before.inner.outgoing

section Steps

variable [Aead] [Rng W]

theorem write_keeps (link : Link W R) (buf : Bytes) (replies : List WriteReply)
    (inside : link.writer.writePos ≤ link.writer.writeBuffer.length) :
    KeepsReading link.writer (link.write buf replies).writer ∧
      (link.write buf replies).reader = link.reader := by
  have polled := (withReplies link.writer replies .pending).pollWrite_sameReader buf
  unfold write
  cases poll : (withReplies link.writer replies .pending).pollWrite buf with
  | mk result after =>
      rw [poll] at polled
      obtain ⟨_, _, writes, _⟩ := EncryptedStream.pollWrite_spec
        (show (withReplies link.writer replies .pending).writePos ≤ _ from inside) poll
      have still := Endpoint.incoming_of_writes writes
      have kept : KeepsReading link.writer after :=
        ⟨⟨polled.cipher, polled.buffer, polled.state, polled.readed, polled.padding,
          polled.encLimit⟩, still⟩
      cases result using Poll.threeWays with
      | pending | error _ | ok _ => exact ⟨kept, rfl⟩

omit [Rng W] in
theorem through_keeps (link : Link W R) (call : Endpoint → Poll (Except IoError Unit) × Endpoint)
    (silent : ∀ sink, (call sink).2.incoming = sink.incoming) (replies : List WriteReply)
    (reply : Poll (Except IoError Unit))
    (inside : link.writer.writePos ≤ link.writer.writeBuffer.length) :
    KeepsReading link.writer (link.through call replies reply).writer ∧
      (link.through call replies reply).reader = link.reader := by
  have polled := (withReplies link.writer replies reply).pollThrough_sameReader call
  unfold through
  cases poll : (withReplies link.writer replies reply).pollThrough call with
  | mk result after =>
      rw [poll] at polled
      obtain ⟨_, middle, writes, _, called, _⟩ :=
        EncryptedStream.pollThrough_spec call
          (show (withReplies link.writer replies reply).writePos ≤ _ from inside) poll
      have still : after.inner.incoming = link.writer.inner.incoming := by
        have unread := Endpoint.incoming_of_writes writes
        rcases called with same | same
        · rw [same]
          exact unread
        · rw [same]
          exact (silent middle).trans unread
      have kept : KeepsReading link.writer after :=
        ⟨⟨polled.cipher, polled.buffer, polled.state, polled.readed, polled.padding,
          polled.encLimit⟩, still⟩
      cases result using Poll.threeWays with
      | pending | error _ | ok _ => exact ⟨kept, rfl⟩

omit [Rng W] in
theorem read_keeps (link : Link W R) (remaining : Nat) (replies : List ReadReply)
    (correct : Aead.Correct) :
    KeepsWriting link.reader (link.read remaining replies).reader := by
  have polled := (scripted link.reader replies).pollRead_sameWriter remaining
  unfold read
  cases poll : link.pollReader remaining replies with
  | mk result after =>
      have ran : (scripted link.reader replies).pollRead remaining = (result, after) := poll
      rw [ran] at polled
      obtain ⟨_, reads, _⟩ := EncryptedStream.pollRead_spec correct ran
      have still := Endpoint.outgoing_of_reads reads
      exact ⟨⟨polled.cipher, polled.buffer, polled.pos, polled.written, polled.padding,
        polled.encLimit⟩, still⟩

/-- An event of a link leaves the other direction of both its ends alone. -/
theorem step_keeps (link : Link W R) (event : Event) (correct : Aead.Correct)
    (inside : link.writer.writePos ≤ link.writer.writeBuffer.length) :
    KeepsReading link.writer (link.step event).writer ∧
      KeepsWriting link.reader (link.step event).reader := by
  have unread : KeepsReading link.writer link.writer := ⟨.refl, rfl⟩
  have unwritten : KeepsWriting link.reader link.reader := ⟨.refl, rfl⟩
  cases event with
  | write buf replies =>
      obtain ⟨kept, same⟩ := link.write_keeps buf replies inside
      exact ⟨kept, same.symm ▸ unwritten⟩
  | flush replies reply =>
      obtain ⟨kept, same⟩ := link.through_keeps AsyncWrite.pollFlush (fun _ => rfl) replies reply
        inside
      exact ⟨kept, same.symm ▸ unwritten⟩
  | shutdown replies reply =>
      obtain ⟨kept, same⟩ := link.through_keeps AsyncWrite.pollShutdown (fun _ => rfl) replies reply
        inside
      exact ⟨kept, same.symm ▸ unwritten⟩
  | carry count => exact ⟨unread, ⟨rfl, rfl, rfl, rfl, rfl, rfl⟩, rfl⟩
  | read remaining replies => exact ⟨unread, link.read_keeps remaining replies correct⟩

omit [Rng W] in
/-- The invariant reads one direction of each end. -/
theorem Inv.other {codec : Codec} {link after : Link W R} (inv : link.Inv codec)
    (writer : KeepsWriting link.writer after.writer)
    (reader : KeepsReading link.reader after.reader) (carried : after.carried = link.carried)
    (accepted : after.accepted = link.accepted) (returned : after.returned = link.returned)
    (flushed : after.flushed = link.flushed) : after.Inv codec := by
  obtain ⟨writeCodec, inside, below, ⟨payload, split, awaits⟩, resting, clear⟩ := inv
  have unsent : after.writer.unsent = link.writer.unsent := by
    simp only [EncryptedStream.unsent, writer.writer.buffer, writer.writer.pos]
  have underway : after.underway = link.underway := by
    simp only [Link.underway, writer.outgoing, carried]
  refine ⟨writer.writer.writeCodec.trans writeCodec, ?_, ?_, ⟨payload, ?_, ?_⟩,
    reader.reader.resting resting, ?_⟩
  · rw [writer.writer.pos, writer.writer.buffer]
    exact inside
  · rw [carried, writer.outgoing]
    exact below
  · rw [accepted, returned]
    exact split
  · rw [reader.incoming, underway, unsent, writer.writer.writePlace]
    exact reader.reader.awaits awaits
  · rw [flushed, unsent]
    exact clear

/-- What a write puts into the stream, of the bytes it is given. -/
def accepts (link : Link W R) (buf : Bytes) (replies : List WriteReply) : Nat :=
  match ((withReplies link.writer replies .pending).pollWrite buf).1 with
  | .ready (.ok count) => count
  | _ => 0

theorem write_accepted (link : Link W R) (buf : Bytes) (replies : List WriteReply) :
    (link.write buf replies).accepted = link.accepted ++ buf.take (link.accepts buf replies) := by
  unfold write accepts
  cases poll : (withReplies link.writer replies .pending).pollWrite buf with
  | mk result after =>
      cases result using Poll.threeWays with
      | pending | error _ => exact (List.append_nil _).symm
      | ok count => rfl

theorem write_returned (link : Link W R) (buf : Bytes) (replies : List WriteReply) :
    (link.write buf replies).returned = link.returned := by
  unfold write
  split <;> rfl

omit [Aead] [Rng W] in
theorem through_logs (link : Link W R) (call : Endpoint → Poll (Except IoError Unit) × Endpoint)
    (replies : List WriteReply) (reply : Poll (Except IoError Unit)) :
    (link.through call replies reply).accepted = link.accepted ∧
      (link.through call replies reply).returned = link.returned := by
  unfold through
  split <;> exact ⟨rfl, rfl⟩

/-- An event puts at most one frame behind what the writer has sealed. -/
theorem step_emits (link : Link W R) (event : Event)
    (inside : link.writer.writePos ≤ link.writer.writeBuffer.length) :
    ∃ (frames : List (Frame link.writer.writeCodec.needed)) (out : Bytes),
      frames.length ≤ 1 ∧ link.writer.Emits (link.step event).writer frames out := by
  have still : link.writer.Emits link.writer [] [] :=
    ⟨List.append_nil _, rfl, rfl, (List.append_nil _).symm, rfl, inside⟩
  have through : ∀ (call : Endpoint → Poll (Except IoError Unit) × Endpoint) replies reply,
      ∃ out, link.writer.Emits (link.through call replies reply).writer [] out := by
    intro call replies reply
    unfold Link.through
    cases poll : (withReplies link.writer replies reply).pollThrough call with
    | mk result after =>
        obtain ⟨out, _, _, emits, _⟩ := EncryptedStream.pollThrough_spec call
          (show (withReplies link.writer replies reply).writePos ≤ _ from inside) poll
        cases result using Poll.threeWays with
        | pending | error _ | ok _ => exact ⟨out, emits⟩
  cases event with
  | write buf replies =>
      change ∃ frames out, _ ∧ link.writer.Emits (link.write buf replies).writer frames out
      unfold write
      cases poll : (withReplies link.writer replies .pending).pollWrite buf with
      | mk result after =>
          obtain ⟨out, frames, _, emits, _, _, _, few, _⟩ := EncryptedStream.pollWrite_spec
            (show (withReplies link.writer replies .pending).writePos ≤ _ from inside) poll
          cases result using Poll.threeWays with
          | pending | error _ | ok _ => exact ⟨frames, out, few, emits⟩
  | flush replies reply =>
      obtain ⟨out, emits⟩ := through AsyncWrite.pollFlush replies reply
      exact ⟨[], out, Nat.zero_le _, emits⟩
  | shutdown replies reply =>
      obtain ⟨out, emits⟩ := through AsyncWrite.pollShutdown replies reply
      exact ⟨[], out, Nat.zero_le _, emits⟩
  | carry count => exact ⟨[], [], Nat.zero_le _, still⟩
  | read remaining replies => exact ⟨[], [], Nat.zero_le _, still⟩

end Steps

end Link

/-- What one direction has moved. -/
structure Traffic where
  carried : Nat
  accepted : Bytes
  returned : Bytes
  flushed : Bool

/-- The streams of both ends of a connection, with the traffic from the near to
the far end and back. -/
structure Duplex (N F : Type) where
  near : EncryptedStream Endpoint N
  far : EncryptedStream Endpoint F
  out : Traffic
  back : Traffic

namespace Duplex

variable {N F : Type}

def start (near : EncryptedStream Endpoint N) (far : EncryptedStream Endpoint F) : Duplex N F where
  near := near
  far := far
  out := ⟨0, [], [], false⟩
  back := ⟨0, [], [], false⟩

/-- The same connection, seen from its far end. -/
def swap (this : Duplex N F) : Duplex F N where
  near := this.far
  far := this.near
  out := this.back
  back := this.out

@[simp] theorem swap_swap (this : Duplex N F) : this.swap.swap = this := rfl

/-- The direction out, as a link. -/
def link (this : Duplex N F) : Link N F where
  writer := this.near
  reader := this.far
  carried := this.out.carried
  accepted := this.out.accepted
  returned := this.out.returned
  flushed := this.out.flushed

def withLink (this : Duplex N F) (link : Link N F) : Duplex N F where
  near := link.writer
  far := link.reader
  out := ⟨link.carried, link.accepted, link.returned, link.flushed⟩
  back := this.back

@[simp] theorem link_withLink (this : Duplex N F) (link : Link N F) :
    (this.withLink link).link = link := rfl

/-- An event of the direction out, or of the direction back. -/
inductive Event where
  | out (event : Link.Event)
  | back (event : Link.Event)

variable [Aead] [Rng N] [Rng F]

omit [Rng F] in
def stepOut (this : Duplex N F) (event : Link.Event) : Duplex N F :=
  this.withLink (this.link.step event)

def step (this : Duplex N F) : Event → Duplex N F
  | .out event => this.stepOut event
  | .back event => (this.swap.stepOut event).swap

def run (this : Duplex N F) (events : List Event) : Duplex N F :=
  events.foldl step this

/-- Both directions are sound links. -/
structure Inv (codec codec' : Codec) (this : Duplex N F) : Prop where
  out : this.link.Inv codec
  back : this.swap.link.Inv codec'

omit [Rng N] [Rng F] in
theorem Inv.swap {codec codec' : Codec} {this : Duplex N F} (inv : this.Inv codec codec') :
    this.swap.Inv codec' codec := ⟨inv.back, inv.out⟩

omit [Rng F] in
theorem stepOut_inv (correct : Aead.Correct) {codec codec' : Codec} {this : Duplex N F}
    (inv : this.Inv codec codec') (event : Link.Event) :
    (this.stepOut event).Inv codec codec' := by
  obtain ⟨reading, writing⟩ := this.link.step_keeps event correct inv.out.inside
  exact ⟨Link.step_inv correct inv.out event, inv.back.other writing reading rfl rfl rfl rfl⟩

theorem step_inv (correct : Aead.Correct) {codec codec' : Codec} {this : Duplex N F}
    (inv : this.Inv codec codec') (event : Event) : (this.step event).Inv codec codec' := by
  cases event with
  | out event => exact stepOut_inv correct inv event
  | back event => exact (stepOut_inv correct inv.swap event).swap

theorem run_inv (correct : Aead.Correct) {codec codec' : Codec} {this : Duplex N F}
    (inv : this.Inv codec codec') (events : List Event) : (this.run events).Inv codec codec' :=
  List.foldlRecOn events step inv fun _ kept event _ => step_inv correct kept event

/-- What is known of a cipher that started unused, after `count` steps. -/
structure SealedBy (start : Cipher) (count : Nat) (cipher : Cipher) : Prop where
  keyed : cipher.Keyed start.kind start.key
  spread : cipher.Spread start.nonce
  advanced : cipher.advanced ≤ 65536 * count

omit [Aead] [Rng N] [Rng F] in
theorem sealedBy_unused {cipher : Cipher} (unused : cipher.Unused) : SealedBy cipher 0 cipher where
  keyed := ⟨rfl, rfl, by simp [unused.1]⟩
  spread := by
    refine ⟨?_, [], ?_, List.Pairwise.nil, by simp⟩
    · rw [unused.2, Nonce.inc_zero]
    · rw [unused.1]
      rfl
  advanced := Nat.le_of_eq unused.2

omit [Rng N] [Rng F] in
theorem SealedBy.emits {S R : Type} {start : Cipher} {count : Nat} {before after : EncryptedStream S R}
    {frames : List (Frame before.writeCodec.needed)} {out : Bytes} (few : frames.length ≤ 1)
    (emits : before.Emits after frames out) (sealedBy : SealedBy start count before.writeCipher) :
    SealedBy start (count + 1) after.writeCipher := by
  refine ⟨emits.keyed sealedBy.keyed, emits.spread sealedBy.spread, ?_⟩
  have short : before.writeCodec.span before.writePlace frames ≤ 65536 := by
    cases frames with
    | nil => exact Nat.zero_le _
    | cons frame rest =>
        obtain rfl : rest = [] := List.eq_nil_of_length_eq_zero (by simpa using few)
        have fits := frame.padding_fits
        simp only [Codec.span, Codec.stride]
        split <;> omega
  have bounded := sealedBy.advanced
  rw [emits.2.2.2.2.1]
  omega

omit [Aead] [Rng N] [Rng F] in
theorem SealedBy.later {start cipher : Cipher} {count : Nat} (sealedBy : SealedBy start count cipher) :
    SealedBy start (count + 1) cipher :=
  ⟨sealedBy.keyed, sealedBy.spread,
    Nat.le_trans sealedBy.advanced (Nat.mul_le_mul_left _ (Nat.le_succ count))⟩

/-- The ciphers of both ends started unused, and `count` steps were taken. -/
def Sealed (near far : Cipher) (count : Nat) (this : Duplex N F) : Prop :=
  SealedBy near count this.near.writeCipher ∧ SealedBy far count this.far.writeCipher

omit [Rng F] in
/-- A step of an end seals at most one frame, with the cipher of that end. -/
theorem stepOut_sealed (correct : Aead.Correct) {codec codec' : Codec} {near far : Cipher}
    {count : Nat} {this : Duplex N F} (inv : this.Inv codec codec')
    (sealed : this.Sealed near far count) (event : Link.Event) :
    (this.stepOut event).Sealed near far (count + 1) := by
  obtain ⟨_, _, few, emits⟩ := this.link.step_emits event inv.out.inside
  obtain ⟨_, writing⟩ := this.link.step_keeps event correct inv.out.inside
  have same : (this.stepOut event).far.writeCipher = this.far.writeCipher := writing.writer.cipher
  refine ⟨sealed.1.emits few emits, ?_⟩
  rw [same]
  exact sealed.2.later

theorem step_sealed (correct : Aead.Correct) {codec codec' : Codec} {near far : Cipher}
    {count : Nat} {this : Duplex N F} (inv : this.Inv codec codec')
    (sealed : this.Sealed near far count) (event : Event) :
    (this.step event).Sealed near far (count + 1) := by
  cases event with
  | out event => exact stepOut_sealed correct inv sealed event
  | back event => exact (stepOut_sealed correct inv.swap ⟨sealed.2, sealed.1⟩ event).symm

end Duplex

end CovertConnect.Crypto
