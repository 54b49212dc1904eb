import CovertConnect.Crypto.Stream.Writer
import CovertConnect.Crypto.Stream.Reader

namespace CovertConnect.Crypto

open CovertConnect.Data

/-! # Two streams joined by a transport

The transport only moves bytes: what it has accepted arrives in order, in
chunks of any size and at any time.  Everything else it does is scripted by
the events, so a run meets every way of being slow. -/

inductive ReadReply where
  | pending
  | upTo (count : Nat)
  | failed (error : IoError)
deriving DecidableEq, Repr

inductive WriteReply where
  | pending
  /-- One byte and up to `further` more. -/
  | accept (further : Nat)
deriving DecidableEq, Repr

/-- One end of the transport.  An end that has no reply left is not ready. -/
structure Endpoint where
  incoming : Bytes
  outgoing : Bytes
  readReplies : List ReadReply
  writeReplies : List WriteReply
  closeReply : Poll (Except IoError Unit)

namespace Endpoint

def empty : Endpoint where
  incoming := []
  outgoing := []
  readReplies := []
  writeReplies := []
  closeReply := .pending

def pollRead (this : Endpoint) (room : Nat) : Poll (Except IoError Bytes) × Endpoint :=
  match this.readReplies with
  | [] => (.pending, this)
  | .pending :: replies => (.pending, { this with readReplies := replies })
  | .failed error :: replies => (.ready (.error error), { this with readReplies := replies })
  | .upTo count :: replies =>
      (.ready (.ok (this.incoming.take (min count room))),
        { this with
          incoming := this.incoming.drop (min count room)
          readReplies := replies })

def pollWrite (this : Endpoint) (bytes : Bytes) : Poll (Except IoError Nat) × Endpoint :=
  match this.writeReplies with
  | [] => (.pending, this)
  | .pending :: replies => (.pending, { this with writeReplies := replies })
  | .accept further :: replies =>
      (.ready (.ok (min (further + 1) bytes.length)),
        { this with
          outgoing := this.outgoing ++ bytes.take (min (further + 1) bytes.length)
          writeReplies := replies })

instance : AsyncRead Endpoint where
  pollRead := pollRead
  pollRead_fits := by
    intro stream room bytes after poll
    unfold pollRead at poll
    split at poll
    · simp at poll
    · simp at poll
    · simp at poll
    · simp only [Prod.mk.injEq, Poll.ready.injEq, Except.ok.injEq] at poll
      obtain ⟨rfl, _⟩ := poll
      rw [List.length_take]
      omega

instance : AsyncWrite Endpoint where
  pollWrite := pollWrite
  pollFlush := fun stream => (stream.closeReply, stream)
  pollShutdown := fun stream => (stream.closeReply, stream)
  pollWrite_fits := by
    intro stream bytes count after poll
    unfold pollWrite at poll
    split at poll
    · simp at poll
    · simp at poll
    · simp only [Prod.mk.injEq, Poll.ready.injEq, Except.ok.injEq] at poll
      obtain ⟨rfl, _⟩ := poll
      exact Nat.min_le_right _ _

theorem willing : EncryptedStream.Willing Endpoint := by
  intro sink bytes something
  have positive := List.length_pos_iff.mpr something
  change (pollWrite sink bytes).1 = _ ∨ ∃ count, 0 < count ∧ (pollWrite sink bytes).1 = _
  unfold pollWrite
  split
  · exact .inl rfl
  · exact .inl rfl
  · exact .inr ⟨_, by omega, rfl⟩

theorem incoming_of_reads {before after : Endpoint} {bytes : Bytes}
    (reads : Reads before bytes after) : before.incoming = bytes ++ after.incoming := by
  induction reads with
  | done => rfl
  | pending poll _ ih =>
      change pollRead _ _ = _ at poll
      unfold pollRead at poll
      split at poll <;> simp only [Prod.mk.injEq, reduceCtorEq, false_and, true_and] at poll
      · rw [poll]
        exact ih
      · rw [← ih, ← poll]
  | failed poll _ ih =>
      change pollRead _ _ = _ at poll
      unfold pollRead at poll
      split at poll <;>
        simp only [Prod.mk.injEq, reduceCtorEq, false_and, Poll.ready.injEq] at poll
      rw [← ih, ← poll.2]
  | chunk poll _ ih =>
      change pollRead _ _ = _ at poll
      unfold pollRead at poll
      split at poll <;>
        simp only [Prod.mk.injEq, reduceCtorEq, false_and, Poll.ready.injEq, Except.ok.injEq]
          at poll
      obtain ⟨rfl, rfl⟩ := poll
      rw [List.append_assoc, ← ih, List.take_append_drop]

theorem outgoing_of_writes {before after : Endpoint} {bytes : Bytes}
    (writes : Writes before bytes after) : after.outgoing = before.outgoing ++ bytes := by
  induction writes with
  | done => exact (List.append_nil _).symm
  | pending poll _ ih =>
      change pollWrite _ _ = _ at poll
      unfold pollWrite at poll
      split at poll <;> simp only [Prod.mk.injEq, reduceCtorEq, false_and, true_and] at poll
      · rw [ih, poll]
      · rw [ih, ← poll]
  | failed poll _ ih =>
      change pollWrite _ _ = _ at poll
      unfold pollWrite at poll
      split at poll <;>
        simp only [Prod.mk.injEq, reduceCtorEq, false_and, Poll.ready.injEq] at poll
  | accept poll _ ih =>
      change pollWrite _ _ = _ at poll
      unfold pollWrite at poll
      split at poll <;>
        simp only [Prod.mk.injEq, reduceCtorEq, false_and, Poll.ready.injEq, Except.ok.injEq]
          at poll
      obtain ⟨rfl, rfl⟩ := poll
      rw [ih, List.append_assoc]

end Endpoint

/-- Both ends with what their callers saw: `accepted` by the writer's
`pollWrite`, `returned` by the reader's `pollRead`. -/
structure Link (W R : Type) where
  writer : EncryptedStream Endpoint W
  reader : EncryptedStream Endpoint R
  /-- How much of what the writer's end accepted has arrived. -/
  carried : Nat
  accepted : Bytes
  returned : Bytes
  flushed : Bool

namespace Link

inductive Event where
  | write (buf : Bytes) (replies : List WriteReply)
  | flush (replies : List WriteReply) (reply : Poll (Except IoError Unit))
  | shutdown (replies : List WriteReply) (reply : Poll (Except IoError Unit))
  | carry (count : Nat)
  | read (remaining : Nat) (replies : List ReadReply)

variable {W R : Type}

/-- Streams on two ends of a fresh transport. -/
def start (writer : EncryptedStream Endpoint W) (reader : EncryptedStream Endpoint R) :
    Link W R where
  writer := writer
  reader := reader
  carried := 0
  accepted := []
  returned := []
  flushed := false

/-- What the transport still holds. -/
def underway (link : Link W R) : Bytes :=
  link.writer.inner.outgoing.drop link.carried

section Running

variable [Aead] [Rng W]

def withReplies (stream : EncryptedStream Endpoint W) (replies : List WriteReply)
    (reply : Poll (Except IoError Unit)) : EncryptedStream Endpoint W :=
  { stream with inner := { stream.inner with writeReplies := replies, closeReply := reply } }

def write (link : Link W R) (buf : Bytes) (replies : List WriteReply) : Link W R :=
  match (withReplies link.writer replies .pending).pollWrite buf with
  | (.ready (.ok count), writer) =>
      { link with writer, accepted := link.accepted ++ buf.take count, flushed := false }
  | (_, writer) => { link with writer }

def through (call : Endpoint → Poll (Except IoError Unit) × Endpoint) (link : Link W R)
    (replies : List WriteReply) (reply : Poll (Except IoError Unit)) : Link W R :=
  match (withReplies link.writer replies reply).pollThrough call with
  | (.ready (.ok ()), writer) => { link with writer, flushed := true }
  | (_, writer) => { link with writer }

def carry (link : Link W R) (count : Nat) : Link W R :=
  { link with
    reader := { link.reader with
      inner := { link.reader.inner with
        incoming := link.reader.inner.incoming ++ link.underway.take count } }
    carried := min (link.carried + count) link.writer.inner.outgoing.length }

def scripted (stream : EncryptedStream Endpoint R) (replies : List ReadReply) :
    EncryptedStream Endpoint R :=
  { stream with inner := { stream.inner with readReplies := replies } }

def pollReader (link : Link W R) (remaining : Nat) (replies : List ReadReply) :
    Poll (Except IoError Bytes) × EncryptedStream Endpoint R :=
  (scripted link.reader replies).pollRead remaining

def read (link : Link W R) (remaining : Nat) (replies : List ReadReply) : Link W R :=
  let (result, reader) := link.pollReader remaining replies
  { link with reader, returned := link.returned ++ EncryptedStream.delivered result }

def step (link : Link W R) : Event → Link W R
  | .write buf replies => link.write buf replies
  | .flush replies reply => link.through AsyncWrite.pollFlush replies reply
  | .shutdown replies reply => link.through AsyncWrite.pollShutdown replies reply
  | .carry count => link.carry count
  | .read remaining replies => link.read remaining replies

def run (link : Link W R) (events : List Event) : Link W R :=
  events.foldl step link

/-- The reader is owed exactly what was accepted and not yet returned, and the
bytes it needs for that are on their way. -/
structure Inv (codec : Codec) (link : Link W R) : Prop where
  writeCodec : link.writer.writeCodec = codec
  inside : link.writer.writePos ≤ link.writer.writeBuffer.length
  carried_le : link.carried ≤ link.writer.inner.outgoing.length
  owed : ∃ payload, link.accepted = link.returned ++ payload ∧
    link.reader.Awaits codec link.writer.writePlace
      (link.reader.inner.incoming ++ (link.underway ++ link.writer.unsent)) payload
  resting : link.reader.Resting
  flushed : link.flushed = true → link.writer.unsent = []

omit [Rng W] in
/-- What a call of the writer assembles comes behind everything that is on its
way to the reader. -/
theorem emitted_bytes {link : Link W R} (below : link.carried ≤ link.writer.inner.outgoing.length)
    {after : EncryptedStream Endpoint W} {frames : List (Frame link.writer.writeCodec.needed)}
    {out : Bytes} (emits : link.writer.Emits after frames out)
    (grown : after.inner.outgoing = link.writer.inner.outgoing ++ out) :
    link.reader.inner.incoming ++ (link.underway ++ link.writer.unsent) ++
        link.writer.writeCodec.encodeAll link.writer.writePlace frames =
      link.reader.inner.incoming ++ (after.inner.outgoing.drop link.carried ++ after.unsent) := by
  rw [grown, List.drop_append_of_le_length below, List.append_assoc, List.append_assoc, emits.1,
    List.append_assoc]
  rfl

omit [Aead] [Rng W] in
/-- Carrying moves no byte past another. -/
theorem carried_bytes (link : Link W R) (count : Nat) :
    link.reader.inner.incoming ++ (link.underway ++ link.writer.unsent) =
      (link.carry count).reader.inner.incoming ++
        ((link.carry count).underway ++ link.writer.unsent) := by
  have rest : (link.carry count).underway = link.underway.drop count := by
    unfold underway carry
    rw [List.drop_drop]
    by_cases within : link.carried + count ≤ link.writer.inner.outgoing.length
    · rw [Nat.min_eq_left within]
    · have beyond := Nat.le_of_not_le within
      rw [Nat.min_eq_right beyond, List.drop_length, List.drop_of_length_le beyond]
  have moved : link.underway = link.underway.take count ++ (link.carry count).underway := by
    rw [rest, List.take_append_drop]
  change _ = link.reader.inner.incoming ++ link.underway.take count ++ _
  rw [List.append_assoc, ← List.append_assoc (List.take count _), ← moved]

omit [Rng W] in
theorem Inv.emit {codec : Codec} {link : Link W R} (inv : link.Inv codec)
    {after : EncryptedStream Endpoint W} {frames : List (Frame link.writer.writeCodec.needed)}
    {out : Bytes} (flushed : Bool) (emits : link.writer.Emits after frames out)
    (grown : after.inner.outgoing = link.writer.inner.outgoing ++ out)
    (clear : flushed = true → after.unsent = []) :
    ({ link with writer := after, accepted := link.accepted ++ payloads frames, flushed } :
      Link W R).Inv codec := by
  obtain ⟨rfl, _, below, ⟨payload, split, awaits⟩, resting, _⟩ := inv
  have moved := emitted_bytes below emits grown
  obtain ⟨_, codec, place, _, _, inside⟩ := emits
  refine ⟨codec, inside, ?_, ⟨payload ++ payloads frames, ?_, ?_⟩, resting, clear⟩
  · rw [grown, List.length_append]
    exact Nat.le_trans below (Nat.le_add_right _ _)
  · rw [split, List.append_assoc]
  · have extended := awaits.append frames
    rw [moved, ← place] at extended
    exact extended

theorem write_inv {codec : Codec} {link : Link W R} (inv : link.Inv codec) (buf : Bytes)
    (replies : List WriteReply) : (link.write buf replies).Inv codec := by
  unfold write
  generalize same : withReplies link.writer replies .pending = writer
  have ready : ({ link with writer } : Link W R).Inv codec := by
    rw [← same]
    exact ⟨inv.writeCodec, inv.inside, inv.carried_le, inv.owed, inv.resting, inv.flushed⟩
  cases poll : writer.pollWrite buf with
  | mk result after =>
      obtain ⟨out, frames, writes, emits, waiting, reported, _, _, fine⟩ :=
        EncryptedStream.pollWrite_spec ready.inside poll
      have grown := Endpoint.outgoing_of_writes writes
      cases result using Poll.threeWays with
      | pending =>
          have nothing := waiting rfl
          subst nothing
          have kept : link.flushed = true → after.unsent = [] := by
            intro flushed
            have clear := emits.1
            rw [ready.flushed flushed] at clear
            exact (List.append_eq_nil_iff.mp clear.symm).2
          have moved := ready.emit link.flushed emits grown kept
          rw [payloads_nil, List.append_nil] at moved
          exact moved
      | error error => exact absurd rfl (fine Endpoint.willing error)
      | ok count =>
          have moved := ready.emit false emits grown (by simp)
          rw [reported count rfl] at moved
          exact moved

omit [Rng W] in
theorem through_inv {codec : Codec} {link : Link W R} (inv : link.Inv codec)
    {call : Endpoint → Poll (Except IoError Unit) × Endpoint}
    (silent : ∀ sink, (call sink).2.outgoing = sink.outgoing) (replies : List WriteReply)
    (reply : Poll (Except IoError Unit)) : (link.through call replies reply).Inv codec := by
  unfold through
  generalize same : withReplies link.writer replies reply = writer
  have ready : ({ link with writer } : Link W R).Inv codec := by
    rw [← same]
    exact ⟨inv.writeCodec, inv.inside, inv.carried_le, inv.owed, inv.resting, inv.flushed⟩
  cases poll : writer.pollThrough call with
  | mk result after =>
      obtain ⟨out, middle, writes, emits, called, drained⟩ :=
        EncryptedStream.pollThrough_spec call ready.inside poll
      have grown : after.inner.outgoing = writer.inner.outgoing ++ out := by
        rw [← Endpoint.outgoing_of_writes writes]
        rcases called with same | same <;> rw [same]
        exact silent middle
      have kept : link.flushed = true → after.unsent = [] := by
        intro flushed
        have clear := emits.1
        rw [ready.flushed flushed] at clear
        exact (List.append_eq_nil_iff.mp clear.symm).2
      cases result using Poll.threeWays with
      | pending | error _ =>
          have moved := ready.emit link.flushed emits grown kept
          rw [payloads_nil, List.append_nil] at moved
          exact moved
      | ok _ =>
          have moved := ready.emit true emits grown (fun _ => drained rfl)
          rw [payloads_nil, List.append_nil] at moved
          exact moved

omit [Rng W] in
theorem carry_inv {codec : Codec} {link : Link W R} (inv : link.Inv codec) (count : Nat) :
    (link.carry count).Inv codec := by
  obtain ⟨writeCodec, inside, below, ⟨payload, split, awaits⟩, resting, flushed⟩ := inv
  refine ⟨writeCodec, inside, Nat.min_le_right _ _, ⟨payload, split, ?_⟩, resting, flushed⟩
  rw [link.carried_bytes count] at awaits
  exact awaits

omit [Rng W] in
theorem read_inv (correct : Aead.Correct) {codec : Codec} {link : Link W R}
    (inv : link.Inv codec) (remaining : Nat) (replies : List ReadReply) :
    (link.read remaining replies).Inv codec := by
  obtain ⟨writeCodec, inside, below, ⟨payload, split, awaits⟩, _, flushed⟩ := inv
  unfold read
  cases poll : link.pollReader remaining replies with
  | mk result after =>
      obtain ⟨got, reads, spec⟩ := EncryptedStream.pollRead_spec correct poll
      have taken := Endpoint.incoming_of_reads reads
      have arrived : link.reader.inner.incoming = got ++ after.inner.incoming := taken
      rw [arrived, List.append_assoc] at awaits
      obtain ⟨rest, paid, awaits', resting, _⟩ := spec (EncryptedStream.awaitsOf_true.mpr awaits)
      refine ⟨writeCodec, inside, below, ⟨rest, ?_, EncryptedStream.awaitsOf_true.mp awaits'⟩, resting, flushed⟩
      rw [List.append_assoc, ← paid]
      exact split

theorem step_inv (correct : Aead.Correct) {codec : Codec} {link : Link W R}
    (inv : link.Inv codec) (event : Event) : (link.step event).Inv codec := by
  cases event with
  | write buf replies => exact write_inv inv buf replies
  | flush replies reply => exact through_inv inv (fun _ => rfl) replies reply
  | shutdown replies reply => exact through_inv inv (fun _ => rfl) replies reply
  | carry count => exact carry_inv inv count
  | read remaining replies => exact read_inv correct inv remaining replies

theorem run_inv (correct : Aead.Correct) {codec : Codec} {link : Link W R}
    (inv : link.Inv codec) (events : List Event) : (link.run events).Inv codec :=
  List.foldlRecOn events step inv fun _ kept event _ => step_inv correct kept event

/-- Nothing is left in the sender, in the transport or in the reader: one more
poll with room for a byte would return nothing. -/
structure Drained (link : Link W R) : Prop where
  flushed : link.flushed = true
  carried : link.carried = link.writer.inner.outgoing.length
  taken : link.reader.inner.incoming = []
  dry : ∃ remaining replies, 0 < remaining ∧
    EncryptedStream.delivered (link.pollReader remaining replies).1 = []

omit [Rng W] in
theorem Inv.returned_prefix {codec : Codec} {link : Link W R} (inv : link.Inv codec) :
    link.returned <+: link.accepted := by
  obtain ⟨payload, split, _⟩ := inv.owed
  exact ⟨payload, split.symm⟩

omit [Rng W] in
theorem Inv.returned_all {codec : Codec} {link : Link W R} (inv : link.Inv codec)
    (drained : link.Drained) : link.returned = link.accepted := by
  obtain ⟨payload, split, awaits⟩ := inv.owed
  have arrived : link.underway = [] := by
    rw [underway, drained.carried, List.drop_length]
  rw [drained.taken, arrived, inv.flushed drained.flushed] at awaits
  rcases awaits.exhausted inv.resting with nothing | ⟨pos, state, more⟩
  · rw [split, nothing, List.append_nil]
  · obtain ⟨remaining, replies, room, dry⟩ := drained.dry
    have handed : (link.pollReader remaining replies).1 =
        .ready (.ok ((link.reader.readBuffer.drop pos).take remaining)) :=
      EncryptedStream.pollRead_ready
        (show (scripted link.reader replies).readState = .ready pos from state) remaining
    rw [handed] at dry
    have width := congrArg List.length dry
    simp only [EncryptedStream.delivered, List.length_take, List.length_drop, List.length_nil]
      at width
    omega

omit [Rng W] in
/-- Two streams that were just put on the ends of a transport. -/
theorem start_inv {writeCipher readCipher : Cipher} (inStep : writeCipher.InStep readCipher)
    (back back' : Cipher) {padding padding' : DataPadding}
    (needed : padding'.needed = padding.needed) (encLimit : Nat) (rng : W) (rng' : R) :
    (start (.fromStream .empty back writeCipher padding encLimit rng)
      (.fromStream .empty readCipher back' padding' encLimit rng') : Link W R).Inv
      { kind := writeCipher.kind, key := writeCipher.key, needed := padding.needed, encLimit } := by
  refine ⟨rfl, Nat.le_refl 0, Nat.le_refl 0, ⟨[], rfl, ⟨?_, Nat.zero_le _, [], ?_, ?_, rfl⟩⟩, ?_,
    fun _ => rfl⟩
  · simp only [start, EncryptedStream.readCodec, EncryptedStream.fromStream, inStep.kind,
      inStep.key, needed]
  · rfl
  · simp only [start, EncryptedStream.readPlace, EncryptedStream.writePlace,
      EncryptedStream.fromStream, inStep.nonce]
    rfl
  · simp only [EncryptedStream.Resting, start, EncryptedStream.fromStream, List.length_nil,
      Codec.headerLength]
    omega

/-- The stream round trip: what the reader returns is at every moment a prefix
of what the writer accepted, and all of it once nothing is left on the way. -/
theorem stream_round_trip (correct : Aead.Correct) {writeCipher readCipher : Cipher}
    (inStep : writeCipher.InStep readCipher) (back back' : Cipher)
    {padding padding' : DataPadding} (needed : padding'.needed = padding.needed) (encLimit : Nat)
    (rng : W) (rng' : R) (events : List Event) :
    let link : Link W R := (start (.fromStream .empty back writeCipher padding encLimit rng)
      (.fromStream .empty readCipher back' padding' encLimit rng')).run events
    link.returned <+: link.accepted ∧ (link.Drained → link.returned = link.accepted) := by
  have inv := run_inv correct (start_inv inStep back back' needed encLimit rng rng') events
  exact ⟨inv.returned_prefix, inv.returned_all⟩

end Running

def sampleCipher : Cipher where
  kind := .aes256Gcm
  key := List.replicate 32 7
  nonce := .zero
  sealed := []
  advanced := 0

def sampleRun : List Event :=
  [.write [1, 2, 3] [.accept 4, .pending], .flush [.accept 20, .accept 20] (.ready (.ok ())),
    .carry 9, .read 2 [.upTo 30, .pending], .carry 90, .read 2 [.upTo 30, .upTo 30],
    .read 2 []]

/-- Short writes and reads, and padding settings that only agree on whether
there is padding. -/
theorem stream_round_trip_short :
    let link : Link Unit Unit :=
      @run Unit Unit Aead.tagging _
        (start (.fromStream .empty sampleCipher sampleCipher ⟨50, 90⟩ 2 ())
          (.fromStream .empty sampleCipher sampleCipher ⟨1, 1⟩ 2 ())) sampleRun
    link.accepted = [1, 2, 3] ∧ link.returned <+: link.accepted ∧
      link.returned = link.accepted :=
  letI := Aead.tagging
  have round := @stream_round_trip Unit Unit Aead.tagging _ Aead.tagging_correct _ _
    ⟨rfl, rfl, rfl⟩ _ _ _ _ (by decide) 2 () () sampleRun
  ⟨by decide, round.1,
    round.2 ⟨by decide, by decide, by decide, 2, [], by decide, by decide⟩⟩

end Link

end CovertConnect.Crypto
