import CovertConnect.Crypto.Stream.Transport
import CovertConnect.Data.Trace

namespace CovertConnect.Crypto

open CovertConnect.Data

/-! # The end of the stream

A read that succeeds with nothing is the end of the stream for the caller.
`pollRead` also answers like that behind a frame without payload, and
`pollWrite` makes such a frame of an empty buffer. -/

/-- A stream that remembers whether it ever answered a read with room by the
end of the stream. -/
structure Recorded (S : Type) where
  stream : S
  ended : Bool

namespace Recorded

variable {S : Type}

def fresh (stream : S) : Recorded S where
  stream := stream
  ended := false

instance [AsyncRead S] : AsyncRead (Recorded S) where
  pollRead this room :=
    let (answer, stream) := AsyncRead.pollRead this.stream room
    (answer, { stream, ended := this.ended || (0 < room && answer = .ready (.ok [])) })
  pollRead_fits := by
    intro this room bytes after poll
    simp only [Prod.mk.injEq] at poll
    exact AsyncRead.pollRead_fits this.stream room bytes _ (Prod.ext poll.1 rfl)

theorem pollRead_stream [AsyncRead S] {this next : Recorded S} {room : Nat}
    {answer : Poll (Except IoError Bytes)} (poll : AsyncRead.pollRead this room = (answer, next)) :
    AsyncRead.pollRead this.stream room = (answer, next.stream) := by
  change (_, _) = (_, _) at poll
  simp only [Prod.mk.injEq] at poll
  obtain ⟨answered, rfl⟩ := poll
  exact Prod.ext answered rfl

theorem reads_stream [AsyncRead S] {before after : Recorded S} {bytes : Bytes}
    (reads : Reads before bytes after) : Reads before.stream bytes after.stream := by
  induction reads with
  | done => exact .done
  | pending poll _ ih => exact .pending (pollRead_stream poll) ih
  | failed poll _ ih => exact .failed (pollRead_stream poll) ih
  | chunk poll _ ih => exact .chunk (pollRead_stream poll) ih

theorem ended_of_atEnd [AsyncRead S] {this : Recorded S} (atEnd : AtEnd this) :
    this.ended = true := by
  obtain ⟨before, room, positive, poll⟩ := atEnd
  change (_, _) = (_, _) at poll
  simp only [Prod.mk.injEq] at poll
  obtain ⟨answer, rfl⟩ := poll
  simp [answer, positive]

end Recorded

namespace EncryptedStream

variable {S S' R : Type}

def mapInner (f : S → S') (this : EncryptedStream S R) : EncryptedStream S' R :=
  { this with inner := f this.inner }

section Mapped

variable [AsyncRead S] [AsyncRead S'] {f : S → S'}
  (same : ∀ stream room, AsyncRead.pollRead (f stream) room =
    Prod.map id f (AsyncRead.pollRead stream room))

include same

theorem readLoop_map (size turns : Nat) (inner : S) (buffer : Bytes) :
    readLoop size turns (f inner) buffer =
      Prod.map id (Prod.map f id) (readLoop size turns inner buffer) := by
  induction turns generalizing inner buffer with
  | zero => rfl
  | succ turns ih =>
      rw [readLoop, readLoop]
      by_cases more : buffer.length < size
      · rw [if_pos more, if_pos more, same]
        cases poll : AsyncRead.pollRead inner (size - buffer.length) with
        | mk answer next =>
            cases answer using Poll.threeWays with
            | pending | error _ => rfl
            | ok bytes =>
                simp only [Prod.map, id]
                by_cases ended : bytes.length = 0
                · simp only [if_pos ended]
                  by_cases partly : buffer.length ≠ 0
                  · simp only [if_pos partly]
                  · simp only [if_neg partly]
                · simp only [if_neg ended, ih]
                  rfl
      · rw [if_neg more, if_neg more]
        rfl

theorem pollReadExact_map (this : EncryptedStream S R) (size : Nat) :
    (this.mapInner f).pollReadExact size =
      Prod.map id (mapInner f) (this.pollReadExact size) := by
  unfold pollReadExact
  rw [show (this.mapInner f).inner = f this.inner from rfl, readLoop_map same]
  rfl

variable [Aead]

omit [AsyncRead S] [AsyncRead S'] same in
theorem openHeader_map (this : EncryptedStream S R) :
    (this.mapInner f).openHeader = Prod.map id (mapInner f) this.openHeader := by
  unfold openHeader
  by_cases within : this.readed ≤ this.encLimit
  · rw [if_pos within, if_pos (show (this.mapInner f).readed ≤ (this.mapInner f).encLimit
      from within)]
    have mapped : (this.mapInner f).readCipher.decrypt (this.mapInner f).readBuffer =
        this.readCipher.decrypt this.readBuffer := rfl
    rw [mapped]
    cases this.readCipher.decrypt this.readBuffer with
    | mk opened buffer => cases opened <;> rfl
  · rw [if_neg within, if_neg (show ¬ (this.mapInner f).readed ≤ (this.mapInner f).encLimit
      from within)]
    rfl

omit [AsyncRead S] [AsyncRead S'] same in
theorem openData_map (this : EncryptedStream S R) (size : Nat) :
    (this.mapInner f).openData size = Prod.map id (mapInner f) (this.openData size) := by
  unfold openData
  by_cases within : this.readed ≤ this.encLimit
  · rw [if_pos within, if_pos (show (this.mapInner f).readed ≤ (this.mapInner f).encLimit
      from within)]
    have mapped : (this.mapInner f).readCipher.decrypt (this.mapInner f).readBuffer =
        this.readCipher.decrypt this.readBuffer := rfl
    rw [mapped]
    cases this.readCipher.decrypt this.readBuffer with
    | mk opened buffer => cases opened <;> rfl
  · rw [if_neg within, if_neg (show ¬ (this.mapInner f).readed ≤ (this.mapInner f).encLimit
      from within)]
    rfl

theorem readHeader_map (this : EncryptedStream S R) :
    (this.mapInner f).readHeader = Prod.map id (mapInner f) this.readHeader := by
  unfold readHeader
  rw [show (this.mapInner f).readState = this.readState from rfl]
  cases this.readState with
  | padding _ _ | data _ | ready _ => rfl
  | header =>
      have fill := pollReadExact_map same this (this.headerSize this.readed this.readCipher.tagSize)
      simp only
      rw [show (this.mapInner f).headerSize (this.mapInner f).readed
        (this.mapInner f).readCipher.tagSize =
          this.headerSize this.readed this.readCipher.tagSize from rfl, fill]
      cases this.pollReadExact (this.headerSize this.readed this.readCipher.tagSize) with
      | mk answer next =>
          cases answer using Poll.threeWays with
          | pending | error _ => rfl
          | ok _ =>
              simp only [Prod.map, id]
              rw [show (next.mapInner f).readBuffer = next.readBuffer from rfl]
              split
              · rfl
              · exact openHeader_map next

omit [Aead] in
theorem readPadding_map (this : EncryptedStream S R) :
    (this.mapInner f).readPadding = Prod.map id (mapInner f) this.readPadding := by
  unfold readPadding
  rw [show (this.mapInner f).readState = this.readState from rfl]
  cases this.readState with
  | header | data _ | ready _ => rfl
  | padding size dataSize =>
      have fill := pollReadExact_map same this size
      simp only
      rw [fill]
      cases this.pollReadExact size with
      | mk answer next =>
          cases answer using Poll.threeWays with
          | pending | error _ => rfl
          | ok _ =>
              simp only [Prod.map, id]
              rw [show (next.mapInner f).readBuffer = next.readBuffer from rfl]
              split <;> rfl

theorem readData_map (this : EncryptedStream S R) :
    (this.mapInner f).readData = Prod.map id (mapInner f) this.readData := by
  unfold readData
  rw [show (this.mapInner f).readState = this.readState from rfl]
  cases this.readState with
  | header | padding _ _ | ready _ => rfl
  | data size =>
      simp only
      rw [show (if (this.mapInner f).readed ≤ (this.mapInner f).encLimit then
          size + (this.mapInner f).readCipher.tagSize else size) =
        (if this.readed ≤ this.encLimit then size + this.readCipher.tagSize else size) from rfl,
        pollReadExact_map same]
      cases this.pollReadExact
        (if this.readed ≤ this.encLimit then size + this.readCipher.tagSize else size) with
      | mk answer next =>
          cases answer using Poll.threeWays with
          | pending | error _ => rfl
          | ok _ =>
              simp only [Prod.map, id]
              rw [show (next.mapInner f).readBuffer = next.readBuffer from rfl]
              split
              · rfl
              · exact openData_map next size

theorem pollRead_map (this : EncryptedStream S R) (remaining : Nat) :
    (this.mapInner f).pollRead remaining =
      Prod.map id (mapInner f) (this.pollRead remaining) := by
  unfold pollRead
  rw [readHeader_map same]
  cases this.readHeader with
  | mk first behindHeader =>
      cases first with
      | some poll => rfl
      | none =>
          simp only [Prod.map, id]
          rw [readPadding_map same]
          cases behindHeader.readPadding with
          | mk second behindPadding =>
              cases second with
              | some poll => rfl
              | none =>
                  simp only [Prod.map, id]
                  rw [readData_map same]
                  cases behindPadding.readData with
                  | mk third behindData =>
                      cases third with
                      | some poll => rfl
                      | none =>
                          simp only [Prod.map, id]
                          unfold returnBuffered
                          rw [show (behindData.mapInner f).readState = behindData.readState from rfl]
                          cases behindData.readState with
                          | header | padding _ _ | data _ => rfl
                          | ready pos =>
                              simp only
                              rw [show (behindData.mapInner f).readBuffer =
                                behindData.readBuffer from rfl]
                              split <;> rfl

end Mapped

end EncryptedStream

namespace Endpoint

/-- How much is accepted before the first call that has to wait. -/
def accepts : List WriteReply → Nat
  | .accept further :: replies => further + 1 + accepts replies
  | _ => 0

theorem accepts_of_writeLoop {buffer : Bytes} {turns pos pos' : Nat} {sink after : Endpoint}
    (enough : buffer.length ≤ pos + turns)
    (run : EncryptedStream.writeLoop false buffer turns sink pos = (none, after, pos')) :
    buffer.length - pos ≤ accepts sink.writeReplies := by
  induction turns generalizing sink pos with
  | zero => omega
  | succ turns ih =>
      rw [EncryptedStream.writeLoop] at run
      by_cases more : pos < buffer.length
      · rw [if_pos more, show AsyncWrite.pollWrite sink (buffer.drop pos) =
          pollWrite sink (buffer.drop pos) from rfl, pollWrite] at run
        cases replies : sink.writeReplies with
        | nil => simp [replies] at run
        | cons reply rest =>
            cases reply with
            | pending => simp [replies] at run
            | accept further =>
                simp only [replies] at run
                rw [List.length_drop, if_neg (by omega)] at run
                have later := ih (by omega) run
                simp only [accepts] at later ⊢
                omega
      · omega

/-- The write buffer is emptied only by as many bytes accepted in time. -/
theorem accepts_of_pollWriteBuffer {W : Type} {writer after : EncryptedStream Endpoint W}
    (inside : writer.writePos ≤ writer.writeBuffer.length)
    (run : writer.pollWriteBuffer false = (.ready (.ok ()), after)) :
    writer.unsent.length ≤ accepts writer.inner.writeReplies := by
  unfold EncryptedStream.pollWriteBuffer at run
  cases loop : EncryptedStream.writeLoop false writer.writeBuffer
      (writer.writeBuffer.length - writer.writePos) writer.inner writer.writePos with
  | mk answer rest =>
      obtain ⟨sink, pos⟩ := rest
      rw [loop] at run
      cases answer with
      | none =>
          rw [EncryptedStream.unsent, List.length_drop]
          exact accepts_of_writeLoop (by omega) loop
      | some poll =>
          simp only [Prod.mk.injEq] at run
          obtain ⟨rfl, _⟩ := run
          obtain ⟨_, _, _, _, _, early, _⟩ := EncryptedStream.writeLoop_spec inside loop
          exact absurd (early rfl) (by decide)

end Endpoint

namespace Link

section Running

variable {W R : Type} [Aead] [Rng W]

/-- Whether the transport answers the poll of the reader by its end. -/
def ends (link : Link W R) (remaining : Nat) (replies : List ReadReply) : Bool :=
  (((scripted link.reader replies).mapInner Recorded.fresh).pollRead remaining).2.inner.ended

/-- A poll with room that succeeds without a byte was told the end of the
stream by the transport. -/
def EndsWithTransport (link : Link W R) : Event → Prop
  | .read remaining replies =>
      0 < remaining → (link.pollReader remaining replies).1 = .ready (.ok []) →
        link.ends remaining replies = true
  | _ => True

/-- An empty buffer is written while nothing has to wait. -/
def AddsEmptyFrame (link : Link W R) : Event → Prop
  | .write buf replies =>
      buf = [] ∧ link.writer.unsent.length ≤ Endpoint.accepts replies
  | _ => False

/-- No empty payload is on its way to the reader. -/
def Lively (codec : Codec) (link : Link W R) : Prop :=
  ∃ payload, link.reader.AwaitsOf (· ≠ []) codec link.writer.writePlace
    (link.reader.inner.incoming ++ (link.underway ++ link.writer.unsent)) payload

omit [Rng W] in
theorem Lively.emit {codec : Codec} {link : Link W R} (lively : link.Lively codec)
    (inv : link.Inv codec) {after : EncryptedStream Endpoint W}
    {frames : List (Frame link.writer.writeCodec.needed)} {out : Bytes}
    (emits : link.writer.Emits after frames out)
    (grown : after.inner.outgoing = link.writer.inner.outgoing ++ out)
    (filled : ∀ frame ∈ frames, frame.payload ≠ []) :
    ({ link with writer := after } : Link W R).Lively codec := by
  obtain ⟨payload, awaits⟩ := lively
  obtain ⟨rfl, _, below, _, _, _⟩ := inv
  have moved := emitted_bytes below emits grown
  obtain ⟨_, _, place, _, _, _⟩ := emits
  have extended := awaits.append filled
  rw [moved, ← place] at extended
  exact ⟨_, extended⟩

/-- A frame that comes out of a call with an empty buffer comes out of one that
had nothing to wait for. -/
theorem write_lively {codec : Codec} {link : Link W R} (inv : link.Inv codec)
    (lively : link.Lively codec) {buf : Bytes} {replies : List WriteReply}
    (filled : ¬ link.AddsEmptyFrame (.write buf replies)) :
    (link.write buf replies).Lively codec := by
  unfold write
  generalize same : withReplies link.writer replies .pending = writer
  have ready : ({ link with writer } : Link W R).Inv codec := by
    rw [← same]
    exact ⟨inv.writeCodec, inv.inside, inv.carried_le, inv.owed, inv.resting, inv.flushed⟩
  have waiting : ({ link with writer } : Link W R).Lively codec := by
    rw [← same]
    exact lively
  cases poll : writer.pollWrite buf with
  | mk result after =>
      obtain ⟨out, frames, writes, emits, idle, reported, _, one, fine⟩ :=
        EncryptedStream.pollWrite_spec ready.inside poll
      have grown := Endpoint.outgoing_of_writes writes
      cases result using Poll.threeWays with
      | pending =>
          have nothing := idle rfl
          subst nothing
          exact waiting.emit ready emits grown (by simp)
      | error error => exact absurd rfl (fine Endpoint.willing error)
      | ok count =>
          obtain ⟨counted, middle, emptied⟩ := EncryptedStream.pollWrite_ok poll
          have something : buf ≠ [] := by
            intro nothing
            have accepted := Endpoint.accepts_of_pollWriteBuffer ready.inside emptied
            rw [← same] at accepted
            exact filled ⟨nothing, accepted⟩
          have taken : buf.take count ≠ [] := by
            have positive := List.length_pos_iff.mpr something
            rw [counted]
            apply List.length_pos_iff.mp
            rw [List.length_take, maxPacketSize]
            omega
          refine waiting.emit ready emits grown fun frame member => ?_
          have only : frames = [frame] := by
            cases frames with
            | nil => cases member
            | cons first rest =>
                have none : rest = [] := List.eq_nil_of_length_eq_zero
                  (Nat.le_zero.mp (Nat.le_of_succ_le_succ one))
                subst none
                rw [List.mem_singleton.mp member]
          have paid := reported count rfl
          rw [only, payloads_cons, payloads_nil, List.append_nil] at paid
          rw [paid]
          exact taken

omit [Rng W] in
theorem through_lively {codec : Codec} {link : Link W R} (inv : link.Inv codec)
    (lively : link.Lively codec) {call : Endpoint → Poll (Except IoError Unit) × Endpoint}
    (silent : ∀ sink, (call sink).2.outgoing = sink.outgoing) (replies : List WriteReply)
    (reply : Poll (Except IoError Unit)) : (link.through call replies reply).Lively codec := by
  unfold through
  generalize same : withReplies link.writer replies reply = writer
  have ready : ({ link with writer } : Link W R).Inv codec := by
    rw [← same]
    exact ⟨inv.writeCodec, inv.inside, inv.carried_le, inv.owed, inv.resting, inv.flushed⟩
  have waiting : ({ link with writer } : Link W R).Lively codec := by
    rw [← same]
    exact lively
  cases poll : writer.pollThrough call with
  | mk result after =>
      obtain ⟨out, middle, writes, emits, called, _⟩ :=
        EncryptedStream.pollThrough_spec call ready.inside poll
      have grown : after.inner.outgoing = writer.inner.outgoing ++ out := by
        rw [← Endpoint.outgoing_of_writes writes]
        rcases called with same | same <;> rw [same]
        exact silent middle
      have moved := waiting.emit ready emits grown (by simp)
      cases result using Poll.threeWays with
      | pending | error _ | ok _ => exact moved

omit [Rng W] in
theorem read_lively (correct : Aead.Correct) {codec : Codec} {link : Link W R}
    (lively : link.Lively codec) (remaining : Nat) (replies : List ReadReply) :
    (link.read remaining replies).Lively codec := by
  obtain ⟨payload, awaits⟩ := lively
  unfold read
  cases poll : link.pollReader remaining replies with
  | mk result after =>
      obtain ⟨got, reads, spec⟩ := EncryptedStream.pollRead_spec correct poll
      have taken := Endpoint.incoming_of_reads reads
      have arrived : link.reader.inner.incoming = got ++ after.inner.incoming := taken
      rw [arrived, List.append_assoc] at awaits
      have scripted : (scripted link.reader replies).AwaitsOf (· ≠ []) codec
        link.writer.writePlace _ payload := awaits
      obtain ⟨rest, _, awaits', _⟩ := spec scripted
      exact ⟨rest, awaits'⟩

theorem step_lively (correct : Aead.Correct) {codec : Codec} {link : Link W R} (event : Event)
    (inv : link.Inv codec) (lively : link.Lively codec) (filled : ¬ link.AddsEmptyFrame event) :
    (link.step event).Lively codec := by
  cases event with
  | write buf replies => exact write_lively inv lively filled
  | flush replies reply => exact through_lively inv lively (fun _ => rfl) replies reply
  | shutdown replies reply => exact through_lively inv lively (fun _ => rfl) replies reply
  | carry count =>
      obtain ⟨payload, awaits⟩ := lively
      rw [link.carried_bytes count] at awaits
      exact ⟨payload, awaits⟩
  | read remaining replies => exact read_lively correct lively remaining replies

omit [Rng W] in
/-- With no empty payload on its way, a poll that succeeds with nothing was told
so by the transport. -/
theorem Lively.endsWithTransport (correct : Aead.Correct) {codec : Codec} {link : Link W R}
    (lively : link.Lively codec) (event : Event) : link.EndsWithTransport event := by
  cases event with
  | write _ _ | flush _ _ | shutdown _ _ | carry _ => exact trivial
  | read remaining replies =>
      intro room silent
      obtain ⟨payload, awaits⟩ := lively
      have mapped := EncryptedStream.pollRead_map (f := Recorded.stream) (fun _ _ => rfl)
        ((scripted link.reader replies).mapInner Recorded.fresh) remaining
      change link.pollReader remaining replies = _ at mapped
      cases poll : ((scripted link.reader replies).mapInner Recorded.fresh).pollRead remaining with
      | mk result after =>
          rw [poll] at mapped
          rw [mapped] at silent
          obtain ⟨got, reads, spec⟩ := EncryptedStream.pollRead_spec correct poll
          have taken := Endpoint.incoming_of_reads (Recorded.reads_stream reads)
          have arrived : link.reader.inner.incoming = got ++ after.inner.stream.incoming := taken
          rw [arrived, List.append_assoc] at awaits
          have recorded : ((scripted link.reader replies).mapInner Recorded.fresh).AwaitsOf
            (· ≠ []) codec link.writer.writePlace _ payload := awaits
          obtain ⟨_, _, _, _, ended⟩ := spec recorded
          rw [ends, poll]
          exact Recorded.ended_of_atEnd ((ended silent room).resolve_right (fun empty => empty rfl))

omit [Rng W] in
theorem start_lively {writeCipher readCipher : Cipher} (inStep : writeCipher.InStep readCipher)
    (back back' : Cipher) {padding padding' : DataPadding}
    (needed : padding'.needed = padding.needed) (encLimit : Nat) (rng : W) (rng' : R) :
    (start (.fromStream .empty back writeCipher padding encLimit rng)
      (.fromStream .empty readCipher back' padding' encLimit rng') : Link W R).Lively
      { kind := writeCipher.kind, key := writeCipher.key, needed := padding.needed, encLimit } := by
  refine ⟨[], ?_, Nat.zero_le _, [], rfl, ?_, rfl, by simp⟩
  · simp only [start, EncryptedStream.readCodec, EncryptedStream.fromStream, inStep.kind,
      inStep.key, needed]
  · simp only [start, EncryptedStream.readPlace, EncryptedStream.writePlace,
      EncryptedStream.fromStream, inStep.nonce]
    rfl

/-- A reader reports the end of the stream only with its transport, in every run
that puts no empty frame on the way. -/
theorem reader_ends_with_transport (correct : Aead.Correct) {writeCipher readCipher : Cipher}
    (inStep : writeCipher.InStep readCipher) (back back' : Cipher)
    {padding padding' : DataPadding} (needed : padding'.needed = padding.needed) (encLimit : Nat)
    (rng : W) (rng' : R) (events : List Event)
    (filled : AllSteps step (fun link event => ¬ link.AddsEmptyFrame event)
      (start (.fromStream .empty back writeCipher padding encLimit rng)
        (.fromStream .empty readCipher back' padding' encLimit rng')) events) :
    AllSteps step EndsWithTransport
      (start (.fromStream .empty back writeCipher padding encLimit rng)
        (.fromStream .empty readCipher back' padding' encLimit rng')) events := by
  have inv := start_inv inStep back back' needed encLimit rng rng'
  have lively := start_lively inStep back back' needed encLimit rng rng'
  generalize Codec.mk writeCipher.kind writeCipher.key padding.needed encLimit = codec
    at inv lively
  have keeps : ∀ (link : Link W R) (event : Event), link.Inv codec ∧ link.Lively codec →
      ¬ link.AddsEmptyFrame event → (link.step event).Inv codec ∧ (link.step event).Lively codec := by
    intro link event kept filled
    exact ⟨step_inv correct kept.1 event, step_lively correct event kept.1 kept.2 filled⟩
  apply allSteps_of_allSteps keeps _ ⟨inv, lively⟩ filled
  intro link event kept _
  exact kept.2.endsWithTransport correct event

end Running

/-- Both sides of an encryption limit of no bytes. -/
def emptyStart : Link Unit Unit :=
  start (.fromStream .empty sampleCipher sampleCipher ⟨50, 90⟩ 0 ())
    (.fromStream .empty sampleCipher sampleCipher ⟨1, 1⟩ 0 ())

def promptReplies : List ReadReply :=
  [.upTo 99, .upTo 99, .upTo 99]

/-- An empty write that has to wait does no harm. -/
theorem reader_ends_with_transport_short :
    @AllSteps _ _ (@step Unit Unit Aead.tagging _) (@EndsWithTransport Unit Unit Aead.tagging)
      emptyStart
      [.write [1, 2, 3] [.accept 4, .pending], .write [] [.pending], .flush [.accept 90] .pending,
        .carry 90, .read 2 promptReplies, .read 2 promptReplies, .read 2 [.upTo 5]] :=
  letI := Aead.tagging
  @reader_ends_with_transport Unit Unit Aead.tagging _ Aead.tagging_correct _ _ ⟨rfl, rfl, rfl⟩
    _ _ _ _ (by decide) 0 () () _
    ⟨by simp [AddsEmptyFrame],
      fun adds => absurd adds.2 (by decide), not_false, not_false, not_false, not_false, not_false,
      trivial⟩

/-- A frame without payload is read as the end of the stream, whether it is
sealed or not. -/
theorem empty_write_ends_stream :
    (¬ @AllSteps _ _ (@step Unit Unit Aead.tagging _) (@EndsWithTransport Unit Unit Aead.tagging)
      emptyStart
      [.write [] [.accept 99], .carry 99, .read 2 promptReplies]) ∧
    ¬ @AllSteps _ _ (@step Unit Unit Aead.tagging _) (@EndsWithTransport Unit Unit Aead.tagging)
      emptyStart
      [.write [7] [.accept 99], .write [] [.accept 99], .carry 99, .read 2 promptReplies,
        .read 2 promptReplies] := by
  constructor
  · intro all
    exact absurd (all.2.2.1 (by decide) (by decide)) (by decide)
  · intro all
    exact absurd (all.2.2.2.2.1 (by decide) (by decide)) (by decide)

end Link

end CovertConnect.Crypto
