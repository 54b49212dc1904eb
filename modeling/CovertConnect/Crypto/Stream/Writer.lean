import CovertConnect.Crypto.Stream.Frames

namespace CovertConnect.Crypto.EncryptedStream

open CovertConnect.Data

/-! # The writing direction

Every call hands a prefix of the unsent bytes to the inner stream, and
`pollWrite` puts at most one further frame behind them. -/

variable {S R : Type}

/-- Assembled and not yet accepted by the inner stream. -/
def unsent (this : EncryptedStream S R) : Bytes :=
  this.writeBuffer.drop this.writePos

/-- A sink that takes at least one byte whenever it is ready. -/
def Willing (S : Type) [AsyncWrite S] : Prop :=
  ∀ (sink : S) (bytes : Bytes), bytes ≠ [] →
    (AsyncWrite.pollWrite sink bytes).1 = .pending ∨
      ∃ count, 0 < count ∧ (AsyncWrite.pollWrite sink bytes).1 = .ready (.ok count)

theorem writeLoop_spec [AsyncWrite S] {noPending : Bool} {buffer : Bytes} {turns : Nat}
    {inner after : S} {pos pos' : Nat} {result : Option (Poll (Except IoError Unit))}
    (inside : pos ≤ buffer.length)
    (run : writeLoop noPending buffer turns inner pos = (result, after, pos')) :
    ∃ out, Writes inner out after ∧ buffer.drop pos = out ++ buffer.drop pos' ∧
      pos' ≤ buffer.length ∧
      (result = none → buffer.length ≤ pos + turns → pos' = buffer.length) ∧
      (result = some (.ready (.ok ())) → noPending = true) ∧
      (result = some .pending → noPending = false) ∧
      (Willing S → ∀ error, result ≠ some (.ready (.error error))) := by
  induction turns generalizing inner pos with
  | zero =>
      simp only [writeLoop, Prod.mk.injEq] at run
      obtain ⟨rfl, rfl, rfl⟩ := run
      refine ⟨[], .done, rfl, inside, ?_, by simp, by simp, by simp⟩
      intro _ enough
      omega
  | succ turns ih =>
      rw [writeLoop] at run
      by_cases more : pos < buffer.length
      · rw [if_pos more] at run
        have rest : buffer.drop pos ≠ [] := by
          intro nothing
          have width := congrArg List.length nothing
          simp only [List.length_drop, List.length_nil] at width
          omega
        cases poll : AsyncWrite.pollWrite inner (buffer.drop pos) with
        | mk answer next =>
            rw [poll] at run
            cases answer using Poll.threeWays with
            | pending =>
                simp only [Prod.mk.injEq] at run
                obtain ⟨rfl, rfl, rfl⟩ := run
                refine ⟨[], .pending poll .done, rfl, inside, by simp, ?_, ?_, ?_⟩
                · cases noPending <;> simp
                · cases noPending <;> simp
                · intro _ error
                  cases noPending <;> simp
            | error error =>
                simp only [Prod.mk.injEq] at run
                obtain ⟨rfl, rfl, rfl⟩ := run
                refine ⟨[], .failed poll .done, rfl, inside, by simp, by simp, by simp, ?_⟩
                intro willing
                have answers := willing inner _ rest
                rw [poll] at answers
                rcases answers with impossible | ⟨count, _, impossible⟩ <;> cases impossible
            | ok count =>
                have fits := AsyncWrite.pollWrite_fits _ _ _ _ poll
                rw [List.length_drop] at fits
                by_cases zero : count = 0
                · simp only [if_pos zero, Prod.mk.injEq] at run
                  obtain ⟨rfl, rfl, rfl⟩ := run
                  refine ⟨[], ?_, rfl, inside, by simp, by simp, by simp, ?_⟩
                  · have accepted := Writes.accept poll .done
                    rwa [zero, List.take_zero, List.nil_append] at accepted
                  · intro willing
                    have answers := willing inner _ rest
                    rw [poll, zero] at answers
                    rcases answers with impossible | ⟨count, positive, equal⟩
                    · cases impossible
                    · cases equal
                      exact absurd positive (Nat.lt_irrefl 0)
                · simp only [if_neg zero] at run
                  obtain ⟨out, writes, split, bound, finished, early, waiting, fine⟩ :=
                    ih (by omega) run
                  refine ⟨(buffer.drop pos).take count ++ out, .accept poll writes, ?_, bound,
                    ?_, early, waiting, fine⟩
                  · rw [List.append_assoc, ← split, ← List.drop_drop, List.take_append_drop]
                  · intro none enough
                    exact finished none (by omega)
      · rw [if_neg more] at run
        simp only [Prod.mk.injEq] at run
        obtain ⟨rfl, rfl, rfl⟩ := run
        refine ⟨[], .done, rfl, inside, ?_, by simp, by simp, by simp⟩
        intro _ _
        omega

/-- What a call that drains the buffer does.  `Ready(Ok)` means that the buffer
is empty, unless a pending inner stream is to be ignored. -/
theorem pollWriteBuffer_spec [AsyncWrite S] {this after : EncryptedStream S R} {noPending : Bool}
    {result : Poll (Except IoError Unit)} (inside : this.writePos ≤ this.writeBuffer.length)
    (run : this.pollWriteBuffer noPending = (result, after)) :
    ∃ out inner pos buffer,
      after = { this with inner, writePos := pos, writeBuffer := buffer } ∧
      Writes this.inner out inner ∧ this.unsent = out ++ after.unsent ∧ pos ≤ buffer.length ∧
      (result = .ready (.ok ()) → noPending = false → buffer = []) ∧
      (result = .pending → noPending = false) ∧
      (Willing S → ∀ error, result ≠ .ready (.error error)) := by
  unfold pollWriteBuffer at run
  cases loop : writeLoop noPending this.writeBuffer (this.writeBuffer.length - this.writePos)
      this.inner this.writePos with
  | mk answer rest =>
      obtain ⟨inner, pos⟩ := rest
      obtain ⟨out, writes, split, bound, finished, early, waiting, fine⟩ :=
        writeLoop_spec inside loop
      rw [loop] at run
      cases answer with
      | some poll =>
          simp only [Prod.mk.injEq] at run
          obtain ⟨rfl, rfl⟩ := run
          refine ⟨out, inner, pos, this.writeBuffer, rfl, writes, split, bound, ?_, ?_, ?_⟩
          · intro ok strict
            rw [ok] at early
            simp [strict] at early
          · intro pending
            exact waiting (by rw [pending])
          · intro willing error same
            exact fine willing error (by rw [same])
      | none =>
          simp only [Prod.mk.injEq] at run
          obtain ⟨rfl, rfl⟩ := run
          refine ⟨out, inner, 0, [], rfl, writes, ?_, Nat.le_refl 0, by simp, by simp, by simp⟩
          have all := finished rfl (by omega)
          rw [unsent, split, all, List.drop_length]
          rfl

section Calls

variable [Aead]

/-- What the writer has yet to hand over, if it goes on with `frames`. -/
def Emits (this after : EncryptedStream S R) (frames : List (Frame this.writeCodec.needed))
    (out : Bytes) : Prop :=
  this.unsent ++ this.writeCodec.encodeAll this.writePlace frames = out ++ after.unsent ∧
    after.writeCodec = this.writeCodec ∧
    after.writePlace = this.writeCodec.advance this.writePlace frames ∧
    after.writeCipher.sealed =
      this.writeCipher.sealed ++ this.writeCodec.recordsAll this.writePlace frames ∧
    after.writeCipher.advanced =
      this.writeCipher.advanced + this.writeCodec.span this.writePlace frames ∧
    after.writePos ≤ after.writeBuffer.length

omit [Aead] in
/-- The bytes that one call takes of its buffer. -/
theorem chunk_prefix {buf chunk : Bytes}
    (chunkEq : (if maxPacketSize < buf.length then buf.take maxPacketSize else buf) = chunk) :
    chunk.length ≤ maxPacketSize ∧ chunk = buf.take chunk.length := by
  subst chunkEq
  split
  · rename_i long
    have width : (buf.take maxPacketSize).length = maxPacketSize := by
      rw [List.length_take, Nat.min_eq_left (Nat.le_of_lt long)]
    exact ⟨Nat.le_of_eq width, by rw [width]⟩
  · rename_i short
    exact ⟨Nat.not_lt.mp short, List.take_length.symm⟩

/-- Behind a buffer that was emptied stands one frame, which is handed over as far
as the inner stream takes it. -/
theorem frame_emits [AsyncWrite S] [Rng R] {this last : EncryptedStream S R} {inner : S}
    {chunk : Bytes} {answer : Poll (Except IoError Unit)} (chunkFits : chunk.length ≤ maxPacketSize)
    (run : (({ this with inner, writePos := 0, writeBuffer := [] } :
      EncryptedStream S R).assembleDataToBuffer chunk).pollWriteBuffer true = (answer, last)) :
    ∃ frame out, frame.payload = chunk ∧ this.Emits last [frame] (this.unsent ++ out) ∧
      Writes inner out last.inner ∧ answer ≠ .pending ∧
      (Willing S → ∀ error, answer ≠ .ready (.error error)) := by
  let drained : EncryptedStream S R := { this with inner, writePos := 0, writeBuffer := [] }
  obtain ⟨frame, rng, payload, assembled⟩ :
      ∃ frame : Frame this.writeCodec.needed, ∃ rng, frame.payload = chunk ∧
        drained.assembleDataToBuffer chunk =
          { drained with
            writeBuffer := this.writeCodec.encode this.writePlace frame
            writeCipher :=
              { this.writeCipher with
                nonce := (this.writeCodec.next this.writePlace frame).nonce
                sealed := this.writeCipher.sealed ++
                  this.writeCodec.records this.writePlace frame
                advanced := this.writeCipher.advanced +
                  this.writeCodec.stride this.writePlace frame }
            written := this.written + chunk.length
            rng } :=
    assembleDataToBuffer_frame drained rfl chunkFits
  change (drained.assembleDataToBuffer chunk).pollWriteBuffer true = (answer, last) at run
  generalize fullEq : drained.assembleDataToBuffer chunk = full at assembled run
  have fullInner : full.inner = inner := by rw [assembled]
  have fullUnsent : full.unsent = this.writeCodec.encode this.writePlace frame := by
    rw [assembled]
    rfl
  have fullStart : full.writePos ≤ full.writeBuffer.length := by
    rw [assembled]
    exact Nat.zero_le _
  obtain ⟨out, inner', pos, buffer, lastEq, writes, split, bound, _, waits, fine⟩ :=
    pollWriteBuffer_spec fullStart run
  refine ⟨frame, out, payload, ⟨?_, ?_, ?_, ?_, ?_, ?_⟩, ?_, ?_, fine⟩
  · calc this.unsent ++ this.writeCodec.encodeAll this.writePlace [frame]
        = this.unsent ++ this.writeCodec.encode this.writePlace frame := by
          simp only [Codec.encodeAll, List.append_nil]
      _ = this.unsent ++ (out ++ last.unsent) := by rw [← fullUnsent, split]
      _ = this.unsent ++ out ++ last.unsent := (List.append_assoc ..).symm
  · rw [lastEq, assembled]
    rfl
  · rw [lastEq, assembled]
    apply Place.ext_fields
    · rfl
    · change this.written + chunk.length = this.written + frame.payload.length
      rw [payload]
  · rw [lastEq, assembled]
    simp only [Codec.recordsAll, List.append_nil]
  · rw [lastEq, assembled]
    rfl
  · rw [lastEq]
    exact bound
  · rw [fullInner] at writes
    rw [lastEq]
    exact writes
  · intro pending
    exact absurd (waits pending) (by decide)

/-- A `pollWrite` appends no frame while it waits, and one frame with the
reported bytes when it succeeds. -/
theorem pollWrite_spec [AsyncWrite S] [Rng R] {this after : EncryptedStream S R} {buf : Bytes}
    {result : Poll (Except IoError Nat)} (inside : this.writePos ≤ this.writeBuffer.length)
    (run : this.pollWrite buf = (result, after)) :
    ∃ out frames, Writes this.inner out after.inner ∧ this.Emits after frames out ∧
      (result = .pending → frames = []) ∧
      (∀ count, result = .ready (.ok count) → payloads frames = buf.take count) ∧
      payloads frames <+: buf ∧ frames.length ≤ 1 ∧
      (Willing S → ∀ error, result ≠ .ready (.error error)) := by
  unfold pollWrite at run
  generalize chunkEq : (if maxPacketSize < buf.length then buf.take maxPacketSize else buf) =
    chunk at run
  obtain ⟨chunkFits, chunkPrefix⟩ := chunk_prefix chunkEq
  cases first : this.pollWriteBuffer false with
  | mk answer middle =>
      obtain ⟨out, inner, pos, buffer, rfl, writes, split, bound, emptied, _, fine⟩ :=
        pollWriteBuffer_spec inside first
      rw [first] at run
      have still : this.Emits { this with inner, writePos := pos, writeBuffer := buffer } [] out :=
        ⟨by simpa [Codec.encodeAll] using split, rfl, rfl, by simp [Codec.recordsAll], rfl, bound⟩
      cases answer using Poll.threeWays with
      | pending =>
          simp only [Prod.mk.injEq] at run
          obtain ⟨rfl, rfl⟩ := run
          exact ⟨out, [], writes, still, by simp, by simp, List.nil_prefix, by simp, by simp⟩
      | error error =>
          simp only [Prod.mk.injEq] at run
          obtain ⟨rfl, rfl⟩ := run
          refine ⟨out, [], writes, still, by simp, by simp, List.nil_prefix, by simp, ?_⟩
          intro willing
          exact absurd rfl (fine willing error)
      | ok _ =>
          have emptyBuffer := emptied rfl rfl
          subst emptyBuffer
          have start : pos = 0 := Nat.le_zero.mp bound
          subst start
          have sent : this.unsent = out := split.trans (List.append_nil out)
          dsimp only at run
          cases second : (({ this with inner, writePos := 0, writeBuffer := [] } :
              EncryptedStream S R).assembleDataToBuffer chunk).pollWriteBuffer true with
          | mk answer' last =>
              obtain ⟨frame, out', payload, emits, writes', moves, fine'⟩ :=
                frame_emits chunkFits second
              rw [sent] at emits
              rw [second] at run
              have lastWrites : Writes this.inner (out ++ out') last.inner := writes.trans writes'
              have taken : payloads [frame] = chunk := by
                rw [payloads_cons, payloads_nil, List.append_nil, payload]
              have front : payloads [frame] <+: buf := by
                rw [taken, chunkPrefix]
                exact List.take_prefix _ _
              cases answer' using Poll.threeWays with
              | pending => exact absurd rfl moves
              | error error =>
                  simp only [Prod.mk.injEq] at run
                  obtain ⟨rfl, rfl⟩ := run
                  refine ⟨out ++ out', [frame], lastWrites, emits, by simp, by simp, front,
                    Nat.le_refl 1, ?_⟩
                  intro willing
                  exact absurd rfl (fine' willing error)
              | ok _ =>
                  simp only [Prod.mk.injEq] at run
                  obtain ⟨rfl, rfl⟩ := run
                  refine ⟨out ++ out', [frame], lastWrites, emits, by simp, ?_, front,
                    Nat.le_refl 1, by simp⟩
                  intro count same
                  cases same
                  exact taken.trans chunkPrefix

/-- A `pollWrite` that succeeds took all it may of the buffer, behind a write
buffer that was emptied. -/
theorem pollWrite_ok [AsyncWrite S] [Rng R] {this after : EncryptedStream S R} {buf : Bytes}
    {count : Nat} (run : this.pollWrite buf = (.ready (.ok count), after)) :
    count = min maxPacketSize buf.length ∧
      ∃ middle, this.pollWriteBuffer false = (.ready (.ok ()), middle) := by
  unfold pollWrite at run
  cases first : this.pollWriteBuffer false with
  | mk answer middle =>
      rw [first] at run
      cases answer using Poll.threeWays with
      | pending | error _ => simp at run
      | ok _ =>
          refine ⟨?_, middle, rfl⟩
          simp only at run
          split at run
          · simp at run
          · simp at run
          · simp only [Prod.mk.injEq, Poll.ready.injEq, Except.ok.injEq] at run
            rw [← run.1]
            split
            · exact List.length_take
            · omega

instance [AsyncWrite S] [Rng R] : AsyncWrite (EncryptedStream S R) where
  pollWrite := pollWrite
  pollFlush := pollFlush
  pollShutdown := pollShutdown
  pollWrite_fits := by
    intro this buf count after poll
    rw [(pollWrite_ok poll).1]
    exact Nat.min_le_right _ _

/-- Flushing and shutting down add no frame; when they succeed nothing is left
unsent. -/
theorem pollThrough_spec [AsyncWrite S] (call : S → Poll (Except IoError Unit) × S)
    {this after : EncryptedStream S R} {result : Poll (Except IoError Unit)}
    (inside : this.writePos ≤ this.writeBuffer.length)
    (run : this.pollThrough call = (result, after)) :
    ∃ out middle, Writes this.inner out middle ∧ this.Emits after [] out ∧
      (after.inner = middle ∨ after.inner = (call middle).2) ∧
      (result = .ready (.ok ()) → after.unsent = []) := by
  unfold pollThrough at run
  cases first : this.pollWriteBuffer false with
  | mk answer next =>
      obtain ⟨out, inner, pos, buffer, rfl, writes, split, bound, emptied, _, _⟩ :=
        pollWriteBuffer_spec inside first
      rw [first] at run
      have still : this.Emits { this with inner, writePos := pos, writeBuffer := buffer } [] out :=
        ⟨by simpa [Codec.encodeAll] using split, rfl, rfl, by simp [Codec.recordsAll], rfl, bound⟩
      cases answer using Poll.threeWays with
      | pending | error error =>
          simp only [Prod.mk.injEq] at run
          obtain ⟨rfl, rfl⟩ := run
          exact ⟨out, inner, writes, still, .inl rfl, by simp⟩
      | ok _ =>
          have emptyBuffer := emptied rfl rfl
          subst emptyBuffer
          simp only [Prod.mk.injEq] at run
          obtain ⟨rfl, rfl⟩ := run
          exact ⟨out, inner, writes, still, .inr rfl, fun _ => List.drop_nil⟩

end Calls

end CovertConnect.Crypto.EncryptedStream
