import CovertConnect.Crypto.Stream.Transport
import CovertConnect.Data.Progress

namespace CovertConnect.Crypto

open CovertConnect.Data

/-! # A stream that can always go on

An end that is answered promptly gets everything to the other end that was
accepted, from whatever place the streams are in. -/

namespace Endpoint

/-- Ready for so many reads, each of all that has arrived. -/
def Prompt (turns : Nat) (this : Endpoint) : Prop :=
  ∃ count more, this.incoming.length ≤ count ∧
    this.readReplies = List.replicate turns (.upTo count) ++ more

theorem Prompt.fewer {turns : Nat} {this : Endpoint} (prompt : this.Prompt (turns + 1)) :
    this.Prompt turns := by
  obtain ⟨count, more, all, replies⟩ := prompt
  refine ⟨count, .upTo count :: more, all, ?_⟩
  rw [replies, List.replicate_succ', List.append_assoc]
  rfl

theorem pollRead_prompt {turns : Nat} {this : Endpoint} (prompt : this.Prompt (turns + 1))
    (room : Nat) : ∃ next, AsyncRead.pollRead this room =
        (.ready (.ok (this.incoming.take room)), next) ∧
      next.incoming = this.incoming.drop room ∧ next.Prompt turns := by
  obtain ⟨count, more, all, replies⟩ := prompt
  have taken : this.incoming.take (min count room) = this.incoming.take room := by
    rw [Nat.min_comm, ← List.take_take, List.take_of_length_le all]
  have left : this.incoming.drop (min count room) = this.incoming.drop room := by
    rcases Nat.le_total count room with less | more
    · rw [Nat.min_eq_left less, List.drop_eq_nil_of_le all,
        List.drop_eq_nil_of_le (Nat.le_trans all less)]
    · rw [Nat.min_eq_right more]
  change ∃ next, this.pollRead room = _ ∧ _
  rw [pollRead, replies, List.replicate_succ, List.cons_append]
  dsimp only
  rw [taken, left]
  refine ⟨_, rfl, rfl, count, more, ?_, rfl⟩
  rw [List.length_drop]
  omega

end Endpoint

namespace EncryptedStream

variable {R : Type}

/-- Filling up to a size that has arrived. -/
theorem pollReadExact_prompt {this : EncryptedStream Endpoint R} {size turns : Nat}
    (fits : this.readBuffer.length ≤ size)
    (arrived : size ≤ this.readBuffer.length + this.inner.incoming.length)
    (prompt : this.inner.Prompt (turns + 1)) :
    ∃ inner, this.pollReadExact size = (.ready (.ok ()),
        this.took inner (this.inner.incoming.take (size - this.readBuffer.length))) ∧
      inner.incoming = this.inner.incoming.drop (size - this.readBuffer.length) ∧
      inner.Prompt turns := by
  unfold pollReadExact took
  cases missing : size - this.readBuffer.length with
  | zero =>
      refine ⟨this.inner, ?_, rfl, prompt.fewer⟩
      simp only [readLoop, List.take_zero, List.append_nil]
  | succ further =>
      obtain ⟨next, poll, left, prompt'⟩ := Endpoint.pollRead_prompt prompt (further + 1)
      have width : (this.inner.incoming.take (further + 1)).length = further + 1 :=
        List.length_take_of_le (by omega)
      have full : ¬ (this.readBuffer ++ this.inner.incoming.take (further + 1)).length < size := by
        rw [List.length_append, width]
        omega
      have ended : ∀ turns, readLoop size turns next
          (this.readBuffer ++ this.inner.incoming.take (further + 1)) =
            (.ready (.ok ()), next, this.readBuffer ++ this.inner.incoming.take (further + 1)) := by
        intro turns
        cases turns with
        | zero => rfl
        | succ turns => rw [readLoop, if_neg full]
      have some : (this.inner.incoming.take (further + 1)).length ≠ 0 := by
        rw [width]
        exact Nat.succ_ne_zero further
      refine ⟨next, ?_, left, prompt'⟩
      rw [readLoop, if_pos (by omega), missing, poll]
      simp only [if_neg some, ended]

/-- The front of what a part of a poll has and gets is all that it fills up
to. -/
theorem filled_front {buffer incoming front rest : Bytes} (fits : buffer.length ≤ front.length)
    (bytes : buffer ++ incoming = front ++ rest) :
    buffer ++ incoming.take (front.length - buffer.length) = front := by
  have whole := congrArg (List.take front.length) bytes
  rw [List.take_left, List.take_append, List.take_of_length_le fits] at whole
  exact whole

theorem front_arrived {buffer incoming front rest : Bytes} (bytes : buffer ++ incoming = front ++ rest) :
    front.length ≤ buffer.length + incoming.length := by
  have width := congrArg List.length bytes
  rw [List.length_append, List.length_append] at width
  omega

variable [Aead] {this : EncryptedStream Endpoint R} {codec : Codec} {last : Place} {payload : Bytes}
  {turns : Nat}

/-- With all of its frames there, the header part of a poll goes on to the next
part. -/
theorem readHeader_prompt (correct : Aead.Correct)
    (awaits : this.Awaits codec last this.inner.incoming payload) (resting : this.Resting)
    (some : this.phase = 0 → this.inner.incoming ≠ []) (prompt : this.inner.Prompt (turns + 1)) :
    ∃ after, this.readHeader = (none, after) ∧ after.inner.Prompt turns ∧
      (this.phase = 0 → after.inner.incoming.length < this.inner.incoming.length) ∧
      (this.phase ≠ 0 → after = this) := by
  unfold readHeader
  cases state : this.readState with
  | padding _ _ | data _ | ready _ =>
      exact ⟨this, rfl, prompt.fewer, by simp [phase, state], fun _ => rfl⟩
  | header =>
      obtain ⟨rfl, kept⟩ := awaits
      simp only [state] at kept
      obtain ⟨bound, frames, bytes, ends, _⟩ := kept
      have less : this.readBuffer.length < this.readCodec.headerLength this.readed := by
        simp only [Resting, state] at resting
        exact resting
      cases frames with
      | nil =>
          have nothing := (List.append_eq_nil_iff.mp bytes).2
          exact absurd nothing (some (by simp [phase, state]))
      | cons frame frames =>
          rw [Codec.encodeAll_cons] at bytes
          have width := this.readCodec.headerRecord_length this.readPlace frame
          have sizes : this.headerSize this.readed this.readCipher.tagSize =
              (this.readCodec.record this.readPlace (this.readCodec.headerPlain frame)).length :=
            width.symm
          have below : this.readBuffer.length <
              (this.readCodec.record this.readPlace (this.readCodec.headerPlain frame)).length := by
            rw [width]
            exact less
          obtain ⟨inner, fill, left, prompt'⟩ :=
            pollReadExact_prompt (Nat.le_of_lt below) (front_arrived bytes) prompt
          have buffered := filled_front (Nat.le_of_lt below) bytes
          obtain ⟨after, opened, stays, _⟩ := @openHeader_awaits _ _ _ correct (this.took inner _)
            (fun _ => True) frame frames _ buffered ends fun _ _ => trivial
          dsimp only
          rw [sizes, fill]
          dsimp only
          rw [if_neg (by rw [took_readBuffer, buffered]; exact Nat.lt_irrefl _), opened]
          refine ⟨after, rfl, by rw [stays]; exact prompt', fun _ => ?_, ?_⟩
          · rw [stays, took_inner, left, List.length_drop]
            have arrived := front_arrived bytes
            omega
          · intro later
            simp [phase, state] at later

omit [Aead] in
/-- A part of a poll that goes on has made no more of what has arrived, and less
where it had to fill up. -/
theorem dropped_less {before after : Bytes} {count : Nat} (left : after = before.drop count) :
    after.length ≤ before.length ∧ (0 < count → before ≠ [] → after.length < before.length) := by
  rw [left, List.length_drop]
  refine ⟨Nat.sub_le _ _, fun some there => ?_⟩
  have positive := List.length_pos_iff.mpr there
  omega

theorem readPadding_prompt (awaits : this.Awaits codec last this.inner.incoming payload)
    (prompt : this.inner.Prompt (turns + 1)) :
    ∃ after, this.readPadding = (none, after) ∧ after.inner.Prompt turns ∧
      after.inner.incoming.length ≤ this.inner.incoming.length ∧
      (this.phase = 1 → this.Resting → after.inner.incoming.length < this.inner.incoming.length) ∧
      (this.phase ≠ 1 → after = this) := by
  unfold readPadding
  cases state : this.readState with
  | header | data _ | ready _ =>
      exact ⟨this, rfl, prompt.fewer, Nat.le_refl _, by simp [phase, state], fun _ => rfl⟩
  | padding size dataSize =>
      obtain ⟨rfl, kept⟩ := awaits
      simp only [state] at kept
      obtain ⟨fits, padding, data, frames, rfl, _, bytes, _⟩ := kept
      have arrived := front_arrived bytes
      obtain ⟨inner, fill, left, prompt'⟩ := pollReadExact_prompt fits arrived prompt
      have filled : ¬ (this.took inner
          (this.inner.incoming.take (padding.length - this.readBuffer.length))).readBuffer.length <
            padding.length := by
        rw [took_readBuffer, filled_front fits bytes]
        exact Nat.lt_irrefl _
      dsimp only
      rw [fill]
      dsimp only
      rw [if_neg filled]
      obtain ⟨most, less⟩ := dropped_less left
      refine ⟨_, rfl, prompt', most, fun _ resting => ?_, fun later => ?_⟩
      · simp only [Resting, state] at resting
        apply less (by omega)
        intro nothing
        rw [nothing] at arrived
        simp only [List.length_nil] at arrived
        omega
      · simp [phase, state] at later

theorem readData_prompt (correct : Aead.Correct)
    (awaits : this.Awaits codec last this.inner.incoming payload) (begun : 2 ≤ this.phase)
    (prompt : this.inner.Prompt (turns + 1)) :
    ∃ after, this.readData = (none, after) ∧ 3 ≤ after.phase ∧
      after.inner.incoming.length ≤ this.inner.incoming.length ∧
      (this.phase = 2 → this.Resting → after.inner.incoming.length < this.inner.incoming.length) := by
  unfold readData
  cases state : this.readState with
  | header | padding _ _ => simp [phase, state] at begun
  | ready pos =>
      exact ⟨this, rfl, by simp [phase, state], Nat.le_refl _, by simp [phase, state]⟩
  | data size =>
      obtain ⟨rfl, kept⟩ := awaits
      simp only [state] at kept
      obtain ⟨bound, data, frames, sized, bytes, ends, _⟩ := kept
      have width := this.readCodec.record_length this.readPlace data
      rw [sized] at width
      have wanted : (if this.readed ≤ this.encLimit then size + this.readCipher.tagSize else size) =
          (this.readCodec.record this.readPlace data).length := width.symm
      have fits : this.readBuffer.length ≤ (this.readCodec.record this.readPlace data).length := by
        rw [width]
        exact bound
      have arrived := front_arrived bytes
      obtain ⟨inner, fill, left, prompt'⟩ := pollReadExact_prompt fits arrived prompt
      have buffered := filled_front fits bytes
      obtain ⟨after, opened, stays, _, ready⟩ := @openData_awaits _ _ _ correct (this.took inner _)
        size (fun _ => True) data frames _ sized buffered ends trivial fun _ _ => trivial
      have enough : ¬ (this.took inner (this.inner.incoming.take
          ((this.readCodec.record this.readPlace data).length -
            this.readBuffer.length))).readBuffer.length < size := by
        rw [took_readBuffer, buffered, width]
        unfold Codec.dataLength
        split <;> omega
      dsimp only
      rw [wanted, fill]
      dsimp only
      rw [if_neg enough, opened]
      obtain ⟨most, less⟩ := dropped_less left
      refine ⟨after, rfl, Nat.le_of_eq ready.symm, by rw [stays]; exact most, fun _ resting => ?_⟩
      have short : this.readBuffer.length <
          (this.readCodec.record this.readPlace data).length := by
        simp only [Resting, state] at resting
        rw [width]
        exact resting
      rw [stays]
      apply less (Nat.sub_pos_of_lt short)
      intro nothing
      rw [nothing] at arrived
      exact Nat.not_lt_of_le arrived short

omit [Aead] in
/-- A reader with room for all that is buffered is done with the frame. -/
theorem returnBuffered_all (ready : 3 ≤ this.phase) :
    (this.returnBuffered (this.readBuffer.length + 1)).2.phase = 0 ∧
      (this.returnBuffered (this.readBuffer.length + 1)).2.inner = this.inner := by
  unfold returnBuffered
  cases state : this.readState with
  | header | padding _ _ | data _ => simp [phase, state] at ready
  | ready pos =>
      dsimp only
      rw [List.take_of_length_le (by rw [List.length_drop]; omega), List.length_drop,
        if_pos (by omega)]
      exact ⟨rfl, rfl⟩

/-- How much a reader has before it with all of its frames there. -/
def ahead (this : EncryptedStream Endpoint R) : Nat :=
  this.inner.incoming.length + if this.phase = 3 then 1 else 0

/-- A poll of a reader that has something before it gets it ahead. -/
theorem pollRead_prompt (correct : Aead.Correct)
    (awaits : this.Awaits codec last this.inner.incoming payload) (resting : this.Resting)
    (owed : payload ≠ []) (prompt : this.inner.Prompt 3) :
    ∃ room, (this.pollRead (room + 1)).2.ahead < this.ahead := by
  -- a reader that owes something has bytes to come or payload in its buffer
  have some : this.phase ≠ 3 → this.inner.incoming ≠ [] := by
    intro waiting nothing
    rw [nothing] at awaits
    rcases awaits.exhausted resting with none | ⟨pos, state, _⟩
    · exact owed none
    · exact waiting (by simp [phase, state])
  have early : this.phase = 0 → this.inner.incoming ≠ [] := fun start => some (by omega)
  obtain ⟨behindHeader, header, prompt₁, less₁, same₁⟩ :=
    readHeader_prompt correct awaits resting early prompt
  obtain ⟨got₁, reads₁, spec₁⟩ := readHeader_spec correct header
  rw [← awaitsOf_true, Endpoint.incoming_of_reads reads₁] at awaits
  obtain ⟨awaits₁, begun₁, _⟩ := spec₁ awaits
  have begun₁ := begun₁ rfl
  obtain ⟨behindPadding, padding, prompt₂, most₂, less₂, same₂⟩ :=
    readPadding_prompt (awaitsOf_true.mp awaits₁) prompt₁
  obtain ⟨got₂, reads₂, spec₂⟩ := readPadding_spec padding
  rw [Endpoint.incoming_of_reads reads₂] at awaits₁
  obtain ⟨awaits₂, begun₂, _⟩ := spec₂ begun₁ awaits₁
  have begun₂ := begun₂ rfl
  obtain ⟨behindData, data, ready, most₃, less₃⟩ :=
    readData_prompt correct (awaitsOf_true.mp awaits₂) begun₂ prompt₂
  obtain ⟨done, inner⟩ := returnBuffered_all ready
  refine ⟨behindData.readBuffer.length, ?_⟩
  have polled : (this.pollRead (behindData.readBuffer.length + 1)).2 =
      (behindData.returnBuffered (behindData.readBuffer.length + 1)).2 := by
    simp only [pollRead, header, padding, data]
  rw [polled, ahead, ahead, done, inner]
  simp only [Nat.zero_ne_add_one, if_false, Nat.add_zero]
  by_cases start : this.phase = 0
  · have shorter := less₁ start
    omega
  · have here := same₁ start
    rw [here] at most₂ less₂ same₂
    by_cases one : this.phase = 1
    · have shorter := less₂ one resting
      omega
    · have here := same₂ one
      rw [here] at most₃ less₃ begun₂
      by_cases two : this.phase = 2
      · have shorter := less₃ two resting
        omega
      · have three : this.phase = 3 := by
          cases state : this.readState <;> simp [phase, state] at start one two ⊢
        rw [if_pos three]
        omega

omit [Aead] in
/-- A sink that accepts the whole buffer leaves none of it. -/
theorem pollWriteBuffer_prompt {further : Nat} {more : List WriteReply}
    (inside : this.writePos ≤ this.writeBuffer.length)
    (replies : this.inner.writeReplies = .accept further :: more)
    (enough : this.unsent.length ≤ further + 1) :
    ∃ inner, this.pollWriteBuffer false =
        (.ready (.ok ()), { this with inner, writePos := 0, writeBuffer := [] }) ∧
      inner.closeReply = this.inner.closeReply := by
  have width : (this.writeBuffer.drop this.writePos).length =
      this.writeBuffer.length - this.writePos := List.length_drop
  have ended : ∀ turns inner, writeLoop false this.writeBuffer turns inner this.writeBuffer.length =
      ((none, inner, this.writeBuffer.length) : _ × Endpoint × Nat) := by
    intro turns inner
    cases turns with
    | zero => rfl
    | succ turns => rw [writeLoop, if_neg (Nat.lt_irrefl _)]
  unfold pollWriteBuffer
  cases missing : this.writeBuffer.length - this.writePos with
  | zero => exact ⟨this.inner, rfl, rfl⟩
  | succ rest =>
      have all : min (further + 1) (this.writeBuffer.drop this.writePos).length = rest + 1 := by
        rw [width, missing]
        change (this.writeBuffer.drop this.writePos).length ≤ _ at enough
        omega
      have poll : ∃ inner, AsyncWrite.pollWrite this.inner (this.writeBuffer.drop this.writePos) =
          (.ready (.ok (rest + 1)), inner) ∧ inner.closeReply = this.inner.closeReply := by
        change ∃ inner, this.inner.pollWrite _ = _ ∧ _
        rw [Endpoint.pollWrite, replies]
        dsimp only
        rw [all]
        exact ⟨_, rfl, rfl⟩
      obtain ⟨inner, poll, same⟩ := poll
      have reached : this.writePos + (rest + 1) = this.writeBuffer.length := by omega
      refine ⟨inner, ?_, same⟩
      rw [writeLoop, if_pos (by omega), poll]
      dsimp only
      rw [if_neg (Nat.succ_ne_zero rest), reached, ended]

omit [Aead] in
/-- Where a sink is not waited for, the call is done at once. -/
theorem pollWriteBuffer_noPending (next : EncryptedStream Endpoint R)
    (inside : next.writePos ≤ next.writeBuffer.length) :
    (next.pollWriteBuffer true).1 = .ready (.ok ()) := by
  cases run : next.pollWriteBuffer true with
  | mk answer after =>
      obtain ⟨_, _, _, _, _, _, _, _, _, waiting, fine⟩ := pollWriteBuffer_spec inside run
      cases answer using Poll.threeWays with
      | pending => exact absurd (waiting rfl) (by decide)
      | error error => exact absurd rfl (fine Endpoint.willing error)
      | ok _ => rfl

/-- A write to a prompt sink is accepted, up to the size of a packet. -/
theorem pollWrite_prompt [Rng R] {further : Nat} {more : List WriteReply}
    (inside : this.writePos ≤ this.writeBuffer.length)
    (replies : this.inner.writeReplies = .accept further :: more)
    (enough : this.unsent.length ≤ further + 1) (buf : Bytes) :
    (this.pollWrite buf).1 = .ready (.ok (min maxPacketSize buf.length)) := by
  obtain ⟨inner, emptied, _⟩ := pollWriteBuffer_prompt inside replies enough
  unfold pollWrite
  rw [emptied]
  dsimp only
  generalize chunkEq : (if maxPacketSize < buf.length then buf.take maxPacketSize else buf) = chunk
  have width : chunk.length = min maxPacketSize buf.length := by
    rw [← chunkEq]
    split
    · exact List.length_take
    · omega
  have settled := pollWriteBuffer_noPending
    (({ this with inner, writePos := 0, writeBuffer := [] } :
      EncryptedStream Endpoint R).assembleDataToBuffer chunk) (Nat.zero_le _)
  cases second : (({ this with inner, writePos := 0, writeBuffer := [] } :
      EncryptedStream Endpoint R).assembleDataToBuffer chunk).pollWriteBuffer true with
  | mk answer after =>
      rw [second] at settled
      obtain rfl : answer = .ready (.ok ()) := settled
      rw [width]

end EncryptedStream

namespace Link

variable {W R : Type} [Aead] [Rng W] {codec : Codec}

/-- The writer's end takes everything at once. -/
def promptly (link : Link W R) : List WriteReply := [.accept link.writer.unsent.length]

omit [Aead] [Rng W] in
/-- A flush to a prompt end leaves nothing with the writer. -/
theorem flush_prompt (link : Link W R)
    (inside : link.writer.writePos ≤ link.writer.writeBuffer.length) :
    (link.through AsyncWrite.pollFlush link.promptly (.ready (.ok ()))).flushed = true := by
  obtain ⟨inner, emptied, same⟩ := EncryptedStream.pollWriteBuffer_prompt
    (show (withReplies link.writer link.promptly (.ready (.ok ()))).writePos ≤ _ from inside) rfl
    (Nat.le_succ link.writer.unsent.length)
  have flushed : AsyncWrite.pollFlush inner = (.ready (.ok ()), inner) :=
    Prod.ext same rfl
  unfold through EncryptedStream.pollThrough
  rw [emptied]
  dsimp only
  rw [flushed]

omit [Aead] [Rng W] in
theorem carry_all {link : Link W R} (below : link.carried ≤ link.writer.inner.outgoing.length) :
    (link.carry link.underway.length).underway = [] := by
  have width : link.underway.length = link.writer.inner.outgoing.length - link.carried :=
    List.length_drop
  change link.writer.inner.outgoing.drop (min (link.carried + link.underway.length) _) = []
  rw [width, Nat.add_sub_cancel' below, Nat.min_self, List.drop_length]

omit [Rng W] in
/-- While something is owed that has left the writer and the transport, a poll
gets the reader ahead. -/
theorem read_prompt (correct : Aead.Correct) {link : Link W R} (inv : link.Inv codec)
    (sent : link.writer.unsent = []) (carried : link.underway = [])
    (owed : link.returned ≠ link.accepted) :
    ∃ room, (link.read (room + 1)
        (List.replicate 3 (.upTo link.reader.inner.incoming.length))).reader.ahead <
      link.reader.ahead := by
  obtain ⟨payload, split, awaits⟩ := inv.owed
  rw [sent, carried, List.append_nil, List.append_nil] at awaits
  have some : payload ≠ [] := by
    intro nothing
    rw [nothing, List.append_nil] at split
    exact owed split.symm
  let replies : List ReadReply := List.replicate 3 (.upTo link.reader.inner.incoming.length)
  have prompt : (scripted link.reader replies).inner.Prompt 3 :=
    ⟨_, [], Nat.le_refl _, (List.append_nil _).symm⟩
  have scriptedAwaits : (scripted link.reader replies).Awaits codec link.writer.writePlace
      (scripted link.reader replies).inner.incoming payload := awaits
  have resting : (scripted link.reader replies).Resting := inv.resting
  exact EncryptedStream.pollRead_prompt correct scriptedAwaits resting some prompt

end Link

end CovertConnect.Crypto
