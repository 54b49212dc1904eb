import CovertConnect.Crypto.Stream.Reader
import CovertConnect.Crypto.Stream.Sender

namespace CovertConnect.Crypto

open CovertConnect.Data

/-! # Streams over bytes in memory

Where the inner stream is always ready, a call does exactly one frame. -/

namespace EncryptedStream

variable {R : Type} [Aead]

omit [Aead] in
theorem pollReadExact_bytes {this : EncryptedStream Bytes R} {chunk rest : Bytes}
    (cleared : this.readBuffer = []) (source : this.inner = chunk ++ rest) :
    this.pollReadExact chunk.length =
      (.ready (.ok ()), { this with inner := rest, readBuffer := chunk }) := by
  have loop : ∀ turns, chunk.length ≤ turns →
      readLoop chunk.length turns (chunk ++ rest) [] = (.ready (.ok ()), rest, chunk) := by
    intro turns enough
    cases turns with
    | zero =>
        have nothing := List.eq_nil_of_length_eq_zero (Nat.le_zero.mp enough)
        subst nothing
        rfl
    | succ turns =>
        by_cases some : 0 < chunk.length
        · have poll : AsyncRead.pollRead (chunk ++ rest) (chunk.length - ([] : Bytes).length) =
              (.ready (.ok chunk), rest) := by
            change (Poll.ready (Except.ok ((chunk ++ rest).take _)), (chunk ++ rest).drop _) = _
            rw [List.length_nil, Nat.sub_zero, List.take_left, List.drop_left]
          have done : readLoop chunk.length turns rest chunk = (.ready (.ok ()), rest, chunk) := by
            cases turns with
            | zero => rfl
            | succ turns => rw [readLoop, if_neg (Nat.lt_irrefl _)]
          rw [readLoop, List.length_nil, if_pos some]
          rw [List.length_nil] at poll
          simp only [poll, if_neg (Nat.pos_iff_ne_zero.mp some), List.nil_append, done]
        · have nothing := List.eq_nil_of_length_eq_zero (Nat.le_zero.mp (Nat.le_of_not_lt some))
          subst nothing
          rfl
  unfold pollReadExact
  rw [cleared, source, List.length_nil, Nat.sub_zero, loop _ (Nat.le_refl _)]

/-- With nothing buffered, at a place of a codec and with `rest` to come. -/
structure At (codec : Codec) (place : Place) (rest : Bytes) (this : EncryptedStream Bytes R) :
    Prop where
  cleared : this.readBuffer = []
  codec : this.readCodec = codec
  place : this.readPlace = place
  source : this.inner = rest

section Frames

variable {codec : Codec} {place : Place} {rest : Bytes} {this : EncryptedStream Bytes R}

theorem readHeader_at {frame : Frame codec.needed} (within : place.count ≤ codec.encLimit)
    (opens : Aead.openRecord codec.kind codec.key place.nonce
      (Aead.sealRecord codec.kind codec.key place.nonce (codec.headerPlain frame)) =
        some (codec.headerPlain frame))
    (state : this.readState = .header)
    (here : this.At codec place (codec.record place (codec.headerPlain frame) ++ rest)) :
    ∃ after, this.readHeader = (none, after) ∧
      after.At codec (codec.middle place frame.padding.length) rest ∧
      after.readState =
        if codec.needed then .padding frame.padding.length frame.payload.length
        else .data frame.payload.length := by
  obtain ⟨cleared, rfl, rfl, source⟩ := here
  have guard : this.readed ≤ this.encLimit := within
  have width := this.readCodec.headerRecord_length this.readPlace frame
  have sizes : this.headerSize this.readed this.readCipher.tagSize =
      (this.readCodec.record this.readPlace (this.readCodec.headerPlain frame)).length :=
    width.symm
  have fill := pollReadExact_bytes cleared source
  have sealed : this.readCodec.record this.readPlace (this.readCodec.headerPlain frame) =
      Aead.sealRecord this.readCipher.kind this.readCipher.key this.readCipher.nonce
        (this.readCodec.headerPlain frame) := if_pos within
  generalize this.readCodec.record this.readPlace (this.readCodec.headerPlain frame) = chunk
    at fill sizes sealed
  have opened : Aead.openRecord this.readCipher.kind this.readCipher.key this.readCipher.nonce
      chunk = some (this.readCodec.headerPlain frame) := by
    rw [sealed]
    exact opens
  simp only [readHeader, state]
  rw [sizes, fill]
  simp only [Nat.lt_irrefl, if_false, openHeader, guard, if_true, Cipher.decrypt_some opened]
  obtain ⟨state', place'⟩ := takeHeader_frame
    { this with
      inner := rest
      readBuffer := this.readCodec.headerPlain frame ++ chunk.drop (chunk.length - 16) }
    frame rfl
  refine ⟨_, rfl, ⟨rfl, ?_, place', rfl⟩, state'⟩
  exact takeHeader_readCodec _

omit [Aead] in
theorem readPadding_at {frame : Frame codec.needed}
    (state : this.readState =
      if codec.needed then .padding frame.padding.length frame.payload.length
      else .data frame.payload.length)
    (here : this.At codec place (frame.padding ++ rest)) :
    ∃ after, this.readPadding = (none, after) ∧ after.At codec place rest ∧
      after.readState = .data frame.payload.length := by
  obtain ⟨cleared, codecs, place, source⟩ := here
  by_cases needed : codec.needed
  · rw [if_pos needed] at state
    have fill := pollReadExact_bytes cleared source
    simp only [readPadding, state, fill, Nat.lt_irrefl, if_false]
    exact ⟨_, rfl, ⟨rfl, codecs, place, rfl⟩, rfl⟩
  · rw [if_neg needed] at state
    rw [frame.padding_needed (by simpa using needed), List.nil_append] at source
    simp only [readPadding, state]
    exact ⟨_, rfl, ⟨cleared, codecs, place, source⟩, state⟩

theorem readData_at {frame : Frame codec.needed} (within : place.count ≤ codec.encLimit)
    (opens : Aead.openRecord codec.kind codec.key place.nonce
      (Aead.sealRecord codec.kind codec.key place.nonce frame.payload) = some frame.payload)
    (state : this.readState = .data frame.payload.length)
    (here : this.At codec place (codec.record place frame.payload ++ rest)) :
    ∃ after, this.readData = (none, after) ∧ after.inner = rest ∧ after.readState = .ready 0 ∧
      after.readBuffer = frame.payload ∧ after.readCodec = codec ∧
      after.readPlace = codec.finish place frame.payload.length := by
  obtain ⟨cleared, rfl, rfl, source⟩ := here
  have guard : this.readed ≤ this.encLimit := within
  have sizes : (if this.readed ≤ this.encLimit then
      frame.payload.length + this.readCipher.tagSize else frame.payload.length) =
      (this.readCodec.record this.readPlace frame.payload).length :=
    (this.readCodec.record_length this.readPlace frame.payload).symm
  have fill := pollReadExact_bytes cleared source
  have sealed : this.readCodec.record this.readPlace frame.payload =
      Aead.sealRecord this.readCipher.kind this.readCipher.key this.readCipher.nonce
        frame.payload := if_pos within
  have enough : ¬ (this.readCodec.record this.readPlace frame.payload).length <
      frame.payload.length := by
    rw [sealed, Aead.sealRecord_length]
    omega
  generalize this.readCodec.record this.readPlace frame.payload = chunk at fill sizes sealed enough
  have opened : Aead.openRecord this.readCipher.kind this.readCipher.key this.readCipher.nonce
      chunk = some frame.payload := by
    rw [sealed]
    exact opens
  simp only [readData, state]
  rw [sizes, fill]
  simp only [if_neg enough, openData, guard, if_true, Cipher.decrypt_some opened]
  refine ⟨_, rfl, rfl, rfl, List.take_left, rfl, ?_⟩
  exact (congrArg (fun moved : Place => Place.mk moved.nonce (this.readed + _))
    (this.readCodec.step_sealed within 1)).symm

/-- One poll with room for the payload reads one frame. -/
theorem pollRead_at {frame : Frame codec.needed} {room : Nat}
    (within : place.count ≤ codec.encLimit)
    (opens : ∀ record ∈ codec.records place frame,
      Aead.openRecord record.kind record.key record.nonce
        (Aead.sealRecord record.kind record.key record.nonce record.plain) = some record.plain)
    (fits : frame.payload.length ≤ room) (state : this.readState = .header)
    (here : this.At codec place (codec.encode place frame ++ rest)) :
    ∃ after, this.pollRead room = (.ready (.ok frame.payload), after) ∧
      after.At codec (codec.next place frame) rest ∧ after.readState = .header := by
  rw [Codec.records, if_pos within] at opens
  rw [Codec.encode, List.append_assoc, List.append_assoc] at here
  obtain ⟨behindHeader, header, here, state⟩ :=
    readHeader_at within (opens _ List.mem_cons_self) state here
  obtain ⟨behindPadding, padding, here, state⟩ := readPadding_at state here
  obtain ⟨behindData, data, source, state, buffered, codecs, place⟩ :=
    readData_at (show (codec.middle place frame.padding.length).count ≤ codec.encLimit from within)
      (opens _ (List.mem_cons_of_mem _ (List.mem_singleton.mpr rfl))) state here
  have handed : behindData.returnBuffered room =
      (frame.payload, { behindData with readBuffer := [], readState := .header }) := by
    have whole : (behindData.readBuffer.drop 0).take room = frame.payload := by
      rw [buffered, List.drop_zero, List.take_of_length_le fits]
    simp only [returnBuffered, state, whole]
    rw [if_pos (by rw [buffered]; omega)]
  simp only [pollRead, header, padding, data, handed]
  exact ⟨_, rfl, ⟨rfl, codecs, place, source⟩, rfl⟩

/-- Polls with room for the payloads read all frames that are there. -/
theorem readSealed_at {frames : List (Frame codec.needed)} {room : Nat}
    (within : place.count + (payloads frames).length ≤ codec.encLimit)
    (opens : ∀ record ∈ codec.recordsAll place frames,
      Aead.openRecord record.kind record.key record.nonce
        (Aead.sealRecord record.kind record.key record.nonce record.plain) = some record.plain)
    (fits : (payloads frames).length ≤ room) (state : this.readState = .header)
    (here : this.At codec place (codec.encodeAll place frames)) :
    (this.readSealed (List.replicate frames.length room)).1 = payloads frames := by
  induction frames generalizing place this with
  | nil => rfl
  | cons frame frames ih =>
      rw [payloads_cons, List.length_append] at within fits
      rw [Codec.recordsAll] at opens
      obtain ⟨after, poll, there, state'⟩ := pollRead_at (by omega)
        (fun record logged => opens record (List.mem_append_left _ logged))
        (Nat.le_trans (Nat.le_add_right _ _) fits) state here
      have rest := ih (by rw [Codec.next_count]; omega)
        (fun record logged => opens record (List.mem_append_right _ logged))
        (Nat.le_trans (Nat.le_add_left _ _) fits) state' there
      have sealed : ¬ (this.readState = .header ∧ this.encLimit < this.readed) := by
        obtain ⟨_, rfl, rfl, _⟩ := here
        intro given
        obtain ⟨_, beyond⟩ := given
        have below : this.readed + (frame.payload.length + _) ≤ this.encLimit := within
        omega
      rw [List.length_cons, List.replicate_succ, readSealed, if_neg sealed, poll]
      simp only [rest, delivered, payloads_cons]

end Frames

omit [Aead] in
theorem pollWriteBuffer_bytes {this : EncryptedStream Bytes R} (started : this.writePos = 0)
    (noPending : Bool) :
    this.pollWriteBuffer noPending =
      (.ready (.ok ()),
        { this with
          inner := this.inner ++ this.writeBuffer
          writePos := 0
          writeBuffer := [] }) := by
  unfold pollWriteBuffer
  rw [started, Nat.sub_zero]
  cases size : this.writeBuffer.length with
  | zero =>
      rw [writeLoop, List.eq_nil_of_length_eq_zero size, List.append_nil]
  | succ turns =>
      have poll : AsyncWrite.pollWrite this.inner (this.writeBuffer.drop 0) =
          (.ready (.ok this.writeBuffer.length), this.inner ++ this.writeBuffer) := rfl
      have last : ∀ turns, writeLoop noPending this.writeBuffer turns
          (this.inner ++ this.writeBuffer) this.writeBuffer.length =
            (none, this.inner ++ this.writeBuffer, this.writeBuffer.length) := by
        intro turns
        cases turns with
        | zero => rfl
        | succ turns => rw [writeLoop, if_neg (Nat.lt_irrefl _)]
      have some : ¬ this.writeBuffer.length = 0 := by omega
      rw [writeLoop, if_pos (by omega), poll]
      simp only [if_neg some, Nat.zero_add, last]

/-- One call writes one frame. -/
theorem pollWrite_at [Rng R] {this : EncryptedStream Bytes R} {buf : Bytes}
    (cleared : this.writeBuffer = []) (started : this.writePos = 0)
    (fits : buf.length ≤ maxPacketSize) :
    ∃ frame : Frame this.writeCodec.needed, ∃ out after, frame.payload = buf ∧
      this.pollWrite buf = (.ready (.ok buf.length), after) ∧ this.Emits after [frame] out ∧
      after.writeBuffer = [] ∧ after.writePos = 0 := by
  let drained : EncryptedStream Bytes R :=
    { this with inner := this.inner ++ this.writeBuffer, writePos := 0, writeBuffer := [] }
  obtain ⟨frame, rng, payload, assembled⟩ :
      ∃ frame : Frame this.writeCodec.needed, ∃ rng, frame.payload = buf ∧
        drained.assembleDataToBuffer buf =
          { drained with
            writeBuffer := this.writeCodec.encode this.writePlace frame
            writeCipher :=
              { this.writeCipher with
                nonce := (this.writeCodec.next this.writePlace frame).nonce
                sealed := this.writeCipher.sealed ++ this.writeCodec.records this.writePlace frame
                advanced := this.writeCipher.advanced +
                  this.writeCodec.stride this.writePlace frame }
            written := this.written + buf.length
            rng } :=
    assembleDataToBuffer_frame drained rfl fits
  have still : (drained.assembleDataToBuffer buf).writePos = 0 := by rw [assembled]
  have first : this.pollWriteBuffer false = (.ready (.ok ()), drained) :=
    pollWriteBuffer_bytes started false
  generalize fullEq : drained.assembleDataToBuffer buf = full at assembled still
  refine ⟨frame, this.writeCodec.encode this.writePlace frame,
    { full with inner := full.inner ++ full.writeBuffer, writePos := 0, writeBuffer := [] },
    payload, ?_, ?_, rfl, rfl⟩
  · simp only [pollWrite, if_neg (Nat.not_lt_of_le fits), first, fullEq, pollWriteBuffer_bytes still]
  · refine ⟨?_, ?_, ?_, ?_, ?_, Nat.le_refl 0⟩
    · simp only [unsent, cleared, List.drop_nil, List.nil_append, Codec.encodeAll]
    · rw [assembled]
      rfl
    · rw [assembled]
      exact Place.ext_fields rfl (congrArg (this.written + List.length ·) payload.symm)
    · rw [assembled]
      simp only [Codec.recordsAll, List.append_nil]
    · rw [assembled]
      rfl

end EncryptedStream

/-- A run of calls writes one frame for each buffer. -/
theorem Sender.Sent.writes {R : Type} [Rng R] [Aead] {codec : Codec} {start : Place}
    {sender : Sender Bytes R} {frames : List (Frame codec.needed)}
    (sent : sender.Sent codec start frames) (cleared : sender.stream.writeBuffer = [])
    (started : sender.stream.writePos = 0) (bufs : List Bytes)
    (fit : ∀ buf ∈ bufs, buf.length ≤ maxPacketSize) :
    ∃ more : List (Frame codec.needed), more.map Frame.payload = bufs ∧
      (sender.run (bufs.map .write)).Sent codec start (frames ++ more) := by
  induction bufs generalizing sender frames with
  | nil => exact ⟨[], rfl, by rw [List.append_nil]; exact sent⟩
  | cons buf bufs ih =>
      obtain ⟨frame, out, after, payload, poll, emits, cleared', started'⟩ :=
        EncryptedStream.pollWrite_at cleared started (fit buf List.mem_cons_self)
      have counted : after.written = sender.stream.written + buf.length := by
        have count := congrArg Place.count emits.2.2.1
        rw [Codec.advance_count, payloads_cons, payload, payloads_nil, List.append_nil] at count
        exact count
      obtain ⟨first, firstPayload, sent'⟩ := sent.emits emits
        (sender.wrote ++ buf.take (after.written - sender.stream.written)) (by
          rw [counted, Nat.add_sub_cancel_left, List.take_length, payloads_cons, payload,
            payloads_nil, List.append_nil])
      have called : sender.call (.write buf) =
          { stream := after
            wrote := sender.wrote ++ buf.take (after.written - sender.stream.written) } := by
        simp only [Sender.call, poll]
      rw [← called] at sent'
      obtain ⟨rest, restPayload, sent''⟩ := ih sent' (by rw [called]; exact cleared')
        (by rw [called]; exact started') fun buf there => fit buf (List.mem_cons_of_mem _ there)
      refine ⟨first ++ rest, ?_, ?_⟩
      · rw [List.map_append, firstPayload, restPayload, List.map_cons, payload]
        rfl
      · rw [← List.append_assoc]
        exact sent''

end CovertConnect.Crypto
