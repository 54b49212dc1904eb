import CovertConnect.Crypto.Stream.Frames

namespace CovertConnect.Crypto.EncryptedStream

open CovertConnect.Data

/-! # The reading direction

`Awaits` says what a reader makes of the bytes still to come, whatever part of
a frame it has buffered.  A poll moves bytes from the inner stream into the
buffer and payload from the buffer to the caller, and keeps `Awaits`. -/

variable {S R : Type}

def readCodec (this : EncryptedStream S R) : Codec where
  kind := this.readCipher.kind
  key := this.readCipher.key
  needed := this.padding.needed
  encLimit := this.encLimit

def readPlace (this : EncryptedStream S R) : Place where
  nonce := this.readCipher.nonce
  count := this.readed

/-- The bytes a poll put into the caller's buffer. -/
def delivered : Poll (Except IoError Bytes) → Bytes
  | .ready (.ok bytes) => bytes
  | _ => []

/-- Between polls an incomplete part of a frame is buffered, never a whole one. -/
def Resting (this : EncryptedStream S R) : Prop :=
  match this.readState with
  | .header => this.readBuffer.length < this.readCodec.headerLength this.readed
  | .padding size _ => this.readBuffer.length < size
  | .data size => this.readBuffer.length < this.readCodec.dataLength this.readed size
  | .ready pos => pos < this.readBuffer.length

/-- How far a poll has come in the current frame. -/
def phase (this : EncryptedStream S R) : Nat :=
  match this.readState with
  | .header => 0
  | .padding _ _ => 1
  | .data _ => 2
  | .ready _ => 3

/-- The reader after it took `got` from the inner stream. -/
def took (this : EncryptedStream S R) (inner : S) (got : Bytes) : EncryptedStream S R :=
  { this with inner, readBuffer := this.readBuffer ++ got }

section Took

variable (this : EncryptedStream S R) (inner : S) (got : Bytes)

@[simp] theorem took_inner : (this.took inner got).inner = inner := rfl

@[simp] theorem took_readState : (this.took inner got).readState = this.readState := rfl

@[simp] theorem took_readBuffer : (this.took inner got).readBuffer = this.readBuffer ++ got := rfl

@[simp] theorem took_readed : (this.took inner got).readed = this.readed := rfl

@[simp] theorem took_readCodec : (this.took inner got).readCodec = this.readCodec := rfl

@[simp] theorem took_readPlace : (this.took inner got).readPlace = this.readPlace := rfl

end Took

theorem readLoop_spec [AsyncRead S] {size turns : Nat} {inner after : S} {buffer buffer' : Bytes}
    {result : Poll (Except IoError Unit)}
    (run : readLoop size turns inner buffer = (result, after, buffer')) :
    ∃ got, Reads inner got after ∧ buffer' = buffer ++ got ∧
      (buffer.length ≤ size → buffer'.length ≤ size) ∧
      (result = .ready (.ok ()) → size ≤ buffer.length + turns →
        size ≤ buffer'.length ∨ buffer' = []) ∧
      (result ≠ .ready (.ok ()) → buffer'.length < size) := by
  induction turns generalizing inner buffer with
  | zero =>
      simp only [readLoop, Prod.mk.injEq] at run
      obtain ⟨rfl, rfl, rfl⟩ := run
      refine ⟨[], .done, (List.append_nil _).symm, id, ?_, fun failed => absurd rfl failed⟩
      intro _ enough
      exact .inl enough
  | succ turns ih =>
      rw [readLoop] at run
      by_cases more : buffer.length < size
      · rw [if_pos more] at run
        cases poll : AsyncRead.pollRead inner (size - buffer.length) with
        | mk answer next =>
            rw [poll] at run
            cases answer using Poll.threeWays with
            | pending =>
                simp only [Prod.mk.injEq] at run
                obtain ⟨rfl, rfl, rfl⟩ := run
                exact ⟨[], .pending poll .done, (List.append_nil _).symm, id, by simp,
                  fun _ => more⟩
            | error error =>
                simp only [Prod.mk.injEq] at run
                obtain ⟨rfl, rfl, rfl⟩ := run
                exact ⟨[], .failed poll .done, (List.append_nil _).symm, id, by simp,
                  fun _ => more⟩
            | ok bytes =>
                have fits := AsyncRead.pollRead_fits _ _ _ _ poll
                by_cases ended : bytes.length = 0
                · have nothing := List.eq_nil_of_length_eq_zero ended
                  subst nothing
                  simp only [if_pos ended] at run
                  have reads : Reads inner [] next := .chunk poll .done
                  by_cases partly : buffer.length ≠ 0
                  · simp only [if_pos partly, Prod.mk.injEq] at run
                    obtain ⟨rfl, rfl, rfl⟩ := run
                    exact ⟨[], reads, (List.append_nil _).symm, id, by simp, fun _ => more⟩
                  · simp only [if_neg partly, Prod.mk.injEq] at run
                    obtain ⟨rfl, rfl, rfl⟩ := run
                    have emptyBuffer : buffer = [] :=
                      List.eq_nil_of_length_eq_zero (Decidable.not_not.mp partly)
                    exact ⟨[], reads, (List.append_nil _).symm, id, fun _ _ => .inr emptyBuffer,
                      fun failed => absurd rfl failed⟩
                · simp only [if_neg ended] at run
                  obtain ⟨got, reads, grown, bound, full, short⟩ := ih run
                  refine ⟨bytes ++ got, .chunk poll reads, ?_, ?_, ?_, short⟩
                  · rw [grown, List.append_assoc]
                  · intro _
                    apply bound
                    rw [List.length_append]
                    omega
                  · intro ok enough
                    apply full ok
                    rw [List.length_append]
                    omega
      · rw [if_neg more] at run
        simp only [Prod.mk.injEq] at run
        obtain ⟨rfl, rfl, rfl⟩ := run
        exact ⟨[], .done, (List.append_nil _).symm, id, fun _ _ => .inl (by omega),
          fun failed => absurd rfl failed⟩

/-- Filling the buffer: whatever the outcome, the bytes taken from the inner
stream are behind the ones buffered before, and no more than asked for. -/
theorem pollReadExact_spec [AsyncRead S] {this after : EncryptedStream S R} {size : Nat}
    {result : Poll (Except IoError Unit)} (run : this.pollReadExact size = (result, after)) :
    ∃ got inner, Reads this.inner got inner ∧
      after = this.took inner got ∧
      (this.readBuffer.length ≤ size → (this.readBuffer ++ got).length ≤ size) ∧
      (result = .ready (.ok ()) →
        size ≤ (this.readBuffer ++ got).length ∨ this.readBuffer ++ got = []) ∧
      (result ≠ .ready (.ok ()) → (this.readBuffer ++ got).length < size) := by
  unfold pollReadExact at run
  cases loop : readLoop size (size - this.readBuffer.length) this.inner this.readBuffer with
  | mk answer rest =>
      obtain ⟨inner, buffer⟩ := rest
      obtain ⟨got, reads, rfl, bound, full, short⟩ := readLoop_spec loop
      rw [loop] at run
      simp only [Prod.mk.injEq] at run
      obtain ⟨rfl, rfl⟩ := run
      exact ⟨got, inner, reads, rfl, bound, fun ok => full ok (by omega), short⟩

/-- Filling stops short of its size with success where the inner stream ends. -/
theorem readLoop_atEnd [AsyncRead S] {size turns : Nat} {inner after : S} {buffer buffer' : Bytes}
    (enough : size ≤ buffer.length + turns)
    (run : readLoop size turns inner buffer = (.ready (.ok ()), after, buffer'))
    (short : buffer'.length < size) : AtEnd after := by
  induction turns generalizing inner buffer with
  | zero =>
      simp only [readLoop, Prod.mk.injEq, true_and] at run
      obtain ⟨_, rfl⟩ := run
      omega
  | succ turns ih =>
      rw [readLoop] at run
      by_cases more : buffer.length < size
      · rw [if_pos more] at run
        cases poll : AsyncRead.pollRead inner (size - buffer.length) with
        | mk answer next =>
            rw [poll] at run
            cases answer using Poll.threeWays with
            | pending | error _ => simp at run
            | ok bytes =>
                by_cases ended : bytes.length = 0
                · have nothing := List.eq_nil_of_length_eq_zero ended
                  subst nothing
                  simp only [if_pos ended] at run
                  split at run
                  · simp at run
                  · simp only [Prod.mk.injEq, true_and] at run
                    rw [← run.1]
                    exact ⟨inner, _, Nat.sub_pos_of_lt more, poll⟩
                · simp only [if_neg ended] at run
                  apply ih _ run
                  rw [List.length_append]
                  omega
      · rw [if_neg more] at run
        simp only [Prod.mk.injEq, true_and] at run
        rw [← run.2] at short
        exact absurd short more

section Calls

variable [Aead]

/-- Fed with `rest`, this reader hands out `payload` and ends at `last`. -/
def Awaits (codec : Codec) (this : EncryptedStream S R) (last : Place) (rest payload : Bytes) :
    Prop :=
  this.readCodec = codec ∧
  match this.readState with
  | .header =>
      this.readBuffer.length ≤ codec.headerLength this.readed ∧
      ∃ frames, this.readBuffer ++ rest = codec.encodeAll this.readPlace frames ∧
        codec.advance this.readPlace frames = last ∧ payload = payloads frames
  | .padding size dataSize =>
      this.readBuffer.length ≤ size ∧
      ∃ padding data frames, padding.length = size ∧ data.length = dataSize ∧
        this.readBuffer ++ rest = padding ++ (codec.record this.readPlace data ++
          codec.encodeAll (codec.finish this.readPlace dataSize) frames) ∧
        codec.advance (codec.finish this.readPlace dataSize) frames = last ∧
        payload = data ++ payloads frames
  | .data size =>
      this.readBuffer.length ≤ codec.dataLength this.readed size ∧
      ∃ data frames, data.length = size ∧
        this.readBuffer ++ rest = codec.record this.readPlace data ++
          codec.encodeAll (codec.finish this.readPlace size) frames ∧
        codec.advance (codec.finish this.readPlace size) frames = last ∧
        payload = data ++ payloads frames
  | .ready pos =>
      ∃ frames, rest = codec.encodeAll this.readPlace frames ∧
        codec.advance this.readPlace frames = last ∧
        payload = this.readBuffer.drop pos ++ payloads frames

/-- `Awaits` with nothing but `fine` payloads still to be opened.  An opened one
has a byte left, unless it is fine to have none. -/
def AwaitsOf (fine : Bytes → Prop) (codec : Codec) (this : EncryptedStream S R) (last : Place)
    (rest payload : Bytes) : Prop :=
  this.readCodec = codec ∧
  match this.readState with
  | .header =>
      this.readBuffer.length ≤ codec.headerLength this.readed ∧
      ∃ frames, this.readBuffer ++ rest = codec.encodeAll this.readPlace frames ∧
        codec.advance this.readPlace frames = last ∧ payload = payloads frames ∧
        ∀ frame ∈ frames, fine frame.payload
  | .padding size dataSize =>
      this.readBuffer.length ≤ size ∧
      ∃ padding data frames, padding.length = size ∧ data.length = dataSize ∧
        this.readBuffer ++ rest = padding ++ (codec.record this.readPlace data ++
          codec.encodeAll (codec.finish this.readPlace dataSize) frames) ∧
        codec.advance (codec.finish this.readPlace dataSize) frames = last ∧
        payload = data ++ payloads frames ∧ fine data ∧ ∀ frame ∈ frames, fine frame.payload
  | .data size =>
      this.readBuffer.length ≤ codec.dataLength this.readed size ∧
      ∃ data frames, data.length = size ∧
        this.readBuffer ++ rest = codec.record this.readPlace data ++
          codec.encodeAll (codec.finish this.readPlace size) frames ∧
        codec.advance (codec.finish this.readPlace size) frames = last ∧
        payload = data ++ payloads frames ∧ fine data ∧ ∀ frame ∈ frames, fine frame.payload
  | .ready pos =>
      ∃ frames, rest = codec.encodeAll this.readPlace frames ∧
        codec.advance this.readPlace frames = last ∧
        payload = this.readBuffer.drop pos ++ payloads frames ∧
        (fine [] ∨ pos < this.readBuffer.length) ∧ ∀ frame ∈ frames, fine frame.payload

theorem awaitsOf_true {codec : Codec} {this : EncryptedStream S R} {last : Place}
    {rest payload : Bytes} : this.AwaitsOf (fun _ => True) codec last rest payload ↔
      this.Awaits codec last rest payload := by
  unfold AwaitsOf Awaits
  cases state : this.readState <;> simp

/-- The frames a writer adds behind what it sent before. -/
theorem AwaitsOf.append {fine : Bytes → Prop} {codec : Codec} {this : EncryptedStream S R}
    {last : Place} {rest payload : Bytes} (awaits : this.AwaitsOf fine codec last rest payload)
    {more : List (Frame codec.needed)} (added : ∀ frame ∈ more, fine frame.payload) :
    this.AwaitsOf fine codec (codec.advance last more) (rest ++ codec.encodeAll last more)
      (payload ++ payloads more) := by
  unfold AwaitsOf at awaits ⊢
  refine ⟨awaits.1, ?_⟩
  have kept := awaits.2
  have both : ∀ {frames : List (Frame codec.needed)}, (∀ frame ∈ frames, fine frame.payload) →
      ∀ frame ∈ frames ++ more, fine frame.payload :=
    fun good frame member => (List.mem_append.mp member).elim (good frame) (added frame)
  cases state : this.readState with
  | header =>
      simp only [state] at kept ⊢
      obtain ⟨bound, frames, bytes, ends, rfl, good⟩ := kept
      refine ⟨bound, frames ++ more, ?_, ?_, ?_, both good⟩
      · rw [← List.append_assoc, bytes, Codec.encodeAll_append, ends]
      · rw [Codec.advance_append, ends]
      · rw [payloads_append]
  | padding size dataSize =>
      simp only [state] at kept ⊢
      obtain ⟨bound, padding, data, frames, paddingSize, dataLength, bytes, ends, rfl, whole, good⟩ :=
        kept
      refine ⟨bound, padding, data, frames ++ more, paddingSize, dataLength, ?_, ?_, ?_, whole,
        both good⟩
      · rw [← List.append_assoc, bytes, Codec.encodeAll_append, ends]
        simp only [List.append_assoc]
      · rw [Codec.advance_append, ends]
      · rw [payloads_append, List.append_assoc]
  | data size =>
      simp only [state] at kept ⊢
      obtain ⟨bound, data, frames, dataLength, bytes, ends, rfl, whole, good⟩ := kept
      refine ⟨bound, data, frames ++ more, dataLength, ?_, ?_, ?_, whole, both good⟩
      · rw [← List.append_assoc, bytes, Codec.encodeAll_append, ends, List.append_assoc]
      · rw [Codec.advance_append, ends]
      · rw [payloads_append, List.append_assoc]
  | ready pos =>
      simp only [state] at kept ⊢
      obtain ⟨frames, rfl, ends, rfl, left, good⟩ := kept
      refine ⟨frames ++ more, ?_, ?_, ?_, left, both good⟩
      · rw [Codec.encodeAll_append, ends]
      · rw [Codec.advance_append, ends]
      · rw [payloads_append, List.append_assoc]

theorem Awaits.append {codec : Codec} {this : EncryptedStream S R} {last : Place}
    {rest payload : Bytes} (awaits : this.Awaits codec last rest payload)
    (more : List (Frame codec.needed)) :
    this.Awaits codec (codec.advance last more) (rest ++ codec.encodeAll last more)
      (payload ++ payloads more) :=
  awaitsOf_true.mp ((awaitsOf_true.mpr awaits).append fun _ _ => trivial)

/-- Whatever is still missing is asked for again at the next poll. -/
theorem AwaitsOf.took {fine : Bytes → Prop} {codec : Codec} {this : EncryptedStream S R}
    {last : Place} {got tail payload : Bytes}
    (awaits : this.AwaitsOf fine codec last (got ++ tail) payload) (inner : S)
    (waiting : this.phase < 3) (resting : (this.took inner got).Resting) :
    (this.took inner got).AwaitsOf fine codec last tail payload := by
  obtain ⟨rfl, kept⟩ := awaits
  refine ⟨rfl, ?_⟩
  simp only [Resting, took_readState, took_readBuffer, took_readed, took_readCodec,
    took_readPlace] at resting ⊢
  cases state : this.readState with
  | header =>
      simp only [state] at kept resting ⊢
      obtain ⟨_, frames, bytes, ends, paid⟩ := kept
      refine ⟨Nat.le_of_lt resting, frames, ?_, ends, paid⟩
      rw [List.append_assoc, bytes]
  | padding size dataSize =>
      simp only [state] at kept resting ⊢
      obtain ⟨_, padding, data, frames, paddingSize, dataLength, bytes, ends, paid⟩ := kept
      refine ⟨Nat.le_of_lt resting, padding, data, frames, paddingSize, dataLength, ?_, ends, paid⟩
      rw [List.append_assoc, bytes]
  | data size =>
      simp only [state] at kept resting ⊢
      obtain ⟨_, data, frames, dataLength, bytes, ends, paid⟩ := kept
      refine ⟨Nat.le_of_lt resting, data, frames, dataLength, ?_, ends, paid⟩
      rw [List.append_assoc, bytes]
  | ready pos =>
      simp only [phase, state] at waiting
      exact absurd waiting (Nat.lt_irrefl 3)

/-- A part of a poll that ends before its buffer is full hands out nothing. -/
theorem AwaitsOf.interrupted {fine : Bytes → Prop} {codec : Codec} {this : EncryptedStream S R}
    {last : Place} {got tail payload : Bytes} {inner : S} {size onward : Nat}
    {answer : Poll (Except IoError Bytes)}
    (awaits : this.AwaitsOf fine codec last (got ++ tail) payload) (waiting : this.phase < 3)
    (rests : (this.readBuffer ++ got).length < size → (this.took inner got).Resting)
    (less : (this.readBuffer ++ got).length < size) (silent : delivered answer = []) :
    (this.took inner got).AwaitsOf fine codec last tail payload ∧
      (some answer = none → onward ≤ (this.took inner got).phase) ∧
      ∀ poll, some answer = some poll → delivered poll = [] ∧ (this.took inner got).Resting := by
  refine ⟨awaits.took inner waiting (rests less), by simp, ?_⟩
  intro poll same
  cases same
  exact ⟨silent, rests less⟩

/-- With no byte left to come, a resting reader owes nothing but the payload
it has buffered. -/
theorem Awaits.exhausted {codec : Codec} {this : EncryptedStream S R} {last : Place}
    {payload : Bytes} (awaits : this.Awaits codec last [] payload) (resting : this.Resting) :
    payload = [] ∨ ∃ pos, this.readState = .ready pos ∧ pos < this.readBuffer.length := by
  unfold Awaits at awaits
  obtain ⟨rfl, kept⟩ := awaits
  unfold Resting at resting
  cases state : this.readState with
  | header =>
      simp only [state, List.append_nil] at kept resting
      obtain ⟨_, frames, bytes, _, rfl⟩ := kept
      cases frames with
      | nil => exact .inl rfl
      | cons frame frames =>
          have width := this.readCodec.headerRecord_length this.readPlace frame
          have whole := congrArg List.length bytes
          simp only [Codec.encodeAll, Codec.encode, List.length_append] at whole
          have same : this.readPlace.count = this.readed := rfl
          rw [same] at width
          omega
  | padding size dataSize =>
      simp only [state, List.append_nil] at kept resting
      obtain ⟨_, padding, data, frames, paddingSize, _, bytes, _, _⟩ := kept
      have whole := congrArg List.length bytes
      rw [List.length_append] at whole
      omega
  | data size =>
      simp only [state, List.append_nil] at kept resting
      obtain ⟨_, data, frames, rfl, bytes, _, _⟩ := kept
      have whole := congrArg List.length bytes
      rw [List.length_append, Codec.record_length] at whole
      have same : this.readPlace.count = this.readed := rfl
      rw [same] at whole
      omega
  | ready pos =>
      simp only [state] at resting
      exact .inr ⟨pos, rfl, resting⟩

omit [Aead] in
private theorem headerPlain_size (codec : Codec) (frame : Frame codec.needed) (extra : Bytes) :
    beNat ((codec.headerPlain frame ++ extra).take 2) = frame.payload.length := by
  have fits : frame.payload.length < 256 ^ 2 :=
    Nat.lt_of_le_of_lt frame.payload_fits (by decide)
  rw [Codec.headerPlain, List.append_assoc, List.take_left' (beBytes_length 2 _)]
  exact beNat_beBytes_of_lt fits

omit [Aead] in
private theorem headerPlain_padding (codec : Codec) (frame : Frame codec.needed) (extra : Bytes)
    (needed : codec.needed = true) :
    beNat (((codec.headerPlain frame ++ extra).drop 2).take 2) = frame.padding.length := by
  have fits : frame.padding.length < 256 ^ 2 := frame.padding_fits
  rw [Codec.headerPlain, if_pos needed, List.append_assoc,
    List.drop_left' (beBytes_length 2 _), List.take_left' (beBytes_length 2 _)]
  exact beNat_beBytes_of_lt fits

omit [Aead] in
@[simp] theorem takeHeader_readCodec (this : EncryptedStream S R) :
    this.takeHeader.readCodec = this.readCodec := by
  unfold takeHeader readCodec
  by_cases within : this.readed ≤ this.encLimit <;> simp [within]

omit [Aead] in
/-- A buffered genuine header announces the sizes of its frame. -/
theorem takeHeader_frame (this : EncryptedStream S R) (frame : Frame this.readCodec.needed)
    {extra : Bytes} (buffered : this.readBuffer = this.readCodec.headerPlain frame ++ extra) :
    this.takeHeader.readState =
        (if this.padding.needed then .padding frame.padding.length frame.payload.length
          else .data frame.payload.length) ∧
      this.takeHeader.readPlace = this.readCodec.middle this.readPlace frame.padding.length := by
  have size := headerPlain_size this.readCodec frame extra
  rw [← buffered] at size
  by_cases needed : this.padding.needed
  · have padding := headerPlain_padding this.readCodec frame extra needed
    rw [← buffered] at padding
    refine ⟨by simp [takeHeader, needed, size, padding], ?_⟩
    unfold takeHeader readPlace
    by_cases within : this.readed ≤ this.encLimit
    · simp [needed, padding, within, Codec.middle, Codec.step, readCodec]
    · simp [within, Codec.middle, Codec.step, readCodec]
  · have none : frame.padding = [] := frame.padding_needed (by simpa [readCodec] using needed)
    refine ⟨by simp [takeHeader, needed, size], ?_⟩
    unfold takeHeader readPlace
    by_cases within : this.readed ≤ this.encLimit
    · simp [needed, none, within, Codec.middle, Codec.step, readCodec]
    · simp [within, Codec.middle, Codec.step, readCodec]

/-- A genuine header puts the reader behind it, at the place of the data
record, waiting for the announced sizes. -/
theorem takeHeader_awaits (this : EncryptedStream S R) {fine : Bytes → Prop}
    {frame : Frame this.readCodec.needed}
    {frames : List (Frame this.readCodec.needed)} {extra : Bytes} {last : Place}
    (buffered : this.readBuffer = this.readCodec.headerPlain frame ++ extra)
    (ends : this.readCodec.advance (this.readCodec.next this.readPlace frame) frames = last)
    (good : ∀ other ∈ frame :: frames, fine other.payload) :
    this.takeHeader.AwaitsOf fine this.readCodec last
      (frame.padding ++ (this.readCodec.record
        (this.readCodec.middle this.readPlace frame.padding.length) frame.payload ++
        this.readCodec.encodeAll (this.readCodec.next this.readPlace frame) frames))
      (frame.payload ++ payloads frames) ∧ 1 ≤ this.takeHeader.phase := by
  obtain ⟨state, place⟩ := takeHeader_frame this frame buffered
  have cleared : this.takeHeader.readBuffer = [] := rfl
  obtain ⟨whole, later⟩ := List.forall_mem_cons.mp good
  by_cases needed : this.padding.needed
  · rw [if_pos needed] at state
    refine ⟨⟨this.takeHeader_readCodec, ?_⟩, by simp [phase, state]⟩
    rw [state]
    refine ⟨Nat.zero_le _, frame.padding, frame.payload, frames, rfl, rfl, ?_, ?_, rfl, whole,
      later⟩
    · rw [place, cleared]
      rfl
    · rw [place]
      exact ends
  · have none : frame.padding = [] := frame.padding_needed (by simpa [readCodec] using needed)
    rw [if_neg needed] at state
    refine ⟨⟨this.takeHeader_readCodec, ?_⟩, by simp [phase, state]⟩
    rw [state]
    refine ⟨Nat.zero_le _, frame.payload, frames, rfl, ?_, ?_, rfl, whole, later⟩
    · rw [place, cleared, none]
      simp only [Codec.next, none, List.nil_append]
    · rw [place]
      exact ends

theorem openHeader_inner (this : EncryptedStream S R) :
    this.openHeader.2.inner = this.inner := by
  unfold openHeader
  split
  · split <;> rfl
  · rfl

theorem openHeader_awaits (correct : Aead.Correct) (this : EncryptedStream S R)
    {fine : Bytes → Prop} {frame : Frame this.readCodec.needed} {frames : List (Frame this.readCodec.needed)}
    {last : Place}
    (buffered : this.readBuffer =
      this.readCodec.record this.readPlace (this.readCodec.headerPlain frame))
    (ends : this.readCodec.advance (this.readCodec.next this.readPlace frame) frames = last)
    (good : ∀ other ∈ frame :: frames, fine other.payload) :
    ∃ after, this.openHeader = (none, after) ∧ after.inner = this.inner ∧
      after.AwaitsOf fine this.readCodec last
        (frame.padding ++ (this.readCodec.record
          (this.readCodec.middle this.readPlace frame.padding.length) frame.payload ++
          this.readCodec.encodeAll (this.readCodec.next this.readPlace frame) frames))
        (frame.payload ++ payloads frames) ∧ 1 ≤ after.phase := by
  unfold openHeader
  by_cases within : this.readed ≤ this.encLimit
  · have sealed : this.readBuffer = Aead.sealRecord this.readCipher.kind this.readCipher.key
        this.readCipher.nonce (this.readCodec.headerPlain frame) := by
      rw [buffered, Codec.record, if_pos (show this.readPlace.count ≤ this.readCodec.encLimit
        from within)]
      rfl
    have opened := Cipher.decrypt_sealRecord correct this.readCipher
      (this.readCodec.headerPlain frame)
    rw [← sealed] at opened
    rw [if_pos within, opened]
    exact ⟨_, rfl, rfl, takeHeader_awaits
      { this with
        readBuffer := this.readCodec.headerPlain frame ++
          Aead.sealTag this.readCipher.kind this.readCipher.key this.readCipher.nonce
            (this.readCodec.headerPlain frame) } rfl ends good⟩
  · have plain : this.readBuffer = this.readCodec.headerPlain frame ++ [] := by
      rw [buffered, Codec.record, if_neg (show ¬ this.readPlace.count ≤ this.readCodec.encLimit
        from within), List.append_nil]
    rw [if_neg within]
    exact ⟨_, rfl, rfl, takeHeader_awaits this plain ends good⟩

/-- The header part of a poll. -/
theorem readHeader_spec [AsyncRead S] (correct : Aead.Correct) {this after : EncryptedStream S R}
    {result : Option (Poll (Except IoError Bytes))} (run : this.readHeader = (result, after)) :
    ∃ got, Reads this.inner got after.inner ∧
      ∀ {fine codec last tail payload}, this.AwaitsOf fine codec last (got ++ tail) payload →
        after.AwaitsOf fine codec last tail payload ∧
        (result = none → 1 ≤ after.phase) ∧
        (∀ poll, result = some poll → delivered poll = [] ∧ after.Resting) := by
  unfold readHeader at run
  cases state : this.readState with
  | padding _ _ | data _ | ready _ =>
      simp only [state, Prod.mk.injEq] at run
      obtain ⟨rfl, rfl⟩ := run
      refine ⟨[], .done, fun awaits => ⟨awaits, fun _ => ?_, fun poll same => ?_⟩⟩
      · simp [phase, state]
      · cases same
  | header =>
      simp only [state] at run
      have sizes : this.headerSize this.readed this.readCipher.tagSize =
          this.readCodec.headerLength this.readed := rfl
      rw [sizes] at run
      have positive : 0 < this.readCodec.headerLength this.readed := by
        unfold Codec.headerLength
        omega
      have begun : this.phase < 3 := by simp [phase, state]
      cases fill : this.pollReadExact (this.readCodec.headerLength this.readed) with
      | mk answer next =>
          obtain ⟨got, inner, reads, rfl, bound, full, short⟩ := pollReadExact_spec fill
          rw [fill] at run
          have rests : (this.readBuffer ++ got).length < this.readCodec.headerLength this.readed →
              (this.took inner got).Resting := by
            intro less
            simp only [Resting, took_readState, state]
            exact less
          cases answer using Poll.threeWays with
          | pending | error _ =>
              simp only [Prod.mk.injEq] at run
              obtain ⟨rfl, rfl⟩ := run
              exact ⟨got, reads, fun awaits =>
                awaits.interrupted begun rests (short (by simp)) rfl⟩
          | ok _ =>
              dsimp only at run
              by_cases less : (this.took inner got).readBuffer.length <
                  this.readCodec.headerLength this.readed
              · rw [if_pos less] at run
                simp only [Prod.mk.injEq] at run
                obtain ⟨rfl, rfl⟩ := run
                exact ⟨got, reads, fun awaits =>
                  awaits.interrupted begun rests less rfl⟩
              · rw [if_neg less] at run
                have stays : after.inner = inner := by
                  have moved := openHeader_inner (this.took inner got)
                  rw [run] at moved
                  exact moved
                refine ⟨got, by rw [stays]; exact reads,
                  fun {fine codec last tail payload} awaits => ?_⟩
                obtain ⟨rfl, kept⟩ := awaits
                simp only [state] at kept
                obtain ⟨below, frames, bytes, ends, rfl, good⟩ := kept
                have exactly : (this.readBuffer ++ got).length =
                    this.readCodec.headerLength this.readed :=
                  Nat.le_antisymm (bound below) (Nat.le_of_not_lt less)
                rw [← List.append_assoc] at bytes
                cases frames with
                | nil =>
                    have nothing := congrArg List.length bytes
                    simp only [Codec.encodeAll, List.length_append, List.length_nil] at nothing
                    rw [List.length_append] at exactly
                    omega
                | cons frame frames =>
                    have header := this.readCodec.headerRecord_length this.readPlace frame
                    rw [Codec.encodeAll_cons] at bytes
                    obtain ⟨buffered, rest⟩ :=
                      List.append_inj bytes (exactly.trans header.symm)
                    obtain ⟨next, opened, _, awaits, begun⟩ := openHeader_awaits correct
                      (this.took inner got) buffered ends good
                    rw [opened] at run
                    simp only [Prod.mk.injEq] at run
                    obtain ⟨rfl, rfl⟩ := run
                    rw [rest]
                    exact ⟨awaits, fun _ => begun, by simp⟩

omit [Aead] in
/-- The padding part of a poll.  The padding itself is dropped unseen. -/
theorem readPadding_spec [AsyncRead S] [Aead] {this after : EncryptedStream S R}
    {result : Option (Poll (Except IoError Bytes))}
    (run : this.readPadding = (result, after)) :
    ∃ got, Reads this.inner got after.inner ∧
      ∀ {fine codec last tail payload}, 1 ≤ this.phase →
        this.AwaitsOf fine codec last (got ++ tail) payload →
        after.AwaitsOf fine codec last tail payload ∧
        (result = none → 2 ≤ after.phase) ∧
        (∀ poll, result = some poll → delivered poll = [] ∧ after.Resting) := by
  unfold readPadding at run
  cases state : this.readState with
  | header | data _ | ready _ =>
      simp only [state, Prod.mk.injEq] at run
      obtain ⟨rfl, rfl⟩ := run
      refine ⟨[], .done, fun begun awaits => ⟨awaits, fun _ => ?_, fun poll same => ?_⟩⟩
      · simp_all [phase]
      · cases same
  | padding size dataSize =>
      simp only [state] at run
      have waiting : this.phase < 3 := by simp [phase, state]
      cases fill : this.pollReadExact size with
      | mk answer next =>
          obtain ⟨got, inner, reads, rfl, bound, _, short⟩ := pollReadExact_spec fill
          rw [fill] at run
          have rests : (this.readBuffer ++ got).length < size →
              (this.took inner got).Resting := by
            intro less
            simp only [Resting, took_readState, state]
            exact less
          cases answer using Poll.threeWays with
          | pending | error _ =>
              simp only [Prod.mk.injEq] at run
              obtain ⟨rfl, rfl⟩ := run
              exact ⟨got, reads, fun _ awaits =>
                awaits.interrupted waiting rests (short (by simp)) rfl⟩
          | ok _ =>
              dsimp only at run
              by_cases less : (this.took inner got).readBuffer.length < size
              · rw [if_pos less] at run
                simp only [Prod.mk.injEq] at run
                obtain ⟨rfl, rfl⟩ := run
                exact ⟨got, reads, fun _ awaits =>
                  awaits.interrupted waiting rests less rfl⟩
              · rw [if_neg less] at run
                simp only [Prod.mk.injEq] at run
                obtain ⟨rfl, rfl⟩ := run
                refine ⟨got, reads, fun {fine codec last tail payload} _ awaits => ?_⟩
                obtain ⟨rfl, kept⟩ := awaits
                simp only [state] at kept
                obtain ⟨below, padding, data, frames, paddingSize, dataLength, bytes, ends, paid⟩ :=
                  kept
                have exactly : (this.readBuffer ++ got).length = padding.length :=
                  (Nat.le_antisymm (bound below) (Nat.le_of_not_lt less)).trans paddingSize.symm
                rw [← List.append_assoc] at bytes
                obtain ⟨_, rest⟩ := List.append_inj bytes exactly
                refine ⟨⟨rfl, Nat.zero_le _, data, frames, dataLength, ?_, ends, paid⟩,
                  fun _ => Nat.le_refl 2, by simp⟩
                rw [rest]
                rfl

theorem openData_awaits (correct : Aead.Correct) (this : EncryptedStream S R) {size : Nat}
    {fine : Bytes → Prop} {data : Bytes} {frames : List (Frame this.readCodec.needed)} {last : Place}
    (sized : data.length = size)
    (buffered : this.readBuffer = this.readCodec.record this.readPlace data)
    (ends : this.readCodec.advance (this.readCodec.finish this.readPlace size) frames = last)
    (whole : fine data) (good : ∀ frame ∈ frames, fine frame.payload) :
    ∃ after, this.openData size = (none, after) ∧ after.inner = this.inner ∧
      after.AwaitsOf fine this.readCodec last
        (this.readCodec.encodeAll (this.readCodec.finish this.readPlace size) frames)
        (data ++ payloads frames) ∧ after.phase = 3 := by
  have left : fine [] ∨ 0 < data.length := by
    cases data with
    | nil => exact .inl whole
    | cons byte data => exact .inr (Nat.succ_pos _)
  unfold openData
  by_cases within : this.readed ≤ this.encLimit
  · have sealed : this.readBuffer = Aead.sealRecord this.readCipher.kind this.readCipher.key
        this.readCipher.nonce data := by
      rw [buffered, Codec.record, if_pos (show this.readPlace.count ≤ this.readCodec.encLimit
        from within)]
      rfl
    have opened := Cipher.decrypt_sealRecord correct this.readCipher data
    rw [← sealed] at opened
    have moved : this.readCodec.finish this.readPlace size =
        { nonce := this.readCipher.nonce.inc 1, count := this.readed + size } := by
      simp [Codec.finish, Codec.step, readCodec, readPlace, within]
    rw [if_pos within, opened]
    rw [moved] at ends ⊢
    subst sized
    refine ⟨_, rfl, rfl, ⟨rfl, frames, rfl, ends, ?_, ?_, good⟩, rfl⟩
    · change _ = ((data ++ _).take data.length).drop 0 ++ _
      rw [List.drop_zero, List.take_left]
    · change _ ∨ 0 < ((data ++ _).take data.length).length
      rw [List.take_left]
      exact left
  · have plain : this.readBuffer = data := by
      rw [buffered, Codec.record, if_neg (show ¬ this.readPlace.count ≤ this.readCodec.encLimit
        from within)]
    have moved : this.readCodec.finish this.readPlace size =
        { nonce := this.readCipher.nonce, count := this.readed + size } := by
      simp [Codec.finish, Codec.step, readCodec, readPlace, within]
    rw [if_neg within]
    rw [moved] at ends ⊢
    refine ⟨_, rfl, rfl, ⟨rfl, frames, rfl, ends, ?_, ?_, good⟩, rfl⟩
    · rw [← plain]
      rfl
    · rw [← plain] at left
      exact left

theorem openData_inner (this : EncryptedStream S R) (size : Nat) :
    (this.openData size).2.inner = this.inner := by
  unfold openData
  split
  · split <;> rfl
  · rfl

/-- An empty data record of a sealed frame is not told from the end of the
stream before it is opened; that fails and changes nothing. -/
private theorem readData_eof {this after : EncryptedStream S R} {size : Nat}
    {result : Option (Poll (Except IoError Bytes))}
    (less : this.readBuffer.length < this.readCodec.dataLength this.readed size)
    (nothing : this.readBuffer = [])
    (run : (if this.readBuffer.length < size then (some (.ready (.ok [])), this)
      else this.openData size) = (result, after)) :
    ∃ poll, (result = some poll ∧ after = this) ∧ delivered poll = [] := by
  by_cases short : this.readBuffer.length < size
  · rw [if_pos short] at run
    simp only [Prod.mk.injEq] at run
    obtain ⟨rfl, rfl⟩ := run
    exact ⟨_, ⟨rfl, rfl⟩, rfl⟩
  · rw [if_neg short] at run
    have within : this.readed ≤ this.encLimit := by
      by_contra beyond
      rw [Codec.dataLength, if_neg (show ¬ this.readed ≤ this.readCodec.encLimit from beyond)]
        at less
      exact short less
    have failed : Aead.openRecord this.readCipher.kind this.readCipher.key this.readCipher.nonce
        this.readBuffer = none := by
      rw [nothing]
      rfl
    have kept : Aead.clobber this.readCipher.kind this.readCipher.key this.readCipher.nonce
        this.readBuffer = this.readBuffer := by
      have width := Aead.clobber_length this.readCipher.kind this.readCipher.key
        this.readCipher.nonce this.readBuffer
      rw [nothing] at width ⊢
      exact List.eq_nil_of_length_eq_zero width
    rw [openData, if_pos within, Cipher.decrypt_none failed, kept] at run
    simp only [Prod.mk.injEq] at run
    obtain ⟨rfl, rfl⟩ := run
    exact ⟨_, ⟨rfl, rfl⟩, rfl⟩

/-- The data part of a poll. -/
theorem readData_spec [AsyncRead S] (correct : Aead.Correct) {this after : EncryptedStream S R}
    {result : Option (Poll (Except IoError Bytes))} (run : this.readData = (result, after)) :
    ∃ got, Reads this.inner got after.inner ∧
      ∀ {fine codec last tail payload}, 2 ≤ this.phase →
        this.AwaitsOf fine codec last (got ++ tail) payload →
        after.AwaitsOf fine codec last tail payload ∧
        (result = none → 3 ≤ after.phase) ∧
        (∀ poll, result = some poll → delivered poll = [] ∧ after.Resting) := by
  unfold readData at run
  cases state : this.readState with
  | header | padding _ _ | ready _ =>
      simp only [state, Prod.mk.injEq] at run
      obtain ⟨rfl, rfl⟩ := run
      refine ⟨[], .done, fun begun awaits => ⟨awaits, fun _ => ?_, fun poll same => ?_⟩⟩
      · simp_all [phase]
      · cases same
  | data size =>
      simp only [state] at run
      have waiting : this.phase < 3 := by simp [phase, state]
      have sizes : (if this.readed ≤ this.encLimit then size + this.readCipher.tagSize else size) =
          this.readCodec.dataLength this.readed size := rfl
      rw [sizes] at run
      cases fill : this.pollReadExact (this.readCodec.dataLength this.readed size) with
      | mk answer next =>
          obtain ⟨got, inner, reads, rfl, bound, full, short⟩ := pollReadExact_spec fill
          rw [fill] at run
          have rests : (this.readBuffer ++ got).length < this.readCodec.dataLength this.readed size →
              (this.took inner got).Resting := by
            intro less
            simp only [Resting, took_readState, state]
            exact less
          cases answer using Poll.threeWays with
          | pending | error _ =>
              simp only [Prod.mk.injEq] at run
              obtain ⟨rfl, rfl⟩ := run
              exact ⟨got, reads, fun _ awaits =>
                awaits.interrupted waiting rests (short (by simp)) rfl⟩
          | ok _ =>
              dsimp only at run
              by_cases less : (this.took inner got).readBuffer.length <
                  this.readCodec.dataLength this.readed size
              · -- The end of the stream, with nothing buffered.
                have nothing : this.readBuffer ++ got = [] := by
                  rcases full rfl with enough | nothing
                  · exact absurd less (Nat.not_lt_of_le enough)
                  · exact nothing
                obtain ⟨poll, same, none⟩ := readData_eof less nothing run
                obtain ⟨rfl, rfl⟩ := same
                exact ⟨got, reads, fun _ awaits =>
                  awaits.interrupted waiting rests less none⟩
              · have whole := Nat.le_of_not_lt less
                have enough : size ≤ this.readCodec.dataLength this.readed size := by
                  unfold Codec.dataLength
                  split <;> omega
                rw [if_neg (Nat.not_lt_of_le (Nat.le_trans enough whole))] at run
                have stays : after.inner = inner := by
                  have moved := openData_inner (this.took inner got) size
                  rw [run] at moved
                  exact moved
                refine ⟨got, by rw [stays]; exact reads,
                  fun {fine codec last tail payload} _ awaits => ?_⟩
                obtain ⟨rfl, kept⟩ := awaits
                simp only [state] at kept
                obtain ⟨below, data, frames, rfl, bytes, ends, rfl, filled, good⟩ := kept
                have exactly : (this.readBuffer ++ got).length =
                    (this.readCodec.record this.readPlace data).length := by
                  rw [Codec.record_length]
                  exact Nat.le_antisymm (bound below) whole
                rw [← List.append_assoc] at bytes
                obtain ⟨buffered, rest⟩ := List.append_inj bytes exactly
                obtain ⟨next, opened, _, awaits, done⟩ := openData_awaits correct
                  (this.took inner got) rfl buffered ends filled good
                rw [opened] at run
                simp only [Prod.mk.injEq] at run
                obtain ⟨rfl, rfl⟩ := run
                rw [rest]
                exact ⟨awaits, fun _ => Nat.le_of_eq done.symm, by simp⟩

omit [Aead] in
/-- A part of a poll that returns success has found the end of the inner
stream, and hands out nothing. -/
theorem pollReadExact_atEnd [AsyncRead S] {this after : EncryptedStream S R} {size : Nat}
    (run : this.pollReadExact size = (.ready (.ok ()), after))
    (short : after.readBuffer.length < size) : AtEnd after.inner := by
  unfold pollReadExact at run
  cases loop : readLoop size (size - this.readBuffer.length) this.inner this.readBuffer with
  | mk answer rest =>
      obtain ⟨inner, buffer⟩ := rest
      rw [loop] at run
      simp only [Prod.mk.injEq] at run
      obtain ⟨rfl, rfl⟩ := run
      exact readLoop_atEnd (by omega) loop short

theorem readHeader_atEnd [AsyncRead S] {this after : EncryptedStream S R} {bytes : Bytes}
    (run : this.readHeader = (some (.ready (.ok bytes)), after)) :
    bytes = [] ∧ AtEnd after.inner := by
  unfold readHeader at run
  cases state : this.readState with
  | padding _ _ | data _ | ready _ => simp [state] at run
  | header =>
      simp only [state] at run
      cases fill : this.pollReadExact (this.headerSize this.readed this.readCipher.tagSize) with
      | mk answer next =>
          rw [fill] at run
          cases answer using Poll.threeWays with
          | pending | error _ => simp at run
          | ok _ =>
              dsimp only at run
              by_cases less : next.readBuffer.length <
                  this.headerSize this.readed this.readCipher.tagSize
              · rw [if_pos less] at run
                simp only [Prod.mk.injEq, Option.some.injEq, Poll.ready.injEq, Except.ok.injEq]
                  at run
                obtain ⟨rfl, rfl⟩ := run
                exact ⟨rfl, pollReadExact_atEnd fill less⟩
              · rw [if_neg less, openHeader] at run
                split at run
                · split at run <;> simp at run
                · simp at run

omit [Aead] in
theorem readPadding_atEnd [AsyncRead S] {this after : EncryptedStream S R} {bytes : Bytes}
    (run : this.readPadding = (some (.ready (.ok bytes)), after)) :
    bytes = [] ∧ AtEnd after.inner := by
  unfold readPadding at run
  cases state : this.readState with
  | header | data _ | ready _ => simp [state] at run
  | padding size dataSize =>
      simp only [state] at run
      cases fill : this.pollReadExact size with
      | mk answer next =>
          rw [fill] at run
          cases answer using Poll.threeWays with
          | pending | error _ => simp at run
          | ok _ =>
              dsimp only at run
              by_cases less : next.readBuffer.length < size
              · rw [if_pos less] at run
                simp only [Prod.mk.injEq, Option.some.injEq, Poll.ready.injEq, Except.ok.injEq]
                  at run
                obtain ⟨rfl, rfl⟩ := run
                exact ⟨rfl, pollReadExact_atEnd fill less⟩
              · rw [if_neg less] at run
                simp at run

theorem readData_atEnd [AsyncRead S] {this after : EncryptedStream S R} {bytes : Bytes}
    (run : this.readData = (some (.ready (.ok bytes)), after)) :
    bytes = [] ∧ AtEnd after.inner := by
  unfold readData at run
  cases state : this.readState with
  | header | padding _ _ | ready _ => simp [state] at run
  | data size =>
      simp only [state] at run
      generalize sizes : (if this.readed ≤ this.encLimit then size + this.readCipher.tagSize
        else size) = wanted at run
      cases fill : this.pollReadExact wanted with
      | mk answer next =>
          rw [fill] at run
          cases answer using Poll.threeWays with
          | pending | error _ => simp at run
          | ok _ =>
              dsimp only at run
              by_cases less : next.readBuffer.length < size
              · rw [if_pos less] at run
                simp only [Prod.mk.injEq, Option.some.injEq, Poll.ready.injEq, Except.ok.injEq]
                  at run
                obtain ⟨rfl, rfl⟩ := run
                have below : next.readBuffer.length < wanted := by
                  rw [← sizes]
                  split <;> omega
                exact ⟨rfl, pollReadExact_atEnd fill below⟩
              · rw [if_neg less, openData] at run
                split at run
                · split at run <;> simp at run
                · simp at run

/-- Handing out what is buffered. -/
theorem returnBuffered_spec {this after : EncryptedStream S R} {remaining : Nat} {bytes : Bytes}
    (run : this.returnBuffered remaining = (bytes, after)) :
    after.inner = this.inner ∧
      ∀ {fine codec last tail payload}, 3 ≤ this.phase →
        this.AwaitsOf fine codec last tail payload →
        ∃ rest, payload = bytes ++ rest ∧ after.AwaitsOf fine codec last tail rest ∧
          after.Resting ∧ (bytes = [] → 0 < remaining → fine []) := by
  unfold returnBuffered at run
  cases state : this.readState with
  | header | padding _ _ | data _ =>
      simp only [state, Prod.mk.injEq] at run
      obtain ⟨rfl, rfl⟩ := run
      refine ⟨rfl, fun begun _ => ?_⟩
      simp only [phase, state] at begun
      omega
  | ready pos =>
      simp only [state] at run
      have split : (this.readBuffer.drop pos).take remaining ++
          this.readBuffer.drop (pos + ((this.readBuffer.drop pos).take remaining).length) =
          this.readBuffer.drop pos := by
        rw [← List.drop_drop]
        exact List.prefix_iff_eq_append.mp (List.take_prefix _ _)
      -- With room and a byte left, a byte is handed out.
      have some : ∀ {fine : Bytes → Prop}, fine [] ∨ pos < this.readBuffer.length →
          (this.readBuffer.drop pos).take remaining = [] → 0 < remaining → fine [] := by
        intro fine left nothing room
        refine left.resolve_right fun more => ?_
        have width := congrArg List.length nothing
        rw [List.length_take, List.length_drop, List.length_nil] at width
        omega
      by_cases drained : this.readBuffer.length ≤
          pos + ((this.readBuffer.drop pos).take remaining).length
      · rw [if_pos drained] at run
        simp only [Prod.mk.injEq] at run
        obtain ⟨rfl, rfl⟩ := run
        refine ⟨rfl, fun {fine codec last tail payload} _ awaits => ?_⟩
        obtain ⟨rfl, kept⟩ := awaits
        simp only [state] at kept
        obtain ⟨frames, bytes, ends, rfl, left, good⟩ := kept
        rw [List.drop_of_length_le drained, List.append_nil] at split
        refine ⟨payloads frames, by rw [split],
          ⟨rfl, Nat.zero_le _, frames, bytes, ends, rfl, good⟩, ?_, some left⟩
        simp only [Resting, List.length_nil, Codec.headerLength]
        omega
      · rw [if_neg drained] at run
        simp only [Prod.mk.injEq] at run
        obtain ⟨rfl, rfl⟩ := run
        refine ⟨rfl, fun {fine codec last tail payload} _ awaits => ?_⟩
        obtain ⟨rfl, kept⟩ := awaits
        simp only [state] at kept
        obtain ⟨frames, bytes, ends, rfl, left, good⟩ := kept
        have more := Nat.lt_of_not_le drained
        refine ⟨_, ?_, ⟨rfl, frames, bytes, ends, rfl, .inr more, good⟩, more, some left⟩
        rw [← List.append_assoc, split]

/-- One poll takes bytes from the inner stream and delivers payload, and the
reader awaits the rest of both.  It succeeds with nothing only at the end of
the inner stream, or behind an empty payload. -/
theorem pollRead_spec [AsyncRead S] (correct : Aead.Correct) {this after : EncryptedStream S R}
    {remaining : Nat} {result : Poll (Except IoError Bytes)}
    (run : this.pollRead remaining = (result, after)) :
    ∃ got, Reads this.inner got after.inner ∧
      ∀ {fine codec last tail payload}, this.AwaitsOf fine codec last (got ++ tail) payload →
        ∃ rest, payload = delivered result ++ rest ∧ after.AwaitsOf fine codec last tail rest ∧
          after.Resting ∧
          (result = .ready (.ok []) → 0 < remaining → AtEnd after.inner ∨ fine []) := by
  unfold pollRead at run
  cases header : this.readHeader with
  | mk first behindHeader =>
      obtain ⟨got₁, reads₁, spec₁⟩ := readHeader_spec correct header
      rw [header] at run
      cases first with
      | some poll =>
          simp only [Prod.mk.injEq] at run
          obtain ⟨rfl, rfl⟩ := run
          refine ⟨got₁, reads₁, fun {fine codec last tail payload} awaits => ?_⟩
          obtain ⟨awaits', _, stopped⟩ := spec₁ awaits
          obtain ⟨nothing, resting⟩ := stopped _ rfl
          refine ⟨payload, by rw [nothing, List.nil_append], awaits', resting, ?_⟩
          intro ok _
          rw [ok] at header
          exact .inl (readHeader_atEnd header).2
      | none =>
          dsimp only at run
          cases padding : behindHeader.readPadding with
          | mk second behindPadding =>
              obtain ⟨got₂, reads₂, spec₂⟩ := readPadding_spec padding
              rw [padding] at run
              cases second with
              | some poll =>
                  simp only [Prod.mk.injEq] at run
                  obtain ⟨rfl, rfl⟩ := run
                  refine ⟨got₁ ++ got₂, reads₁.trans reads₂,
                    fun {fine codec last tail payload} awaits => ?_⟩
                  rw [List.append_assoc] at awaits
                  obtain ⟨awaits₁, begun, _⟩ := spec₁ awaits
                  obtain ⟨awaits₂, _, stopped⟩ := spec₂ (begun rfl) awaits₁
                  obtain ⟨nothing, resting⟩ := stopped _ rfl
                  refine ⟨payload, by rw [nothing, List.nil_append], awaits₂, resting, ?_⟩
                  intro ok _
                  rw [ok] at padding
                  exact .inl (readPadding_atEnd padding).2
              | none =>
                  dsimp only at run
                  cases data : behindPadding.readData with
                  | mk third behindData =>
                      obtain ⟨got₃, reads₃, spec₃⟩ := readData_spec correct data
                      have reads := reads₁.trans (reads₂.trans reads₃)
                      rw [data] at run
                      -- The three parts hand the reader on to each other.
                      have chained : ∀ {fine codec last tail payload},
                          this.AwaitsOf fine codec last ((got₁ ++ (got₂ ++ got₃)) ++ tail)
                            payload →
                          behindData.AwaitsOf fine codec last tail payload ∧
                          (third = none → 3 ≤ behindData.phase) ∧
                          (∀ poll, third = some poll →
                            delivered poll = [] ∧ behindData.Resting) := by
                        intro fine codec last tail payload awaits
                        rw [List.append_assoc, List.append_assoc] at awaits
                        obtain ⟨awaits₁, begun, _⟩ := spec₁ awaits
                        obtain ⟨awaits₂, passed, _⟩ := spec₂ (begun rfl) awaits₁
                        exact spec₃ (passed rfl) awaits₂
                      cases third with
                      | some poll =>
                          simp only [Prod.mk.injEq] at run
                          obtain ⟨rfl, rfl⟩ := run
                          refine ⟨_, reads, fun {fine codec last tail payload} awaits => ?_⟩
                          obtain ⟨awaits₃, _, stopped⟩ := chained awaits
                          obtain ⟨nothing, resting⟩ := stopped _ rfl
                          refine ⟨payload, by rw [nothing, List.nil_append], awaits₃, resting, ?_⟩
                          intro ok _
                          rw [ok] at data
                          exact .inl (readData_atEnd data).2
                      | none =>
                          dsimp only at run
                          cases handed : behindData.returnBuffered remaining with
                          | mk bytes last =>
                              obtain ⟨stays, spec₄⟩ := returnBuffered_spec handed
                              rw [handed] at run
                              simp only [Prod.mk.injEq] at run
                              obtain ⟨rfl, rfl⟩ := run
                              refine ⟨_, by rw [stays]; exact reads, fun awaits => ?_⟩
                              obtain ⟨awaits₃, done, _⟩ := chained awaits
                              obtain ⟨rest, paid, awaits₄, resting, silent⟩ :=
                                spec₄ (done rfl) awaits₃
                              refine ⟨rest, paid, awaits₄, resting, fun ok room => ?_⟩
                              cases ok
                              exact .inr (silent rfl room)

omit [Aead] in
private theorem returnBuffered_ready {this : EncryptedStream S R} {pos remaining : Nat}
    (state : this.readState = .ready pos) :
    (this.returnBuffered remaining).1 = (this.readBuffer.drop pos).take remaining := by
  simp only [returnBuffered, state]
  split <;> rfl

/-- Buffered payload is handed out without asking the inner stream. -/
theorem pollRead_ready [AsyncRead S] {this : EncryptedStream S R} {pos : Nat}
    (state : this.readState = .ready pos) (remaining : Nat) :
    (this.pollRead remaining).1 = .ready (.ok ((this.readBuffer.drop pos).take remaining)) := by
  have header : this.readHeader = (none, this) := by simp only [readHeader, state]
  have padding : this.readPadding = (none, this) := by simp only [readPadding, state]
  have data : this.readData = (none, this) := by simp only [readData, state]
  simp only [pollRead, header, padding, data, returnBuffered_ready state]

theorem pollRead_fits [AsyncRead S] {this after : EncryptedStream S R} {room : Nat} {bytes : Bytes}
    (run : this.pollRead room = (.ready (.ok bytes), after)) : bytes.length ≤ room := by
  have silent : bytes = [] → bytes.length ≤ room := by
    intro nothing
    rw [nothing]
    exact Nat.zero_le _
  unfold pollRead at run
  cases header : this.readHeader with
  | mk first behindHeader =>
      rw [header] at run
      cases first with
      | some poll =>
          simp only [Prod.mk.injEq] at run
          rw [run.1] at header
          exact silent (readHeader_atEnd header).1
      | none =>
          dsimp only at run
          cases padding : behindHeader.readPadding with
          | mk second behindPadding =>
              rw [padding] at run
              cases second with
              | some poll =>
                  simp only [Prod.mk.injEq] at run
                  rw [run.1] at padding
                  exact silent (readPadding_atEnd padding).1
              | none =>
                  dsimp only at run
                  cases data : behindPadding.readData with
                  | mk third behindData =>
                      rw [data] at run
                      cases third with
                      | some poll =>
                          simp only [Prod.mk.injEq] at run
                          rw [run.1] at data
                          exact silent (readData_atEnd data).1
                      | none =>
                          simp only [Prod.mk.injEq, Poll.ready.injEq, Except.ok.injEq] at run
                          obtain ⟨rfl, _⟩ := run
                          cases state : behindData.readState with
                          | header | padding _ _ | data _ => simp [returnBuffered, state]
                          | ready pos =>
                              rw [returnBuffered_ready state]
                              exact List.length_take_le _ _

instance [AsyncRead S] : AsyncRead (EncryptedStream S R) where
  pollRead := pollRead
  pollRead_fits _ _ _ _ := pollRead_fits

/-- Poll with the given room each time, until the first error or until a frame
would start beyond the encryption limit. -/
def readSealed [AsyncRead S] (this : EncryptedStream S R) :
    (rooms : List Nat) → Bytes × EncryptedStream S R
  | [] => ([], this)
  | room :: rooms =>
      if this.readState = .header ∧ this.encLimit < this.readed then ([], this)
      else
        match this.pollRead room with
        | (.ready (.error _), after) => ([], after)
        | (result, after) =>
            let (bytes, last) := after.readSealed rooms
            (delivered result ++ bytes, last)

end Calls

end CovertConnect.Crypto.EncryptedStream
