import CovertConnect.Data.AsyncIo

namespace CovertConnect.Client

open CovertConnect.Data

/-! # The probe stream

A request that is read like a stream; the first write to the stream is the answer,
whose time is measured. -/

inductive TtfbState where
  | read (pos : Nat)
  | waitResponse
  | done
deriving DecidableEq, Repr

/-- `W` are the wakers of tasks; `will_wake` is equality. -/
structure TtfbStream (W : Type) where
  start : Int
  state : TtfbState
  ttfb : UInt64
  waker : Option W
deriving DecidableEq, Repr

namespace TtfbStream

variable {W : Type}

/-- `REQ`. -/
def req : Bytes := utf8Bytes "GET / HTTP/1.1\r\n\r\n"

def new (now : Int) (ttfb : UInt64) : TtfbStream W where
  start := now
  state := .read 0
  ttfb := ttfb
  waker := none

/-- `ReadBuf::put_slice`. -/
def putSlice (remaining : Nat) (bytes : Bytes) : Outcome Empty Bytes :=
  if bytes.length ≤ remaining then .ok bytes else .panic "buf.len() must fit in remaining()"

/-- The slice ends at `consumed`, whatever its start is. -/
def pollRead [DecidableEq W] (this : TtfbStream W) (cx : W) (remaining : Nat) :
    Outcome Empty (Poll (Except IoError Bytes) × TtfbStream W) :=
  match this.state with
  | .read pos => do
      let left ← Outcome.checkedSub req.length pos
      let consumed := min left remaining
      let bytes ← Outcome.slice req pos consumed
      let bytes ← putSlice remaining bytes
      let state := if pos + consumed < req.length then .read (pos + consumed) else .waitResponse
      return (.ready (.ok bytes), { this with state })
  | .waitResponse =>
      let waker := match this.waker with
        | some waker => if waker = cx then waker else cx
        | none => cx
      .ok (.pending, { this with waker := some waker })
  | .done => .ok (.ready (.ok []), this)

/-- The count that is returned, the stream and the waker that is woken. -/
def pollWrite (this : TtfbStream W) (now : Int) (buf : Bytes) : Nat × TtfbStream W × Option W :=
  if this.state = .waitResponse then
    (buf.length, { this with ttfb := UInt64.ofNat (now - this.start).toNat, state := .done },
      this.waker)
  else (buf.length, this, none)

variable [DecidableEq W]

/-- The bytes that a read returns. -/
def returned : Poll (Except IoError Bytes) → Bytes
  | .ready (.ok bytes) => bytes
  | .ready (.error _) | .pending => []

/-- What the first reads return, and the stream that they leave. -/
def reads (this : TtfbStream W) (cx : Nat → W) (sizes : Nat → Nat) :
    (calls : Nat) → Outcome Empty (Bytes × TtfbStream W)
  | 0 => .ok ([], this)
  | calls + 1 => do
      let (got, stream) ← reads this cx sizes calls
      let (answer, stream) ← stream.pollRead (cx calls) (sizes calls)
      return (got ++ returned answer, stream)

/-- The request is read as a whole: no read panics, each one returns bytes or waits
for the response, and the bytes in front of the first wait are the request. -/
structure Delivers (this : TtfbStream W) (cx : Nat → W) (sizes : Nat → Nat) : Prop where
  runs : ∀ calls, ∃ got stream, this.reads cx sizes calls = .ok (got, stream)
  moves : ∀ calls got stream answer after, this.reads cx sizes calls = .ok (got, stream) →
    stream.pollRead (cx calls) (sizes calls) = .ok (answer, after) →
      returned answer ≠ [] ∨ answer = .pending ∧ after.waker = some (cx calls)
  whole : ∀ calls got stream, this.reads cx sizes calls = .ok (got, stream) →
    stream.state = .waitResponse → got = req
  waits : ∃ calls got stream, this.reads cx sizes calls = .ok (got, stream) ∧
    stream.state = .waitResponse

/-- The last of some reads. -/
theorem reads_succ {this stream : TtfbStream W} {cx : Nat → W} {sizes : Nat → Nat} {calls : Nat}
    {got : Bytes} (run : this.reads cx sizes (calls + 1) = .ok (got, stream)) :
    ∃ got' stream' answer, this.reads cx sizes calls = .ok (got', stream') ∧
      stream'.pollRead (cx calls) (sizes calls) = .ok (answer, stream) ∧
      got = got' ++ returned answer := by
  rw [reads] at run
  obtain ⟨⟨got', stream'⟩, before, run⟩ := Outcome.bind_eq_ok.mp run
  obtain ⟨⟨answer, after⟩, poll, run⟩ := Outcome.bind_eq_ok.mp run
  cases run
  exact ⟨got', stream', answer, before, poll, rfl⟩

/-- A read in front of the response returns less than it passes, but for the first
one. -/
theorem pollRead_request {this : TtfbStream W} {pos : Nat} (state : this.state = .read pos)
    {cx : W} {remaining : Nat} {answer : Poll (Except IoError Bytes)} {after : TtfbStream W}
    (poll : this.pollRead cx remaining = .ok (answer, after)) :
    ∃ bytes consumed, answer = .ready (.ok bytes) ∧ bytes.length = consumed - pos ∧
      consumed = min (req.length - pos) remaining ∧
      after.state = if pos + consumed < req.length then .read (pos + consumed) else .waitResponse := by
  simp only [pollRead, state] at poll
  obtain ⟨left, subtracted, poll⟩ := Outcome.bind_eq_ok.mp poll
  obtain ⟨bytes, sliced, poll⟩ := Outcome.bind_eq_ok.mp poll
  obtain ⟨bytes', put, poll⟩ := Outcome.bind_eq_ok.mp poll
  rw [Outcome.checkedSub] at subtracted
  rw [Outcome.slice] at sliced
  rw [putSlice] at put
  split at subtracted
  · cases subtracted
    split at sliced
    · split at sliced
      · cases sliced
        split at put
        · cases put
          cases poll
          refine ⟨_, _, rfl, ?_, rfl, rfl⟩
          rw [List.length_take, List.length_drop]
          omega
        · cases put
      · cases sliced
    · cases sliced
  · cases subtracted

theorem pollRead_waiting {this : TtfbStream W} (state : this.state = .waitResponse) (cx : W)
    (remaining : Nat) :
    this.pollRead cx remaining = .ok (.pending, { this with waker := some cx }) := by
  have registered : (match this.waker with
      | some waker => if waker = cx then waker else cx
      | none => cx) = cx := by
    cases this.waker with
    | none => rfl
    | some waker =>
        simp only
        split
        · assumption
        · rfl
  simp only [pollRead, state, registered]

/-- The first write wakes the last task that has waited, which then finds the end. -/
theorem response_wakes {this : TtfbStream W} (state : this.state = .waitResponse) (cx : W)
    (remaining : Nat) (now : Int) (buf : Bytes) :
    ∃ waiting, this.pollRead cx remaining = .ok (.pending, waiting) ∧
      (waiting.pollWrite now buf).2.2 = some cx ∧
      (waiting.pollWrite now buf).2.1.pollRead cx remaining =
        .ok (.ready (.ok []), (waiting.pollWrite now buf).2.1) := by
  refine ⟨_, pollRead_waiting state cx remaining, ?_⟩
  rw [pollWrite, if_pos state]
  exact ⟨rfl, rfl⟩

section Whole

variable {cx : Nat → W} {sizes : Nat → Nat} {now : Int} {ttfb : UInt64}

theorem pollRead_whole {remaining : Nat} (room : req.length ≤ remaining) (waker : W) :
    (new now ttfb : TtfbStream W).pollRead waker remaining =
      .ok (.ready (.ok req), { new now ttfb with state := .waitResponse }) := by
  have consumed : min (req.length - 0) remaining = req.length := Nat.min_eq_left room
  have left : (Outcome.checkedSub req.length 0 : Outcome Empty Nat) = .ok (req.length - 0) :=
    Outcome.checkedSub_ok (Nat.zero_le _)
  have slice : (Outcome.slice req 0 req.length : Outcome Empty Bytes) = .ok req :=
    Outcome.slice_ok (Nat.zero_le _) (Nat.le_refl _)
  have put : putSlice remaining req = .ok req := if_pos room
  simp only [pollRead, new, left, Outcome.ok_bind, consumed, slice, put, Nat.zero_add,
    Nat.lt_irrefl, if_false, Outcome.pure_eq]

theorem reads_whole (room : req.length ≤ sizes 0) (calls : Nat) :
    ∃ stream, (new now ttfb).reads cx sizes (calls + 1) = .ok (req, stream) ∧
      stream.state = .waitResponse := by
  induction calls with
  | zero =>
      refine ⟨{ new now ttfb with state := .waitResponse }, ?_, rfl⟩
      rw [reads, reads, Outcome.ok_bind]
      simp only [pollRead_whole room (cx 0), Outcome.ok_bind]
      rfl
  | succ calls ih =>
      obtain ⟨stream, before, state⟩ := ih
      refine ⟨{ stream with waker := some (cx (calls + 1)) }, ?_, state⟩
      rw [reads, before, Outcome.ok_bind]
      simp only [pollRead_waiting state, Outcome.ok_bind]
      rw [returned, List.append_nil]
      rfl

theorem delivers_whole (room : req.length ≤ sizes 0) : (new now ttfb).Delivers cx sizes := by
  have behind := @reads_whole W _ cx sizes now ttfb room
  refine {
    runs := ?runs
    moves := ?moves
    whole := ?whole
    waits := ?waits }
  case runs =>
    intro calls
    cases calls with
    | zero => exact ⟨[], new now ttfb, rfl⟩
    | succ calls =>
        obtain ⟨stream, run, -⟩ := behind calls
        exact ⟨req, stream, run⟩
  case moves =>
    intro calls got stream answer after run poll
    cases calls with
    | zero =>
        cases run
        rw [pollRead_whole room] at poll
        cases poll
        exact .inl (by decide +kernel)
    | succ calls =>
        obtain ⟨stream', run', state⟩ := behind calls
        cases run.symm.trans run'
        rw [pollRead_waiting state] at poll
        cases poll
        exact .inr ⟨rfl, rfl⟩
  case whole =>
    intro calls got stream run state
    cases calls with
    | zero =>
        cases run
        cases state
    | succ calls =>
        obtain ⟨stream', run', -⟩ := behind calls
        cases run.symm.trans run'
        rfl
  case waits =>
    obtain ⟨stream, run, state⟩ := behind 0
    exact ⟨1, req, stream, run, state⟩

end Whole

/-- Behind the first read: no more was returned than was passed, and less in the end. -/
def Short (got : Bytes) (stream : TtfbStream W) : Prop :=
  (∃ pos, stream.state = .read pos ∧ 0 < pos ∧ pos < req.length ∧ got.length ≤ pos) ∨
    stream.state = .waitResponse ∧ got.length < req.length

theorem Short.step {got : Bytes} {this after : TtfbStream W} (short : Short got this) {cx : W}
    {remaining : Nat} {answer : Poll (Except IoError Bytes)}
    (poll : this.pollRead cx remaining = .ok (answer, after)) :
    Short (got ++ returned answer) after := by
  rcases short with ⟨pos, state, positive, inside, few⟩ | ⟨state, few⟩
  · obtain ⟨bytes, consumed, rfl, length, count, next⟩ := pollRead_request state poll
    have total : (got ++ returned (.ready (.ok bytes))).length = got.length + (consumed - pos) := by
      rw [List.length_append, returned, length]
    by_cases more : pos + consumed < req.length
    · rw [if_pos more] at next
      exact .inl ⟨pos + consumed, next, by omega, more, by omega⟩
    · rw [if_neg more] at next
      exact .inr ⟨next, by omega⟩
  · rw [pollRead_waiting state] at poll
    cases poll
    rw [returned, List.append_nil]
    exact .inr ⟨state, few⟩

theorem short_reads {cx : Nat → W} {sizes : Nat → Nat} {now : Int} {ttfb : UInt64}
    (some' : 0 < sizes 0) (small : sizes 0 < req.length) (calls : Nat) {got : Bytes}
    {stream : TtfbStream W}
    (run : (new now ttfb).reads cx sizes (calls + 1) = .ok (got, stream)) : Short got stream := by
  induction calls generalizing got stream with
  | zero =>
      obtain ⟨got', stream', answer, first, poll, rfl⟩ := reads_succ run
      cases first
      obtain ⟨bytes, consumed, rfl, length, count, next⟩ := pollRead_request rfl poll
      have more : 0 + consumed < req.length := by omega
      rw [if_pos more] at next
      refine .inl ⟨0 + consumed, next, by omega, more, ?_⟩
      rw [List.nil_append, returned, length]
      omega
  | succ calls ih =>
      obtain ⟨got', stream', answer, before, poll, rfl⟩ := reads_succ run
      exact (ih before).step poll

/-- The request is delivered just when the first buffer has room for all of it. -/
theorem delivers_iff (cx : Nat → W) (sizes : Nat → Nat) (now : Int) (ttfb : UInt64) :
    (new now ttfb).Delivers cx sizes ↔ req.length ≤ sizes 0 := by
  refine ⟨fun delivers => ?_, delivers_whole⟩
  by_contra small
  have small := Nat.not_le.mp small
  rcases Nat.eq_zero_or_pos (sizes 0) with none | some'
  · obtain ⟨got, stream, run⟩ := delivers.runs 1
    obtain ⟨got', stream', answer, first, poll, rfl⟩ := reads_succ run
    cases first
    obtain ⟨bytes, consumed, rfl, length, count, -⟩ := pollRead_request rfl poll
    rcases delivers.moves 0 _ _ _ _ rfl poll with moved | ⟨pending, -⟩
    · have nothing : bytes = [] := by
        rw [← List.length_eq_zero_iff]
        omega
      exact moved nothing
    · cases pending
  · obtain ⟨calls, got, stream, run, state⟩ := delivers.waits
    have all := delivers.whole calls got stream run state
    cases calls with
    | zero =>
        cases run
        cases state
    | succ calls =>
        rcases short_reads some' small calls run with ⟨pos, other, -⟩ | ⟨-, few⟩
        · rw [state] at other
          cases other
        · rw [all] at few
          exact absurd few (Nat.lt_irrefl _)

/-- Buffers of ten bytes: the second read panics. -/
theorem second_read_panics :
    (∃ reason, (new 0 0 : TtfbStream Unit).reads (fun _ => ()) (fun _ => 10) 2 = .panic reason) ∧
      ¬ (new 0 0 : TtfbStream Unit).Delivers (fun _ => ()) (fun _ => 10) := by
  have panics : (new 0 0 : TtfbStream Unit).reads (fun _ => ()) (fun _ => 10) 2 =
      .panic "slice index starts at 10 but ends at 8" := by decide +kernel
  refine ⟨⟨_, panics⟩, fun delivers => ?_⟩
  obtain ⟨got, stream, run⟩ := delivers.runs 2
  rw [panics] at run
  cases run

end TtfbStream

end CovertConnect.Client
