import CovertConnect.Client.Config
import CovertConnect.Data.Trace

namespace CovertConnect.Client

open CovertConnect.Data

/-! # The counted stream

`MonitorStream` passes every call on to its inner stream and counts in the
state of the server what went through. -/

/-- A buffer that is filled from the front.  No slice has 2^63 bytes. -/
structure ReadBuf where
  filled : Bytes
  remaining : Nat
  fits : filled.length + remaining < 2 ^ 63

def ReadBuf.putSlice (buf : ReadBuf) (bytes : Bytes) (room : bytes.length ≤ buf.remaining) :
    ReadBuf where
  filled := buf.filled ++ bytes
  remaining := buf.remaining - bytes.length
  fits := by
    have fits := buf.fits
    rw [List.length_append]
    omega

structure MonitorStream (S : Type) where
  inner : S
  success : Bool
  state : ServerState

namespace MonitorStream

variable {S : Type}

def fromStream (inner : S) (state : ServerState) : MonitorStream S where
  inner := inner
  success := false
  state := state

def isSuccess (this : MonitorStream S) : Bool := this.success

def pollRead [AsyncRead S] (this : MonitorStream S) (buf : ReadBuf) :
    Poll (Except IoError ReadBuf) × MonitorStream S :=
  match poll : AsyncRead.pollRead this.inner buf.remaining with
  | (.pending, inner) => (.pending, { this with inner })
  | (.ready (.ok bytes), inner) =>
      let buf := buf.putSlice bytes (AsyncRead.pollRead_fits _ _ _ _ poll)
      let state :=
        if this.success then this.state
        else { this.state with succesCount := this.state.succesCount + 1 }
      (.ready (.ok buf),
        { inner
          success := true
          state := { state with rxTotal := state.rxTotal + UInt64.ofNat buf.filled.length } })
  | (.ready (.error error), inner) => (.ready (.error error), { this with inner })

def pollWrite [AsyncWrite S] (this : MonitorStream S) (buf : Bytes) :
    Poll (Except IoError Nat) × MonitorStream S :=
  match AsyncWrite.pollWrite this.inner buf with
  | (.pending, inner) => (.pending, { this with inner })
  | (.ready (.ok count), inner) =>
      (.ready (.ok count),
        { this with
          inner
          state := { this.state with txTotal := this.state.txTotal + UInt64.ofNat count } })
  | (.ready (.error error), inner) => (.ready (.error error), { this with inner })

def pollFlush [AsyncWrite S] (this : MonitorStream S) :
    Poll (Except IoError Unit) × MonitorStream S :=
  let (result, inner) := AsyncWrite.pollFlush this.inner
  (result, { this with inner })

def pollShutdown [AsyncWrite S] (this : MonitorStream S) :
    Poll (Except IoError Unit) × MonitorStream S :=
  let (result, inner) := AsyncWrite.pollShutdown this.inner
  (result, { this with inner })

/-- What one poll leaves of the stream: a read that succeeds is counted with
everything that is in the buffer then, and any other answer is passed on. -/
theorem pollRead_spec [AsyncRead S] (this : MonitorStream S) (buf : ReadBuf) :
    (∃ bytes, (AsyncRead.pollRead this.inner buf.remaining).1 = .ready (.ok bytes) ∧
      (this.pollRead buf).2 =
        { inner := (AsyncRead.pollRead this.inner buf.remaining).2
          success := true
          state :=
            { this.state with
              rxTotal := this.state.rxTotal + UInt64.ofNat (buf.filled.length + bytes.length)
              succesCount :=
                if this.success then this.state.succesCount else this.state.succesCount + 1 } }) ∨
    (∀ bytes, (AsyncRead.pollRead this.inner buf.remaining).1 ≠ .ready (.ok bytes)) ∧
      (this.pollRead buf).2 =
        { this with inner := (AsyncRead.pollRead this.inner buf.remaining).2 } := by
  unfold pollRead
  split
  · rename_i poll
    rw [poll]
    exact .inr ⟨nofun, rfl⟩
  · rename_i bytes _ poll
    have answer : (AsyncRead.pollRead this.inner buf.remaining).1 = _ := congrArg Prod.fst poll
    have inner : (AsyncRead.pollRead this.inner buf.remaining).2 = _ := congrArg Prod.snd poll
    refine .inl ⟨bytes, answer, ?_⟩
    rw [inner]
    dsimp only [ReadBuf.putSlice]
    rw [List.length_append]
    cases this.success <;> rfl
  · rename_i poll
    rw [poll]
    exact .inr ⟨nofun, rfl⟩

theorem pollWrite_spec [AsyncWrite S] (this : MonitorStream S) (buf : Bytes) :
    (∃ count, (AsyncWrite.pollWrite this.inner buf).1 = .ready (.ok count) ∧
      (this.pollWrite buf).2 =
        { this with
          inner := (AsyncWrite.pollWrite this.inner buf).2
          state := { this.state with txTotal := this.state.txTotal + UInt64.ofNat count } }) ∨
    (∀ count, (AsyncWrite.pollWrite this.inner buf).1 ≠ .ready (.ok count)) ∧
      (this.pollWrite buf).2 = { this with inner := (AsyncWrite.pollWrite this.inner buf).2 } := by
  unfold pollWrite
  cases poll : AsyncWrite.pollWrite this.inner buf with
  | mk answer inner =>
      cases answer using Poll.threeWays with
      | pending | error _ => exact .inr ⟨nofun, rfl⟩
      | ok count => exact .inl ⟨count, rfl, rfl⟩

/-- A call of the stream, or a turn of events that leaves the inner stream in
any other state. -/
inductive Call (S : Type) where
  | turn (inner : S)
  | read (buf : ReadBuf)
  | write (buf : Bytes)
  | flush
  | shutdown

/-- How many bytes an inner stream put into the buffer, if its read succeeded. -/
def sizeRead : Poll (Except IoError Bytes) → List Nat
  | .ready (.ok bytes) => [bytes.length]
  | _ => []

def sizeWritten : Poll (Except IoError Nat) → List Nat
  | .ready (.ok count) => [count]
  | _ => []

theorem sizeRead_nil {answer : Poll (Except IoError Bytes)}
    (other : ∀ bytes, answer ≠ .ready (.ok bytes)) : sizeRead answer = [] := by
  cases answer using Poll.threeWays with
  | pending | error _ => rfl
  | ok bytes => exact absurd rfl (other bytes)

theorem sizeWritten_nil {answer : Poll (Except IoError Nat)}
    (other : ∀ count, answer ≠ .ready (.ok count)) : sizeWritten answer = [] := by
  cases answer using Poll.threeWays with
  | pending | error _ => rfl
  | ok count => exact absurd rfl (other count)

/-- A stream with the sizes of the successful reads and writes of the inner
stream. -/
structure Ledger (S : Type) where
  stream : MonitorStream S
  reads : List Nat
  writes : List Nat

namespace Ledger

/-- Nothing has been read or written. -/
def opened (stream : MonitorStream S) : Ledger S where
  stream := stream
  reads := []
  writes := []

variable [AsyncRead S] [AsyncWrite S]

def step (this : Ledger S) : Call S → Ledger S
  | .turn inner => { this with stream := { this.stream with inner } }
  | .read buf =>
      { this with
        stream := (this.stream.pollRead buf).2
        reads := this.reads ++ sizeRead (AsyncRead.pollRead this.stream.inner buf.remaining).1 }
  | .write buf =>
      { this with
        stream := (this.stream.pollWrite buf).2
        writes := this.writes ++ sizeWritten (AsyncWrite.pollWrite this.stream.inner buf).1 }
  | .flush => { this with stream := this.stream.pollFlush.2 }
  | .shutdown => { this with stream := this.stream.pollShutdown.2 }

def run (this : Ledger S) (calls : List (Call S)) : Ledger S :=
  calls.foldl step this

/-- Both totals have grown by what went through the inner stream. -/
structure Exact (start : ServerState) (this : Ledger S) : Prop where
  received : this.stream.state.rxTotal = start.rxTotal + UInt64.ofNat this.reads.sum
  sent : this.stream.state.txTotal = start.txTotal + UInt64.ofNat this.writes.sum

/-- The inner stream will fill a buffer that is not empty. -/
def FillsUp (this : Ledger S) : Call S → Prop
  | .read buf =>
      buf.filled ≠ [] ∧
        ∃ bytes, (AsyncRead.pollRead this.stream.inner buf.remaining).1 = .ready (.ok bytes)
  | _ => False

/-- What was in the buffer before is counted once more. -/
theorem counted_iff (start : UInt64) (front size : Nat) {filled : Nat} (fits : filled < 2 ^ 63) :
    start + UInt64.ofNat front + UInt64.ofNat (filled + size) =
      start + UInt64.ofNat (front + size) ↔ filled = 0 := by
  have moved : start + UInt64.ofNat front + UInt64.ofNat (filled + size) =
      UInt64.ofNat filled + (start + UInt64.ofNat (front + size)) := by
    rw [UInt64.ofNat_add, UInt64.ofNat_add]
    ac_rfl
  rw [moved, UInt64.add_eq_right, ← UInt64.toNat_inj]
  rw [UInt64.toNat_ofNat', Nat.mod_eq_of_lt (by omega)]
  rfl

omit [AsyncRead S] [AsyncWrite S] in
theorem exact_opened (stream : MonitorStream S) : (opened stream).Exact stream.state where
  received := by simp [opened]
  sent := by simp [opened]

theorem exact_step_iff {start : ServerState} {this : Ledger S} (exact : this.Exact start)
    (call : Call S) : (this.step call).Exact start ↔ ¬ this.FillsUp call := by
  obtain ⟨received, sent⟩ := exact
  cases call with
  | turn _ | flush | shutdown => exact iff_of_true ⟨received, sent⟩ not_false
  | write buf =>
      apply iff_of_true _ not_false
      rcases this.stream.pollWrite_spec buf with ⟨count, answer, after⟩ | ⟨other, after⟩
      · constructor
        · simp only [step, after]
          exact received
        · simp only [step, after, answer, sizeWritten, List.sum_append, List.sum_singleton]
          rw [sent, UInt64.ofNat_add, UInt64.add_assoc]
      · simp only [step, after, sizeWritten_nil other, List.append_nil]
        exact ⟨received, sent⟩
  | read buf =>
      rcases this.stream.pollRead_spec buf with ⟨bytes, answer, after⟩ | ⟨other, after⟩
      · have fits : buf.filled.length < 2 ^ 63 := Nat.lt_of_le_of_lt (Nat.le_add_right _ _) buf.fits
        have counted : ((this.step (.read buf)).Exact start ↔ buf.filled.length = 0) := by
          rw [← counted_iff start.rxTotal this.reads.sum bytes.length fits, ← received]
          constructor
          · intro exact
            have total := exact.received
            simp only [step, after, answer, sizeRead, List.sum_append, List.sum_singleton] at total
            exact total
          · intro total
            constructor
            · simp only [step, after, answer, sizeRead, List.sum_append, List.sum_singleton]
              exact total
            · simp only [step, after]
              exact sent
        rw [counted, List.length_eq_zero_iff]
        exact ⟨fun empty fills => fills.1 empty,
          fun none => Classical.not_not.mp fun some => none ⟨some, bytes, answer⟩⟩
      · have passed : (this.step (.read buf)).Exact start := by
          simp only [step, after, sizeRead_nil other, List.append_nil]
          exact ⟨received, sent⟩
        apply iff_of_true passed
        intro fills
        obtain ⟨_, bytes, answer⟩ := fills
        exact other bytes answer

/-- The totals are those of the inner stream all the time just when no read
fills up a buffer that holds bytes already. -/
theorem totals_exact_iff (stream : MonitorStream S) (calls : List (Call S)) :
    AllStates step (Exact stream.state) (opened stream) calls ↔
      AllSteps step (fun ledger call => ¬ ledger.FillsUp call) (opened stream) calls := by
  apply allStates_iff (fun _ => True) (fun _ _ => True) (fun _ _ _ _ => trivial) _ trivial
    (exact_opened stream) allSteps_true
  intro ledger call _ exact _
  exact exact_step_iff exact call

end Ledger

def sampleState : ServerState := ⟨100, 100, 0, 0⟩

/-- Two bytes are left from the read before. -/
def slowCalls : List (Call Bytes) :=
  [.read ⟨[], 8, by decide⟩, .write [1, 2, 3], .turn [5], .read ⟨[7, 8], 6, by decide⟩]

theorem totals_prefilled : ¬ Ledger.Exact sampleState
    (Ledger.run (.opened (fromStream [4, 7, 8] sampleState)) slowCalls) := by
  intro exact
  exact absurd exact.received (by decide)

end MonitorStream

end CovertConnect.Client
