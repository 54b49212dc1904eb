import CovertConnect.Data.Bytes

namespace CovertConnect.Data

/-! Calls that update a state and can fail or panic.

`?` in the source leaves the function with the error and keeps every update
made so far, so the state is returned beside the outcome in all three cases. -/

inductive Outcome (ε α : Type) where
  | ok (value : α)
  | err (error : ε)
  | panic (reason : String)
deriving DecidableEq, Repr

namespace Outcome

variable {ε α β : Type}

def bind (first : Outcome ε α) (next : α → Outcome ε β) : Outcome ε β :=
  match first with
  | .ok value => next value
  | .err error => .err error
  | .panic reason => .panic reason

instance : Monad (Outcome ε) where
  pure := .ok
  bind := bind

@[simp] theorem pure_eq (value : α) : (pure value : Outcome ε α) = .ok value := rfl

@[simp] theorem ok_bind (value : α) (next : α → Outcome ε β) :
    (Outcome.ok value >>= next) = next value := rfl

@[simp] theorem err_bind (error : ε) (next : α → Outcome ε β) :
    (Outcome.err error >>= next) = .err error := rfl

@[simp] theorem panic_bind (reason : String) (next : α → Outcome ε β) :
    (Outcome.panic reason >>= next) = .panic reason := rfl

theorem bind_eq_ok {first : Outcome ε α} {next : α → Outcome ε β} {result : β} :
    (first >>= next) = .ok result ↔ ∃ value, first = .ok value ∧ next value = .ok result := by
  cases first <;> simp

def map (f : α → β) : Outcome ε α → Outcome ε β
  | .ok value => .ok (f value)
  | .err error => .err error
  | .panic reason => .panic reason

def isOk : Outcome ε α → Bool
  | .ok _ => true
  | _ => false

def isOkAnd (outcome : Outcome ε α) (test : α → Bool) : Bool :=
  match outcome with
  | .ok value => test value
  | _ => false

theorem isOkAnd_eq_true {outcome : Outcome ε α} {test : α → Bool} :
    outcome.isOkAnd test = true ↔ ∃ value, outcome = .ok value ∧ test value = true := by
  cases outcome <;> simp [isOkAnd]

/-- A failed library call leaves its caller with the library's message. -/
def ofExcept (wrap : String → ε) : Except String α → Outcome ε α
  | .ok value => .ok value
  | .error message => .err (wrap message)

/-- `left - right`, where an overflow is checked for. -/
def checkedSub (left right : Nat) : Outcome ε Nat :=
  if right ≤ left then .ok (left - right) else .panic "attempt to subtract with overflow"

theorem checkedSub_ok {left right : Nat} (ordered : right ≤ left) :
    (checkedSub left right : Outcome ε Nat) = .ok (left - right) := by
  rw [checkedSub, if_pos ordered]

/-- `left / right`. -/
def checkedDiv (left right : Nat) : Outcome ε Nat :=
  if 0 < right then .ok (left / right) else .panic "attempt to divide by zero"

theorem checkedDiv_ok {left right : Nat} (positive : 0 < right) :
    (checkedDiv left right : Outcome ε Nat) = .ok (left / right) := by
  rw [checkedDiv, if_pos positive]

/-- `bytes[start..stop]`. -/
def slice (bytes : Bytes) (start stop : Nat) : Outcome ε Bytes :=
  if start ≤ stop then
    if stop ≤ bytes.length then .ok ((bytes.drop start).take (stop - start))
    else .panic s!"range end index {stop} out of range for slice of length {bytes.length}"
  else .panic s!"slice index starts at {start} but ends at {stop}"

theorem slice_ok {bytes : Bytes} {start stop : Nat} (ordered : start ≤ stop)
    (inside : stop ≤ bytes.length) :
    (slice bytes start stop : Outcome ε Bytes) = .ok ((bytes.drop start).take (stop - start)) := by
  simp [slice, ordered, inside]

/-- `BytesMut::split_to`: the front, and what stays in the buffer. -/
def splitTo (bytes : Bytes) (count : Nat) : Outcome ε (Bytes × Bytes) :=
  if count ≤ bytes.length then .ok (bytes.take count, bytes.drop count)
  else .panic "split_to out of bounds"

theorem splitTo_ok {bytes : Bytes} {count : Nat} (inside : count ≤ bytes.length) :
    (splitTo bytes count : Outcome ε (Bytes × Bytes)) = .ok (bytes.take count, bytes.drop count) := by
  simp [splitTo, inside]

theorem splitTo_append {front back : Bytes} {count : Nat} (sized : front.length = count) :
    (splitTo (front ++ back) count : Outcome ε (Bytes × Bytes)) = .ok (front, back) := by
  subst sized
  simp [splitTo]

end Outcome

def Exec (σ ε α : Type) := σ → Outcome ε α × σ

namespace Exec

variable {σ τ ε α β : Type}

def bind (first : Exec σ ε α) (next : α → Exec σ ε β) : Exec σ ε β := fun state =>
  match first state with
  | (.ok value, after) => next value after
  | (.err error, after) => (.err error, after)
  | (.panic reason, after) => (.panic reason, after)

instance : Monad (Exec σ ε) where
  pure value := fun state => (.ok value, state)
  bind := bind

/-- A call that touches no state. -/
def lift (outcome : Outcome ε α) : Exec σ ε α := fun state => (outcome, state)

def fail (error : ε) : Exec σ ε α := fun state => (.err error, state)

def abort (reason : String) : Exec σ ε α := fun state => (.panic reason, state)

def get : Exec σ ε σ := fun state => (.ok state, state)

def modify (update : σ → σ) : Exec σ ε Unit := fun state => (.ok (), update state)

/-- Keep an error as a value, as `.ok()`, `.is_ok()` and `if let Err` do. -/
def attempt (call : Exec σ ε α) : Exec σ ε (Except ε α) := fun state =>
  match call state with
  | (.ok value, after) => (.ok (.ok value), after)
  | (.err error, after) => (.ok (.error error), after)
  | (.panic reason, after) => (.panic reason, after)

/-- Run a call of one component on its place in a larger state. -/
def focus (view : σ → τ) (put : τ → σ → σ) (call : Exec τ ε α) : Exec σ ε α := fun state =>
  let (outcome, part) := call (view state)
  (outcome, put part state)

theorem bind_apply (first : Exec σ ε α) (next : α → Exec σ ε β) (state : σ) :
    (first >>= next) state =
      match first state with
      | (.ok value, after) => next value after
      | (.err error, after) => (.err error, after)
      | (.panic reason, after) => (.panic reason, after) := rfl

theorem bind_ok {first : Exec σ ε α} {state after : σ} {value : α}
    (run : first state = (.ok value, after)) (next : α → Exec σ ε β) :
    (first >>= next) state = next value after := by
  rw [bind_apply, run]

theorem bind_err {first : Exec σ ε α} {state after : σ} {error : ε}
    (run : first state = (.err error, after)) (next : α → Exec σ ε β) :
    (first >>= next) state = (.err error, after) := by
  rw [bind_apply, run]

theorem bind_eq_ok {first : Exec σ ε α} {next : α → Exec σ ε β} {state final : σ} {result : β} :
    (first >>= next) state = (.ok result, final) ↔
      ∃ value after, first state = (.ok value, after) ∧
        next value after = (.ok result, final) := by
  rw [bind_apply]
  rcases first state with ⟨_ | _ | _, after⟩ <;> simp

theorem bind_assoc {γ : Type} (first : Exec σ ε α) (next : α → Exec σ ε β) (last : β → Exec σ ε γ) :
    first >>= next >>= last = first >>= fun value => next value >>= last := by
  funext state
  rw [bind_apply, bind_apply, bind_apply]
  rcases first state with ⟨value | error | reason, after⟩
  · exact bind_apply _ _ _
  · rfl
  · rfl

@[simp] theorem pure_apply (value : α) (state : σ) :
    (pure value : Exec σ ε α) state = (.ok value, state) := rfl

@[simp] theorem lift_apply (outcome : Outcome ε α) (state : σ) :
    (lift outcome : Exec σ ε α) state = (outcome, state) := rfl

theorem lift_ok_bind (value : α) (next : α → Exec σ ε β) :
    (lift (.ok value) >>= next) = next value := rfl

theorem lift_eq_ok {outcome : Outcome ε α} {state after : σ} {value : α} :
    (lift outcome : Exec σ ε α) state = (.ok value, after) ↔ outcome = .ok value ∧ after = state := by
  rw [lift_apply, Prod.mk.injEq, @eq_comm _ state]

theorem lift_bind_eq_ok {outcome : Outcome ε α} {next : α → Exec σ ε β} {state final : σ}
    {result : β} : (lift outcome >>= next) state = (.ok result, final) ↔
      ∃ value, outcome = .ok value ∧ next value state = (.ok result, final) := by
  rw [bind_apply, lift_apply]
  cases outcome <;> simp

theorem lift_err_bind (error : ε) (next : α → Exec σ ε β) :
    (lift (.err error : Outcome ε α) >>= next) = fail error := rfl

theorem fail_bind (error : ε) (next : α → Exec σ ε β) :
    ((fail error : Exec σ ε α) >>= next) = fail error := rfl

theorem abort_bind (reason : String) (next : α → Exec σ ε β) :
    ((abort reason : Exec σ ε α) >>= next) = abort reason := rfl

theorem pure_bind (value : α) (next : α → Exec σ ε β) :
    ((pure value : Exec σ ε α) >>= next) = next value := rfl

@[simp] theorem fail_apply (error : ε) (state : σ) :
    (fail error : Exec σ ε α) state = (.err error, state) := rfl

@[simp] theorem abort_apply (reason : String) (state : σ) :
    (abort reason : Exec σ ε α) state = (.panic reason, state) := rfl

@[simp] theorem get_apply (state : σ) : (get : Exec σ ε σ) state = (.ok state, state) := rfl

@[simp] theorem modify_apply (update : σ → σ) (state : σ) :
    (modify update : Exec σ ε Unit) state = (.ok (), update state) := rfl

theorem attempt_apply (call : Exec σ ε α) (state : σ) :
    attempt call state =
      match call state with
      | (.ok value, after) => (.ok (.ok value), after)
      | (.err error, after) => (.ok (.error error), after)
      | (.panic reason, after) => (.panic reason, after) := rfl

theorem attempt_not_err (call : Exec σ ε α) (state after : σ) (error : ε) :
    attempt call state ≠ (.err error, after) := by
  rw [attempt_apply]
  rcases call state with ⟨value | error | reason, after⟩ <;> simp

/-- What a call shows through `view` is as before, however it ends. -/
def Keeps (view : σ → τ) (call : Exec σ ε α) : Prop :=
  ∀ state, view (call state).2 = view state

namespace Keeps

variable {view : σ → τ}

theorem after {call : Exec σ ε α} {state final : σ} {outcome : Outcome ε α}
    (kept : Keeps view call) (run : call state = (outcome, final)) : view final = view state := by
  have same := kept state
  rw [run] at same
  exact same

theorem bind {first : Exec σ ε α} {next : α → Exec σ ε β} (left : Keeps view first)
    (right : ∀ value, Keeps view (next value)) : Keeps view (first >>= next) := by
  intro state
  have kept := left state
  rw [bind_apply]
  rcases run : first state with ⟨value | error | reason, after⟩
  · rw [run] at kept
    exact (right value after).trans kept
  · rw [run] at kept
    exact kept
  · rw [run] at kept
    exact kept

theorem get_bind {next : σ → Exec σ ε β} (right : ∀ value, Keeps view (next value)) :
    Keeps view (get >>= next) :=
  bind (fun _ => rfl) right

theorem attempt {call : Exec σ ε α} (kept : Keeps view call) : Keeps view (attempt call) := by
  intro state
  have same := kept state
  rw [attempt_apply]
  rcases run : call state with ⟨value | error | reason, after⟩ <;>
  · rw [run] at same
    exact same

theorem lift (outcome : Outcome ε α) : Keeps view (lift outcome) := fun _ => rfl

theorem fail (error : ε) : Keeps view (fail error : Exec σ ε α) := fun _ => rfl

theorem modify {update : σ → σ} (kept : ∀ state, view (update state) = view state) :
    Keeps view (modify update : Exec σ ε Unit) := kept

end Keeps

theorem focus_apply (view : σ → τ) (put : τ → σ → σ) (call : Exec τ ε α) (state : σ) :
    focus view put call state = ((call (view state)).1, put (call (view state)).2 state) := rfl

end Exec

theorem except_bind_eq_ok {ε α β : Type} {first : Except ε α} {next : α → Except ε β} {result : β} :
    (first >>= next) = .ok result ↔ ∃ value, first = .ok value ∧ next value = .ok result := by
  cases first with
  | error error => simp [bind, Except.bind]
  | ok value => simp [bind, Except.bind]

/-- Every item is read on its own. -/
theorem except_mapM_eq_ok {ε α β : Type} {read : α → Except ε β} {good : α → Prop} {value : α → β}
    {items : List α} {results : List β}
    (each : ∀ item ∈ items, ∀ result, read item = .ok result ↔ good item ∧ result = value item) :
    items.mapM read = .ok results ↔ (∀ item ∈ items, good item) ∧ results = items.map value := by
  induction items generalizing results with
  | nil => simp [pure, Except.pure, eq_comm]
  | cons item items ih =>
      have later := fun results => @ih results fun item there =>
        each item (List.mem_cons_of_mem _ there)
      rw [List.mapM_cons, except_bind_eq_ok, List.forall_mem_cons, List.map_cons]
      simp only [except_bind_eq_ok, each item List.mem_cons_self, later]
      refine ⟨fun read => ?_, fun read => ?_⟩
      · obtain ⟨_, ⟨here, rfl⟩, _, ⟨all, rfl⟩, result⟩ := read
        cases result
        exact ⟨⟨here, all⟩, rfl⟩
      · obtain ⟨⟨here, all⟩, rfl⟩ := read
        exact ⟨_, ⟨here, rfl⟩, _, ⟨all, rfl⟩, rfl⟩

end CovertConnect.Data
