import CovertConnect.Data.Exec

namespace CovertConnect.Data

/-! Which panics a call can end in.

A set of reasons is a predicate on the messages, so that one development serves
"never panics" and "never panics in this way". -/

namespace Outcome

variable {ε ε' α β : Type} {bad : String → Prop}

def Spares (bad : String → Prop) (outcome : Outcome ε α) : Prop :=
  ∀ reason, outcome = .panic reason → ¬ bad reason

@[simp] theorem spares_ok (value : α) : Spares bad (.ok value : Outcome ε α) := by
  intro reason same
  cases same

@[simp] theorem spares_err (error : ε) : Spares bad (.err error : Outcome ε α) := by
  intro reason same
  cases same

@[simp] theorem spares_panic (reason : String) :
    Spares bad (.panic reason : Outcome ε α) ↔ ¬ bad reason := by
  constructor
  · intro spared
    exact spared reason rfl
  · intro harmless other same
    cases same
    exact harmless

def panicReason : Outcome ε α → Option String
  | .panic reason => some reason
  | _ => none

/-- Nothing is spared when every reason is bad. -/
theorem spares_all {outcome : Outcome ε α} :
    outcome.Spares (fun _ => True) ↔ outcome.panicReason = none := by
  cases outcome <;> simp [panicReason]

end Outcome

namespace Exec

variable {σ τ ε α β : Type} {bad : String → Prop}

/-- Run from `state` the call does not panic for a bad reason. -/
def Spares (bad : String → Prop) (call : Exec σ ε α) (state : σ) : Prop :=
  (call state).1.Spares bad

/-- The call returns `Ok` or `Err`. -/
def Returns (call : Exec σ ε α) (state : σ) : Prop :=
  (call state).1.panicReason = none

theorem spares_all {call : Exec σ ε α} {state : σ} :
    Spares (fun _ => True) call state ↔ Returns call state := Outcome.spares_all

theorem spares_bind_iff {first : Exec σ ε α} {next : α → Exec σ ε β} {state : σ} :
    Spares bad (first >>= next) state ↔
      Spares bad first state ∧
        ∀ value after, first state = (.ok value, after) → Spares bad (next value) after := by
  rw [Spares, Spares, bind_apply]
  rcases first state with ⟨value | error | reason, after⟩
  · simp [Spares]
  · simp
  · simp

theorem spares_bind_of_ok {first : Exec σ ε α} {next : α → Exec σ ε β} {state after : σ}
    {value : α} (run : first state = (.ok value, after)) :
    Spares bad (first >>= next) state ↔ Spares bad (next value) after := by
  rw [Spares, bind_ok run, Spares]

theorem spares_attempt {call : Exec σ ε α} {state : σ} :
    Spares bad (attempt call) state ↔ Spares bad call state := by
  rw [Spares, Spares, attempt_apply]
  rcases call state with ⟨value | error | reason, after⟩ <;> simp

theorem spares_focus {view : σ → τ} {put : τ → σ → σ} {call : Exec τ ε α} {state : σ} :
    Spares bad (focus view put call) state ↔ Spares bad call (view state) := by
  rw [Spares, Spares, focus_apply]

theorem spares_fail (error : ε) (state : σ) : Spares bad (fail error : Exec σ ε α) state :=
  Outcome.spares_err error

theorem spares_pure (value : α) (state : σ) :
    Spares bad (pure value : Exec σ ε α) state := Outcome.spares_ok value

end Exec

end CovertConnect.Data
