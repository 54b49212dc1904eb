import Mathlib.Logic.Basic

namespace CovertConnect.Data

/-! Runs of a machine with one next state for each event. -/

section Trace

variable {σ ε : Type} {step : σ → ε → σ}

/-- Every state on the way, the first and the last included. -/
def AllStates (step : σ → ε → σ) (good : σ → Prop) : σ → List ε → Prop
  | state, [] => good state
  | state, event :: events => good state ∧ AllStates step good (step state event) events

/-- Every state and the event taken in it. -/
def AllSteps (step : σ → ε → σ) (good : σ → ε → Prop) : σ → List ε → Prop
  | _, [] => True
  | state, event :: events => good state event ∧ AllSteps step good (step state event) events

def AllStates.decide {good : σ → Prop} [DecidablePred good] :
    (state : σ) → (events : List ε) → Decidable (AllStates step good state events)
  | state, [] => inferInstanceAs (Decidable (good state))
  | state, event :: events => @instDecidableAnd _ _ _ (AllStates.decide (step state event) events)

instance {good : σ → Prop} [DecidablePred good] (state : σ) (events : List ε) :
    Decidable (AllStates step good state events) := AllStates.decide state events

def AllSteps.decide {good : σ → ε → Prop} [∀ state event, Decidable (good state event)] :
    (state : σ) → (events : List ε) → Decidable (AllSteps step good state events)
  | _, [] => .isTrue trivial
  | state, event :: events => @instDecidableAnd _ _ _ (AllSteps.decide (step state event) events)

instance {good : σ → ε → Prop} [∀ state event, Decidable (good state event)] (state : σ)
    (events : List ε) : Decidable (AllSteps step good state events) := AllSteps.decide state events

/-- What a run does to each state it passes is what its steps do: where one
step out of a good state keeps `good` and achieves `done` just when `fit` holds
of it, so do all steps of a run. -/
theorem allStates_and_allSteps_iff (kept : σ → Prop) (allowed done : σ → ε → Prop)
    {good : σ → Prop} {fit : σ → ε → Prop}
    (keeps : ∀ state event, kept state → allowed state event → kept (step state event))
    (each : ∀ state event, kept state → good state → allowed state event →
      (good (step state event) ∧ done state event ↔ fit state event)) :
    ∀ {state events}, kept state → good state → AllSteps step allowed state events →
      (AllStates step good state events ∧ AllSteps step done state events ↔
        AllSteps step fit state events) := by
  intro state events
  induction events generalizing state with
  | nil =>
      intro _ goodNow _
      simp [AllStates, AllSteps, goodNow]
  | cons event events ih =>
      intro keptNow goodNow allowedAll
      have one := each state event keptNow goodNow allowedAll.1
      have keptNext := keeps state event keptNow allowedAll.1
      have first : ∀ {state events}, AllStates step good state events → good state := by
        intro state events all
        cases events with
        | nil => exact all
        | cons _ _ => exact all.1
      simp only [AllStates, AllSteps]
      constructor
      · intro given
        obtain ⟨⟨_, states⟩, did, steps⟩ := given
        have fits := one.mp ⟨first states, did⟩
        exact ⟨fits, (ih keptNext (first states) allowedAll.2).mp ⟨states, steps⟩⟩
      · intro given
        obtain ⟨fits, rest⟩ := given
        obtain ⟨goodNext, did⟩ := one.mpr fits
        obtain ⟨states, steps⟩ := (ih keptNext goodNext allowedAll.2).mpr rest
        exact ⟨⟨goodNow, states⟩, did, steps⟩

theorem allSteps_true : ∀ {state : σ} {events : List ε},
    AllSteps step (fun _ _ => True) state events := by
  intro state events
  induction events generalizing state with
  | nil => exact trivial
  | cons _ _ ih => exact ⟨trivial, ih⟩

/-- What the steps of a run keep holds in every state of it. -/
theorem allStates_of_allSteps {kept good : σ → Prop} {fit : σ → ε → Prop}
    (keeps : ∀ state event, kept state → fit state event → kept (step state event))
    (shows : ∀ state, kept state → good state) {state : σ} {events : List ε} (keptNow : kept state)
    (fits : AllSteps step fit state events) : AllStates step good state events := by
  induction events generalizing state with
  | nil => exact shows state keptNow
  | cons event events ih =>
      exact ⟨shows state keptNow, ih (keeps state event keptNow fits.1) fits.2⟩

/-- What each fitting step does, all steps of a fitting run do. -/
theorem allSteps_of_allSteps {kept : σ → Prop} {fit done : σ → ε → Prop}
    (keeps : ∀ state event, kept state → fit state event → kept (step state event))
    (does : ∀ state event, kept state → fit state event → done state event) {state : σ}
    {events : List ε} (keptNow : kept state) (fits : AllSteps step fit state events) :
    AllSteps step done state events := by
  induction events generalizing state with
  | nil => exact trivial
  | cons event events ih =>
      exact ⟨does state event keptNow fits.1, ih (keeps state event keptNow fits.1) fits.2⟩

/-- An event that commutes with those before it may be taken first. -/
theorem foldl_first {front back : List ε} {event : ε}
    (commutes : ∀ other ∈ front, ∀ state, step (step state other) event = step (step state event) other)
    (state : σ) : (front ++ event :: back).foldl step state = (front ++ back).foldl step (step state event) := by
  induction front generalizing state with
  | nil => rfl
  | cons other front ih =>
      have later := ih (fun earlier there => commutes earlier (List.mem_cons_of_mem _ there))
        (step state other)
      rw [List.cons_append, List.foldl_cons, later, commutes other List.mem_cons_self]
      rfl

/-- An event that commutes with all of a run may be taken last. -/
theorem foldl_last {events : List ε} {event : ε}
    (commutes : ∀ other ∈ events, ∀ state, step (step state other) event = step (step state event) other)
    (state : σ) : step (events.foldl step state) event = events.foldl step (step state event) := by
  have moved : (events ++ [event]).foldl step state = (events ++ []).foldl step (step state event) :=
    foldl_first commutes state
  rw [List.foldl_append, List.append_nil] at moved
  exact moved

theorem allStates_of_forall {good : σ → Prop} (always : ∀ state, good state) {state : σ}
    {events : List ε} : AllStates step good state events := by
  induction events generalizing state with
  | nil => exact always state
  | cons _ _ ih => exact ⟨always state, ih⟩

theorem allSteps_congr {left right : σ → ε → Prop}
    (same : ∀ state event, left state event ↔ right state event) {state : σ} {events : List ε} :
    AllSteps step left state events ↔ AllSteps step right state events := by
  induction events generalizing state with
  | nil => exact Iff.rfl
  | cons event events ih => exact and_congr (same state event) ih

/-- The same for a machine whose steps only have to lead to good states. -/
theorem allStates_iff (kept : σ → Prop) (allowed : σ → ε → Prop) {good : σ → Prop}
    {fit : σ → ε → Prop}
    (keeps : ∀ state event, kept state → allowed state event → kept (step state event))
    (each : ∀ state event, kept state → good state → allowed state event →
      (good (step state event) ↔ fit state event)) {state : σ} {events : List ε}
    (keptNow : kept state) (goodNow : good state) (allowedAll : AllSteps step allowed state events) :
    AllStates step good state events ↔ AllSteps step fit state events := by
  have both : ∀ state event, kept state → good state → allowed state event →
      (good (step state event) ∧ True ↔ fit state event) := by
    intro state event keptNow goodNow allowedNow
    rw [and_true]
    exact each state event keptNow goodNow allowedNow
  rw [← allStates_and_allSteps_iff kept allowed (fun _ _ => True) keeps both keptNow goodNow
    allowedAll, and_iff_left allSteps_true]

/-- What is lost once is lost for good, and each fitting step keeps it: then it
holds at the end of a run just when it holds at the start and every step fits. -/
theorem foldl_good_iff {kept good : σ → Prop} {fit : σ → ε → Prop}
    (keeps : ∀ state event, kept state → kept (step state event))
    (each : ∀ state event, kept state →
      (good (step state event) ↔ good state ∧ fit state event))
    {state : σ} {events : List ε} (keptNow : kept state) :
    good (events.foldl step state) ↔ good state ∧ AllSteps step fit state events := by
  induction events generalizing state with
  | nil => simp [AllSteps]
  | cons event events ih =>
      rw [List.foldl_cons, ih (keeps state event keptNow), each state event keptNow, AllSteps,
        and_assoc]

theorem allSteps_imp {fit done : σ → ε → Prop}
    (does : ∀ state event, fit state event → done state event) {state : σ} {events : List ε}
    (fits : AllSteps step fit state events) : AllSteps step done state events := by
  induction events generalizing state with
  | nil => exact trivial
  | cons event events ih => exact ⟨does state event fits.1, ih fits.2⟩

/-- Two machines that do the same at every step of a run end it alike. -/
theorem foldl_congr_of_allSteps {other : σ → ε → σ} {state : σ} {events : List ε}
    (same : AllSteps step (fun state event => step state event = other state event) state events) :
    events.foldl step state = events.foldl other state := by
  induction events generalizing state with
  | nil => rfl
  | cons event events ih => rw [List.foldl_cons, List.foldl_cons, ← same.1, ih same.2]

/-- Every state on the way is the one after some of the events. -/
theorem allStates_iff_take {good : σ → Prop} {state : σ} {events : List ε} :
    AllStates step good state events ↔ ∀ count, good ((events.take count).foldl step state) := by
  induction events generalizing state with
  | nil => simp [AllStates]
  | cons event events ih =>
      rw [AllStates, ih]
      constructor
      · rintro ⟨first, later⟩ (_ | count)
        · exact first
        · exact later count
      · intro each
        exact ⟨each 0, fun count => each (count + 1)⟩

theorem AllStates.last {good : σ → Prop} {state : σ} {events : List ε}
    (all : AllStates step good state events) : good (events.foldl step state) := by
  induction events generalizing state with
  | nil => exact all
  | cons event events ih => exact ih all.2

end Trace

end CovertConnect.Data
