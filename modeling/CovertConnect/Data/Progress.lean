namespace CovertConnect.Data

/-! # What a machine can get to

A state that can be left for a better one as long as the goal is not reached
leads to the goal. -/

section

variable {S E : Type} {step : S → E → S} {allowed : E → Prop}

/-- Some allowed events lead from one state to the other. -/
def Reaches (step : S → E → S) (allowed : E → Prop) (state after : S) : Prop :=
  ∃ events : List E, (∀ event ∈ events, allowed event) ∧ events.foldl step state = after

namespace Reaches

theorem refl (state : S) : Reaches step allowed state state :=
  ⟨[], by simp, rfl⟩

theorem single (state : S) {event : E} (fine : allowed event) :
    Reaches step allowed state (step state event) :=
  ⟨[event], by simpa using fine, rfl⟩

theorem trans {state middle after : S} (first : Reaches step allowed state middle)
    (second : Reaches step allowed middle after) : Reaches step allowed state after := by
  obtain ⟨events, fine, rfl⟩ := first
  obtain ⟨events', fine', rfl⟩ := second
  refine ⟨events ++ events', ?_, List.foldl_append⟩
  intro event found
  exact (List.mem_append.mp found).elim (fine event) (fine' event)

theorem imp {wider : E → Prop} {state after : S} (reaches : Reaches step allowed state after)
    (widen : ∀ event, allowed event → wider event) : Reaches step wider state after := by
  obtain ⟨events, fine, ends⟩ := reaches
  exact ⟨events, fun event found => widen event (fine event found), ends⟩

/-- What every allowed event keeps is kept all the way. -/
theorem keeps (kept : S → Prop) {state after : S} (reaches : Reaches step allowed state after)
    (here : kept state)
    (keep : ∀ state event, kept state → allowed event → kept (step state event)) : kept after := by
  obtain ⟨events, fine, rfl⟩ := reaches
  exact List.foldlRecOn events step here fun state kept event found =>
    keep state event kept (fine event found)

/-- The measure falls until the goal is reached. -/
theorem attains (sound goal : S → Prop) (measure : S → Nat)
    (progress : ∀ state, sound state → ¬ goal state →
      ∃ event, allowed event ∧ sound (step state event) ∧ measure (step state event) < measure state)
    {state : S} (start : sound state) :
    ∃ after, Reaches step allowed state after ∧ sound after ∧ goal after := by
  induction height : measure state using Nat.strongRecOn generalizing state with
  | ind height' ih =>
      by_cases done : goal state
      · exact ⟨state, refl state, start, done⟩
      · obtain ⟨event, fine, sound', less⟩ := progress state start done
        obtain ⟨after, reaches, ends⟩ := ih _ (height ▸ less) sound' rfl
        exact ⟨after, (single state fine).trans reaches, ends⟩

end Reaches

end

end CovertConnect.Data
