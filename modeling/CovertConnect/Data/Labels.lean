import Mathlib.Data.List.Basic

namespace CovertConnect.Data

/-! Names that are labels with a separator between them. -/

variable {α : Type}

/-- The last labels of a name, with the separators between them. -/
def lastLabels (separator : α) (count : Nat) (labels : List (List α)) : List α :=
  [separator].intercalate (labels.drop (labels.length - count))

/-- A separator that fails the test of every element is none of them. -/
theorem not_mem_of_all {test : α → Bool} {label : List α} {separator : α}
    (all : ∀ element ∈ label, test element = true) (fails : test separator = false) :
    separator ∉ label := by
  intro there
  rw [all separator there] at fails
  cases fails

/-- An element is none of the separators that fail its test. -/
theorem not_mem_of_any {test : α → Bool} {separators : List α} {element : α}
    (fail : separators.any test = false) (passes : test element = true) :
    element ∉ separators :=
  fun there => List.any_eq_false.mp fail element there passes

theorem intercalate_append (separator : List α) {front back : List (List α)} (some : front ≠ [])
    (some' : back ≠ []) :
    separator.intercalate (front ++ back) =
      separator.intercalate front ++ (separator ++ separator.intercalate back) := by
  induction front with
  | nil => exact absurd rfl some
  | cons first front ih =>
      cases front with
      | nil =>
          rw [List.singleton_append, List.intercalate_cons_of_ne_nil some',
            List.intercalate_singleton, List.append_assoc]
      | cons second front =>
          have later := ih (List.cons_ne_nil second front)
          rw [List.cons_append, List.cons_append, List.intercalate_cons_cons, ← List.cons_append,
            later, List.intercalate_cons_cons]
          simp only [List.append_assoc]

variable [DecidableEq α]

theorem length_splitOn (separator : α) (name : List α) :
    (name.splitOn separator).length = name.count separator + 1 := by
  induction name with
  | nil => simp
  | cons element name ih =>
      rw [List.splitOn_cons_eq_if_modifyHead]
      by_cases same : element = separator
      · simp [same, ih]
      · simp [same, ih]

theorem mem_of_mem_splitOn {separator element : α} {name label : List α}
    (there : label ∈ name.splitOn separator) (inside : element ∈ label) :
    element ∈ name ∧ element ≠ separator := by
  induction name generalizing label with
  | nil =>
      obtain rfl := List.mem_singleton.mp there
      exact absurd inside List.not_mem_nil
  | cons first name ih =>
      rw [List.splitOn_cons_eq_if_modifyHead] at there
      by_cases same : first = separator
      · rw [if_pos (by simp [same])] at there
        rcases List.mem_cons.mp there with rfl | later
        · exact absurd inside List.not_mem_nil
        · have found := ih later inside
          exact ⟨List.mem_cons_of_mem _ found.1, found.2⟩
      · rw [if_neg (by simp [same])] at there
        cases labels : name.splitOn separator with
        | nil => exact absurd labels (List.splitOn_ne_nil _ _)
        | cons head labels' =>
            rw [labels] at ih there
            rcases List.mem_cons.mp there with rfl | later
            · rcases List.mem_cons.mp inside with rfl | inHead
              · exact ⟨List.mem_cons_self, same⟩
              · have found := ih List.mem_cons_self inHead
                exact ⟨List.mem_cons_of_mem _ found.1, found.2⟩
            · have found := ih (List.mem_cons_of_mem _ later) inside
              exact ⟨List.mem_cons_of_mem _ found.1, found.2⟩

/-- The last labels of a name are another name of that many labels just when
the name is the other one or ends in it behind a separator. -/
theorem lastLabels_eq_iff {separator : α} {name other : List α} :
    (other.count separator < (name.splitOn separator).length ∧
        lastLabels separator (other.count separator + 1) (name.splitOn separator) = other) ↔
      name = other ∨ ∃ front, name = front ++ separator :: other := by
  constructor
  · intro found
    obtain ⟨enough, last⟩ := found
    rw [lastLabels] at last
    have whole := @List.intercalate_splitOn _ name _ _ separator
    by_cases all : (name.splitOn separator).length = other.count separator + 1
    · rw [all, Nat.sub_self, List.drop_zero, whole] at last
      exact .inl last
    · have front : (name.splitOn separator).take
          ((name.splitOn separator).length - (other.count separator + 1)) ≠ [] := by
        rw [← List.length_pos_iff, List.length_take]
        omega
      have back : (name.splitOn separator).drop
          ((name.splitOn separator).length - (other.count separator + 1)) ≠ [] := by
        rw [← List.length_pos_iff, List.length_drop]
        omega
      rw [← List.take_append_drop ((name.splitOn separator).length - (other.count separator + 1))
        (name.splitOn separator), intercalate_append _ front back, last] at whole
      exact .inr ⟨_, whole.symm⟩
  · intro ends
    rcases ends with rfl | ⟨front, rfl⟩
    · rw [lastLabels, length_splitOn, Nat.sub_self, List.drop_zero]
      exact ⟨Nat.lt_succ_self _, List.intercalate_splitOn separator⟩
    · rw [List.splitOn_append_cons_self, lastLabels, List.length_append,
        ← length_splitOn separator other,
        Nat.add_sub_cancel, List.drop_left, length_splitOn separator other]
      exact ⟨by omega, List.intercalate_splitOn separator⟩

end CovertConnect.Data
