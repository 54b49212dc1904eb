import Mathlib.Data.List.Basic

namespace CovertConnect.Data

/-! The last component of a path. -/

section Split

variable {α : Type} {isSeparator : α → Bool}

/-- The first part of a text, and what is behind the separator after it. -/
theorem of_splitOnP_cons {text part : List α} {parts : List (List α)}
    (split : text.splitOnP isSeparator = part :: parts) :
    (∀ element ∈ part, isSeparator element = false) ∧
      (parts = [] ∧ text = part ∨
        ∃ separator rest, isSeparator separator = true ∧ text = part ++ separator :: rest ∧
          rest.splitOnP isSeparator = parts) := by
  induction text generalizing part with
  | nil =>
      rw [List.splitOnP_nil, List.cons.injEq] at split
      obtain ⟨rfl, rfl⟩ := split
      exact ⟨fun _ there => absurd there List.not_mem_nil, .inl ⟨rfl, rfl⟩⟩
  | cons first text ih =>
      rw [List.splitOnP_cons_eq_if_modifyHead] at split
      cases separates : isSeparator first with
      | true =>
          rw [if_pos separates, List.cons.injEq] at split
          obtain ⟨rfl, rest⟩ := split
          exact ⟨fun _ there => absurd there List.not_mem_nil,
            .inr ⟨first, text, separates, rfl, rest⟩⟩
      | false =>
          rw [if_neg (by simp [separates])] at split
          cases later : text.splitOnP isSeparator with
          | nil => exact absurd later (List.splitOnP_ne_nil _ _)
          | cons head others =>
              rw [later, List.modifyHead_cons, List.cons.injEq] at split
              obtain ⟨rfl, rfl⟩ := split
              obtain ⟨clear, rest⟩ := ih later
              refine ⟨List.forall_mem_cons.mpr ⟨separates, clear⟩, ?_⟩
              rcases rest with ⟨last, whole⟩ | ⟨separator, rest, separates', whole, split⟩
              · exact .inl ⟨last, by rw [whole]⟩
              · exact .inr ⟨separator, rest, separates', by rw [whole, List.cons_append], split⟩

/-- A part of a text is between two separators, or at an end of the text. -/
theorem of_splitOnP_append {text part : List α} {before after : List (List α)}
    (split : text.splitOnP isSeparator = before ++ part :: after) :
    (∀ element ∈ part, isSeparator element = false) ∧ ∃ front back, text = front ++ part ++ back ∧
      (front = [] ∨ ∃ dir separator, isSeparator separator = true ∧ front = dir ++ [separator]) ∧
      (after = [] ∧ back = [] ∨ ∃ separator rest, isSeparator separator = true ∧
        back = separator :: rest ∧ rest.splitOnP isSeparator = after) := by
  induction before generalizing text with
  | nil =>
      obtain ⟨clear, rest⟩ := of_splitOnP_cons split
      rcases rest with ⟨last, whole⟩ | ⟨separator, rest, separates, whole, split⟩
      · exact ⟨clear, [], [], by simp [whole], .inl rfl, .inl ⟨last, rfl⟩⟩
      · exact ⟨clear, [], separator :: rest, by simp [whole], .inl rfl,
          .inr ⟨separator, rest, separates, rfl, split⟩⟩
  | cons first before ih =>
      obtain ⟨_, rest⟩ := of_splitOnP_cons split
      rcases rest with ⟨last, _⟩ | ⟨separator, rest, separates, whole, split⟩
      · exact absurd last (by simp)
      · obtain ⟨clear, front, back, whole', begins, ends⟩ := ih split
        refine ⟨clear, first ++ separator :: front, back, by simp [whole, whole'], .inr ?_, ends⟩
        rcases begins with rfl | ⟨dir, separator', separates', rfl⟩
        · exact ⟨first, separator, separates, rfl⟩
        · exact ⟨first ++ separator :: dir, separator', separates', by simp⟩

end Split

section Path

variable (isSeparator : Char → Bool)

/-- `Path::file_name` for a path without a prefix: empty components and `.`
are passed over from the end, and `..` is no name. -/
def fileName (path : List Char) : Option (List Char) :=
  match ((path.splitOnP isSeparator).filter fun part => part ≠ [] ∧ part ≠ ['.']).getLast? with
  | some part => if part = ['.', '.'] then none else some part
  | none => none

/-- What a component may be called. -/
structure IsFileName (name : List Char) : Prop where
  clear : ∀ char ∈ name, isSeparator char = false
  some : name ≠ []
  notHere : name ≠ ['.']
  notParent : name ≠ ['.', '.']

/-- The name stands at the start or behind a separator, and only separators and
`.` are behind it. -/
def EndsInName (path name : List Char) : Prop :=
  ∃ front back, path = front ++ name ++ back ∧
    (front = [] ∨ ∃ dir separator, isSeparator separator = true ∧ front = dir ++ [separator]) ∧
    (back = [] ∨ ∃ separator rest, isSeparator separator = true ∧ back = separator :: rest ∧
      ∀ part ∈ rest.splitOnP isSeparator, part = [] ∨ part = ['.'])

variable {isSeparator}

theorem getLast?_filter_eq_some {α : Type} {keeps : α → Bool} {list : List α} {last : α} :
    (list.filter keeps).getLast? = some last ↔
      ∃ before after, list = before ++ last :: after ∧ keeps last = true ∧
        ∀ element ∈ after, keeps element = false := by
  rw [← List.head?_reverse, ← List.filter_reverse, List.head?_filter, List.find?_eq_some_iff_append]
  constructor
  · intro found
    obtain ⟨kept, front, back, whole, dropped⟩ := found
    refine ⟨back.reverse, front.reverse, ?_, kept, fun element there => ?_⟩
    · rw [← List.reverse_reverse list, whole]
      simp
    · simpa using dropped element (List.mem_reverse.mp there)
  · intro found
    obtain ⟨before, after, rfl, kept, dropped⟩ := found
    refine ⟨kept, after.reverse, before.reverse, by simp, fun element there => ?_⟩
    simp [dropped element (List.mem_reverse.mp there)]

/-- The file name of a path is read off its end. -/
theorem fileName_iff {path name : List Char} :
    fileName isSeparator path = some name ↔
      IsFileName isSeparator name ∧ EndsInName isSeparator path name := by
  have passedOver : ∀ part : List Char,
      decide (part ≠ [] ∧ part ≠ ['.']) = false ↔ part = [] ∨ part = ['.'] := by
    intro part
    simp only [decide_eq_false_iff_not]
    tauto
  constructor
  · intro named
    rw [fileName] at named
    split at named
    · rename_i part last
      split at named
      · cases named
      · rename_i notParent
        obtain rfl := Option.some.inj named
        obtain ⟨before, after, split, kept, dropped⟩ := getLast?_filter_eq_some.mp last
        obtain ⟨clear, front, back, whole, begins, ends⟩ := of_splitOnP_append split
        obtain ⟨notEmpty, notHere⟩ := of_decide_eq_true kept
        refine ⟨⟨clear, notEmpty, notHere, notParent⟩, front, back, whole, begins, ?_⟩
        rcases ends with ⟨_, nothing⟩ | ⟨separator, rest, separates, whole, split⟩
        · exact .inl nothing
        · refine .inr ⟨separator, rest, separates, whole, fun part there => ?_⟩
          exact (passedOver part).mp (dropped part (split ▸ there))
    · cases named
  · intro given
    obtain ⟨⟨clear, notEmpty, notHere, notParent⟩, front, back, rfl, begins, ends⟩ := given
    have last : ∃ after, (name ++ back).splitOnP isSeparator = name :: after ∧
        ∀ part ∈ after, part = [] ∨ part = ['.'] := by
      rcases ends with rfl | ⟨separator, rest, separates, rfl, passed⟩
      · exact ⟨[], by rw [List.append_nil, List.splitOnP_eq_singleton clear], by simp⟩
      · exact ⟨_, List.splitOnP_append_cons_of_forall_mem clear separator separates rest, passed⟩
    obtain ⟨after, split, passed⟩ := last
    have whole : ∃ before, (front ++ name ++ back).splitOnP isSeparator = before ++ name :: after := by
      rcases begins with rfl | ⟨dir, separator, separates, rfl⟩
      · exact ⟨[], by rw [List.nil_append, List.nil_append, split]⟩
      · refine ⟨dir.splitOnP isSeparator, ?_⟩
        rw [List.append_assoc, List.append_assoc, List.singleton_append,
          List.splitOnP_append_cons _ _ separates, split]
    obtain ⟨before, split⟩ := whole
    have found := getLast?_filter_eq_some.mpr
      ⟨before, after, split, decide_eq_true ⟨notEmpty, notHere⟩,
        fun part there => (passedOver part).mpr (passed part there)⟩
    rw [fileName, found]
    exact if_neg notParent

example : fileName (· = '/') "/usr/bin/firefox/./".toList = some "firefox".toList := by decide

end Path

end CovertConnect.Data
