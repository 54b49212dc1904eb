import Mathlib.Data.List.Basic
import Mathlib.Data.List.Infix

namespace CovertConnect.Data

/-! Lines of a text by their places: where the line starts that a place is in,
and what is between two places. -/

variable {α : Type}

/-- A page that is not empty ends with an element, and the rest is behind it. -/
theorem take_split {list : List α} {count : Nat} (some' : list.take count ≠ []) :
    ∃ front last, list.take count = front ++ [last] ∧ list = front ++ last :: list.drop count := by
  have taken := (List.dropLast_append_getLast some').symm
  refine ⟨_, _, taken, ?_⟩
  conv_lhs => rw [← List.take_append_drop count list, taken, List.append_assoc,
    List.singleton_append]

def between (content : List α) (first last : Nat) : List α :=
  (content.take last).drop first

theorem between_self (content : List α) (pos : Nat) : between content pos pos = [] := by
  rw [between, List.drop_eq_nil_iff, List.length_take]
  omega

theorem between_length {content : List α} {first last : Nat} (inside : last ≤ content.length) :
    (between content first last).length = last - first := by
  rw [between, List.length_drop, List.length_take, Nat.min_eq_left inside]

theorem between_append (content : List α) {first middle last : Nat} (before : first ≤ middle)
    (after : middle ≤ last) :
    between content first middle ++ between content middle last = between content first last := by
  have front : between content first middle =
      ((content.take last).drop first).take (middle - first) := by
    rw [between, ← List.drop_take, List.take_take, Nat.min_eq_left after]
  have back : between content middle last =
      ((content.take last).drop first).drop (middle - first) := by
    rw [between, List.drop_drop, Nat.add_sub_cancel' before]
  rw [front, back, List.take_append_drop, between]

theorem between_succ {content : List α} {first last : Nat} {element : α} (before : first ≤ last)
    (here : content[last]? = some element) :
    between content first (last + 1) = between content first last ++ [element] := by
  have single : between content last (last + 1) = [element] := by
    rw [between, List.drop_take, Nat.add_sub_cancel_left, List.take_one, List.head?_drop, here]
    rfl
  rw [← between_append content before (Nat.le_succ last), single]

theorem getElem?_between (content : List α) {first last pos : Nat} (inside : first + pos < last) :
    (between content first last)[pos]? = content[first + pos]? := by
  rw [between, List.getElem?_drop, List.getElem?_take_of_lt inside]

theorem between_middle (front line rest : List α) :
    between (front ++ line ++ rest) front.length (front.length + line.length) = line := by
  rw [between, ← List.length_append, List.take_left, List.drop_left]

variable [DecidableEq α]

/-- The place behind the last separator in front of `pos`, or the start. -/
def lineStart (separator : α) (content : List α) : Nat → Nat
  | 0 => 0
  | pos + 1 => if content[pos]? = some separator then pos + 1 else lineStart separator content pos

theorem lineStart_le (separator : α) (content : List α) (pos : Nat) :
    lineStart separator content pos ≤ pos := by
  induction pos with
  | zero => exact Nat.le_refl 0
  | succ pos ih =>
      rw [lineStart]
      split
      · exact Nat.le_refl _
      · exact Nat.le_succ_of_le ih

/-- A line starts behind a separator. -/
theorem lineStart_separator {separator : α} {content : List α} {pos start : Nat}
    (begins : lineStart separator content pos = start + 1) : content[start]? = some separator := by
  induction pos with
  | zero => cases begins
  | succ pos ih =>
      rw [lineStart] at begins
      split at begins
      · rename_i here
        rwa [Nat.succ.inj begins] at here
      · exact ih begins

theorem lineStart_eq {separator : α} {content : List α} {start pos : Nat} (before : start ≤ pos)
    (begins : ∀ place, start = place + 1 → content[place]? = some separator)
    (clear : ∀ place, start ≤ place → place < pos → content[place]? ≠ some separator) :
    lineStart separator content pos = start := by
  induction pos with
  | zero => exact (Nat.le_zero.mp before).symm
  | succ pos ih =>
      rw [lineStart]
      by_cases last : start = pos + 1
      · rw [if_pos (begins pos last), last]
      · rw [if_neg (clear pos (by omega) (Nat.lt_succ_self pos))]
        exact ih (by omega) fun place after earlier => clear place after (by omega)

theorem lineStart_append {separator : α} {front line : List α} (rest : List α)
    (clear : separator ∉ line)
    (begins : ∀ place, front.length = place + 1 → front[place]? = some separator) :
    lineStart separator (front ++ line ++ rest) (front.length + line.length) = front.length := by
  apply lineStart_eq (Nat.le_add_right _ _)
  · intro place ends
    rw [List.append_assoc, List.getElem?_append_left (by omega)]
    exact begins place ends
  · intro place after before here
    rw [List.append_assoc, List.getElem?_append_right after,
      List.getElem?_append_left (by omega)] at here
    exact clear (List.mem_of_getElem? here)

/-- From the line's start on, a place is in the same line. -/
theorem lineStart_within {separator : α} {content : List α} {pos place : Nat}
    (after : lineStart separator content pos ≤ place) (before : place ≤ pos) :
    lineStart separator content place = lineStart separator content pos := by
  induction pos with
  | zero => rw [Nat.le_zero.mp before]
  | succ pos ih =>
      by_cases last : place = pos + 1
      · rw [last]
      · rw [lineStart] at after ⊢
        split at after
        · omega
        · rename_i other
          rw [if_neg other]
          exact ih after (by omega)

end CovertConnect.Data
