import Mathlib.Data.List.Basic

namespace CovertConnect.Data

/-! All matches of a pattern in a text, from left to right and without overlaps.
A pattern is given by what it matches at the beginning of a text: how many
elements, and what they stand for. -/

structure Match (β : Type) where
  start : Nat
  stop : Nat
  group : β
deriving DecidableEq, Repr

variable {α β : Type} {pattern : List α → Option (Nat × β)}

/-- The text begins at `pos`, and `skip` elements belong to the last match. -/
def allMatchesFrom (pattern : List α → Option (Nat × β)) :
    (pos : Nat) → (text : List α) → (skip : Nat) → List (Match β)
  | _, [], _ => []
  | pos, _ :: text, skip + 1 => allMatchesFrom pattern (pos + 1) text skip
  | pos, first :: text, 0 =>
      match pattern (first :: text) with
      | some (length, group) =>
          ⟨pos, pos + length, group⟩ :: allMatchesFrom pattern (pos + 1) text (length - 1)
      | none => allMatchesFrom pattern (pos + 1) text 0

def allMatches (pattern : List α → Option (Nat × β)) (text : List α) : List (Match β) :=
  allMatchesFrom pattern 0 text 0

/-- The text without the matches. -/
def removeFrom (pattern : List α → Option (Nat × β)) : (text : List α) → (skip : Nat) → List α
  | [], _ => []
  | _ :: text, skip + 1 => removeFrom pattern text skip
  | first :: text, 0 =>
      match pattern (first :: text) with
      | some (length, _) => removeFrom pattern text (length - 1)
      | none => first :: removeFrom pattern text 0

def removeMatches (pattern : List α → Option (Nat × β)) (text : List α) : List α :=
  removeFrom pattern text 0

def substring (text : List α) (start stop : Nat) : List α :=
  (text.drop start).take (stop - start)

/-- What stands in front of each match and behind the last one. -/
def gaps (text : List α) : (lastIndex : Nat) → List (Match β) → List (List α)
  | lastIndex, [] => [text.drop lastIndex]
  | lastIndex, first :: matches' =>
      substring text lastIndex first.start :: gaps text first.stop matches'

/-- A match is a beginning of the text, and not empty. -/
def Consumes (pattern : List α → Option (Nat × β)) : Prop :=
  ∀ text length group, pattern text = some (length, group) → 0 < length ∧ length ≤ text.length

theorem group_of_mem {good : β → Prop}
    (each : ∀ text length group, pattern text = some (length, group) → good group)
    {pos skip : Nat} {text : List α} {found : Match β}
    (there : found ∈ allMatchesFrom pattern pos text skip) : good found.group := by
  induction text generalizing pos skip with
  | nil => exact absurd there List.not_mem_nil
  | cons first text ih =>
      cases skip with
      | succ skip => exact ih there
      | zero =>
          rw [allMatchesFrom] at there
          cases matched : pattern (first :: text) with
          | none =>
              rw [matched] at there
              exact ih there
          | some result =>
              rw [matched] at there
              rcases List.mem_cons.mp there with rfl | later
              · exact each _ _ _ matched
              · exact ih later

theorem drop_succ_of_drop {text rest : List α} {first : α} {pos : Nat}
    (here : text.drop pos = first :: rest) : text.drop (pos + 1) = rest := by
  rw [← List.drop_drop, here]
  rfl

/-- One more element of a piece. -/
theorem substring_succ {text rest : List α} {first : α} {start pos : Nat}
    (here : text.drop pos = first :: rest) (behind : start ≤ pos) :
    substring text start (pos + 1) = substring text start pos ++ [first] := by
  have next : (text.drop start)[pos - start]? = some first := by
    rw [List.getElem?_drop, Nat.add_sub_cancel' behind, ← List.head?_drop, here]
    rfl
  rw [substring, substring, Nat.sub_add_comm behind, List.take_add_one, next]
  rfl

/-- The scan has come to `pos`, and what it has not cut off begins at
`lastIndex`. -/
theorem gaps_from (consumes : Consumes pattern) {text : List α} (rest : List α)
    {pos skip lastIndex : Nat} (here : text.drop pos = rest) (inside : skip ≤ rest.length)
    (begins : lastIndex ≤ pos ∧ skip = 0 ∨ lastIndex = pos + skip) :
    (gaps text lastIndex (allMatchesFrom pattern pos rest skip)).flatten =
      substring text lastIndex pos ++ removeFrom pattern rest skip := by
  induction rest generalizing pos skip lastIndex with
  | nil =>
      have ends : text.length ≤ pos := List.drop_eq_nil_iff.mp here
      have whole : substring text lastIndex pos = text.drop lastIndex := by
        rw [substring, List.take_of_length_le]
        rw [List.length_drop]
        omega
      simp [allMatchesFrom, gaps, removeFrom, whole]
  | cons first rest ih =>
      have next : text.drop (pos + 1) = rest := drop_succ_of_drop here
      cases skip with
      | succ skip =>
          have last : lastIndex = pos + 1 + skip := by omega
          have passed : substring text lastIndex (pos + 1) = substring text lastIndex pos := by
            simp [substring, last, Nat.sub_eq_zero_of_le (Nat.le_add_right (pos + 1) skip),
              Nat.sub_eq_zero_of_le (show pos ≤ pos + 1 + skip by omega)]
          rw [allMatchesFrom, removeFrom, ih next (Nat.le_of_succ_le_succ inside) (.inr last), passed]
      | zero =>
          have behind : lastIndex ≤ pos := by omega
          rw [allMatchesFrom, removeFrom]
          cases found : pattern (first :: rest) with
          | none =>
              dsimp only
              rw [ih next (Nat.zero_le _) (.inl ⟨Nat.le_succ_of_le behind, rfl⟩),
                substring_succ here behind, List.append_assoc]
              rfl
          | some matched =>
              obtain ⟨length, group⟩ := matched
              obtain ⟨positive, bound⟩ := consumes _ _ _ found
              rw [List.length_cons] at bound
              have consumed : substring text (pos + length) (pos + 1) = [] := by
                rw [substring, Nat.sub_eq_zero_of_le (by omega), List.take_zero]
              have ends : pos + length = pos + 1 + (length - 1) := by omega
              dsimp only
              rw [gaps, List.flatten_cons, ih next (by omega) (.inr ends), consumed]
              rfl

/-- Nothing but the matches is lost between the gaps. -/
theorem gaps_flatten (consumes : Consumes pattern) (text : List α) :
    (gaps text 0 (allMatches pattern text)).flatten = removeMatches pattern text :=
  gaps_from consumes text rfl (Nat.zero_le _) (.inr rfl)

end CovertConnect.Data
