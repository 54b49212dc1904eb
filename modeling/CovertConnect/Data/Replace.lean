import Mathlib.Algebra.GroupWithZero.Nat
import Mathlib.Data.List.Basic

namespace CovertConnect.Data

/-! Replacing every occurrence of a non-empty pattern in a text, from left to
right and without overlaps, as `str::replace` does. -/

variable {α : Type} [DecidableEq α]

/-- `skip` elements belong to an occurrence that is already replaced. -/
def replaceFrom (pattern replacement : List α) : (text : List α) → (skip : Nat) → List α
  | [], _ => []
  | _ :: text, skip + 1 => replaceFrom pattern replacement text skip
  | first :: text, 0 =>
      if pattern.isPrefixOf (first :: text) then
        replacement ++ replaceFrom pattern replacement text (pattern.length - 1)
      else first :: replaceFrom pattern replacement text 0

def replaceAll (pattern replacement text : List α) : List α :=
  replaceFrom pattern replacement text 0

/-- How many occurrences are replaced. -/
def matchesFrom (pattern : List α) : (text : List α) → (skip : Nat) → Nat
  | [], _ => 0
  | _ :: text, skip + 1 => matchesFrom pattern text skip
  | first :: text, 0 =>
      if pattern.isPrefixOf (first :: text) then
        matchesFrom pattern text (pattern.length - 1) + 1
      else matchesFrom pattern text 0

/-- An element that is not in the pattern is found in the text outside the
occurrences, and once more in each replacement. -/
theorem count_replaceFrom {pattern : List α} {element : α} (some' : pattern ≠ [])
    (foreign : element ∉ pattern)
    (replacement text : List α) (skip : Nat) (skipped : element ∉ text.take skip) :
    (replaceFrom pattern replacement text skip).count element =
      text.count element + matchesFrom pattern text skip * replacement.count element := by
  induction text generalizing skip with
  | nil => simp [replaceFrom, matchesFrom]
  | cons first text ih =>
      cases skip with
      | succ skip =>
          rw [List.take_succ_cons, List.mem_cons, not_or] at skipped
          rw [replaceFrom, matchesFrom, ih skip skipped.2,
            List.count_cons_of_ne (Ne.symm skipped.1)]
      | zero =>
          rw [replaceFrom, matchesFrom]
          by_cases here : pattern.isPrefixOf (first :: text)
          · obtain ⟨rest, split⟩ := List.isPrefixOf_iff_prefix.mp here
            rw [if_pos here, if_pos here, List.count_append]
            cases pattern with
            | nil => exact absurd rfl some'
            | cons head pattern =>
                rw [List.cons_append, List.cons.injEq] at split
                obtain ⟨rfl, rfl⟩ := split
                rw [List.mem_cons, not_or] at foreign
                have clear : element ∉ (pattern ++ rest).take ((head :: pattern).length - 1) := by
                  rw [List.length_cons, Nat.add_sub_cancel, List.take_left]
                  exact foreign.2
                rw [ih _ clear, List.count_cons_of_ne (Ne.symm foreign.1), Nat.add_mul, Nat.one_mul]
                omega
          · rw [if_neg here, if_neg here, List.count_cons, List.count_cons, ih 0 (by simp)]
            omega

theorem count_replaceAll {pattern : List α} {element : α} (some' : pattern ≠ [])
    (foreign : element ∉ pattern) (replacement text : List α) :
    (replaceAll pattern replacement text).count element =
      text.count element + matchesFrom pattern text 0 * replacement.count element :=
  count_replaceFrom some' foreign replacement text 0 (by simp)

/-- A text that contains the pattern has an occurrence that is replaced. -/
theorem matchesFrom_pos {pattern : List α} (some' : pattern ≠ []) (before after : List α) :
    0 < matchesFrom pattern (before ++ (pattern ++ after)) 0 := by
  induction before with
  | nil =>
      cases pattern with
      | nil => exact absurd rfl some'
      | cons head pattern =>
          have here : (head :: pattern).isPrefixOf (head :: (pattern ++ after)) :=
            List.isPrefixOf_iff_prefix.mpr (List.prefix_append (head :: pattern) after)
          rw [List.nil_append, List.cons_append, matchesFrom, if_pos here]
          exact Nat.succ_pos _
  | cons first before ih =>
      rw [List.cons_append, matchesFrom]
      split
      · exact Nat.succ_pos _
      · exact ih

theorem replaceFrom_skip (pattern replacement front back : List α) :
    replaceFrom pattern replacement (front ++ back) front.length =
      replaceFrom pattern replacement back 0 := by
  induction front with
  | nil => rfl
  | cons first front ih => exact ih

theorem replaceFrom_pattern {pattern : List α} (some' : pattern ≠ [])
    (replacement rest : List α) :
    replaceFrom pattern replacement (pattern ++ rest) 0 =
      replacement ++ replaceFrom pattern replacement rest 0 := by
  cases pattern with
  | nil => exact absurd rfl some'
  | cons head pattern =>
      have here : (head :: pattern).isPrefixOf (head :: (pattern ++ rest)) :=
        List.isPrefixOf_iff_prefix.mpr (List.prefix_append (head :: pattern) rest)
      rw [List.cons_append, replaceFrom, if_pos here, List.length_cons, Nat.add_sub_cancel,
        replaceFrom_skip]

/-- The two elements never follow one another, and the first is not the last
one of the text. -/
def apart (first second : α) : List α → Bool
  | [] => true
  | [last] => last ≠ first
  | element :: next :: rest =>
      !(element = first && next = second) && apart first second (next :: rest)

/-- No occurrence starts in a text that lacks the beginning of the pattern. -/
theorem replaceFrom_apart {first second : α} {pattern text : List α}
    (clear : apart first second text = true) (replacement rest : List α) :
    replaceFrom (first :: second :: pattern) replacement (text ++ rest) 0 =
      text ++ replaceFrom (first :: second :: pattern) replacement rest 0 := by
  induction text with
  | nil => rfl
  | cons element text ih =>
      cases text with
      | nil =>
          simp only [apart, decide_eq_true_iff] at clear
          rw [List.singleton_append, replaceFrom, if_neg (by simp [List.isPrefixOf, Ne.symm clear]),
            List.singleton_append]
      | cons next text =>
          simp only [apart, Bool.and_eq_true, Bool.not_eq_true', Bool.and_eq_false_iff,
            decide_eq_false_iff_not] at clear
          have passed : ¬ (first :: second :: pattern).isPrefixOf
              (element :: (next :: text ++ rest)) = true := by
            intro here
            simp only [List.cons_append, List.isPrefixOf, Bool.and_eq_true, beq_iff_eq] at here
            obtain ⟨rfl, rfl, _⟩ := here
            rcases clear.1 with differ | differ <;> exact differ rfl
          rw [List.cons_append, replaceFrom, if_neg passed, ih clear.2]
          rfl

/-- A text without the first element has none of the pattern. -/
theorem apart_of_not_mem {first : α} {text : List α} (absent : first ∉ text) (second : α) :
    apart first second text = true := by
  induction text with
  | nil => rfl
  | cons element text ih =>
      rw [List.mem_cons, not_or] at absent
      cases text with
      | nil => simp [apart, Ne.symm absent.1]
      | cons next text => simp [apart, Ne.symm absent.1, ih absent.2]

theorem replaceFrom_passed {pattern text : List α} {first : α}
    (passed : ¬ pattern <+: first :: text) (replacement : List α) :
    replaceFrom pattern replacement (first :: text) 0 =
      first :: replaceFrom pattern replacement text 0 := by
  rw [replaceFrom, if_neg (mt List.isPrefixOf_iff_prefix.mp passed)]

theorem replaceFrom_here {pattern text : List α} {first : α} (here : pattern <+: first :: text)
    (replacement : List α) :
    replaceFrom pattern replacement (first :: text) 0 =
      replacement ++ replaceFrom pattern replacement text (pattern.length - 1) := by
  rw [replaceFrom, if_pos (List.isPrefixOf_iff_prefix.mpr here)]

/-- A text that the pattern is not in stays as it is. -/
theorem replaceFrom_absent {pattern text : List α} (absent : ¬ pattern <:+: text)
    (replacement : List α) : replaceFrom pattern replacement text 0 = text := by
  induction text with
  | nil => rfl
  | cons first text ih =>
      rw [replaceFrom_passed (mt List.IsPrefix.isInfix absent),
        ih fun found => absent (List.infix_cons found)]

omit [DecidableEq α] in
/-- The pattern does not reach over an element that it lacks. -/
theorem prefix_separated {pattern : List α} {separator : α} (foreign : separator ∉ pattern)
    {front back : List α} : pattern <+: front ++ separator :: back ↔ pattern <+: front := by
  constructor
  · intro found
    rcases List.prefix_or_prefix_of_prefix found (List.prefix_append front _) with inside | beyond
    · exact inside
    · obtain ⟨rest, rfl⟩ := beyond
      cases rest with
      | nil => simp
      | cons next rest =>
          rw [List.prefix_append_right_inj, List.cons_prefix_cons] at found
          simp [found.1] at foreign
  · exact fun found => found.trans (List.prefix_append _ _)

theorem replaceFrom_separated {pattern : List α} (some' : pattern ≠ []) {separator : α}
    (foreign : separator ∉ pattern) (replacement front back : List α) {skip : Nat}
    (inside : skip ≤ front.length) :
    replaceFrom pattern replacement (front ++ separator :: back) skip =
      replaceFrom pattern replacement front skip ++
        separator :: replaceFrom pattern replacement back 0 := by
  induction front generalizing skip with
  | nil =>
      obtain rfl := Nat.le_zero.mp inside
      have passed : ¬ pattern <+: separator :: back := by
        intro here
        exact some' (List.prefix_nil.mp ((@prefix_separated _ _ _ foreign [] back).mp here))
      exact replaceFrom_passed passed replacement
  | cons first front ih =>
      cases skip with
      | succ skip =>
          rw [List.length_cons] at inside
          exact ih (by omega)
      | zero =>
          by_cases here : pattern <+: first :: front
          · have shorter := here.length_le
            rw [List.length_cons] at shorter
            have wider : pattern <+: first :: (front ++ separator :: back) :=
              (@prefix_separated _ _ _ foreign (first :: front) back).mpr here
            rw [List.cons_append, replaceFrom_here wider, replaceFrom_here here, ih (by omega),
              List.append_assoc]
          · have passed : ¬ pattern <+: first :: (front ++ separator :: back) :=
              mt (@prefix_separated _ _ _ foreign (first :: front) back).mp here
            rw [List.cons_append, replaceFrom_passed passed, replaceFrom_passed here,
              ih (Nat.zero_le _), List.cons_append]

/-- `str::split` at a pattern that is not empty. -/
def splitFrom (pattern : List α) : (text : List α) → (skip : Nat) → List (List α)
  | [], _ => [[]]
  | _ :: text, skip + 1 => splitFrom pattern text skip
  | first :: text, 0 =>
      if pattern.isPrefixOf (first :: text) then
        [] :: splitFrom pattern text (pattern.length - 1)
      else (splitFrom pattern text 0).modifyHead (first :: ·)

/-- `str::split`; the empty pattern is between any two elements and at both
ends. -/
def strSplit (pattern text : List α) : List (List α) :=
  if pattern = [] then [] :: (text.map ([·]) ++ [[]]) else splitFrom pattern text 0

/-- `str::replace`. -/
def strReplace (pattern replacement text : List α) : List α :=
  if pattern = [] then replacement ++ text.flatMap fun element => element :: replacement
  else replaceAll pattern replacement text

theorem splitFrom_ne_nil (pattern text : List α) (skip : Nat) : splitFrom pattern text skip ≠ [] := by
  induction text generalizing skip with
  | nil => exact List.cons_ne_nil _ _
  | cons first text ih =>
      cases skip with
      | succ skip => exact ih skip
      | zero =>
          rw [splitFrom]
          split
          · exact List.cons_ne_nil _ _
          · obtain ⟨piece, pieces, known⟩ := List.exists_cons_of_ne_nil (ih 0)
            rw [known]
            exact List.cons_ne_nil _ _

omit [DecidableEq α] in
theorem intercalate_modifyHead (separator : List α) (element : α) {pieces : List (List α)}
    (some' : pieces ≠ []) :
    separator.intercalate (pieces.modifyHead (element :: ·)) =
      element :: separator.intercalate pieces := by
  obtain ⟨piece, pieces, rfl⟩ := List.exists_cons_of_ne_nil some'
  cases pieces with
  | nil => simp
  | cons next pieces => simp [List.intercalate_cons_cons]

/-- The pieces stay, and the replacement stands between them. -/
theorem replaceFrom_eq_intercalate (pattern replacement text : List α) (skip : Nat) :
    replaceFrom pattern replacement text skip =
      replacement.intercalate (splitFrom pattern text skip) := by
  induction text generalizing skip with
  | nil => simp [replaceFrom, splitFrom]
  | cons first text ih =>
      cases skip with
      | succ skip => exact ih skip
      | zero =>
          rw [replaceFrom, splitFrom]
          split
          · rw [ih, List.intercalate_cons_of_ne_nil (splitFrom_ne_nil pattern text _),
              List.nil_append]
          · rw [ih, intercalate_modifyHead _ _ (splitFrom_ne_nil pattern text 0)]

theorem strReplace_eq_intercalate (pattern replacement text : List α) :
    strReplace pattern replacement text = replacement.intercalate (strSplit pattern text) := by
  rw [strReplace, strSplit]
  split
  · have some' : ∀ text : List α, text.map ([·]) ++ [[]] ≠ [] := by simp
    rw [List.intercalate_cons_of_ne_nil (some' text), List.nil_append, List.append_cancel_left_eq]
    induction text with
    | nil => simp
    | cons first text ih =>
        rw [List.map_cons, List.cons_append, List.intercalate_cons_of_ne_nil (some' text),
          List.flatMap_cons, ih]
        rfl
  · exact replaceFrom_eq_intercalate pattern replacement text 0

/-- Replacing a pattern by itself. -/
theorem replaceFrom_self {pattern : List α} (some' : pattern ≠ []) (text : List α) (skip : Nat) :
    replaceFrom pattern pattern text skip = text.drop skip := by
  induction text generalizing skip with
  | nil => simp [replaceFrom]
  | cons first text ih =>
      cases skip with
      | succ skip => exact ih skip
      | zero =>
          by_cases here : pattern <+: first :: text
          · rw [replaceFrom_here here, ih]
            obtain ⟨rest, split⟩ := here
            cases pattern with
            | nil => exact absurd rfl some'
            | cons head pattern =>
                rw [List.cons_append, List.cons.injEq] at split
                obtain ⟨rfl, rfl⟩ := split
                rw [List.length_cons, Nat.add_sub_cancel, List.drop_left]
                rfl
          · rw [replaceFrom_passed here, ih]
            rfl

/-- The pieces of a text, put together again. -/
theorem intercalate_strSplit (pattern text : List α) :
    pattern.intercalate (strSplit pattern text) = text := by
  rw [← strReplace_eq_intercalate, strReplace]
  split
  · rename_i empty
    rw [empty, List.nil_append]
    exact List.flatMap_singleton' text
  · rename_i some'
    exact replaceFrom_self some' text 0

theorem count_intercalate (element : α) (separator : List α) {piece : List α}
    (pieces : List (List α)) :
    (separator.intercalate (piece :: pieces)).count element =
      ((piece :: pieces).map (·.count element)).sum + pieces.length * separator.count element := by
  induction pieces generalizing piece with
  | nil => simp
  | cons next pieces ih =>
      rw [List.intercalate_cons_cons, List.count_append, List.count_append, ih, List.map_cons,
        List.sum_cons, List.map_cons, List.sum_cons, List.length_cons, Nat.succ_mul]
      simp only [List.map_cons, List.sum_cons]
      omega

omit [DecidableEq α] in
/-- A front that is shorter than another, with one of two elements behind it. -/
theorem front_longer {first second : α} (differ : first ≠ second) {shorter back longer back' : List α}
    {back₂ back₂' : List α} (one : shorter ++ first :: back = longer ++ back')
    (two : shorter ++ second :: back₂ = longer ++ back₂') : longer.length ≤ shorter.length := by
  by_contra long
  have inside := Nat.not_le.mp long
  have known : ∀ {element : α} {rest rest' : List α}, shorter ++ element :: rest = longer ++ rest' →
      longer[shorter.length]? = some element := by
    intro element rest rest' same
    have here := congrArg (·[shorter.length]?) same
    simp only [List.getElem?_append_left inside, List.getElem?_append_right (Nat.le_refl _),
      Nat.sub_self, List.getElem?_cons_zero] at here
    exact here.symm
  exact differ (Option.some.inj ((known one).symm.trans (known two)))

/-- Pieces that two fillings show to have one gap, at one place. -/
theorem pieces_of_joined {first second : α} (differ : first ≠ second) {count : Nat}
    {pieces : List (List α)} {before after : List α}
    (one : (List.replicate (count + 1) first).intercalate pieces =
      before ++ List.replicate (count + 1) first ++ after)
    (two : (List.replicate (count + 1) second).intercalate pieces =
      before ++ List.replicate (count + 1) second ++ after) : pieces = [before, after] := by
  cases pieces with
  | nil => simp at one
  | cons piece pieces =>
      have more := congrArg (List.count first) one
      have fewer := congrArg (List.count first) two
      rw [count_intercalate, List.count_append, List.count_append, List.count_replicate_self] at more
      rw [count_intercalate, List.count_append, List.count_append,
        List.count_replicate, if_neg (by simpa using Ne.symm differ)] at fewer
      have single : pieces.length * (count + 1) = 1 * (count + 1) := by omega
      obtain ⟨last, rfl⟩ := List.length_eq_one_iff.mp (Nat.eq_of_mul_eq_mul_right (Nat.succ_pos count) single)
      rw [List.intercalate_cons_cons, List.intercalate_singleton, List.append_assoc,
        List.append_assoc, List.replicate_succ, List.cons_append] at one two
      have length : piece.length = before.length :=
        Nat.le_antisymm (front_longer differ one.symm two.symm) (front_longer differ one two)
      obtain ⟨rfl, rest⟩ := List.append_inj one length
      rw [List.append_cancel_left (List.cons.inj rest).2]

end CovertConnect.Data
