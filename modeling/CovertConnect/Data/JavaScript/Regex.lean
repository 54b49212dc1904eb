import CovertConnect.Data.JavaScript.Lexer

namespace CovertConnect.Data.JavaScript

/-! # A part of JavaScript: regular expressions

Patterns without groups and alternatives: the two anchors, and characters or
classes with a counted repetition.  They are matched against code units. -/

inductive Piece where
  | start
  | stop
  /-- Between `least` and `most` units of the ranges. -/
  | units (ranges : List (UInt16 × UInt16)) (least most : Nat)
deriving DecidableEq, Repr

def inRanges (ranges : List (UInt16 × UInt16)) (code : UInt16) : Bool :=
  ranges.any fun (low, high) => low ≤ code && code ≤ high

def patternMarks : List Char :=
  ['^', '$', '\\', '.', '*', '+', '?', '(', ')', '[', ']', '\x7b', '\x7d', '|', '/']

/-- Letters, digits and ranges of them up to the closing bracket. -/
def parseClass : List Char → Option (List (UInt16 × UInt16) × List Char)
  | ']' :: rest => some ([], rest)
  | low :: '-' :: high :: rest =>
      if low.isAlphanum ∧ high.isAlphanum ∧ low ≤ high then do
        let (ranges, rest) ← parseClass rest
        return ((unit low, unit high) :: ranges, rest)
      else none
  | char :: rest =>
      if char.isAlphanum then do
        let (ranges, rest) ← parseClass rest
        return ((unit char, unit char) :: ranges, rest)
      else none
  | [] => none

def parseAtom : List Char → Option (List (UInt16 × UInt16) × List Char)
  | '[' :: rest => parseClass rest
  | '\\' :: char :: rest =>
      if char ∈ patternMarks then some ([(unit char, unit char)], rest) else none
  | char :: rest =>
      if char ∈ patternMarks ∨ 0x10000 ≤ char.toNat then none
      else some ([(unit char, unit char)], rest)
  | [] => none

def parseCount : List Char → Option ((Nat × Nat) × List Char)
  | '\x7b' :: rest =>
      let (least, rest) := rest.span Char.isDigit
      match rest with
      | ',' :: rest =>
          let (most, rest) := rest.span Char.isDigit
          match rest with
          | '\x7d' :: rest =>
              if least = [] ∨ most = [] then none
              else some ((Nat.ofDigitChars 10 least 0, Nat.ofDigitChars 10 most 0), rest)
          | _ => none
      | _ => none
  | '*' :: _ | '+' :: _ | '?' :: _ => none
  | rest => some ((1, 1), rest)

def parsePieces : Nat → List Char → Option (List Piece)
  | _, [] => some []
  | 0, _ :: _ => none
  | fuel + 1, '^' :: rest => do
      let pieces ← parsePieces fuel rest
      return .start :: pieces
  | fuel + 1, '$' :: rest => do
      let pieces ← parsePieces fuel rest
      return .stop :: pieces
  | fuel + 1, body => do
      let (ranges, rest) ← parseAtom body
      let ((least, most), rest) ← parseCount rest
      let pieces ← parsePieces fuel rest
      return .units ranges least most :: pieces

def parseRegex (body : List Char) : Option (List Piece) :=
  parsePieces body.length body

/-- A match of some beginning of the text; `first` says whether the text is
there from its first unit. -/
def matchesAt : List Piece → (first : Bool) → Text → Bool
  | [], _, _ => true
  | .start :: pieces, first, text => first && matchesAt pieces first text
  | .stop :: pieces, first, text => text.isEmpty && matchesAt pieces first text
  | .units ranges least most :: pieces, first, text =>
      (List.range (min most text.length + 1)).any fun count =>
        decide (least ≤ count) && (text.take count).all (inRanges ranges) &&
          matchesAt pieces (first && count = 0) (text.drop count)

/-- `RegExp.prototype.test`. -/
def test (pieces : List Piece) (text : Text) : Bool :=
  (List.range (text.length + 1)).any fun skipped =>
    matchesAt pieces (skipped = 0) (text.drop skipped)

theorem test_start (pieces : List Piece) (text : Text) :
    test (.start :: pieces) text = matchesAt pieces true text := by
  rw [test, Bool.eq_iff_iff, List.any_eq_true]
  constructor
  · intro found
    obtain ⟨skipped, _, found⟩ := found
    rw [matchesAt, Bool.and_eq_true, decide_eq_true_iff] at found
    obtain ⟨rfl, found⟩ := found
    exact found
  · intro found
    exact ⟨0, by simp, by simpa [matchesAt] using found⟩

theorem matchesAt_stop {first : Bool} {text : Text} :
    matchesAt [.stop] first text = true ↔ text = [] := by
  simp [matchesAt]

theorem matchesAt_units {ranges : List (UInt16 × UInt16)} {least most : Nat} {pieces : List Piece}
    {first : Bool} {text : Text} :
    matchesAt (.units ranges least most :: pieces) first text = true ↔
      ∃ front back, text = front ++ back ∧ least ≤ front.length ∧ front.length ≤ most ∧
        (∀ code ∈ front, inRanges ranges code = true) ∧
        matchesAt pieces (first && front.length = 0) back = true := by
  simp only [matchesAt, List.any_eq_true, List.mem_range, Bool.and_eq_true, decide_eq_true_iff,
    List.all_eq_true]
  constructor
  · intro found
    obtain ⟨count, bound, ⟨enough, inside⟩, rest⟩ := found
    have sized : (text.take count).length = count := by
      rw [List.length_take]
      omega
    exact ⟨text.take count, text.drop count, (List.take_append_drop count text).symm,
      by omega, by omega, inside, by rwa [sized]⟩
  · intro found
    obtain ⟨front, back, rfl, enough, bound, inside, rest⟩ := found
    exact ⟨front.length, by rw [List.length_append]; omega,
      ⟨enough, by rwa [List.take_left]⟩, by rwa [List.drop_left]⟩

end CovertConnect.Data.JavaScript
