import CovertConnect.Flutter.Serialization

namespace CovertConnect.Flutter

open CovertConnect.Data

/-! # Integers that Dart reads from a text

Integers have 64 bits. -/

def isWhitespace (code : UInt16) : Bool :=
  (0x09 ≤ code && code ≤ 0x0D) || (0x2000 ≤ code && code ≤ 0x200A) ||
    code ∈ [0x20, 0x85, 0xA0, 0x1680, 0x2028, 0x2029, 0x202F, 0x205F, 0x3000, 0xFEFF]

def trimWhitespace (source : Text) : Text :=
  ((source.dropWhile isWhitespace).reverse.dropWhile isWhitespace).reverse

def digitOf (radix : Nat) (code : UInt16) : Option Nat :=
  (Json.hexValue code).filter (· < radix)

/-- A hexadecimal number without a minus may fill all the 64 bits. -/
def parseRadix (radix : Nat) (negative : Bool) (digits : Text) : Option Int :=
  let value := digits.foldl (fun value code => value * radix + (digitOf radix code).getD 0) 0
  if digits = [] ∨ ¬digits.all (digitOf radix · |>.isSome) then none
  else if negative then
    if value ≤ 2 ^ 63 then some (-value) else none
  else if value < 2 ^ 63 then some value
  else if radix = 16 ∧ value < 2 ^ 64 then some (value - 2 ^ 64)
  else none

def tryParseInt (source : Text) : Option Int :=
  let (sign, digits) := Json.takeSign [unit '+', unit '-'] (trimWhitespace source)
  let negative := sign = some (unit '-')
  match digits with
  | zero :: mark :: rest =>
      if zero = unit '0' ∧ (mark = unit 'x' ∨ mark = unit 'X') then parseRadix 16 negative rest
      else parseRadix 10 negative digits
  | _ => parseRadix 10 negative digits

example : tryParseInt (ascii " -0x1f ") = some (-31) := by decide

/-- `int.parse`. -/
def parseInt (source : Text) : Except DartError Int :=
  match tryParseInt source with
  | some value => .ok value
  | none => .error .formatException

theorem isDigit_bounds {code : UInt16} (digit : Json.isDigit code = true) :
    unit '0' ≤ code ∧ code ≤ unit '9' := by
  simpa only [Json.isDigit, Bool.and_eq_true, decide_eq_true_iff] using digit

theorem digitOf_isDigit {code : UInt16} (digit : Json.isDigit code = true) :
    digitOf 10 code = some (code.toNat - 48) := by
  have bounds := isDigit_bounds digit
  have small : code.toNat ≤ 57 := UInt16.le_iff_toNat_le.mp bounds.2
  rw [digitOf, Json.hexValue, if_pos bounds, Option.filter_some, if_pos]
  simp
  omega

theorem parseRadix_digits {digits : Text} (all : ∀ code ∈ digits, Json.isDigit code = true) :
    parseRadix 10 false digits =
      if digits ≠ [] ∧ Json.digitsValue digits < 2 ^ 63 then some ↑(Json.digitsValue digits)
      else none := by
  have read : digits.all (digitOf 10 · |>.isSome) = true := by
    rw [List.all_eq_true]
    intro code there
    rw [digitOf_isDigit (all code there)]
    rfl
  have value : digits.foldl (fun value code => value * 10 + (digitOf 10 code).getD 0) 0 =
      Json.digitsValue digits := by
    rw [Json.digitsValue]
    exact List.foldl_ext _ _ _ fun value code there => by rw [digitOf_isDigit (all code there)]; rfl
  rw [parseRadix, value, read]
  by_cases empty : digits = []
  · simp [empty]
  · simp [empty]

theorem isWhitespace_isDigit {code : UInt16} (digit : Json.isDigit code = true) :
    isWhitespace code = false := by
  have bounds := isDigit_bounds digit
  have lower : 48 ≤ code.toNat := UInt16.le_iff_toNat_le.mp bounds.1
  have upper : code.toNat ≤ 57 := UInt16.le_iff_toNat_le.mp bounds.2
  simp [isWhitespace, UInt16.le_iff_toNat_le, ← UInt16.toNat_inj]
  omega

theorem tryParseInt_digits {source digits : Text} (signs : source = digits ∨ source = unit '+' :: digits)
    (all : ∀ code ∈ digits, Json.isDigit code = true) :
    tryParseInt source =
      if digits ≠ [] ∧ Json.digitsValue digits < 2 ^ 63 then some ↑(Json.digitsValue digits)
      else none := by
  have solid : ∀ code ∈ source, isWhitespace code = false := by
    intro code there
    rcases signs with rfl | rfl
    · exact isWhitespace_isDigit (all code there)
    · rcases List.mem_cons.mp there with rfl | there
      · rfl
      · exact isWhitespace_isDigit (all code there)
  have signed : ∃ sign, Json.takeSign [unit '+', unit '-'] source = (sign, digits) ∧
      sign ≠ some (unit '-') := by
    rcases signs with rfl | rfl
    · cases source with
      | nil => exact ⟨none, rfl, nofun⟩
      | cons code digits =>
          refine ⟨none, if_neg fun sign => ?_, nofun⟩
          have digit := all code List.mem_cons_self
          rcases List.mem_pair.mp sign with rfl | rfl <;> exact absurd digit (by decide)
    · exact ⟨some (unit '+'), by rw [Json.takeSign, if_pos List.mem_cons_self], by decide⟩
  obtain ⟨sign, taken, notMinus⟩ := signed
  rw [← parseRadix_digits all, tryParseInt, trimWhitespace,
    dropWhile_both_ends solid, taken]
  simp only [notMinus, decide_false]
  split
  · rename_i zero mark rest
    have digit := all mark (by simp)
    rw [if_neg]
    intro hex
    rcases hex.2 with rfl | rfl <;> exact absurd digit (by decide)
  · rfl

/-- Digits are read up to the largest integer. -/
theorem parseInt_digits_iff {digits : Text} (all : ∀ code ∈ digits, Json.isDigit code = true)
    {value : Int} :
    parseInt digits = .ok value ↔
      digits ≠ [] ∧ Json.digitsValue digits < 2 ^ 63 ∧ value = ↑(Json.digitsValue digits) := by
  rw [parseInt, tryParseInt_digits (.inl rfl) all]
  by_cases read : digits ≠ [] ∧ Json.digitsValue digits < 2 ^ 63
  · rw [if_pos read, and_iff_right read.1, and_iff_right read.2]
    simp [eq_comm]
  · rw [if_neg read, ← and_assoc, iff_false_right fun holds => read holds.1]
    simp

end CovertConnect.Flutter
