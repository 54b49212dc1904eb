import CovertConnect.Data.JavaScript.Lexer
import CovertConnect.Data.Json

namespace CovertConnect.Data

open CovertConnect.Data.JavaScript (utf16)
open CovertConnect.Data.Json (isHighSurrogate isLowSurrogate)

/-! # Code units back to characters -/

/-- The character of a code unit that is on its own; a surrogate is replaced. -/
def loneUnit (code : UInt16) : Char :=
  if isHighSurrogate code || isLowSurrogate code then Char.ofNat 0xFFFD else Char.ofNat code.toNat

def pairUnits (high low : UInt16) : Char :=
  Char.ofNat (0x10000 + (high.toNat - 0xD800) * 0x400 + (low.toNat - 0xDC00))

def fromUtf16 : Text → List Char
  | [] => []
  | [code] => [loneUnit code]
  | code :: next :: rest =>
      if isHighSurrogate code && isLowSurrogate next then pairUnits code next :: fromUtf16 rest
      else loneUnit code :: fromUtf16 (next :: rest)

theorem fromUtf16_lone {code : UInt16} (lone : isHighSurrogate code = false) (rest : Text) :
    fromUtf16 (code :: rest) = loneUnit code :: fromUtf16 rest := by
  cases rest with
  | nil => rfl
  | cons next rest => rw [fromUtf16, lone, Bool.false_and, if_neg Bool.false_ne_true]

theorem char_bounds (char : Char) :
    char.toNat < 0xD800 ∨ 0xDFFF < char.toNat ∧ char.toNat < 0x110000 :=
  char.valid

theorem fromUtf16_char (char : Char) (rest : Text) :
    fromUtf16 (utf16 char ++ rest) = char :: fromUtf16 rest := by
  have bounds := char_bounds char
  rw [utf16]
  split
  · rename_i basic
    have code : (unit char).toNat = char.toNat := by
      rw [unit, UInt16.toNat_ofNat']
      exact Nat.mod_eq_of_lt basic
    have high : isHighSurrogate (unit char) = false := by
      rw [isHighSurrogate, Bool.and_eq_false_iff, decide_eq_false_iff_not, decide_eq_false_iff_not,
        UInt16.le_iff_toNat_le, UInt16.lt_iff_toNat_lt, code]
      change ¬ 0xD800 ≤ char.toNat ∨ ¬ char.toNat < 0xDC00
      omega
    have low : isLowSurrogate (unit char) = false := by
      rw [isLowSurrogate, Bool.and_eq_false_iff, decide_eq_false_iff_not, decide_eq_false_iff_not,
        UInt16.le_iff_toNat_le, UInt16.lt_iff_toNat_lt, code]
      change ¬ 0xDC00 ≤ char.toNat ∨ ¬ char.toNat < 0xE000
      omega
    rw [List.cons_append, List.nil_append, fromUtf16_lone high, loneUnit, high, low, Bool.or_false,
      if_neg Bool.false_ne_true, code, Char.ofNat_toNat]
  · rename_i astral
    have first : (0xD800 + (char.toNat - 0x10000) / 0x400).toUInt16.toNat =
        0xD800 + (char.toNat - 0x10000) / 0x400 := by
      rw [UInt16.toNat_ofNat']
      exact Nat.mod_eq_of_lt (by omega)
    have second : (0xDC00 + (char.toNat - 0x10000) % 0x400).toUInt16.toNat =
        0xDC00 + (char.toNat - 0x10000) % 0x400 := by
      rw [UInt16.toNat_ofNat']
      exact Nat.mod_eq_of_lt (by omega)
    have high : isHighSurrogate (0xD800 + (char.toNat - 0x10000) / 0x400).toUInt16 = true := by
      rw [isHighSurrogate, Bool.and_eq_true, decide_eq_true_iff, decide_eq_true_iff,
        UInt16.le_iff_toNat_le, UInt16.lt_iff_toNat_lt, first]
      change 0xD800 ≤ _ ∧ _ < 0xDC00
      omega
    have low : isLowSurrogate (0xDC00 + (char.toNat - 0x10000) % 0x400).toUInt16 = true := by
      rw [isLowSurrogate, Bool.and_eq_true, decide_eq_true_iff, decide_eq_true_iff,
        UInt16.le_iff_toNat_le, UInt16.lt_iff_toNat_lt, second]
      change 0xDC00 ≤ _ ∧ _ < 0xE000
      omega
    have whole : 0x10000 + (0xD800 + (char.toNat - 0x10000) / 0x400 - 0xD800) * 0x400 +
        (0xDC00 + (char.toNat - 0x10000) % 0x400 - 0xDC00) = char.toNat := by
      omega
    rw [List.cons_append, List.cons_append, List.nil_append, fromUtf16, high, low, Bool.and_true,
      if_pos rfl, pairUnits, first, second, whole, Char.ofNat_toNat]

/-- The code units of characters are read back as these. -/
theorem fromUtf16_utf16 (chars : List Char) : fromUtf16 (chars.flatMap utf16) = chars := by
  induction chars with
  | nil => rfl
  | cons char chars ih => rw [List.flatMap_cons, fromUtf16_char, ih]

end CovertConnect.Data
