import CovertConnect.Crypto.Config
import Mathlib.Data.Nat.Digits.Defs

namespace CovertConnect.Crypto

/-! # Reading a protocol configuration

The reader of the configuration text hands a document over: a value for each
entry that it found, names of variants looked up and unknown entries refused.
A document is then read into a `ProtocolConfig` entry by entry. -/

def digitsValue (bound : Nat) : (value : Nat) → List Char → Except String Nat
  | value, [] => .ok value
  | value, char :: rest =>
      if char.isDigit then
        let next := 10 * value + (char.toNat - '0'.toNat)
        if bound < next then .error "number too large to fit in target type"
        else digitsValue bound next rest
      else .error "invalid digit found in string"

/-- A plus sign may stand before a digit. -/
def skipPlus : List Char → List Char
  | '+' :: digit :: digits => digit :: digits
  | text => text

def parseU16 (text : List Char) : Except String UInt16 :=
  if text = [] then .error "cannot parse integer from empty string"
  else (digitsValue 0xFFFF 0 (skipPlus text)).map UInt16.ofNat

/-- `text.split("..")`. -/
def splitDots : List Char → List (List Char)
  | '.' :: '.' :: rest => [] :: splitDots rest
  | char :: rest =>
      match splitDots rest with
      | part :: parts => (char :: part) :: parts
      | [] => [[char]]
  | [] => [[]]

def quote (text : String) : String := "\"" ++ text ++ "\""

def rangeFromHumanReadable (text : String) : Except String PaddingRange :=
  match splitDots text.toList with
  | [] => .error ("range not found in " ++ quote text)
  | [_] => .error ("range end not found in " ++ quote text)
  | _ :: _ :: _ :: _ => .error ("only one range allowed: " ++ quote text)
  | [startStr, endStr] =>
      match parseU16 startStr, parseU16 endStr with
      | .error err, _ | .ok _, .error err =>
          .error ("parse range " ++ quote text ++ " err: " ++ err)
      | .ok start, .ok stop => .ok ⟨start, stop⟩

def rangeToHumanReadable (value : PaddingRange) : String :=
  Nat.repr value.start.toNat ++ ".." ++ Nat.repr value.stop.toNat

theorem digitsValue_ofDigitChars {bound value : Nat} {digits : List Char}
    (decimal : ∀ char ∈ digits, char.isDigit = true)
    (small : Nat.ofDigitChars 10 digits value ≤ bound) :
    digitsValue bound value digits = .ok (Nat.ofDigitChars 10 digits value) := by
  induction digits generalizing value with
  | nil => rfl
  | cons char digits ih =>
      have digit := decimal char List.mem_cons_self
      rw [Nat.ofDigitChars_cons] at small ⊢
      have grows := @Nat.ofDigitChars_eq_ofDigitChars_zero digits
        (10 * value + (char.toNat - '0'.toNat))
      have positive : 1 ≤ 10 ^ digits.length := Nat.one_le_pow _ _ (by decide)
      have below : ¬ bound < 10 * value + (char.toNat - '0'.toNat) := by nlinarith
      rw [digitsValue, if_pos digit]
      dsimp only
      rw [if_neg below]
      exact ih (fun other there => decimal other (List.mem_cons_of_mem _ there)) small

theorem skipPlus_digits {digits : List Char} (decimal : ∀ char ∈ digits, char.isDigit = true) :
    skipPlus digits = digits := by
  unfold skipPlus
  split
  · exact absurd (decimal '+' List.mem_cons_self) (by decide)
  · rfl

theorem parseU16_repr (value : UInt16) : parseU16 (Nat.repr value.toNat).toList = .ok value := by
  have digits : (Nat.repr value.toNat).toList = Nat.toDigits 10 value.toNat := Nat.toList_repr
  have decimal : ∀ char ∈ Nat.toDigits 10 value.toNat, char.isDigit = true :=
    fun char there => Nat.isDigit_of_mem_toDigits (by decide) (by decide) there
  have small : Nat.ofDigitChars 10 (Nat.toDigits 10 value.toNat) 0 ≤ 0xFFFF := by
    rw [Nat.ofDigitChars_ten_toDigits]
    exact Nat.le_of_lt_succ value.toNat_lt
  have read := digitsValue_ofDigitChars decimal small
  rw [Nat.ofDigitChars_ten_toDigits] at read
  rw [digits, parseU16, if_neg Nat.toDigits_ne_nil, skipPlus_digits decimal, read, Except.map,
    UInt16.ofNat_toNat]

theorem splitDots_solid {part : List Char} (solid : ∀ char ∈ part, char ≠ '.') :
    splitDots part = [part] := by
  induction part with
  | nil => rfl
  | cons char part ih =>
      have rest := ih fun other there => solid other (List.mem_cons_of_mem _ there)
      rw [splitDots, rest]
      intro tail dot
      exact absurd dot (solid char List.mem_cons_self)

theorem splitDots_append {front back : List Char} (solid : ∀ char ∈ front, char ≠ '.') :
    splitDots (front ++ '.' :: '.' :: back) = front :: splitDots back := by
  induction front with
  | nil => rw [List.nil_append, splitDots]
  | cons char front ih =>
      have rest := ih fun other there => solid other (List.mem_cons_of_mem _ there)
      rw [List.cons_append, splitDots, rest]
      intro tail dot
      exact absurd dot (solid char List.mem_cons_self)

/-- Every pair of bounds can be written down, in either order. -/
theorem rangeFromHumanReadable_rangeToHumanReadable (value : PaddingRange) :
    rangeFromHumanReadable (rangeToHumanReadable value) = .ok value := by
  have solid : ∀ number : Nat, ∀ char ∈ (Nat.repr number).toList, char ≠ '.' := by
    intro number char there dot
    rw [Nat.toList_repr] at there
    have digit := Nat.isDigit_of_mem_toDigits (by decide) (by decide) there
    rw [dot] at digit
    exact absurd digit (by decide)
  have parts : splitDots (rangeToHumanReadable value).toList =
      [(Nat.repr value.start.toNat).toList, (Nat.repr value.stop.toNat).toList] := by
    rw [rangeToHumanReadable, String.toList_append, String.toList_append, List.append_assoc]
    exact (splitDots_append (solid _)).trans (congrArg _ (splitDots_solid (solid _)))
  rw [rangeFromHumanReadable, parts]
  simp only [parseU16_repr]

/-- An entry that has to be there. -/
def required {α : Type} (name : String) : Option α → Except String α
  | some value => .ok value
  | none => .error ("missing field `" ++ name ++ "`")

/-- `expected` names the type that the number does not fit into. -/
def unsigned (bound : Nat) (expected : String) (value : Int) : Except String Nat :=
  if 0 ≤ value ∧ value ≤ bound then .ok value.toNat
  else .error ("invalid value: integer `" ++ toString value ++ "`, expected " ++ expected)

def u8Value (value : Int) : Except String UInt8 :=
  (unsigned 0xFF "u8" value).map UInt8.ofNat

def u16Value (value : Int) : Except String UInt16 :=
  (unsigned 0xFFFF "u16" value).map UInt16.ofNat

def usizeValue (value : Int) : Except String UInt64 :=
  (unsigned (2 ^ 64 - 1) "usize" value).map UInt64.ofNat

structure DataPaddingDocument where
  max : Option Int
  rate : Option Int
deriving DecidableEq, Repr

structure ProtocolDocument where
  key : Option String
  kdf : Option Kdf
  cipher : Option CipherType
  maxConnectDelay : Option Int
  headerPadding : Option String
  dataPadding : Option DataPaddingDocument
  encryptionLimit : Option Int
deriving DecidableEq, Repr

def defaultMaxConnectDelay : UInt16 := 10000
def defaultHeaderPadding : PaddingRange := ⟨50, 777⟩
def defaultKdf : Kdf := .argon2
def defaultCipher : CipherType := .aes256Gcm
def defautEncryptionLimit : UInt64 := UInt64.ofNat (2 ^ 64 - 1)
def defaultDataPadding : DataPadding := ⟨255, 20⟩

def DataPadding.deserialize (document : DataPaddingDocument) : Except String DataPadding := do
  let max ← u16Value (← required "max" document.max)
  let rate ← u8Value (← required "rate" document.rate)
  if 100 < rate then throw "Padding rate is to high. Max value is 100."
  return { max, rate }

/-- An entry with a default for its absence. -/
def optional {α β : Type} (default : β) (read : α → Except String β) : Option α → Except String β
  | some value => read value
  | none => .ok default

def ProtocolConfig.deserialize (document : ProtocolDocument) : Except String ProtocolConfig := do
  let key ← required "key" document.key
  let maxConnectDelay ← optional defaultMaxConnectDelay u16Value document.maxConnectDelay
  let headerPadding ← optional defaultHeaderPadding rangeFromHumanReadable document.headerPadding
  let dataPadding ← optional defaultDataPadding DataPadding.deserialize document.dataPadding
  let encryptionLimit ← optional defautEncryptionLimit usizeValue document.encryptionLimit
  return {
    key
    kdf := document.kdf.getD defaultKdf
    cipher := document.cipher.getD defaultCipher
    maxConnectDelay, headerPadding, dataPadding, encryptionLimit }

def DataPadding.serialize (padding : DataPadding) : DataPaddingDocument where
  max := some padding.max.toNat
  rate := some padding.rate.toNat

def ProtocolConfig.serialize (config : ProtocolConfig) : ProtocolDocument where
  key := some config.key
  kdf := some config.kdf
  cipher := some config.cipher
  maxConnectDelay := some config.maxConnectDelay.toNat
  headerPadding := some (rangeToHumanReadable config.headerPadding)
  dataPadding := some config.dataPadding.serialize
  encryptionLimit := some config.encryptionLimit.toNat

theorem unsigned_nat {bound value : Nat} (expected : String) (inside : value ≤ bound) :
    unsigned bound expected value = .ok value := by
  rw [unsigned, if_pos ⟨Int.natCast_nonneg value, Int.ofNat_le.mpr inside⟩, Int.toNat_natCast]

theorem u8Value_toNat (value : UInt8) : u8Value value.toNat = .ok value := by
  rw [u8Value, unsigned_nat _ (Nat.le_of_lt_succ value.toNat_lt), Except.map, UInt8.ofNat_toNat]

theorem u16Value_toNat (value : UInt16) : u16Value value.toNat = .ok value := by
  rw [u16Value, unsigned_nat _ (Nat.le_of_lt_succ value.toNat_lt), Except.map, UInt16.ofNat_toNat]

theorem usizeValue_toNat (value : UInt64) : usizeValue value.toNat = .ok value := by
  have inside : value.toNat ≤ 2 ^ 64 - 1 := Nat.le_of_lt_succ value.toNat_lt
  rw [usizeValue, unsigned_nat _ inside, Except.map, UInt64.ofNat_toNat]

theorem DataPadding.deserialize_serialize {padding : DataPadding} (rate : padding.rate ≤ 100) :
    DataPadding.deserialize padding.serialize = .ok padding := by
  have checked : ¬ 100 < padding.rate := UInt8.not_lt.mpr rate
  simp only [deserialize, serialize, required, u16Value_toNat, u8Value_toNat, bind, Except.bind,
    checked, if_false, pure, Except.pure]

/-- The loader refuses a padding rate above 100, and no other value of any
field. -/
theorem ProtocolConfig.deserialize_serialize {config : ProtocolConfig}
    (rate : config.dataPadding.rate ≤ 100) : deserialize config.serialize = .ok config := by
  simp only [deserialize, serialize, required, optional, u16Value_toNat, usizeValue_toNat,
    rangeFromHumanReadable_rangeToHumanReadable, DataPadding.deserialize_serialize rate, bind,
    Except.bind, Option.getD_some, pure, Except.pure]

end CovertConnect.Crypto
