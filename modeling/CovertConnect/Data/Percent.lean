import CovertConnect.Data.Bytes

namespace CovertConnect.Data.Percent

/-! Percent-encoding, with a plus for a space as in the query of a form.

A byte that is an unreserved character stands for itself, and any other one is
written with two hexadecimal digits. -/

def isUnreserved (char : Char) : Bool :=
  char.isAlphanum || char ∈ ['-', '.', '_', '~']

def upperHex (digit : Nat) : Char :=
  Char.ofNat (if digit < 10 then 48 + digit else 55 + digit)

def hexValue (char : Char) : Option Nat :=
  if char.isDigit then some (char.toNat - 48)
  else if 'a' ≤ char ∧ char ≤ 'f' then some (char.toNat - 87)
  else if 'A' ≤ char ∧ char ≤ 'F' then some (char.toNat - 55)
  else none

def triplet (byte : UInt8) : List Char :=
  ['%', upperHex (byte.toNat / 16), upperHex (byte.toNat % 16)]

def encodeByte (byte : UInt8) : List Char :=
  let char := Char.ofNat byte.toNat
  if isUnreserved char then [char] else if byte = 32 then ['+'] else triplet byte

def encode (bytes : Bytes) : List Char :=
  bytes.flatMap encodeByte

/-- The byte of the escape whose percent sign stands in front of the text. -/
def escaped : List Char → Option Nat
  | first :: second :: _ => do return (← hexValue first) * 16 + (← hexValue second)
  | _ => none

/-- `skip` characters belong to an escape that is already read. -/
def decodeFrom : (text : List Char) → (skip : Nat) → Option Bytes
  | [], _ => some []
  | _ :: rest, skip + 1 => decodeFrom rest skip
  | char :: rest, 0 =>
      if char = '%' then
        (escaped rest).bind fun value => (decodeFrom rest 2).map (UInt8.ofNat value :: ·)
      else if char = '+' then (decodeFrom rest 0).map (32 :: ·)
      else if char.toNat < 128 then (decodeFrom rest 0).map (UInt8.ofNat char.toNat :: ·)
      else none

def decode (text : List Char) : Option Bytes :=
  decodeFrom text 0

/-- The characters that may stand for themselves are kept, the unreserved ones
are not escaped, and all the others are; escapes are in upper case. -/
def normalizeFrom (keeps : Char → Bool) (lower : Bool) : (text : List Char) → (skip : Nat) → List Char
  | [], _ => []
  | _ :: rest, skip + 1 => normalizeFrom keeps lower rest skip
  | char :: rest, 0 =>
      let cased (char : Char) := if lower then char.toLower else char
      if char = '%' then
        match escaped rest with
        | some value =>
            (if isUnreserved (Char.ofNat value) then [cased (Char.ofNat value)]
              else triplet (UInt8.ofNat value)) ++ normalizeFrom keeps lower rest 2
        | none => triplet 37 ++ normalizeFrom keeps lower rest 0
      else if keeps char then cased char :: normalizeFrom keeps lower rest 0
      else (utf8Bytes (String.singleton char)).flatMap triplet ++ normalizeFrom keeps lower rest 0

def normalize (keeps : Char → Bool) (lower : Bool) (text : List Char) : List Char :=
  normalizeFrom keeps lower text 0

/-- The characters of an encoded text. -/
def isEncoded (char : Char) : Bool :=
  isUnreserved char || char = '+' || char = '%'

theorem hexValue_upperHex : ∀ digit < 16, hexValue (upperHex digit) = some digit := by decide

theorem isUnreserved_upperHex : ∀ digit < 16, isUnreserved (upperHex digit) = true := by decide

theorem escaped_triplet (byte : UInt8) (rest : List Char) :
    escaped (upperHex (byte.toNat / 16) :: upperHex (byte.toNat % 16) :: rest) =
      some byte.toNat := by
  have bound := byte.toNat_lt
  have whole : byte.toNat / 16 * 16 + byte.toNat % 16 = byte.toNat := by omega
  rw [escaped, hexValue_upperHex _ (by omega), hexValue_upperHex _ (by omega)]
  exact congrArg some whole

/-- An unreserved character is a byte, and neither of the characters that stand
for something else. -/
theorem isUnreserved_bounds {char : Char} (unreserved : isUnreserved char = true) :
    char.toNat < 128 ∧ char ≠ '%' ∧ char ≠ '+' := by
  have small : char.toNat < 128 := by
    rw [isUnreserved, Bool.or_eq_true] at unreserved
    rcases unreserved with letter | mark
    · have ranges : (decide ('A'.val ≤ char.val ∧ char.val ≤ 'Z'.val) ||
          ('a'.val ≤ char.val && char.val ≤ 'z'.val) ||
          ('0'.val ≤ char.val && char.val ≤ '9'.val)) = true := letter
      simp only [Bool.or_eq_true, Bool.and_eq_true, decide_eq_true_eq,
        UInt32.le_iff_toNat_le] at ranges
      have upper : 'Z'.val.toNat = 90 := rfl
      have lower : 'z'.val.toNat = 122 := rfl
      have digit : '9'.val.toNat = 57 := rfl
      rw [Char.toNat]
      omega
    · simp only [List.mem_cons, List.not_mem_nil, or_false, decide_eq_true_eq] at mark
      rcases mark with rfl | rfl | rfl | rfl <;> decide
  refine ⟨small, ?_, ?_⟩ <;> exact fun same => absurd (same ▸ unreserved) (by decide)

theorem toNat_ofNat_byte (byte : UInt8) : (Char.ofNat byte.toNat).toNat = byte.toNat := by
  have valid : byte.toNat.isValidChar := .inl (Nat.lt_trans byte.toNat_lt (by decide))
  rw [Char.ofNat, dif_pos valid]
  rfl

theorem decodeFrom_encodeByte (byte : UInt8) (rest : List Char) :
    decodeFrom (encodeByte byte ++ rest) 0 = (decodeFrom rest 0).map (byte :: ·) := by
  rw [encodeByte]
  by_cases unreserved : isUnreserved (Char.ofNat byte.toNat) = true
  · obtain ⟨small, notPercent, notPlus⟩ := isUnreserved_bounds unreserved
    rw [if_pos unreserved, List.singleton_append, decodeFrom, if_neg notPercent, if_neg notPlus,
      if_pos small, toNat_ofNat_byte, UInt8.ofNat_toNat]
  · rw [if_neg unreserved]
    by_cases space : byte = 32
    · rw [if_pos space, space, List.singleton_append, decodeFrom, if_neg (by decide), if_pos rfl]
    · rw [if_neg space, triplet, List.cons_append, decodeFrom, if_pos rfl]
      simp only [List.cons_append, List.nil_append, escaped_triplet, decodeFrom,
        Option.bind_some, UInt8.ofNat_toNat]

theorem decode_encode (bytes : Bytes) : decode (encode bytes) = some bytes := by
  induction bytes with
  | nil => rfl
  | cons byte bytes ih =>
      rw [decode, encode, List.flatMap_cons, decodeFrom_encodeByte, ← encode, ← decode, ih]
      rfl

theorem isEncoded_encode {bytes : Bytes} {char : Char} (there : char ∈ encode bytes) :
    isEncoded char = true := by
  obtain ⟨byte, _, inByte⟩ := List.mem_flatMap.mp there
  have bound := byte.toNat_lt
  rw [encodeByte] at inByte
  split at inByte
  · rename_i unreserved
    obtain rfl := List.mem_singleton.mp inByte
    simp [isEncoded, unreserved]
  · split at inByte
    · obtain rfl := List.mem_singleton.mp inByte
      rfl
    · simp only [triplet, List.mem_cons, List.not_mem_nil, or_false] at inByte
      rcases inByte with rfl | rfl | rfl
      · rfl
      · simp [isEncoded, isUnreserved_upperHex (byte.toNat / 16) (by omega)]
      · simp [isEncoded, isUnreserved_upperHex (byte.toNat % 16) (by omega)]

/-- In front of any other text too, the text is left as it is. -/
def Normal (keeps : Char → Bool) (lower : Bool) (text : List Char) : Prop :=
  ∀ rest, normalizeFrom keeps lower (text ++ rest) 0 = text ++ normalizeFrom keeps lower rest 0

variable {keeps : Char → Bool} {lower : Bool} {front back text : List Char}

theorem Normal.normalize (normal : Normal keeps lower text) :
    Percent.normalize keeps lower text = text := by
  have whole := normal []
  rwa [List.append_nil, normalizeFrom, List.append_nil] at whole

theorem Normal.nil : Normal keeps lower [] := fun _ => rfl

theorem Normal.append (first : Normal keeps lower front) (second : Normal keeps lower back) :
    Normal keeps lower (front ++ back) := by
  intro rest
  rw [List.append_assoc, first, second, List.append_assoc]

theorem Normal.cons {char : Char}
    (kept : keeps char = true ∧ char ≠ '%' ∧ (lower = true → char.toLower = char))
    (normal : Normal keeps lower text) : Normal keeps lower (char :: text) := by
  intro rest
  rw [List.cons_append, normalizeFrom, if_neg kept.2.1, if_pos kept.1, normal]
  cases lower with
  | false => rfl
  | true => simp [kept.2.2]

theorem Normal.kept
    (all : ∀ char ∈ text, keeps char = true ∧ char ≠ '%' ∧ (lower = true → char.toLower = char)) :
    Normal keeps lower text := by
  induction text with
  | nil => exact .nil
  | cons char text ih =>
      exact .cons (all char List.mem_cons_self)
        (ih fun other there => all other (List.mem_cons_of_mem _ there))

theorem normal_encodeByte (kept : ∀ char, isUnreserved char = true ∨ char = '+' → keeps char = true)
    (byte : UInt8) : Normal keeps false (encodeByte byte) := by
  rw [encodeByte]
  by_cases unreserved : isUnreserved (Char.ofNat byte.toNat) = true
  · rw [if_pos unreserved]
    exact .cons ⟨kept _ (.inl unreserved), (isUnreserved_bounds unreserved).2.1, nofun⟩ .nil
  · rw [if_neg unreserved]
    by_cases space : byte = 32
    · rw [if_pos space]
      exact .cons ⟨kept _ (.inr rfl), by decide, nofun⟩ .nil
    · intro rest
      rw [if_neg space, triplet, List.cons_append, normalizeFrom, if_pos rfl]
      simp only [List.cons_append, List.nil_append, escaped_triplet, normalizeFrom,
        if_neg unreserved, UInt8.ofNat_toNat]
      rfl

theorem normal_encode (kept : ∀ char, isUnreserved char = true ∨ char = '+' → keeps char = true)
    (bytes : Bytes) : Normal keeps false (encode bytes) := by
  induction bytes with
  | nil => exact .nil
  | cons byte bytes ih => exact (normal_encodeByte kept byte).append ih

end CovertConnect.Data.Percent
