import CovertConnect.Data.Bytes

namespace CovertConnect.Data

/-! Where a header of text lines ends: at the second of two line feeds that
have nothing but carriage returns between them. -/

def lineFeed : UInt8 := 10

def carriageReturn : UInt8 := 13

def crlf : Bytes := [carriageReturn, lineFeed]

/-- The line feeds in a row after one more byte. -/
def lfAfter (lfInRow : Nat) (byte : UInt8) : Nat :=
  if byte = lineFeed then lfInRow + 1
  else if byte ≠ carriageReturn then 0
  else lfInRow

def lfInRow (bytes : Bytes) : Nat :=
  bytes.foldl lfAfter 0

theorem lfInRow_snoc (bytes : Bytes) (byte : UInt8) :
    lfInRow (bytes ++ [byte]) = lfAfter (lfInRow bytes) byte := by
  simp [lfInRow]

/-- The header ends with its last byte and not before. -/
structure EndsHeader (header : Bytes) : Prop where
  whole : 2 ≤ lfInRow header
  before : ∀ size, size < header.length → lfInRow (header.take size) < 2

namespace EndsHeader

variable {header : Bytes}

/-- Whoever has read a part of a header and not seen its end has not read all
of it. -/
theorem short_of (ends : EndsHeader header) (size : Nat)
    (open_ : lfInRow (header.take size) < 2) : size < header.length := by
  by_contra reached
  rw [List.take_of_length_le (Nat.le_of_not_lt reached)] at open_
  exact absurd ends.whole (Nat.not_le.mpr open_)

theorem size_of (ends : EndsHeader header) {size : Nat} (within : size ≤ header.length)
    (closed : 2 ≤ lfInRow (header.take size)) : size = header.length := by
  by_contra other
  have short := ends.before size (by omega)
  omega

theorem nonempty (ends : EndsHeader header) : 0 < header.length :=
  ends.short_of 0 (by simp [lfInRow])

end EndsHeader

/-- A line without its end. -/
structure IsLine (line : Bytes) : Prop where
  nonempty : line ≠ []
  noFeed : lineFeed ∉ line
  noReturn : carriageReturn ∉ line

def body (lines : List Bytes) : Bytes :=
  lines.flatMap (· ++ crlf)

theorem line_count {line : Bytes} (noFeed : lineFeed ∉ line) (noReturn : carriageReturn ∉ line)
    (count : Nat) : line.foldl lfAfter count = if line = [] then count else 0 := by
  induction line generalizing count with
  | nil => rfl
  | cons byte line ih =>
      have noFeedHere : byte ≠ lineFeed := fun same => noFeed (by rw [same]; exact List.mem_cons_self)
      have noReturnHere : byte ≠ carriageReturn :=
        fun same => noReturn (by rw [same]; exact List.mem_cons_self)
      have head : lfAfter count byte = 0 := by
        rw [lfAfter, if_neg noFeedHere, if_pos noReturnHere]
      rw [List.foldl_cons, head, ih (fun member => noFeed (List.mem_cons_of_mem _ member))
        (fun member => noReturn (List.mem_cons_of_mem _ member))]
      simp

theorem line_count_take {line : Bytes} (isLine : IsLine line) {count : Nat} (small : count < 2)
    (size : Nat) : ((line ++ crlf).take size).foldl lfAfter count < 2 := by
  rw [List.take_append, List.foldl_append]
  have front : (line.take size).foldl lfAfter count < 2 := by
    rw [line_count (fun member => isLine.noFeed (List.mem_of_mem_take member))
      (fun member => isLine.noReturn (List.mem_of_mem_take member))]
    split <;> omega
  by_cases inside : size ≤ line.length
  · simpa [Nat.sub_eq_zero_of_le inside] using front
  · rw [List.take_of_length_le (by omega), line_count isLine.noFeed isLine.noReturn,
      if_neg isLine.nonempty]
    have rest : size - line.length = 1 ∨ 2 ≤ size - line.length := by omega
    rcases rest with one | more
    · rw [one]
      decide
    · rw [List.take_of_length_le (show crlf.length ≤ _ from more)]
      decide

theorem body_count {lines : List Bytes} (isLine : ∀ line ∈ lines, IsLine line) {count : Nat}
    (small : count < 2) : (∀ size, ((body lines).take size).foldl lfAfter count < 2) ∧
      (lines ≠ [] → (body lines).foldl lfAfter count = 1) := by
  induction lines generalizing count with
  | nil => exact ⟨fun size => by simpa [body] using small, fun some => absurd rfl some⟩
  | cons line lines ih =>
      have first := isLine line List.mem_cons_self
      have after : (line ++ crlf).foldl lfAfter count = 1 := by
        rw [List.foldl_append, line_count first.noFeed first.noReturn, if_neg first.nonempty]
        decide
      obtain ⟨before, last⟩ := ih (fun line member => isLine line (List.mem_cons_of_mem _ member))
        (show 1 < 2 by decide)
      have split : body (line :: lines) = (line ++ crlf) ++ body lines := List.flatMap_cons
      rw [split]
      constructor
      · intro size
        rw [List.take_append, List.foldl_append]
        by_cases inside : size ≤ (line ++ crlf).length
        · rw [Nat.sub_eq_zero_of_le inside]
          exact line_count_take first small size
        · rw [List.take_of_length_le (by omega), after]
          exact before _
      · intro _
        rw [List.foldl_append, after]
        by_cases none : lines = []
        · subst none
          rfl
        · exact last none

theorem lines_endHeader {lines : List Bytes} (some : lines ≠ [])
    (isLine : ∀ line ∈ lines, IsLine line) : EndsHeader (body lines ++ crlf) := by
  obtain ⟨before, last⟩ := body_count isLine (show 0 < 2 by decide)
  have count : lfInRow (body lines) = 1 := last some
  constructor
  · rw [lfInRow, List.foldl_append, ← lfInRow, count]
    decide
  · intro size short
    rw [List.length_append] at short
    rw [lfInRow, List.take_append, List.foldl_append]
    by_cases inside : size ≤ (body lines).length
    · simpa [Nat.sub_eq_zero_of_le inside] using before size
    · have one : size - (body lines).length = 1 := by
        simp only [crlf, List.length_cons, List.length_nil] at short
        omega
      rw [List.take_of_length_le (by omega), ← lfInRow, count, one]
      decide

theorem utf8Bytes_append (front back : String) :
    utf8Bytes (front ++ back) = utf8Bytes front ++ utf8Bytes back := by
  simp [utf8Bytes, String.toByteArray_append, ByteArray.data_append]

theorem utf8Bytes_flatMap (text : String) :
    utf8Bytes text = text.toList.flatMap String.utf8EncodeChar := by
  rw [utf8Bytes, ← String.utf8Encode_toList, List.utf8Encode]
  simp

/-- A byte below 128 stands for itself. -/
theorem mem_utf8EncodeChar {char : Char} {byte : UInt8} (ascii : byte.toNat < 128)
    (member : byte ∈ String.utf8EncodeChar char) : char.val.toNat = byte.toNat := by
  unfold String.utf8EncodeChar at member
  dsimp only at member
  split at member
  · rename_i small
    rw [List.mem_singleton.mp member, UInt8.toNat_ofNat']
    omega
  · exfalso
    have high : 128 ≤ byte.toNat := by
      split at member
      · simp only [List.mem_cons, List.not_mem_nil, or_false] at member
        rcases member with rfl | rfl <;> rw [UInt8.toNat_ofNat'] <;> omega
      · split at member
        · simp only [List.mem_cons, List.not_mem_nil, or_false] at member
          rcases member with rfl | rfl | rfl <;> rw [UInt8.toNat_ofNat'] <;> omega
        · simp only [List.mem_cons, List.not_mem_nil, or_false] at member
          rcases member with rfl | rfl | rfl | rfl <;> rw [UInt8.toNat_ofNat'] <;> omega
    omega

theorem mem_utf8Bytes {text : String} {char : Char} {byte : UInt8} (ascii : byte.toNat < 128)
    (same : char.val.toNat = byte.toNat) (missing : char ∉ text.toList) : byte ∉ utf8Bytes text := by
  rw [utf8Bytes_flatMap, List.mem_flatMap]
  intro given
  obtain ⟨other, inText, member⟩ := given
  have equal : other = char :=
    Char.ext (UInt32.toNat_inj.mp ((mem_utf8EncodeChar ascii member).trans same.symm))
  exact missing (equal ▸ inText)

end CovertConnect.Data
