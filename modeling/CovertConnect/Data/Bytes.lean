import Mathlib.Data.List.Basic
import Mathlib.Tactic.Ring

namespace CovertConnect.Data

/-! Byte strings and fixed-width integer encodings.

A byte string is a list, and the little-endian value `leNat` is its meaning as
a number.  The big-endian codec is the little-endian one read backwards, so
the round trips below are proved once. -/

abbrev Bytes := List UInt8

/-- The `width` low bytes of `value`, least significant first. -/
def leBytes : Nat → Nat → Bytes
  | 0, _ => []
  | width + 1, value => UInt8.ofNat value :: leBytes width (value / 256)

def leNat : Bytes → Nat
  | [] => 0
  | byte :: rest => byte.toNat + 256 * leNat rest

/-- The `width` low bytes of `value`, most significant first. -/
def beBytes (width value : Nat) : Bytes :=
  (leBytes width value).reverse

def beNat (bytes : Bytes) : Nat :=
  leNat bytes.reverse

@[simp] theorem leBytes_length (width value : Nat) :
    (leBytes width value).length = width := by
  induction width generalizing value with
  | zero => rfl
  | succ width ih => simp [leBytes, ih]

@[simp] theorem beBytes_length (width value : Nat) :
    (beBytes width value).length = width := by
  simp [beBytes]

/-- Encoding keeps exactly the value modulo the width. -/
theorem leNat_leBytes (width value : Nat) :
    leNat (leBytes width value) = value % 256 ^ width := by
  induction width generalizing value with
  | zero => simp [leBytes, leNat, Nat.mod_one]
  | succ width ih =>
      simp only [leBytes, leNat, ih, UInt8.toNat_ofNat', Nat.reducePow]
      rw [Nat.pow_succ', Nat.mod_mul]

theorem beNat_beBytes (width value : Nat) :
    beNat (beBytes width value) = value % 256 ^ width := by
  simp [beNat, beBytes, leNat_leBytes]

theorem beNat_beBytes_of_lt {width value : Nat} (bound : value < 256 ^ width) :
    beNat (beBytes width value) = value := by
  rw [beNat_beBytes, Nat.mod_eq_of_lt bound]

theorem leNat_append (front back : Bytes) :
    leNat (front ++ back) = leNat front + 256 ^ front.length * leNat back := by
  induction front with
  | nil => simp [leNat]
  | cons byte front ih =>
      simp only [List.cons_append, leNat, ih, List.length_cons, Nat.pow_succ]
      ring

theorem leNat_lt (bytes : Bytes) : leNat bytes < 256 ^ bytes.length := by
  induction bytes with
  | nil => simp [leNat]
  | cons byte rest ih =>
      have small := byte.toNat_lt
      simp only [leNat, List.length_cons, Nat.pow_succ]
      omega

/-- Every byte string is the encoding of its own value. -/
theorem leBytes_leNat (bytes : Bytes) : leBytes bytes.length (leNat bytes) = bytes := by
  induction bytes with
  | nil => rfl
  | cons byte rest ih =>
      have small := byte.toNat_lt
      have head : UInt8.ofNat (byte.toNat + 256 * leNat rest) = byte := by
        apply UInt8.toNat_inj.mp
        simp only [UInt8.toNat_ofNat', Nat.reducePow]
        omega
      have tail : (byte.toNat + 256 * leNat rest) / 256 = leNat rest := by omega
      simp only [List.length_cons, leNat, leBytes, head, tail, ih]

theorem leNat_injective {left right : Bytes} (lengths : left.length = right.length)
    (values : leNat left = leNat right) : left = right := by
  rw [← leBytes_leNat left, ← leBytes_leNat right, lengths, values]

/-- Adding a number to a little-endian string, sixteen bits at a time, with
the carry handed on until it is used up or the string ends. -/
def addWords : Bytes → Nat → Bytes
  | low :: high :: rest, add =>
      if add = 0 then low :: high :: rest
      else
        let sum := leNat [low, high] + add
        leBytes 2 sum ++ addWords rest (sum >>> 16)
  | short, _ => short

@[simp] theorem addWords_length (bytes : Bytes) (add : Nat) :
    (addWords bytes add).length = bytes.length := by
  fun_induction addWords bytes add with
  | case1 => rfl
  | case2 low high rest add nonzero sum ih => simp [ih]; omega
  | case3 => rfl

/-- The carry loop adds modulo the size of the string. -/
theorem leNat_addWords {bytes : Bytes} (even : bytes.length % 2 = 0) (add : Nat) :
    leNat (addWords bytes add) = (leNat bytes + add) % 256 ^ bytes.length := by
  fun_induction addWords bytes add with
  | case1 low high rest =>
      exact (Nat.mod_eq_of_lt (leNat_lt _)).symm
  | case2 low high rest add nonzero sum ih =>
      have restEven : rest.length % 2 = 0 := by
        simp only [List.length_cons] at even
        omega
      have whole : leNat (low :: high :: rest) = leNat [low, high] + 65536 * leNat rest := by
        simp only [leNat]
        ring
      have modulus : 256 ^ (low :: high :: rest).length = 65536 * 256 ^ rest.length := by
        simp only [List.length_cons, Nat.pow_succ]
        ring
      rw [leNat_append, leNat_leBytes, ih restEven, leBytes_length, whole, modulus,
        Nat.mod_mul, Nat.shiftRight_eq_div_pow]
      have low16 : (leNat [low, high] + 65536 * leNat rest + add) % 65536 = sum % 256 ^ 2 := by
        omega
      have carry : (leNat [low, high] + 65536 * leNat rest + add) / 65536 =
          leNat rest + sum / 2 ^ 16 := by
        omega
      rw [low16, carry]
      rfl
  | case3 short add notPair =>
      match short, notPair, even with
      | [], _, _ => simp [leNat, Nat.mod_one]
      | [byte], _, even => simp at even
      | low :: high :: rest, notPair, _ => exact absurd rfl (notPair low high rest)

/-- `BytesMut::resize` with zeros. -/
def resize (bytes : Bytes) (size : Nat) : Bytes :=
  bytes.take size ++ List.replicate (size - bytes.length) 0

@[simp] theorem resize_length (bytes : Bytes) (size : Nat) : (resize bytes size).length = size := by
  simp only [resize, List.length_append, List.length_take, List.length_replicate]
  omega

theorem resize_grow {bytes : Bytes} {size : Nat} (grows : bytes.length ≤ size) :
    resize bytes size = bytes ++ List.replicate (size - bytes.length) 0 := by
  rw [resize, List.take_of_length_le grows]

/-- `str::as_bytes`. -/
def utf8Bytes (text : String) : Bytes :=
  text.toByteArray.data.toList

/-- `str::from_utf8`. -/
def fromUtf8 (bytes : Bytes) : Option String :=
  String.fromUTF8? bytes.toByteArray

theorem utf8Bytes_toByteArray (text : String) :
    (utf8Bytes text).toByteArray = text.toByteArray := by
  apply ByteArray.ext
  apply Array.ext'
  simp [utf8Bytes]

@[simp] theorem fromUtf8_utf8Bytes (text : String) : fromUtf8 (utf8Bytes text) = some text := by
  simp [fromUtf8, utf8Bytes_toByteArray, String.fromUTF8?, text.isValidUTF8, String.fromUTF8]

end CovertConnect.Data
