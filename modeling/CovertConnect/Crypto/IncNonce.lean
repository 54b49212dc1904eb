import CovertConnect.Crypto.Cipher

namespace CovertConnect.Crypto

open CovertConnect.Data

/-! # `inc_nonce` on machine words

`Nonce.inc` adds numbers of any size.  The loop of the source has 16-bit words, a
32-bit sum and casts that truncate, and it would panic where a sum overflows or a
word is cut short. -/

/-- `u16::from_le_bytes(word) as u32`. -/
def wordAt (low high : UInt8) : UInt32 :=
  (UInt16.ofNat (leNat [low, high])).toUInt32

/-- `left + right`, where an overflow is checked for. -/
def checkedAdd {ε : Type} (left right : UInt32) : Outcome ε UInt32 :=
  if left.toNat + right.toNat < 2 ^ 32 then .ok (left + right)
  else .panic "attempt to add with overflow"

/-- The loop over `rest`. -/
def incWords {ε : Type} : (rest : Bytes) → (add : UInt32) → Outcome ε Bytes
  | [], _ => .ok []
  | [byte], add => if 0 < add then .panic "mid > len" else .ok [byte]
  | low :: high :: rest, add =>
      if 0 < add then do
        let sum ← checkedAdd (wordAt low high) add
        let rest ← incWords rest (sum >>> 16)
        return leBytes 2 sum.toUInt16.toNat ++ rest
      else .ok (low :: high :: rest)

/-- `Cipher::inc_nonce`: both kinds of ciphers hand their nonce out as a slice. -/
def Cipher.incNonceWords {ε : Type} (cipher : Cipher) (value : UInt16) : Outcome ε Bytes :=
  match cipher.kind with
  | .aes256Gcm => incWords cipher.nonce.bytes value.toUInt32
  | .chaCha20Poly1305 => incWords cipher.nonce.bytes value.toUInt32

theorem leNat_word (low high : UInt8) : leNat [low, high] < 2 ^ 16 := by
  have lowSmall := low.toNat_lt
  have highSmall := high.toNat_lt
  simp only [leNat]
  omega

theorem wordAt_toNat (low high : UInt8) : (wordAt low high).toNat = leNat [low, high] := by
  rw [wordAt, UInt16.toNat_toUInt32, UInt16.toNat_ofNat', Nat.mod_eq_of_lt (leNat_word low high)]

theorem checkedAdd_ok {ε : Type} {left right : UInt32} (fits : left.toNat + right.toNat < 2 ^ 32) :
    (checkedAdd left right : Outcome ε UInt32) = .ok (left + right) ∧
      (left + right).toNat = left.toNat + right.toNat := by
  rw [checkedAdd, if_pos fits, UInt32.toNat_add, Nat.mod_eq_of_lt fits]
  exact ⟨rfl, rfl⟩

/-- Only the low bytes of a number are written. -/
theorem leBytes_mod (width value : Nat) :
    leBytes width (value % 256 ^ width) = leBytes width value := by
  apply leNat_injective
  · rw [leBytes_length, leBytes_length]
  · rw [leNat_leBytes, leNat_leBytes, Nat.mod_mod]

/-- A carry is at most one, so no sum overflows. -/
theorem incWords_eq {ε : Type} {bytes : Bytes} {add : UInt32} (even : bytes.length % 2 = 0)
    (small : add.toNat < 2 ^ 16) :
    (incWords bytes add : Outcome ε Bytes) = .ok (addWords bytes add.toNat) := by
  fun_induction @incWords ε bytes add with
  | case1 => simp [addWords]
  | case2 | case3 => simp at even
  | case4 low high rest add positive ih =>
      have word := wordAt_toNat low high
      have bound := leNat_word low high
      obtain ⟨added, sum⟩ := @checkedAdd_ok ε (wordAt low high) add (by omega)
      have carry : ((wordAt low high + add) >>> 16).toNat = (leNat [low, high] + add.toNat) >>> 16 := by
        rw [UInt32.toNat_shiftRight, sum, word]
        rfl
      have small' : ((wordAt low high + add) >>> 16).toNat < 2 ^ 16 := by
        rw [carry, Nat.shiftRight_eq_div_pow]
        omega
      have even' : rest.length % 2 = 0 := by
        simp only [List.length_cons] at even
        omega
      have positive' : add.toNat ≠ 0 := Nat.ne_of_gt positive
      rw [added, Outcome.ok_bind, ih _ even' small', Outcome.ok_bind, addWords, if_neg positive',
        carry]
      dsimp only
      rw [UInt32.toNat_toUInt16, sum, word, show 2 ^ 16 = 256 ^ 2 from rfl, leBytes_mod]
      rfl
  | case5 low high rest add nothing =>
      have zero : add.toNat = 0 := Nat.eq_zero_of_not_pos nothing
      rw [addWords, if_pos zero]

namespace Cipher

theorem incNonceWords_eq {ε : Type} (cipher : Cipher) (value : UInt16) :
    (cipher.incNonceWords value : Outcome ε Bytes) =
      .ok (cipher.incNonce value.toNat).nonce.bytes := by
  have even : cipher.nonce.bytes.length % 2 = 0 := by rw [cipher.nonce.length_eq]
  have small : value.toUInt32.toNat < 2 ^ 16 := by
    rw [UInt16.toNat_toUInt32]
    exact value.toNat_lt
  have words := @incWords_eq ε _ _ even small
  rw [UInt16.toNat_toUInt32] at words
  rw [incNonceWords]
  cases cipher.kind <;> exact words

/-- The nonce is a little-endian counter of 96 bits. -/
theorem incNonceWords_exact {ε : Type} (cipher : Cipher) (value : UInt16) :
    (cipher.incNonceWords value : Outcome ε Bytes) =
      .ok (leBytes 12 ((leNat cipher.nonce.bytes + value.toNat) % 2 ^ 96)) := by
  have counted : leNat (cipher.incNonce value.toNat).nonce.bytes =
      (leNat cipher.nonce.bytes + value.toNat) % 2 ^ 96 := cipher.nonce.toNat_inc value.toNat
  have encoded := leBytes_leNat (cipher.incNonce value.toNat).nonce.bytes
  rw [(cipher.incNonce value.toNat).nonce.length_eq, counted] at encoded
  rw [incNonceWords_eq, encoded]

end Cipher

end CovertConnect.Crypto
