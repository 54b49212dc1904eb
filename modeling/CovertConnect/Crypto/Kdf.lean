import CovertConnect.Crypto.Cipher

namespace CovertConnect.Crypto

open CovertConnect.Data

/-! # Key derivation -/

inductive Kdf where
  | argon2
  | blake3
deriving DecidableEq, Repr

/-- The hash functions, as far as their interfaces fix them.  `argon2id` is
`Argon2::default()` with a 32-byte output buffer. -/
class Hashes where
  blake2b512 : Bytes → Bytes
  blake3 : Bytes → Bytes
  argon2id : (password salt : Bytes) → Bytes
  blake2b512_length : ∀ input, (blake2b512 input).length = 64
  blake3_length : ∀ input, (blake3 input).length = 32
  argon2id_length : ∀ password salt, (argon2id password salt).length = 32

/-- Bytes added up in `width` columns. -/
def folded (width : Nat) (bytes : Bytes) : Bytes :=
  (List.range width).map fun column =>
    bytes.zipIdx.foldl (fun total (byte, idx) => if idx % width = column then total + byte else total)
      0

/-- Hashes of the right lengths, to evaluate with. -/
@[reducible] def Hashes.folding : Hashes where
  blake2b512 := folded 64
  blake3 := folded 32
  argon2id password salt := folded 32 (password ++ salt)
  blake2b512_length _ := by simp [folded]
  blake3_length _ := by simp [folded]
  argon2id_length _ _ := by simp [folded]

def timeSalt : Bytes :=
  [
    0x5c, 0x98, 0x0b, 0xe0, 0x21, 0x98, 0x1e, 0x1f,
    0x3c, 0x17, 0xaf, 0x9b, 0x82, 0x30, 0xc0, 0x9d,
    0xf4, 0xa8, 0x31, 0x5d, 0x28, 0x79, 0xca, 0x0a,
    0xae, 0x50, 0xc0, 0xb9, 0x7a, 0x11, 0x35, 0x67]

def serverSalt : Bytes :=
  [
    0xb6, 0x7c, 0x91, 0x61, 0xf4, 0x8f, 0x1a, 0xa8,
    0xce, 0xa5, 0x36, 0xee, 0x2a, 0x73, 0x3a, 0xd7,
    0xb7, 0x2d, 0x24, 0x65, 0xfe, 0x10, 0x9a, 0xf8,
    0xff, 0xe1, 0xf8, 0x83, 0xf7, 0x57, 0x6d, 0xf6]

def clientSalt : Bytes :=
  [
    0xd1, 0x82, 0xa1, 0xc6, 0x2e, 0x00, 0x08, 0xba,
    0xcb, 0x12, 0xd2, 0x2e, 0xa1, 0x47, 0x38, 0xb7,
    0xeb, 0x99, 0x7f, 0xaa, 0x56, 0xf0, 0xf0, 0x8a,
    0x42, 0x70, 0xf1, 0xd1, 0x9f, 0xcf, 0x87, 0xe3]

def httpsPathSalt : Bytes :=
  [
    0xc0, 0x8d, 0x71, 0x2e, 0x6b, 0xa7, 0x9c, 0xde,
    0xb8, 0x37, 0x69, 0xf3, 0xbc, 0x9c, 0xd7, 0xee,
    0x6a, 0x27, 0x77, 0xe1, 0x1b, 0xeb, 0x3b, 0x96,
    0x69, 0x1f, 0xad, 0x25, 0x5d, 0xad, 0x12, 0xb8]

def protocolResponseSalt : Bytes :=
  [
    0x33, 0x68, 0x71, 0x4d, 0xb6, 0x18, 0x44, 0x01,
    0x8d, 0xbb, 0x0c, 0xd7, 0x21, 0x44, 0x25, 0x80,
    0x0c, 0x1d, 0x87, 0xea, 0x9a, 0xe6, 0xed, 0xeb,
    0x97, 0xe5, 0xbd, 0x5d, 0x46, 0x2c, 0x38, 0x08]

/-- `i64::to_le_bytes`. -/
def i64Bytes (value : Int) : Bytes :=
  leBytes 8 (value % 2 ^ 64).toNat

def urlSafeSymbol (sextet : Nat) : Char :=
  "ABCDEFGHIJKLMNOPQRSTUVWXYZabcdefghijklmnopqrstuvwxyz0123456789-_".toList.getD sextet 'A'

/-- `URL_SAFE_NO_PAD.encode`. -/
def urlSafeNoPad : Bytes → List Char
  | [] => []
  | [a] =>
      let group := a.toNat * 0x10000
      [urlSafeSymbol (group / 0x40000), urlSafeSymbol (group / 0x1000 % 64)]
  | [a, b] =>
      let group := a.toNat * 0x10000 + b.toNat * 0x100
      [urlSafeSymbol (group / 0x40000), urlSafeSymbol (group / 0x1000 % 64),
        urlSafeSymbol (group / 64 % 64)]
  | a :: b :: c :: rest =>
      let group := a.toNat * 0x10000 + b.toNat * 0x100 + c.toNat
      urlSafeSymbol (group / 0x40000) :: urlSafeSymbol (group / 0x1000 % 64) ::
        urlSafeSymbol (group / 64 % 64) :: urlSafeSymbol (group % 64) :: urlSafeNoPad rest

example : urlSafeNoPad [0xfb, 0xff, 0xfe, 0x4d] = "-__-TQ".toList := by
  decide +kernel

namespace Kdf

def toByte : Kdf → UInt8
  | .argon2 => 0
  | .blake3 => 1

def tryFrom (byte : UInt8) : Option Kdf :=
  if byte = 0 then some .argon2
  else if byte = 1 then some .blake3
  else none

@[simp] theorem tryFrom_toByte (kdf : Kdf) : tryFrom kdf.toByte = some kdf := by
  cases kdf <;> rfl

variable [Hashes]

/-- Every caller passes a 32-byte `out`.  Argon2 refuses passwords and salts
whose length it cannot encode, and salts of less than eight bytes. -/
def deriveKey (kdf : Kdf) (key salt : Bytes) : Except String Bytes :=
  match kdf with
  | .argon2 =>
      if 0xFFFFFFFF < key.length then .error "password is too long"
      else if salt.length < 8 then .error "salt is too short"
      else if 0xFFFFFFFF < salt.length then .error "salt is too long"
      else .ok (Hashes.argon2id key salt)
  | .blake3 => .ok (Hashes.blake3 (key ++ salt))

def deriveKeyFromTimestamp (kdf : Kdf) (key : Bytes) (timestamp : Int) : Except String Bytes :=
  kdf.deriveKey key (Hashes.blake2b512 (i64Bytes timestamp ++ timeSalt))

def deriveKey2 (kdf : Kdf) (key salt1 salt2 : Bytes) : Except String Bytes := do
  let salt ← kdf.deriveKey salt1 salt2
  kdf.deriveKey key salt

def deriveClientKey (kdf : Kdf) (key salt : Bytes) : Except String Bytes :=
  kdf.deriveKey2 key salt serverSalt

def deriveServerKey (kdf : Kdf) (key salt : Bytes) : Except String Bytes :=
  kdf.deriveKey2 key salt clientSalt

def deriveProtocolResponseKey (kdf : Kdf) (key salt : Bytes) : Except String Bytes :=
  kdf.deriveKey2 key salt protocolResponseSalt

def deriveUrlPath (key : String) : Except String String := do
  let urlPathData ← argon2.deriveKey (utf8Bytes key) httpsPathSalt
  return String.ofList (urlSafeNoPad urlPathData)

theorem deriveKey_length {kdf : Kdf} {key salt out : Bytes}
    (derived : kdf.deriveKey key salt = .ok out) : out.length = 32 := by
  cases kdf with
  | argon2 =>
      unfold deriveKey at derived
      dsimp only at derived
      split at derived
      · contradiction
      split at derived
      · contradiction
      split at derived
      · contradiction
      · cases derived
        exact Hashes.argon2id_length ..
  | blake3 =>
      cases derived
      exact Hashes.blake3_length ..

theorem deriveKeyFromTimestamp_length {kdf : Kdf} {key out : Bytes} {timestamp : Int}
    (derived : kdf.deriveKeyFromTimestamp key timestamp = .ok out) : out.length = 32 :=
  deriveKey_length derived

theorem deriveKey2_length {kdf : Kdf} {key salt1 salt2 out : Bytes}
    (derived : kdf.deriveKey2 key salt1 salt2 = .ok out) : out.length = 32 := by
  unfold deriveKey2 at derived
  cases inner : kdf.deriveKey salt1 salt2 with
  | error reason => rw [inner] at derived; cases derived
  | ok salt => rw [inner] at derived; exact deriveKey_length derived

/-- A password that Argon2 takes once it takes with every other salt of a size
it accepts. -/
theorem deriveKey_salt {kdf : Kdf} {key salt out : Bytes}
    (derived : kdf.deriveKey key salt = .ok out) (other : Bytes)
    (long : 8 ≤ other.length) (short : other.length ≤ 0xFFFFFFFF) :
    ∃ out', kdf.deriveKey key other = .ok out' := by
  cases kdf with
  | blake3 => exact ⟨_, rfl⟩
  | argon2 =>
      by_cases tooLong : 0xFFFFFFFF < key.length
      · simp [deriveKey, tooLong] at derived
      · have enough : ¬ other.length < 8 := by omega
        have bounded : ¬ 0xFFFFFFFF < other.length := by omega
        exact ⟨_, by rw [deriveKey, if_neg tooLong, if_neg enough, if_neg bounded]⟩

theorem deriveKeyFromTimestamp_total {kdf : Kdf} {key out : Bytes} {timestamp : Int}
    (derived : kdf.deriveKeyFromTimestamp key timestamp = .ok out) (other : Int) :
    ∃ out', kdf.deriveKeyFromTimestamp key other = .ok out' :=
  deriveKey_salt derived _ (by rw [Hashes.blake2b512_length]; decide)
    (by rw [Hashes.blake2b512_length]; decide)

/-- A password that Argon2 takes is taken by both functions. -/
theorem deriveKeyFromTimestamp_both {key out : Bytes} {timestamp : Int}
    (derived : argon2.deriveKeyFromTimestamp key timestamp = .ok out) (kdf : Kdf) (other : Int) :
    ∃ out', kdf.deriveKeyFromTimestamp key other = .ok out' := by
  cases kdf with
  | argon2 => exact deriveKeyFromTimestamp_total derived other
  | blake3 => exact ⟨_, rfl⟩

theorem deriveKey2_total {kdf : Kdf} {key salt out salt1 salt2 : Bytes}
    (derived : kdf.deriveKey key salt = .ok out)
    (sized1 : salt1.length = 32) (sized2 : salt2.length = 32) :
    ∃ out', kdf.deriveKey2 key salt1 salt2 = .ok out' := by
  have inner : ∃ salt', kdf.deriveKey salt1 salt2 = .ok salt' := by
    cases kdf with
    | blake3 => exact ⟨_, rfl⟩
    | argon2 =>
        simp only [deriveKey, sized1, sized2]
        exact ⟨_, rfl⟩
  obtain ⟨salt', innerOk⟩ := inner
  have size := deriveKey_length innerOk
  obtain ⟨out', outer⟩ := deriveKey_salt derived salt' (by omega) (by omega)
  refine ⟨out', ?_⟩
  rw [deriveKey2, innerOk]
  exact outer

end Kdf

/-- `Cipher::new_client_server`: both directions from the password and the salt
that travels in the header. -/
def Cipher.newClientServer [Hashes] (cipher : CipherType) (kdf : Kdf) (pass salt : Bytes) :
    Outcome String (Cipher × Cipher) := do
  let keySize := cipher.keySize
  let nonceSize := cipher.nonceSize
  let clientKey ← Outcome.ofExcept id (kdf.deriveClientKey pass salt)
  let clientNonce ← Outcome.slice salt 0 nonceSize
  let clientCipher ← Cipher.newWithNonce cipher clientKey clientNonce
  let serverKey ← Outcome.ofExcept id (kdf.deriveServerKey pass salt)
  let serverNonce ← Outcome.slice salt (keySize - nonceSize) keySize
  let serverCipher ← Cipher.newWithNonce cipher serverKey serverNonce
  pure (clientCipher, serverCipher)

end CovertConnect.Crypto
