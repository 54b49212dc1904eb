import CovertConnect.Data.Exec

namespace CovertConnect.Crypto

open CovertConnect.Data

/-! # Record ciphers

The AEAD algorithms and the hash functions come from other crates.  They are
parameters here, with what their interfaces promise about lengths as fields;
that opening undoes sealing, or that forgeries fail, is assumed where a theorem
needs it. -/

inductive CipherType where
  | aes256Gcm
  | chaCha20Poly1305
deriving DecidableEq, Repr

namespace CipherType

def nonceSize (_ : CipherType) : Nat := 12

/-- Both branches of the source ask AES-256-GCM for its tag length. -/
def tagSize (_ : CipherType) : Nat := 16

def keySize (_ : CipherType) : Nat := 32

/-- `#[repr(u8)]`, as the get-protocol response stores it. -/
def toByte : CipherType → UInt8
  | .aes256Gcm => 0
  | .chaCha20Poly1305 => 1

def tryFrom (byte : UInt8) : Option CipherType :=
  if byte = 0 then some .aes256Gcm
  else if byte = 1 then some .chaCha20Poly1305
  else none

@[simp] theorem tryFrom_toByte (cipher : CipherType) : tryFrom cipher.toByte = some cipher := by
  cases cipher <;> rfl

end CipherType

/-- A 96-bit nonce, `[u8; NONCE_LEN]`. -/
structure Nonce where
  bytes : Bytes
  length_eq : bytes.length = 12
deriving DecidableEq

namespace Nonce

def zero : Nonce where
  bytes := List.replicate 12 0
  length_eq := List.length_replicate

def toNat (nonce : Nonce) : Nat := leNat nonce.bytes

/-- `inc_nonce` on the nonce bytes. -/
def inc (nonce : Nonce) (value : Nat) : Nonce where
  bytes := addWords nonce.bytes value
  length_eq := by rw [addWords_length, nonce.length_eq]

/-- `nonce.try_into()`: only twelve bytes make a nonce. -/
def ofSlice (bytes : Bytes) : Option Nonce :=
  if sized : bytes.length = 12 then some ⟨bytes, sized⟩ else none

theorem ext_bytes {left right : Nonce} (bytes : left.bytes = right.bytes) : left = right := by
  cases left
  cases right
  cases bytes
  rfl

theorem toNat_injective {left right : Nonce} (values : left.toNat = right.toNat) :
    left = right :=
  ext_bytes (leNat_injective (left.length_eq.trans right.length_eq.symm) values)

theorem toNat_lt (nonce : Nonce) : nonce.toNat < 2 ^ 96 := by
  have bound := leNat_lt nonce.bytes
  rw [nonce.length_eq] at bound
  exact bound

theorem toNat_inc (nonce : Nonce) (value : Nat) :
    (nonce.inc value).toNat = (nonce.toNat + value) % 2 ^ 96 := by
  have even : nonce.bytes.length % 2 = 0 := by rw [nonce.length_eq]
  have exact_sum := leNat_addWords even value
  rw [nonce.length_eq] at exact_sum
  exact exact_sum

theorem inc_inc (nonce : Nonce) (first second : Nat) :
    (nonce.inc first).inc second = nonce.inc (first + second) := by
  apply toNat_injective
  rw [toNat_inc, toNat_inc, toNat_inc, Nat.mod_add_mod, Nat.add_assoc]

/-- Two advances of one nonce agree only when they differ by whole turns of
the 96-bit counter. -/
theorem inc_inj {nonce : Nonce} {first second : Nat}
    (firstSmall : first < 2 ^ 96) (secondSmall : second < 2 ^ 96)
    (same : nonce.inc first = nonce.inc second) : first = second := by
  have start := nonce.toNat_lt
  have values := congrArg toNat same
  rw [toNat_inc, toNat_inc] at values
  omega

theorem inc_turn (nonce : Nonce) : nonce.inc (2 ^ 96) = nonce := by
  apply toNat_injective
  rw [toNat_inc, Nat.add_mod_right, Nat.mod_eq_of_lt nonce.toNat_lt]

@[simp] theorem inc_zero (nonce : Nonce) : nonce.inc 0 = nonce := by
  apply toNat_injective
  rw [toNat_inc, Nat.add_zero, Nat.mod_eq_of_lt nonce.toNat_lt]

theorem ofSlice_eq {bytes : Bytes} (sized : bytes.length = 12) :
    ofSlice bytes = some ⟨bytes, sized⟩ := by
  simp [ofSlice, sized]

@[simp] theorem ofSlice_bytes (nonce : Nonce) : ofSlice nonce.bytes = some nonce :=
  ofSlice_eq nonce.length_eq

end Nonce

/-- Authenticated encryption without associated data.  `clobber` is what a
failed in-place decryption leaves in its buffer. -/
class Aead where
  sealData : CipherType → (key : Bytes) → Nonce → Bytes → Bytes
  sealTag : CipherType → (key : Bytes) → Nonce → Bytes → Bytes
  openData : CipherType → (key : Bytes) → Nonce → (data tag : Bytes) → Option Bytes
  clobber : CipherType → (key : Bytes) → Nonce → Bytes → Bytes
  sealData_length : ∀ kind key nonce plain, (sealData kind key nonce plain).length = plain.length
  sealTag_length : ∀ kind key nonce plain, (sealTag kind key nonce plain).length = 16
  openData_length : ∀ kind key nonce data tag plain,
    openData kind key nonce data tag = some plain → plain.length = data.length
  clobber_length : ∀ kind key nonce buffer, (clobber kind key nonce buffer).length = buffer.length

attribute [simp] Aead.sealData_length Aead.sealTag_length Aead.clobber_length

namespace Aead

variable [Aead]

/-- Opening undoes sealing. -/
def Correct : Prop :=
  ∀ kind key nonce plain,
    openData kind key nonce (sealData kind key nonce plain) (sealTag kind key nonce plain) =
      some plain

def sealRecord (kind : CipherType) (key : Bytes) (nonce : Nonce) (plain : Bytes) : Bytes :=
  sealData kind key nonce plain ++ sealTag kind key nonce plain

@[simp] theorem sealRecord_length (kind : CipherType) (key : Bytes) (nonce : Nonce)
    (plain : Bytes) : (sealRecord kind key nonce plain).length = plain.length + 16 := by
  simp [sealRecord]

/-- Open a record whose last sixteen bytes are the tag. -/
def openRecord (kind : CipherType) (key : Bytes) (nonce : Nonce) (record : Bytes) :
    Option Bytes :=
  if record.length < 16 then none
  else openData kind key nonce (record.take (record.length - 16))
    (record.drop (record.length - 16))

theorem openRecord_length {kind : CipherType} {key : Bytes} {nonce : Nonce} {record plain : Bytes}
    (opened : openRecord kind key nonce record = some plain) :
    record.length = plain.length + 16 := by
  unfold openRecord at opened
  split at opened
  · contradiction
  · rename_i enough
    have width := openData_length _ _ _ _ _ _ opened
    rw [List.length_take] at width
    omega

theorem openRecord_append {kind : CipherType} {key : Bytes} {nonce : Nonce} {data tag : Bytes}
    (tagged : tag.length = 16) :
    openRecord kind key nonce (data ++ tag) = openData kind key nonce data tag := by
  have position : (data ++ tag).length - 16 = data.length := by simp [tagged]
  have enough : ¬ (data ++ tag).length < 16 := by simp [tagged]
  rw [openRecord, if_neg enough, position, List.take_left, List.drop_left]

theorem openRecord_sealRecord (correct : Correct) (kind : CipherType) (key : Bytes)
    (nonce : Nonce) (plain : Bytes) :
    openRecord kind key nonce (sealRecord kind key nonce plain) = some plain := by
  rw [sealRecord, openRecord_append (sealTag_length ..)]
  exact correct kind key nonce plain

/-- A tag that names the nonce and the start of the key, over data in the
clear. -/
@[reducible] def tagging : Aead where
  sealData _ _ _ plain := plain
  sealTag _ key nonce _ := resize (nonce.bytes ++ key) 16
  openData _ key nonce data tag :=
    if tag = resize (nonce.bytes ++ key) 16 then some data else none
  clobber _ _ _ buffer := buffer
  sealData_length _ _ _ _ := rfl
  sealTag_length _ _ _ _ := resize_length _ _
  openData_length _ _ _ _ _ _ opened := by
    split at opened
    · rw [Option.some.inj opened]
    · contradiction
  clobber_length _ _ _ _ := rfl

omit [Aead] in
theorem tagging_correct : @Correct tagging := by
  intro kind key nonce plain
  exact if_pos rfl

end Aead

/-- One record sealed under a key and a nonce. -/
structure SealRecord where
  kind : CipherType
  key : Bytes
  nonce : Nonce
  plain : Bytes
deriving DecidableEq

/-- Under this key nothing opens but the records in the log, each in exactly
the bytes it was sealed to. -/
def Aead.OpensOnly [Aead] (kind : CipherType) (key : Bytes) (sealed : List SealRecord) : Prop :=
  ∀ nonce data tag plain, openData kind key nonce data tag = some plain →
    { kind, key, nonce, plain } ∈ sealed ∧ data = sealData kind key nonce plain ∧
      tag = sealTag kind key nonce plain

/-- The tag of `tagging`, accepted only for the records in the log. -/
@[reducible] def Aead.ledger (sealed : List SealRecord) : Aead where
  sealData _ _ _ plain := plain
  sealTag _ key nonce _ := resize (nonce.bytes ++ key) 16
  openData kind key nonce data tag :=
    if tag = resize (nonce.bytes ++ key) 16 ∧ ({ kind, key, nonce, plain := data } : SealRecord) ∈ sealed
    then some data else none
  clobber _ _ _ buffer := buffer
  sealData_length _ _ _ _ := rfl
  sealTag_length _ _ _ _ := resize_length _ _
  openData_length _ _ _ _ _ _ opened := by
    split at opened
    · rw [Option.some.inj opened]
    · contradiction
  clobber_length _ _ _ _ := rfl

theorem Aead.ledger_opensOnly (kind : CipherType) (key : Bytes) (sealed : List SealRecord) :
    @OpensOnly (ledger sealed) kind key sealed := by
  intro nonce data tag plain opened
  change (if _ then some data else none) = some plain at opened
  split at opened
  · rename_i accepted
    cases opened
    exact ⟨accepted.2, rfl, accepted.1⟩
  · contradiction

theorem Aead.ledger_opens {sealed : List SealRecord} {record : SealRecord}
    (logged : record ∈ sealed) :
    @openRecord (ledger sealed) record.kind record.key record.nonce
      (@sealRecord (ledger sealed) record.kind record.key record.nonce record.plain) =
        some record.plain := by
  let _ := ledger sealed
  rw [sealRecord, openRecord_append (sealTag_length ..)]
  exact if_pos ⟨rfl, logged⟩

theorem Aead.OpensOnly.logged [Aead] {kind : CipherType} {key : Bytes}
    {sealed : List SealRecord} (ideal : OpensOnly kind key sealed) {nonce : Nonce}
    {record plain : Bytes} (opened : openRecord kind key nonce record = some plain) :
    { kind, key, nonce, plain } ∈ sealed := by
  unfold openRecord at opened
  split at opened
  · contradiction
  · exact (ideal _ _ _ _ opened).1

/-- `Cipher`, with two history fields that no operation reads: the records it
has sealed so far, and how far its nonce has moved in all. -/
structure Cipher where
  kind : CipherType
  key : Bytes
  nonce : Nonce
  sealed : List SealRecord
  advanced : Nat

namespace Cipher

def tagSize (cipher : Cipher) : Nat := cipher.kind.tagSize

@[simp] theorem tagSize_eq (cipher : Cipher) : cipher.tagSize = 16 := rfl

/-- `UnboundKey::new(..).unwrap()` and `nonce.try_into().unwrap()` panic on
slices of another size. -/
def newWithNonce {ε : Type} (kind : CipherType) (key nonce : Bytes) : Outcome ε Cipher :=
  if key.length ≠ kind.keySize then .panic "called `Result::unwrap()` on an `Err` value"
  else
    match Nonce.ofSlice nonce with
    | some nonce => .ok { kind, key, nonce, sealed := [], advanced := 0 }
    | none => .panic "called `Result::unwrap()` on an `Err` value"

theorem newWithNonce_ok {ε : Type} {kind : CipherType} {key : Bytes} (sized : key.length = 32)
    (nonce : Nonce) :
    (newWithNonce kind key nonce.bytes : Outcome ε Cipher) =
      .ok { kind, key, nonce, sealed := [], advanced := 0 } := by
  simp [newWithNonce, CipherType.keySize, sized]

/-- As it comes from its constructor. -/
def Unused (cipher : Cipher) : Prop :=
  cipher.sealed = [] ∧ cipher.advanced = 0

def incNonce (cipher : Cipher) (value : Nat) : Cipher :=
  { cipher with nonce := cipher.nonce.inc value, advanced := cipher.advanced + value }

@[simp] theorem incNonce_kind (cipher : Cipher) (value : Nat) :
    (cipher.incNonce value).kind = cipher.kind := rfl

@[simp] theorem incNonce_key (cipher : Cipher) (value : Nat) :
    (cipher.incNonce value).key = cipher.key := rfl

@[simp] theorem incNonce_nonce (cipher : Cipher) (value : Nat) :
    (cipher.incNonce value).nonce = cipher.nonce.inc value := rfl

@[simp] theorem incNonce_sealed (cipher : Cipher) (value : Nat) :
    (cipher.incNonce value).sealed = cipher.sealed := rfl

@[simp] theorem incNonce_advanced (cipher : Cipher) (value : Nat) :
    (cipher.incNonce value).advanced = cipher.advanced + value := rfl

variable [Aead]

/-- Seal `buffer[start..]` in place and append the tag. -/
def encrypt (cipher : Cipher) (buffer : Bytes) (start : Nat) : Bytes × Cipher :=
  let plain := buffer.drop start
  (buffer.take start ++ Aead.sealRecord cipher.kind cipher.key cipher.nonce plain,
    { cipher with
      sealed := cipher.sealed ++
        [{ kind := cipher.kind, key := cipher.key, nonce := cipher.nonce, plain }] })

/-- Open the whole buffer in place.  After a success the tag still follows the
plaintext; after a failure the buffer holds anything of its length. -/
def decrypt (cipher : Cipher) (buffer : Bytes) : Bool × Bytes :=
  match Aead.openRecord cipher.kind cipher.key cipher.nonce buffer with
  | some plain => (true, plain ++ buffer.drop (buffer.length - cipher.tagSize))
  | none => (false, Aead.clobber cipher.kind cipher.key cipher.nonce buffer)

/-- Records that `writer` seals next are the ones `reader` opens next. -/
structure InStep (writer reader : Cipher) : Prop where
  kind : reader.kind = writer.kind
  key : reader.key = writer.key
  nonce : reader.nonce = writer.nonce

theorem decrypt_some {cipher : Cipher} {buffer plain : Bytes}
    (opened : Aead.openRecord cipher.kind cipher.key cipher.nonce buffer = some plain) :
    cipher.decrypt buffer = (true, plain ++ buffer.drop (buffer.length - 16)) := by
  simp [decrypt, opened]

theorem decrypt_none {cipher : Cipher} {buffer : Bytes}
    (failed : Aead.openRecord cipher.kind cipher.key cipher.nonce buffer = none) :
    cipher.decrypt buffer = (false, Aead.clobber cipher.kind cipher.key cipher.nonce buffer) := by
  simp [decrypt, failed]

theorem decrypt_sealRecord (correct : Aead.Correct) (cipher : Cipher) (plain : Bytes) :
    cipher.decrypt (Aead.sealRecord cipher.kind cipher.key cipher.nonce plain) =
      (true, plain ++ Aead.sealTag cipher.kind cipher.key cipher.nonce plain) := by
  rw [decrypt_some (Aead.openRecord_sealRecord correct _ _ _ plain)]
  have position : (Aead.sealRecord cipher.kind cipher.key cipher.nonce plain).length - 16 =
      (Aead.sealData cipher.kind cipher.key cipher.nonce plain).length := by simp
  rw [position, Aead.sealRecord, List.drop_left]

theorem decrypt_length (cipher : Cipher) (buffer : Bytes) :
    (cipher.decrypt buffer).2.length = buffer.length := by
  cases opened : Aead.openRecord cipher.kind cipher.key cipher.nonce buffer with
  | none => simp [decrypt_none opened]
  | some plain =>
      have width := Aead.openRecord_length opened
      simp [decrypt_some opened]
      omega

end Cipher

end CovertConnect.Crypto
