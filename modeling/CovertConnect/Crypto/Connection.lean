import CovertConnect.Crypto.Config
import CovertConnect.Data.AsyncIo
import CovertConnect.Data.Panics

namespace CovertConnect.Crypto

open CovertConnect.Data

/-! # One connection

Both ends of the protocol are calls on a connection: its socket and the random
draws.  Times are the milliseconds of a clock, far from the ends of an `i64`. -/

/-- `overflow-checks` of the build profile: a debug build panics where a
release build wraps. -/
inductive Build where
  | debug
  | release
deriving DecidableEq, Repr

inductive ConnectionEvent where
  | sealed (record : SealRecord)
  | terminated (maxRead maxTimeMs : Nat)
deriving DecidableEq

/-- A generator that a call seeds for itself draws from `rng` as well.
`history` is read by no call. -/
structure Connection (S R : Type) where
  stream : S
  rng : R
  history : List ConnectionEvent

/-- An error of a library, in the caller's type of errors. -/
def mapErr {ε ε' α : Type} (wrap : ε → ε') : Outcome ε α → Outcome ε' α
  | .ok value => .ok value
  | .err error => .err (wrap error)
  | .panic reason => .panic reason

def emptyRange : String := "cannot sample empty range"

def divisionByZero : String := "attempt to divide by zero"

/-- Without the two numbers that the panic names. -/
def outOfRange : String := "range start index out of range for slice"

/-- `str::len`. -/
def strLen (text : String) : Nat := (utf8Bytes text).length

/-- `(host.len() - MIN_HOST_LEN) as u8`. -/
def hostLenByte {ε : Type} (build : Build) (host : String) : Outcome ε UInt8 :=
  if minHostLen ≤ strLen host then .ok (UInt8.ofNat (strLen host - minHostLen))
  else
    match build with
    | .debug => .panic "attempt to subtract with overflow"
    | .release => .ok (UInt8.ofNat (2 ^ 64 + strLen host - minHostLen))

/-- `Buf::get_u8` and its wider siblings. -/
def getBe {ε : Type} (width : Nat) (payload : Bytes) : Outcome ε (Nat × Bytes) :=
  if width ≤ payload.length then .ok (beNat (payload.take width), payload.drop width)
  else .panic "advance out of bounds"

/-- Both ciphers of a get-protocol response are keyed by the salt of the
request, and their nonces are its two ends. -/
def responseCiphers [Hashes] (key salt : Bytes) : Outcome Error (Cipher × Cipher) := do
  let nonceSize := CipherType.aes256Gcm.nonceSize
  let keySize := CipherType.aes256Gcm.keySize
  let responseKey ← .ofExcept .anyhow (Kdf.argon2.deriveProtocolResponseKey key salt)
  let nonceAes ← .slice salt 0 nonceSize
  let cipherAes ← Cipher.newWithNonce .aes256Gcm responseKey nonceAes
  let nonceCha ← .slice salt (keySize - nonceSize) keySize
  let cipherCha ← Cipher.newWithNonce .chaCha20Poly1305 responseKey nonceCha
  return (cipherAes, cipherCha)

namespace Connection

variable {S R : Type}

def io {α : Type} (call : S → Except IoError α × S) : Exec (Connection S R) Error α :=
  fun connection =>
    match call connection.stream with
    | (.ok value, stream) => (.ok value, { connection with stream })
    | (.error error, stream) => (.err (.io error), { connection with stream })

def onStream {α : Type} (call : Exec S Error α) : Exec (Connection S R) Error α :=
  .focus Connection.stream (fun stream connection => { connection with stream }) call

def log (event : ConnectionEvent) : Exec (Connection S R) Error Unit :=
  .modify fun connection => { connection with history := connection.history ++ [event] }

def derive (key : Except String Bytes) : Exec (Connection S R) Error Bytes :=
  .lift (.ofExcept .anyhow key)

/-- `time / delay`. -/
def divide (time : Int) (delay : Nat) : Exec (Connection S R) Error Int :=
  if delay = 0 then .abort divisionByZero else pure (time.tdiv delay)

/-- `&mut data[readed..]`, filled by `try_read`: the bytes that were read. -/
def tryReadRest [Socket S] (data : Bytes) (readed : Nat) : Exec (Connection S R) Error Bytes :=
  if readed ≤ data.length then io (Socket.tryRead · (data.length - readed))
  else .abort outOfRange

section Draws

variable [Rng R]

def genRange (low high : Nat) : Exec (Connection S R) Error Nat := fun connection =>
  if low < high then
    let (drawn, rng) := Rng.genRange connection.rng low high
    (.ok drawn, { connection with rng })
  else (.panic emptyRange, connection)

def fillBytes (count : Nat) : Exec (Connection S R) Error Bytes := fun connection =>
  let (bytes, rng) := Rng.fillBytes connection.rng count
  (.ok bytes, { connection with rng })

end Draws

end Connection

/-- What a cipher seals next. -/
def Cipher.record (cipher : Cipher) (plain : Bytes) : SealRecord where
  kind := cipher.kind
  key := cipher.key
  nonce := cipher.nonce
  plain := plain

def Cipher.logged (cipher : Cipher) (plain : Bytes) : Cipher :=
  { cipher with sealed := cipher.sealed ++ [cipher.record plain] }

/-- The bytes that a record is sealed to. -/
def SealRecord.bytes [Aead] (record : SealRecord) : Bytes :=
  Aead.sealRecord record.kind record.key record.nonce record.plain

@[simp] theorem SealRecord.bytes_length [Aead] (record : SealRecord) :
    record.bytes.length = record.plain.length + 16 :=
  Aead.sealRecord_length _ _ _ _

/-- A key other than its own does not open the record. -/
def SealRecord.FailsUnder [Aead] (record : SealRecord) (other : Bytes) : Prop :=
  other ≠ record.key → Aead.openRecord record.kind other record.nonce record.bytes = none

namespace Connection

variable {S R : Type}

/-- `Cipher::encrypt`. -/
def encrypt [Aead] (cipher : Cipher) (buffer : Bytes) (start : Nat) :
    Exec (Connection S R) Error (Bytes × Cipher) := fun connection =>
  (.ok (cipher.encrypt buffer start),
    { connection with
      history := connection.history ++ [.sealed (cipher.record (buffer.drop start))] })

section Panics

open Exec

variable {bad : String → Prop} {connection : Connection S R}

theorem io_spares {α : Type} (call : S → Except IoError α × S) :
    Spares bad (io call : Exec (Connection S R) Error α) connection := by
  rw [Spares, io]
  rcases call connection.stream with ⟨error | value, stream⟩
  · exact Outcome.spares_err _
  · exact Outcome.spares_ok _

theorem divide_pos {time : Int} {delay : Nat} (positive : delay ≠ 0) :
    (divide time delay : Exec (Connection S R) Error Int) = pure (time.tdiv delay) :=
  if_neg positive

theorem tryReadRest_spares_iff [Socket S] {data : Bytes} {readed : Nat} :
    Spares bad (tryReadRest data readed) connection ↔
      (bad outOfRange → readed ≤ data.length) := by
  by_cases inside : readed ≤ data.length
  · rw [tryReadRest, if_pos inside]
    exact iff_of_true (io_spares _) fun _ => inside
  · rw [tryReadRest, if_neg inside]
    exact (Outcome.spares_panic _).trans (by simp only [inside, imp_false])

theorem io_ok {α : Type} {call : S → Except IoError α × S} {value : α} {stream : S}
    (answered : call connection.stream = (.ok value, stream)) :
    (io call : Exec (Connection S R) Error α) connection =
      (.ok value, { connection with stream }) := by
  rw [io, answered]

theorem io_inv {α : Type} {call : S → Except IoError α × S} {value : α}
    {after : Connection S R} (run : io call connection = (.ok value, after)) :
    ∃ stream, call connection.stream = (.ok value, stream) ∧
      after = { connection with stream } := by
  rw [io] at run
  rcases answered : call connection.stream with ⟨error | _, stream⟩
  · rw [answered] at run
    cases run
  · rw [answered] at run
    cases run
    exact ⟨stream, rfl, rfl⟩

theorem io_keeps {α : Type} (call : S → Except IoError α × S) :
    Keeps Connection.history (io call : Exec (Connection S R) Error α) := by
  intro connection
  rw [io]
  rcases call connection.stream with ⟨error | value, stream⟩
  · rfl
  · rfl

theorem io_history {α : Type} {call : S → Except IoError α × S} {value : α}
    {after : Connection S R} (run : io call connection = (.ok value, after)) :
    after.history = connection.history := by
  have kept := io_keeps call connection
  rw [run] at kept
  exact kept

theorem tryReadRest_history [Socket S] {data rest : Bytes} {readed : Nat}
    {after : Connection S R} (run : tryReadRest data readed connection = (.ok rest, after)) :
    after.history = connection.history := by
  by_cases inside : readed ≤ data.length
  · rw [tryReadRest, if_pos inside] at run
    exact io_history run
  · rw [tryReadRest, if_neg inside] at run
    cases run

theorem tryReadRest_inside [Socket S] {data rest : Bytes} {readed : Nat}
    {after : Connection S R} (run : tryReadRest data readed connection = (.ok rest, after)) :
    readed ≤ data.length := by
  by_cases inside : readed ≤ data.length
  · exact inside
  · rw [tryReadRest, if_neg inside] at run
    cases run

theorem genRange_spares_iff [Rng R] {low high : Nat} :
    Spares bad (genRange low high) connection ↔ (bad emptyRange → low < high) := by
  by_cases filled : low < high
  · rw [Spares, genRange, if_pos filled]
    exact iff_of_true (Outcome.spares_ok _) fun _ => filled
  · rw [Spares, genRange, if_neg filled]
    exact (Outcome.spares_panic _).trans (by simp only [filled, imp_false])

theorem genRange_ok [Rng R] {low high : Nat} (filled : low < high) :
    genRange low high connection = (.ok (Rng.genRange connection.rng low high).1,
      { connection with rng := (Rng.genRange connection.rng low high).2 }) := by
  rw [genRange, if_pos filled]

theorem fillBytes_ok [Rng R] (count : Nat) :
    fillBytes count connection = (.ok (Rng.fillBytes connection.rng count).1,
      { connection with rng := (Rng.fillBytes connection.rng count).2 }) := rfl

/-- What stands behind `start` is sealed. -/
theorem encrypt_ok [Aead] (cipher : Cipher) {front : Bytes} (plain : Bytes) {start : Nat}
    (sized : front.length = start) :
    encrypt cipher (front ++ plain) start connection =
      (.ok (front ++ (cipher.record plain).bytes, cipher.logged plain),
        { connection with
          history := connection.history ++ [.sealed (cipher.record plain)] }) := by
  rw [encrypt, Cipher.encrypt, ← sized, List.drop_left, List.take_left]
  rfl

theorem encrypt_whole [Aead] (cipher : Cipher) (plain : Bytes) :
    encrypt cipher plain 0 connection =
      (.ok ((cipher.record plain).bytes, cipher.logged plain),
        { connection with
          history := connection.history ++ [.sealed (cipher.record plain)] }) :=
  @encrypt_ok _ _ _ _ cipher [] plain 0 rfl

end Panics

end Connection

section Sizes

variable {ε : Type} {bad : String → Prop}

theorem Cipher.newWithNonce_sized {kind : CipherType} {key nonce : Bytes}
    (keySize : key.length = 32) (nonceSize : nonce.length = 12) :
    (Cipher.newWithNonce kind key nonce : Outcome ε Cipher) =
      .ok { kind, key, nonce := ⟨nonce, nonceSize⟩, sealed := [], advanced := 0 } :=
  Cipher.newWithNonce_ok keySize ⟨nonce, nonceSize⟩

theorem mapErr_spares {ε' α : Type} (wrap : ε → ε') {outcome : Outcome ε α}
    (spared : outcome.Spares bad) : (mapErr wrap outcome).Spares bad := by
  cases outcome with
  | ok value => exact Outcome.spares_ok value
  | err error => exact Outcome.spares_err _
  | panic reason => exact (Outcome.spares_panic reason).mpr (spared reason rfl)

/-- The two ends of a salt are nonces. -/
theorem salt_ends {salt : Bytes} (sized : salt.length = 32) :
    (salt.take 12).length = 12 ∧ (salt.drop 20).length = 12 := by
  rw [List.length_take, List.length_drop]
  omega

variable [Hashes]

theorem Cipher.newClientServer_ok {kind : CipherType} {kdf : Kdf}
    {pass salt clientKey serverKey : Bytes} (sized : salt.length = 32)
    (client : kdf.deriveClientKey pass salt = .ok clientKey)
    (server : kdf.deriveServerKey pass salt = .ok serverKey) :
    Cipher.newClientServer kind kdf pass salt =
      .ok ({ kind, key := clientKey, nonce := ⟨salt.take 12, (salt_ends sized).1⟩, sealed := [],
              advanced := 0 },
        { kind, key := serverKey, nonce := ⟨salt.drop 20, (salt_ends sized).2⟩, sealed := [],
          advanced := 0 }) := by
  have front : (Outcome.slice salt 0 12 : Outcome String Bytes) = .ok (salt.take 12) :=
    Outcome.slice_ok (by decide) (by omega)
  have back : (Outcome.slice salt 20 32 : Outcome String Bytes) = .ok (salt.drop 20) := by
    rw [Outcome.slice_ok (by decide) (by omega), List.take_of_length_le]
    rw [List.length_drop]
    omega
  simp only [Cipher.newClientServer, CipherType.keySize, CipherType.nonceSize, client, server,
    Outcome.ofExcept, Outcome.ok_bind, front, back, Outcome.pure_eq,
    Cipher.newWithNonce_sized (Kdf.deriveKey2_length client) (salt_ends sized).1,
    Cipher.newWithNonce_sized (Kdf.deriveKey2_length server) (salt_ends sized).2]

/-- The server's direction of a pair. -/
theorem Cipher.newClientServer_server {kind : CipherType} {kdf : Kdf} {pass salt : Bytes}
    {ciphers : Cipher × Cipher} (sized : salt.length = 32)
    (built : Cipher.newClientServer kind kdf pass salt = .ok ciphers) :
    kdf.deriveServerKey pass salt = .ok ciphers.2.key ∧ ciphers.2.kind = kind ∧
      ciphers.2.Unused := by
  cases client : kdf.deriveClientKey pass salt with
  | error message =>
      rw [Cipher.newClientServer, client] at built
      cases built
  | ok clientKey =>
      cases server : kdf.deriveServerKey pass salt with
      | error message =>
          have front : (Outcome.slice salt 0 12 : Outcome String Bytes) = .ok (salt.take 12) :=
            Outcome.slice_ok (by decide) (by omega)
          simp [Cipher.newClientServer, CipherType.nonceSize, client, server, front,
            Outcome.ofExcept, Cipher.newWithNonce_sized (Kdf.deriveKey2_length client)
              (salt_ends sized).1] at built
      | ok serverKey =>
          rw [Cipher.newClientServer_ok sized client server] at built
          cases built
          exact ⟨rfl, rfl, rfl, rfl⟩

theorem responseCiphers_ok {key salt responseKey : Bytes} (sized : salt.length = 32)
    (derived : Kdf.argon2.deriveProtocolResponseKey key salt = .ok responseKey) :
    responseCiphers key salt =
      .ok ({ kind := .aes256Gcm, key := responseKey, nonce := ⟨salt.take 12, (salt_ends sized).1⟩,
              sealed := [], advanced := 0 },
        { kind := .chaCha20Poly1305, key := responseKey,
          nonce := ⟨salt.drop 20, (salt_ends sized).2⟩, sealed := [], advanced := 0 }) := by
  have front : (Outcome.slice salt 0 12 : Outcome Error Bytes) = .ok (salt.take 12) :=
    Outcome.slice_ok (by decide) (by omega)
  have back : (Outcome.slice salt 20 32 : Outcome Error Bytes) = .ok (salt.drop 20) := by
    rw [Outcome.slice_ok (by decide) (by omega), List.take_of_length_le]
    rw [List.length_drop]
    omega
  simp only [responseCiphers, CipherType.keySize, CipherType.nonceSize, derived,
    Outcome.ofExcept, Outcome.ok_bind, front, back, Outcome.pure_eq,
    Cipher.newWithNonce_sized (Kdf.deriveKey2_length derived) (salt_ends sized).1,
    Cipher.newWithNonce_sized (Kdf.deriveKey2_length derived) (salt_ends sized).2]

theorem Cipher.newClientServer_spares {kind : CipherType} {kdf : Kdf} {pass salt : Bytes}
    (sized : salt.length = 32) : (Cipher.newClientServer kind kdf pass salt).Spares bad := by
  cases client : kdf.deriveClientKey pass salt with
  | error message =>
      rw [Cipher.newClientServer, client]
      exact Outcome.spares_err _
  | ok clientKey =>
      cases server : kdf.deriveServerKey pass salt with
      | error message =>
          have front : (Outcome.slice salt 0 12 : Outcome String Bytes) = .ok (salt.take 12) :=
            Outcome.slice_ok (by decide) (by omega)
          simp only [Cipher.newClientServer, CipherType.nonceSize, client, server, front,
            Outcome.ofExcept, Outcome.ok_bind, Outcome.err_bind, Outcome.spares_err,
            Cipher.newWithNonce_sized (Kdf.deriveKey2_length client) (salt_ends sized).1]
      | ok serverKey =>
          rw [Cipher.newClientServer_ok sized client server]
          exact Outcome.spares_ok _

theorem responseCiphers_spares {key salt : Bytes} (sized : salt.length = 32) :
    (responseCiphers key salt).Spares bad := by
  cases derived : Kdf.argon2.deriveProtocolResponseKey key salt with
  | error message =>
      rw [responseCiphers, derived]
      exact Outcome.spares_err _
  | ok responseKey =>
      rw [responseCiphers_ok sized derived]
      exact Outcome.spares_ok _

end Sizes

end CovertConnect.Crypto
