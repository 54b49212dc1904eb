import CovertConnect.Client.Protocol

namespace CovertConnect.Client

open CovertConnect.Data CovertConnect.Data.Exec
open CovertConnect.Crypto CovertConnect.Crypto.Connection

/-! # The packets that the client sends

What a packet is made of is drawn in one order, whatever the packet says. -/

variable {S R : Type} [Rng R]

/-- The draws for one packet: the salt, the nonce of the header, and as many
bytes of padding as were drawn before them. -/
structure Draws (R : Type) where
  salt : Bytes
  nonce : Nonce
  paddingSize : Nat
  padding : Bytes
  rng : R

def Draws.from (low high : Nat) (rng : R) : Draws R :=
  let salt := Rng.fillBytes rng 32
  let nonce := Rng.fillBytes salt.2 12
  let size := Rng.genRange nonce.2 low high
  let padding := Rng.fillBytes size.2 size.1
  { salt := salt.1
    nonce := ⟨nonce.1, Rng.fillBytes_length _ _⟩
    paddingSize := size.1
    padding := padding.1
    rng := padding.2 }

namespace Draws

variable {low high : Nat} {rng : R}

theorem salt_length : (Draws.from low high rng).salt.length = 32 := Rng.fillBytes_length _ _

theorem padding_length : (Draws.from low high rng).padding.length =
    (Draws.from low high rng).paddingSize := Rng.fillBytes_length _ _

theorem paddingSize_bounds (filled : low < high) :
    low ≤ (Draws.from low high rng).paddingSize ∧ (Draws.from low high rng).paddingSize < high :=
  Rng.genRange_bounds _ _ _ filled

end Draws

/-- The draws of `processTunnel` with this configuration. -/
def tunnelDraws (protocol : ProtocolConfig) (rng : R) : Draws R :=
  .from protocol.headerPadding.start.toNat protocol.headerPadding.stop.toNat rng

def requestDraws (rng : R) : Draws R :=
  .from minGetProtocolHeaderPadding maxGetProtocolHeaderPadding rng

/-- The fixed part of a tunnel header. -/
def headerRecord (protocol : ProtocolConfig) (headerKey : Bytes) (draws : Draws R)
    (hostLen : UInt8) : SealRecord where
  kind := protocol.cipher
  key := headerKey
  nonce := draws.nonce
  plain := draws.salt ++ beBytes 2 draws.paddingSize ++ [hostLen]

def hostRecord (protocol : ProtocolConfig) (headerKey : Bytes) (draws : Draws R)
    (host : String) : SealRecord where
  kind := protocol.cipher
  key := headerKey
  nonce := draws.nonce.inc draws.paddingSize
  plain := utf8Bytes host

variable [Aead] [Hashes]

/-- The two layers of the header of a get-protocol request. -/
def requestInner (headerKey : Bytes) (draws : Draws R) : SealRecord where
  kind := .chaCha20Poly1305
  key := headerKey
  nonce := draws.nonce
  plain := draws.salt ++ beBytes 2 draws.paddingSize

def requestOuter (headerKey : Bytes) (draws : Draws R) : SealRecord where
  kind := .aes256Gcm
  key := headerKey
  nonce := draws.nonce
  plain := (requestInner headerKey draws).bytes

def requestOf (headerKey : Bytes) (draws : Draws R) : ProtocolRequest where
  bytes := draws.nonce.bytes ++ (requestOuter headerKey draws).bytes ++ draws.padding
  salt := draws.salt
  paddingSize := draws.paddingSize

theorem protocolRequest_ok {key : String} {now : Int} {connection : Connection S R}
    {headerKey : Bytes}
    (derived : Kdf.argon2.deriveKeyFromTimestamp (utf8Bytes key)
      (now.tdiv getProtocolMaxConnectDelay) = .ok headerKey) :
    protocolRequest key now connection =
      let draws := requestDraws connection.rng
      (.ok (requestOf headerKey draws), { connection with
        rng := draws.rng
        history := connection.history ++ [.sealed (requestInner headerKey draws)] ++
          [.sealed (requestOuter headerKey draws)] }) := by
  have keySize := Kdf.deriveKeyFromTimestamp_length derived
  rw [protocolRequest]
  simp only [CipherType.keySize, CipherType.nonceSize]
  rw [bind_ok (fillBytes_ok _), divide_pos (by decide), pure_bind, derive, derived,
    Outcome.ofExcept, lift_ok_bind, bind_ok (fillBytes_ok _),
    Cipher.newWithNonce_sized keySize (Rng.fillBytes_length _ _), lift_ok_bind,
    Cipher.newWithNonce_sized keySize (Rng.fillBytes_length _ _), lift_ok_bind]
  dsimp only
  rw [bind_ok (genRange_ok (by decide)), List.append_assoc,
    bind_ok (encrypt_ok _ _ (Rng.fillBytes_length _ _))]
  dsimp only
  rw [bind_ok (encrypt_ok _ _ (Rng.fillBytes_length _ _))]
  dsimp only
  rw [bind_ok (fillBytes_ok _)]
  rfl

theorem protocolRequest_inv {key : String} {now : Int} {connection after : Connection S R}
    {request : ProtocolRequest}
    (run : protocolRequest key now connection = (.ok request, after)) :
    ∃ headerKey, Kdf.argon2.deriveKeyFromTimestamp (utf8Bytes key)
        (now.tdiv getProtocolMaxConnectDelay) = .ok headerKey ∧
      request = requestOf headerKey (requestDraws connection.rng) ∧
      after.history = connection.history ++
        [.sealed (requestInner headerKey (requestDraws connection.rng))] ++
        [.sealed (requestOuter headerKey (requestDraws connection.rng))] := by
  cases derived : Kdf.argon2.deriveKeyFromTimestamp (utf8Bytes key)
      (now.tdiv getProtocolMaxConnectDelay) with
  | error message =>
      rw [protocolRequest, bind_ok (fillBytes_ok _), divide_pos (by decide), pure_bind, derive,
        derived, Outcome.ofExcept, lift_err_bind] at run
      cases run
  | ok headerKey =>
      rw [protocolRequest_ok derived] at run
      cases run
      exact ⟨headerKey, rfl, rfl, rfl⟩

/-- The packet of a tunnel under a key. -/
def packetOf (protocol : ProtocolConfig) (headerKey : Bytes) (draws : Draws R) (hostLen : UInt8)
    (host : String) : TunnelPacket where
  bytes := draws.nonce.bytes ++ (headerRecord protocol headerKey draws hostLen).bytes ++
    (hostRecord protocol headerKey draws host).bytes ++ draws.padding
  salt := draws.salt
  headerCipher :=
    let unused : Cipher := ⟨protocol.cipher, headerKey, draws.nonce, [], 0⟩
    ((unused.logged (headerRecord protocol headerKey draws hostLen).plain).incNonce
      draws.paddingSize).logged (utf8Bytes host)
  paddingSize := draws.paddingSize

theorem tunnelPacket_ok {build : Build} {protocol : ProtocolConfig} {host : String} {now : Int}
    {connection : Connection S R} {headerKey : Bytes} {hostLen : UInt8}
    (positive : protocol.maxConnectDelay.toNat ≠ 0)
    (derived : protocol.kdf.deriveKeyFromTimestamp (utf8Bytes protocol.key)
      (now.tdiv protocol.maxConnectDelay.toNat) = .ok headerKey)
    (filled : protocol.headerPadding.start.toNat < protocol.headerPadding.stop.toNat)
    (sized : (hostLenByte build host : Outcome Error UInt8) = .ok hostLen) :
    tunnelPacket build protocol host now connection =
      let draws := tunnelDraws protocol connection.rng
      (.ok (packetOf protocol headerKey draws hostLen host), { connection with
        rng := draws.rng
        history := connection.history ++ [.sealed (headerRecord protocol headerKey draws hostLen)] ++
          [.sealed (hostRecord protocol headerKey draws host)] }) := by
  have keySize := Kdf.deriveKeyFromTimestamp_length derived
  rw [tunnelPacket]
  simp only [CipherType.keySize, CipherType.nonceSize]
  rw [bind_ok (fillBytes_ok _), divide_pos positive, pure_bind, derive, derived,
    Outcome.ofExcept, lift_ok_bind, bind_ok (fillBytes_ok _),
    Cipher.newWithNonce_sized keySize (Rng.fillBytes_length _ _), lift_ok_bind]
  dsimp only
  rw [bind_ok (genRange_ok filled), sized, lift_ok_bind, List.append_assoc, List.append_assoc,
    bind_ok (encrypt_ok _ _ (Rng.fillBytes_length _ _))]
  dsimp only
  rw [bind_ok (encrypt_ok _ _ rfl)]
  dsimp only
  rw [bind_ok (fillBytes_ok _), ← List.append_assoc]
  rfl

/-- A packet is only built by a configuration that can be divided by and
sampled from. -/
theorem tunnelPacket_inv {build : Build} {protocol : ProtocolConfig} {host : String} {now : Int}
    {connection after : Connection S R} {packet : TunnelPacket}
    (run : tunnelPacket build protocol host now connection = (.ok packet, after)) :
    ∃ headerKey hostLen,
      protocol.kdf.deriveKeyFromTimestamp (utf8Bytes protocol.key)
        (now.tdiv protocol.maxConnectDelay.toNat) = .ok headerKey ∧
      protocol.headerPadding.start.toNat < protocol.headerPadding.stop.toNat ∧
      (hostLenByte build host : Outcome Error UInt8) = .ok hostLen ∧
      packet = packetOf protocol headerKey (tunnelDraws protocol connection.rng) hostLen host ∧
      after.history = connection.history ++
        [.sealed (headerRecord protocol headerKey (tunnelDraws protocol connection.rng) hostLen)] ++
        [.sealed (hostRecord protocol headerKey (tunnelDraws protocol connection.rng) host)] := by
  have start := run
  rw [tunnelPacket] at run
  simp only [CipherType.keySize, CipherType.nonceSize] at run
  rw [bind_ok (fillBytes_ok _)] at run
  by_cases zero : protocol.maxConnectDelay.toNat = 0
  · rw [divide, if_pos zero, abort_bind] at run
    cases run
  rw [divide_pos zero, pure_bind] at run
  cases derived : protocol.kdf.deriveKeyFromTimestamp (utf8Bytes protocol.key)
      (now.tdiv protocol.maxConnectDelay.toNat) with
  | error message =>
      rw [derive, derived, Outcome.ofExcept, lift_err_bind] at run
      cases run
  | ok headerKey =>
      rw [derive, derived, Outcome.ofExcept, lift_ok_bind, bind_ok (fillBytes_ok _),
        Cipher.newWithNonce_sized (Kdf.deriveKeyFromTimestamp_length derived)
          (Rng.fillBytes_length _ _), lift_ok_bind] at run
      obtain ⟨paddingSize, next, drawn, run⟩ := bind_eq_ok.mp run
      by_cases filled : protocol.headerPadding.start.toNat < protocol.headerPadding.stop.toNat
      · obtain ⟨hostLen, _, sized, _⟩ := bind_eq_ok.mp run
        have sized : (hostLenByte build host : Outcome Error UInt8) = .ok hostLen :=
          congrArg Prod.fst sized
        rw [tunnelPacket_ok zero derived filled sized] at start
        cases start
        exact ⟨headerKey, hostLen, rfl, filled, sized, rfl, rfl⟩
      · rw [genRange, if_neg filled] at drawn
        cases drawn

/-- Where a packet could be made, the ciphers of its salt can. -/
theorem tunnelPacket_ciphers {build : Build} {protocol : ProtocolConfig} {host : String} {now : Int}
    {connection after : Connection S R} {packet : TunnelPacket}
    (run : tunnelPacket build protocol host now connection = (.ok packet, after)) :
    ∃ ciphers, Cipher.newClientServer protocol.cipher protocol.kdf (utf8Bytes protocol.key)
      packet.salt = .ok ciphers := by
  obtain ⟨headerKey, hostLen, derived, _, _, rfl, _⟩ := tunnelPacket_inv run
  have salted : (tunnelDraws protocol connection.rng).salt.length = 32 := Draws.salt_length
  obtain ⟨clientKey, client⟩ : ∃ clientKey, protocol.kdf.deriveClientKey
      (utf8Bytes protocol.key) (tunnelDraws protocol connection.rng).salt = .ok clientKey :=
    Kdf.deriveKey2_total derived salted (by decide)
  obtain ⟨serverKey, server⟩ : ∃ serverKey, protocol.kdf.deriveServerKey
      (utf8Bytes protocol.key) (tunnelDraws protocol connection.rng).salt = .ok serverKey :=
    Kdf.deriveKey2_total derived salted (by decide)
  exact ⟨_, Cipher.newClientServer_ok salted client server⟩

/-- The client's streams have the ciphers of the salt that was sent. -/
theorem processTunnel_inv [Socket S] {build : Build} {protocol : ProtocolConfig} {host : String}
    {now : Int} {connection after : Connection S R} {stream : EncryptedStream S R}
    (run : processTunnel build protocol host now connection = (.ok stream, after)) :
    ∃ packet sent ciphers, tunnelPacket build protocol host now connection = (.ok packet, sent) ∧
      Cipher.newClientServer protocol.cipher protocol.kdf (utf8Bytes protocol.key) packet.salt =
        .ok ciphers ∧
      stream.writeCipher = ciphers.1 ∧ stream.readCipher = ciphers.2 ∧
      after.history = sent.history := by
  rw [processTunnel] at run
  obtain ⟨packet, sent, packed, run⟩ := bind_eq_ok.mp run
  obtain ⟨_, written, writing, run⟩ := bind_eq_ok.mp run
  obtain ⟨_, flushed, flushing, run⟩ := bind_eq_ok.mp run
  have kept : flushed.history = sent.history := (io_history flushing).trans (io_history writing)
  cases derived : Cipher.newClientServer protocol.cipher protocol.kdf (utf8Bytes protocol.key)
      packet.salt with
  | ok ciphers =>
      rw [derived, mapErr, lift_ok_bind] at run
      cases run
      exact ⟨packet, sent, ciphers, packed, derived, rfl, rfl, kept⟩
  | err error =>
      rw [derived] at run
      cases run
  | panic reason =>
      rw [derived] at run
      cases run

end CovertConnect.Client
