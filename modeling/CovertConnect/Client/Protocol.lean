import CovertConnect.Client.Config
import CovertConnect.Crypto.Connection
import CovertConnect.Crypto.Stream

namespace CovertConnect.Client

open CovertConnect.Data CovertConnect.Crypto CovertConnect.Crypto.Connection

/-! # The client's end of the protocol -/

def maxGetProtocolHeaderPadding : Nat := 4096
def minGetProtocolHeaderPadding : Nat := 177

variable {S R : Type} [Aead] [Hashes]

/-- The request, with what the client keeps of it. -/
structure ProtocolRequest where
  bytes : Bytes
  salt : Bytes
  paddingSize : Nat
deriving DecidableEq, Repr

def protocolRequest [Rng R] (key : String) (now : Int) :
    Exec (Connection S R) Error ProtocolRequest := do
  let nonceSize := CipherType.aes256Gcm.nonceSize
  let salt ← fillBytes CipherType.aes256Gcm.keySize
  -- header cipher
  let timestamp ← divide now getProtocolMaxConnectDelay
  let headerKey ← derive (Kdf.argon2.deriveKeyFromTimestamp (utf8Bytes key) timestamp)
  let nonce ← fillBytes nonceSize
  let headerCipherAes ← .lift (Cipher.newWithNonce .aes256Gcm headerKey nonce)
  let headerCipherCha ← .lift (Cipher.newWithNonce .chaCha20Poly1305 headerKey headerCipherAes.nonce.bytes)
  -- first packet
  let packet := headerCipherAes.nonce.bytes
  let paddingSize ← genRange minGetProtocolHeaderPadding maxGetProtocolHeaderPadding
  let packet := packet ++ salt ++ beBytes 2 paddingSize
  let (packet, _) ← encrypt headerCipherCha packet nonceSize
  let (packet, _) ← encrypt headerCipherAes packet nonceSize
  -- unencrypted padding
  let padding ← fillBytes paddingSize
  return { bytes := packet ++ padding, salt, paddingSize }

def cantDecrypt (part : String) : Error :=
  .anyhow ("can't decrypt " ++ part)

/-- Peel off the ChaCha20-Poly1305 record, then the AES-256-GCM record in it. -/
def openLayers (cipherAes cipherCha : Cipher) (part : String) (record : Bytes) :
    Outcome Error Bytes :=
  match cipherCha.decrypt record with
  | (false, _) => .err (cantDecrypt part)
  | (true, record) =>
      match cipherAes.decrypt (record.take (record.length - cipherCha.tagSize)) with
      | (false, _) => .err (cantDecrypt part)
      | (true, record) => .ok record

def wrongDiscriminant (enumeration : String) (byte : UInt8) : Error :=
  .anyhow ("No discriminant in enum `" ++ enumeration ++ "` matches the value `" ++
    toString byte.toNat ++ "`")

def protocolFromPayload (key : String) (payload : Bytes) : Outcome Error ProtocolConfig := do
  let (kdfByte, payload) ← getBe 1 payload
  let kdf ←
    match Kdf.tryFrom (UInt8.ofNat kdfByte) with
    | some kdf => .ok kdf
    | none => .err (wrongDiscriminant "Kdf" (UInt8.ofNat kdfByte))
  let (cipherByte, payload) ← getBe 1 payload
  let cipher ←
    match CipherType.tryFrom (UInt8.ofNat cipherByte) with
    | some cipher => .ok cipher
    | none => .err (wrongDiscriminant "CipherType" (UInt8.ofNat cipherByte))
  let (maxConnectDelay, payload) ← getBe 2 payload
  let (headerPaddingStart, payload) ← getBe 2 payload
  let (headerPaddingEnd, payload) ← getBe 2 payload
  let (dataPaddingMax, payload) ← getBe 2 payload
  let (dataPaddingRate, payload) ← getBe 1 payload
  let (encryptionLimit, _) ← getBe 8 payload
  return {
    key, kdf, cipher
    maxConnectDelay := UInt16.ofNat maxConnectDelay
    headerPadding := ⟨UInt16.ofNat headerPaddingStart, UInt16.ofNat headerPaddingEnd⟩
    dataPadding := ⟨UInt16.ofNat dataPaddingMax, UInt8.ofNat dataPaddingRate⟩
    encryptionLimit := UInt64.ofNat encryptionLimit }

/-- The bytes of a `ProtocolConfig` without its key. -/
def protocolPayloadLen : Nat := 1 + 1 + 2 + 2 + 2 + 2 + 1 + 8

def readProtocolResponse [Socket S] (key : String) (salt : Bytes) :
    Exec (Connection S R) Error ProtocolConfig := do
  let tagSize := CipherType.aes256Gcm.tagSize
  let headerLen := 2 + 2 + tagSize + tagSize
  let header ← io (Socket.read · headerLen)
  if header.length ≠ headerLen then .fail (.anyhow "wrong header size")
  else do
    let (cipherAes, cipherCha) ← .lift (responseCiphers (utf8Bytes key) salt)
    let header ← .lift (openLayers cipherAes cipherCha "header" header)
    let cipherAes := cipherAes.incNonce 1
    let cipherCha := cipherCha.incNonce 1
    let (paddingBytes, header) ← .lift (.splitTo header 2)
    let paddingStart := beNat paddingBytes
    let (paddingBytes, _) ← .lift (.splitTo header 2)
    let paddingEnd := beNat paddingBytes
    let data ← io (Socket.readExact ·
      (paddingStart + protocolPayloadLen + paddingEnd + tagSize + tagSize))
    let data ← .lift (openLayers cipherAes cipherCha "data" data)
    let (_, payload) ← .lift (.splitTo data paddingStart)
    .lift (protocolFromPayload key payload)

def getServerProtocol [Socket S] [Rng R] (key : String) (now : Int) :
    Exec (Connection S R) Error ProtocolConfig := do
  let request ← protocolRequest key now
  io (Socket.writeAll · request.bytes)
  io Socket.flush
  readProtocolResponse key request.salt

/-- The first packet, with what the client keeps of it. -/
structure TunnelPacket where
  bytes : Bytes
  salt : Bytes
  headerCipher : Cipher
  paddingSize : Nat

def tunnelPacket [Rng R] (build : Build) (protocol : ProtocolConfig) (host : String) (now : Int) :
    Exec (Connection S R) Error TunnelPacket := do
  let nonceSize := protocol.cipher.nonceSize
  let salt ← fillBytes protocol.cipher.keySize
  -- header cipher
  let timestamp ← divide now protocol.maxConnectDelay.toNat
  let headerKey ← derive (protocol.kdf.deriveKeyFromTimestamp (utf8Bytes protocol.key) timestamp)
  let nonce ← fillBytes nonceSize
  let headerCipher ← .lift (Cipher.newWithNonce protocol.cipher headerKey nonce)
  -- first packet
  let packet := headerCipher.nonce.bytes
  let paddingSize ← genRange protocol.headerPadding.start.toNat protocol.headerPadding.stop.toNat
  let hostLen ← .lift (hostLenByte build host)
  let packet := packet ++ salt ++ beBytes 2 paddingSize ++ [hostLen]
  -- main header part
  let (packet, headerCipher) ← encrypt headerCipher packet nonceSize
  let headerCipher := headerCipher.incNonce paddingSize
  -- host
  let headerMainSize := packet.length
  let packet := packet ++ utf8Bytes host
  let (packet, headerCipher) ← encrypt headerCipher packet headerMainSize
  -- unencrypted padding
  let padding ← fillBytes paddingSize
  return { bytes := packet ++ padding, salt, headerCipher, paddingSize }

/-- Up to the relay between the client's socket and the stream. -/
def processTunnel [Socket S] [Rng R] (build : Build) (protocol : ProtocolConfig) (host : String)
    (now : Int) : Exec (Connection S R) Error (EncryptedStream S R) := do
  let packet ← tunnelPacket build protocol host now
  io (Socket.writeAll · packet.bytes)
  io Socket.flush
  let (clientCipher, serverCipher) ←
    .lift (mapErr .anyhow
      (Cipher.newClientServer protocol.cipher protocol.kdf (utf8Bytes protocol.key) packet.salt))
  let connection ← .get
  return .fromStream connection.stream serverCipher clientCipher protocol.dataPadding
    protocol.encryptionLimit.toNat connection.rng

end CovertConnect.Client
