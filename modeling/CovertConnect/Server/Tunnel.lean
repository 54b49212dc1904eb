import CovertConnect.Crypto.Connection
import CovertConnect.Crypto.Stream
import CovertConnect.Server.Config
import CovertConnect.Server.Upgrade

namespace CovertConnect.Server

open CovertConnect.Data CovertConnect.Crypto CovertConnect.Crypto.Connection
open CovertConnect.Client (IpAddr SocketAddr)

/-! # The server's end of the protocol

`start_tunnel` reads the header of a tunnel; what is no such header may still be
a request for the protocol configuration. -/

def localHost : IpAddr := .v4 #v[127, 0, 0, 1]

section Opening

variable [Aead] [Hashes]

/-- A header opened under the key of its time bucket, or else under the key of
the bucket before, with the cipher that opened it. -/
def openHeader (kind : CipherType) (kdf : Kdf) (key : Bytes) (timestampForKey : Int)
    (nonce header : Bytes) : Outcome Error (Option (Cipher × Bytes)) := do
  let headerKey ← .ofExcept .anyhow (kdf.deriveKeyFromTimestamp key timestampForKey)
  let headerCipher ← Cipher.newWithNonce kind headerKey nonce
  match headerCipher.decrypt header with
  | (true, header) => return some (headerCipher, header)
  | (false, _) =>
      -- the client may have sent its data in the previous interval; the header is restored
      let headerKey ← .ofExcept .anyhow (kdf.deriveKeyFromTimestamp key (timestampForKey - 1))
      let headerCipher ← Cipher.newWithNonce kind headerKey nonce
      match headerCipher.decrypt header with
      | (true, header) => return some (headerCipher, header)
      | (false, _) => return none

/-- The fixed part of a tunnel header, with the cipher at the nonce that opened
it. -/
structure TunnelHeader where
  cipher : Cipher
  salt : Bytes
  padding : Nat
  hostLen : Nat

def openTunnelHeader (protocol : ProtocolConfig) (timestampForKey : Int) (nonce header : Bytes) :
    Outcome Error (Option TunnelHeader) := do
  match ← openHeader protocol.cipher protocol.kdf (utf8Bytes protocol.key) timestampForKey
      nonce header with
  | none => return none
  | some (cipher, header) =>
      let (salt, header) ← .splitTo header protocol.cipher.keySize
      let (paddingBytes, header) ← .splitTo header 2
      let (hostLenBytes, _) ← .splitTo header 1
      return some {
        cipher, salt
        padding := beNat paddingBytes
        hostLen := beNat hostLenBytes + minHostLen }

structure SpecialHeader where
  salt : Bytes
  padding : Nat
deriving DecidableEq, Repr

def openSpecialHeader (key : Bytes) (timestampForKey : Int) (nonce header : Bytes) :
    Outcome Error SpecialHeader := do
  match ← openHeader .aes256Gcm .argon2 key timestampForKey nonce header with
  | none => .err (.anyhow "decrypt error")
  | some (cipher, header) =>
      let header := header.take (header.length - CipherType.aes256Gcm.tagSize)
      let headerCipher ← Cipher.newWithNonce .chaCha20Poly1305 cipher.key nonce
      match headerCipher.decrypt header with
      | (false, _) => .err (.anyhow "decrypt error")
      | (true, header) =>
          let (salt, header) ← .splitTo header CipherType.aes256Gcm.keySize
          let (paddingBytes, _) ← .splitTo header 2
          return { salt, padding := beNat paddingBytes }

end Opening

/-- `Display for Utf8Error`: the first ill-formed character, found from `pos`
on. -/
def utf8Error : (turns pos : Nat) → Bytes → String
  | 0, _, _ => ""
  | turns + 1, pos, bytes =>
      let (size, valid) := firstUnit bytes
      if valid then utf8Error turns (pos + size) (bytes.drop size)
      else if size = bytes.length ∧ (bytes.head?.bind secondByte).isSome then
        "incomplete utf-8 byte sequence from index " ++ toString pos
      else
        "invalid utf-8 sequence of " ++ toString size ++ " bytes from index " ++ toString pos

section Calls

variable {S R : Type} [Socket S] [Rng R]

/-- The buffer has a capacity of `maxRead` bytes and no length: there is
nothing to read into. -/
def terminateSlowly (cooldown : PaddingRange) : Exec (Connection S R) Error Unit := do
  let maxRead ← genRange 0 0x10000
  let maxTimeMs ← genRange cooldown.start.toNat cooldown.stop.toNat
  log (.terminated maxRead maxTimeMs)
  .modify fun connection =>
    { connection with stream := Socket.readTimeout connection.stream 0 maxTimeMs }

def refuse {α : Type} (cfg : AppConfig) (message : String) : Exec (Connection S R) Error α := do
  terminateSlowly cfg.unauthCooldown
  .fail (.anyhow message)

variable [Aead] [Hashes]

def payload (protocol : ProtocolConfig) : Bytes :=
  [protocol.kdf.toByte, protocol.cipher.toByte] ++ beBytes 2 protocol.maxConnectDelay.toNat ++
    beBytes 2 protocol.headerPadding.start.toNat ++ beBytes 2 protocol.headerPadding.stop.toNat ++
    beBytes 2 protocol.dataPadding.max.toNat ++ [protocol.dataPadding.rate] ++
    beBytes 8 protocol.encryptionLimit.toNat

omit [Socket S] in
/-- The response to an authenticated request. -/
def specialResponse (protocol : ProtocolConfig) (salt : Bytes) :
    Exec (Connection S R) Error Bytes := do
  let paddingBegin ← genRange 77 777
  let paddingEnd ← genRange 77 777
  let (cipherAes, cipherCha) ← .lift (responseCiphers (utf8Bytes protocol.key) salt)
  -- header
  let response := beBytes 2 paddingBegin ++ beBytes 2 paddingEnd
  let (response, cipherAes) ← encrypt cipherAes response 0
  let (response, cipherCha) ← encrypt cipherCha response 0
  let cipherAes := cipherAes.incNonce 1
  let cipherCha := cipherCha.incNonce 1
  let payloadStart := response.length
  -- paddings and data
  let begin ← fillBytes paddingBegin
  let response := response ++ begin ++ payload protocol
  let padding ← fillBytes paddingEnd
  let response := response ++ padding
  let (response, _) ← encrypt cipherAes response payloadStart
  let (response, _) ← encrypt cipherCha response payloadStart
  return response

def specialHeaderLen : Nat :=
  CipherType.aes256Gcm.nonceSize + CipherType.aes256Gcm.keySize + 2 +
    CipherType.aes256Gcm.tagSize + CipherType.aes256Gcm.tagSize

/-- Read the rest of an authenticated request, whose header is cut off `data`,
and respond. -/
def answerSpecialRequest (cfg : AppConfig) (data : Bytes) (readed : Nat) (header : SpecialHeader) :
    Exec (Connection S R) Error Unit := do
  let data := resize data (specialHeaderLen + header.padding)
  let rest ← tryReadRest data readed
  if readed + rest.length ≠ specialHeaderLen + header.padding then
    .fail (.anyhow "not enough readed (padding)")
  else do
    let response ← specialResponse cfg.protocol header.salt
    io (Socket.writeAll · response)
    io Socket.flush

/-- `data` is the buffer of the first read, of which `readed` bytes were
read. -/
def trySpecialRequest (cfg : AppConfig) (connectTime : Int) (data : Bytes) (readed : Nat) :
    Exec (Connection S R) Error Unit := do
  let timestampForKey ← divide connectTime getProtocolMaxConnectDelay
  if readed < specialHeaderLen then .fail (.anyhow "not enough readed")
  else do
    let (header, data) ← .lift (.splitTo data specialHeaderLen)
    let (nonce, header) ← .lift (.splitTo header CipherType.aes256Gcm.nonceSize)
    let header ← .lift (openSpecialHeader (utf8Bytes cfg.protocol.key) timestampForKey nonce header)
    answerSpecialRequest cfg data readed header

/-- What `start_tunnel` holds when the relay between the two streams begins. -/
structure Tunnel (S R : Type) where
  host : String
  addr : SocketAddr
  /-- The address that the outgoing socket is bound to. -/
  outAddr : Option IpAddr
  nonce : Bytes
  header : TunnelHeader
  client : EncryptedStream S R

/-- The header of a tunnel must come from the proxy if it comes from the
machine itself. -/
def acceptUpgrade (socketAddr : SocketAddr) (cfg : AppConfig) (urlPath : String)
    (upgradeSupport : Bool) : Exec (Connection S R) Error Unit := do
  if upgradeSupport ∧ socketAddr.ip = localHost then
    match ← .attempt (onStream (processHttpUpgrade urlPath)) with
    | .ok () => return
    | .error err => do
        terminateSlowly cfg.unauthCooldown
        .fail err
  else return

/-- Try a special request; `none` is that it was answered. -/
def otherwise {α : Type} (cfg : AppConfig) (connectTime : Int) (data : Bytes) (readed : Nat)
    (message : String) : Exec (Connection S R) Error (Option α) := do
  match ← .attempt (trySpecialRequest cfg connectTime data readed) with
  | .ok () => return none
  | .error _ => refuse cfg message

/-- The host record at the front of `data`. -/
def decodeHost (cfg : AppConfig) (header : TunnelHeader) (data : Bytes) :
    Exec (Connection S R) Error String := do
  let (hostData, _) ← .lift (.splitTo data (header.hostLen + cfg.protocol.cipher.tagSize))
  match (header.cipher.incNonce header.padding).decrypt hostData with
  | (false, _) => refuse cfg "decrypt host failed"
  | (true, hostData) => do
      let hostBytes ← .lift (.slice hostData 0 header.hostLen)
      match fromUtf8 hostBytes with
      | some host => return host
      | none => refuse cfg (utf8Error hostBytes.length 0 hostBytes)

/-- `data` has what came with the fixed part. -/
def readHost (cfg : AppConfig) (header : TunnelHeader) (data : Bytes) :
    Exec (Connection S R) Error String := do
  let restHeaderSize := header.hostLen + cfg.protocol.cipher.tagSize + header.padding
  let readed := data.length
  let data := resize data restHeaderSize
  let rest ← tryReadRest data readed
  if readed + rest.length < restHeaderSize then
    -- header should be written in one call
    refuse cfg "wrong header packet size"
  else decodeHost cfg header (data.take readed ++ rest)

/-- `reduce`, to the first IPv4 address or else to the first one. -/
def preferIpv4 (addresses : List SocketAddr) : Option SocketAddr :=
  match addresses with
  | [] => none
  | first :: others =>
      some (others.foldl (fun acc value =>
        if !IpAddr.isIpv4 acc.ip && IpAddr.isIpv4 value.ip then value else acc) first)

/-- `lookup` is what the resolver answers. -/
def openTunnel (lookup : String → Except IoError (List SocketAddr)) (cfg : AppConfig)
    (nonce : Bytes) (header : TunnelHeader) (host : String) :
    Exec (Connection S R) Error (Tunnel S R) := do
  match lookup host with
  | .error error => .fail (.io error)
  | .ok addresses =>
      match preferIpv4 addresses with
      | none => .fail (.anyhow ("host " ++ host ++ " notfound"))
      | some addr => do
          let (clientCipher, serverCipher) ←
            .lift (mapErr .anyhow (Cipher.newClientServer cfg.protocol.cipher cfg.protocol.kdf
              (utf8Bytes cfg.protocol.key) header.salt))
          let connection ← .get
          return {
            host, addr, nonce, header
            outAddr := cfg.outAddress.filter fun outAddr =>
              IpAddr.isIpv4 outAddr == IpAddr.isIpv4 addr.ip
            client := .fromStream connection.stream clientCipher serverCipher
              cfg.protocol.dataPadding cfg.protocol.encryptionLimit.toNat connection.rng }

def mainHeaderLen (protocol : ProtocolConfig) : Nat :=
  protocol.cipher.nonceSize + protocol.cipher.keySize + 2 + 1 + protocol.cipher.tagSize

def minHeaderLen (protocol : ProtocolConfig) : Nat :=
  mainHeaderLen protocol + minHostLen + protocol.cipher.tagSize +
    protocol.headerPadding.start.toNat

/-- The rest of a tunnel header, and the streams of the tunnel. -/
def acceptTunnel (lookup : String → Except IoError (List SocketAddr)) (cfg : AppConfig)
    (nonce data : Bytes) (header : TunnelHeader) :
    Exec (Connection S R) Error (Option (Tunnel S R)) := do
  let host ← readHost cfg header data
  let tunnel ← openTunnel lookup cfg nonce header host
  return some tunnel

/-- After the upgrade; `none` is that a special request was answered. -/
def readHeader (lookup : String → Except IoError (List SocketAddr)) (connectTime : Int)
    (cfg : AppConfig) : Exec (Connection S R) Error (Option (Tunnel S R)) := do
  let data ← io (Socket.read · (minHeaderLen cfg.protocol))
  let readed := data.length
  if readed < minHeaderLen cfg.protocol then
    -- header should be written in one call
    otherwise cfg connectTime (resize data (minHeaderLen cfg.protocol)) readed
      "wrong header packet size"
  else do
    let (header, data) ← .lift (.splitTo data (mainHeaderLen cfg.protocol))
    let (nonce, header) ← .lift (.splitTo header cfg.protocol.cipher.nonceSize)
    let timestampForKey ← divide connectTime cfg.protocol.maxConnectDelay.toNat
    match ← .lift (openTunnelHeader cfg.protocol timestampForKey nonce header) with
    | none =>
        -- the splited data is restored
        otherwise cfg connectTime (nonce ++ header ++ data) readed "decrypt header failed"
    | some opened => acceptTunnel lookup cfg nonce data opened

def startTunnel (lookup : String → Except IoError (List SocketAddr)) (socketAddr : SocketAddr)
    (connectTime : Int) (cfg : AppConfig) (urlPath : String) (upgradeSupport : Bool) :
    Exec (Connection S R) Error (Option (Tunnel S R)) := do
  acceptUpgrade socketAddr cfg urlPath upgradeSupport
  readHeader lookup connectTime cfg

end Calls

end CovertConnect.Server
