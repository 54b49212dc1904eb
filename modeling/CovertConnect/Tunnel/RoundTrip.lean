import CovertConnect.Client.Packets
import CovertConnect.Server.Panics

namespace CovertConnect.Tunnel

open CovertConnect.Data CovertConnect.Data.Exec
open CovertConnect.Crypto CovertConnect.Crypto.Connection
open CovertConnect.Client CovertConnect.Server

/-! # A tunnel header reaches the server as it was sent -/

/-- `holds stream unread`: these bytes wait in the stream, and reads take them
from the front as long as there are enough.  So `tryRead` into an empty slice is
`Ok(0)` when nothing waits, where Linux would block on a socket that is open. -/
structure Buffered {S : Type} [Socket S] (holds : S → Bytes → Prop) : Prop where
  read : ∀ stream unread room, holds stream unread → room ≤ unread.length →
    ∃ after, Socket.read stream room = (.ok (unread.take room), after) ∧
      holds after (unread.drop room)
  tryRead : ∀ stream unread room, holds stream unread → room ≤ unread.length →
    ∃ after, Socket.tryRead stream room = (.ok (unread.take room), after) ∧
      holds after (unread.drop room)

theorem loaded_buffered :
    Buffered fun (stream : Loaded) (unread : Bytes) => stream.incoming = unread where
  read := by
    intro stream _ room same _
    subst same
    exact ⟨_, rfl, rfl⟩
  tryRead := by
    intro stream _ room same _
    subst same
    exact ⟨_, rfl, rfl⟩

/-- A bucket is the same or the one before. -/
theorem bucket_cases {server client : Int} (near : server - client ∈ [(0 : Int), 1]) :
    client = server ∨ client = server - 1 := by
  simp only [List.mem_cons, List.not_mem_nil, or_false] at near
  omega

/-- A first read whose front is a nonce and a record of the header. -/
theorem front_cut {data nonce record : Bytes} {count : Nat} (sized : nonce.length = 12)
    (fixed : data.take count = nonce ++ record) :
    data.take 12 = nonce ∧ (data.take count).drop 12 = record := by
  have long : 12 ≤ count := by
    have size := congrArg List.length fixed
    rw [List.length_take, List.length_append, sized] at size
    omega
  have inner : (data.take count).take 12 = data.take 12 := by
    rw [List.take_take, Nat.min_eq_left long]
  exact ⟨by rw [← inner, fixed, List.take_left' sized], by rw [fixed, List.drop_left' sized]⟩

section Reading

variable {S R : Type} [Socket S] {holds : S → Bytes → Prop}

theorem Buffered.io_read (buffered : Buffered holds) {connection : Connection S R}
    {front rest : Bytes} {room : Nat} (waiting : holds connection.stream (front ++ rest))
    (sized : front.length = room) :
    ∃ stream, (io (Socket.read · room) : Exec (Connection S R) Error Bytes) connection =
        (.ok front, { connection with stream }) ∧ holds stream rest := by
  subst sized
  obtain ⟨stream, read, left⟩ := buffered.read _ _ front.length waiting
    (by rw [List.length_append]; omega)
  rw [List.take_left] at read
  rw [List.drop_left] at left
  exact ⟨stream, by rw [io, read], left⟩

theorem Buffered.tryReadRest (buffered : Buffered holds) {connection : Connection S R}
    {data front rest : Bytes} {readed : Nat} (waiting : holds connection.stream (front ++ rest))
    (inside : readed ≤ data.length) (sized : front.length = data.length - readed) :
    ∃ stream, Connection.tryReadRest data readed connection =
        (.ok front, { connection with stream }) ∧ holds stream rest := by
  obtain ⟨stream, read, left⟩ := buffered.tryRead _ _ front.length waiting
    (by rw [List.length_append]; omega)
  rw [List.take_left] at read
  rw [List.drop_left] at left
  exact ⟨stream, by rw [Connection.tryReadRest, if_pos inside, ← sized, io, read], left⟩

variable [Rng R]

variable [Aead]

theorem decodeHost_ok (correct : Aead.Correct) {cfg : AppConfig} {header : TunnelHeader}
    {host : String} {padding : Bytes} {connection : Connection S R} {record : SealRecord}
    (plain : record.plain = utf8Bytes host) (sized : header.hostLen = strLen host)
    (kind : header.cipher.kind = record.kind) (key : header.cipher.key = record.key)
    (nonce : header.cipher.nonce.inc header.padding = record.nonce) :
    decodeHost cfg header (record.bytes ++ padding) connection = (.ok host, connection) := by
  have tag : cfg.protocol.cipher.tagSize = 16 := rfl
  have recordSize : record.bytes.length = header.hostLen + cfg.protocol.cipher.tagSize := by
    rw [SealRecord.bytes_length, plain, sized, tag, strLen]
  have opened : Aead.openRecord (header.cipher.incNonce header.padding).kind
      (header.cipher.incNonce header.padding).key (header.cipher.incNonce header.padding).nonce
      record.bytes = some (utf8Bytes host) := by
    rw [Cipher.incNonce_kind, Cipher.incNonce_key, Cipher.incNonce_nonce, kind, key, nonce, ← plain]
    exact Aead.openRecord_sealRecord correct _ _ _ _
  have hostSize : header.hostLen = (utf8Bytes host).length := sized
  rw [decodeHost, Outcome.splitTo_append recordSize, lift_ok_bind]
  dsimp only
  rw [Cipher.decrypt_some opened]
  dsimp only
  rw [Outcome.slice_ok (Nat.zero_le _) (by rw [List.length_append]; omega), lift_ok_bind,
    List.drop_zero, Nat.sub_zero, hostSize, List.take_left, fromUtf8_utf8Bytes]
  rfl

/-- What is left of a packet after the first read is read at once. -/
theorem readHost_ok (correct : Aead.Correct) (buffered : Buffered holds) {cfg : AppConfig}
    {header : TunnelHeader} {host : String} {padding rest : Bytes} {got : Nat}
    {connection : Connection S R} {record : SealRecord}
    (plain : record.plain = utf8Bytes host) (sized : header.hostLen = strLen host)
    (kind : header.cipher.kind = record.kind) (key : header.cipher.key = record.key)
    (nonce : header.cipher.nonce.inc header.padding = record.nonce)
    (padded : padding.length = header.padding)
    (inside : got ≤ (record.bytes ++ padding).length)
    (waiting : holds connection.stream ((record.bytes ++ padding).drop got ++ rest)) :
    ∃ stream, readHost cfg header ((record.bytes ++ padding).take got) connection =
        (.ok host, { connection with stream }) ∧ holds stream rest := by
  have tag : cfg.protocol.cipher.tagSize = 16 := rfl
  have whole : (record.bytes ++ padding).length =
      header.hostLen + cfg.protocol.cipher.tagSize + header.padding := by
    rw [List.length_append, SealRecord.bytes_length, plain, sized, tag, padded, strLen]
  have taken := List.length_take_of_le inside
  have inside' : ((record.bytes ++ padding).take got).length ≤
      (resize ((record.bytes ++ padding).take got)
        (header.hostLen + cfg.protocol.cipher.tagSize + header.padding)).length := by
    rw [resize_length]
    omega
  have missing : ((record.bytes ++ padding).drop got).length =
      (resize ((record.bytes ++ padding).take got)
        (header.hostLen + cfg.protocol.cipher.tagSize + header.padding)).length -
          ((record.bytes ++ padding).take got).length := by
    rw [List.length_drop, resize_length]
    omega
  obtain ⟨stream, read, left⟩ := buffered.tryReadRest waiting inside' missing
  refine ⟨stream, ?_, left⟩
  have enough : ¬ ((record.bytes ++ padding).take got).length +
      ((record.bytes ++ padding).drop got).length <
        header.hostLen + cfg.protocol.cipher.tagSize + header.padding := by
    rw [List.length_drop]
    omega
  have grown : (resize ((record.bytes ++ padding).take got)
      (header.hostLen + cfg.protocol.cipher.tagSize + header.padding)).take
        ((record.bytes ++ padding).take got).length = (record.bytes ++ padding).take got := by
    rw [resize_grow (by omega), List.take_left]
  rw [readHost, bind_ok read, if_neg enough, grown, List.take_append_drop]
  exact decodeHost_ok correct plain sized kind key nonce

variable [Hashes]

/-- What the server makes of the fixed part. -/
def sentHeader (protocol : ProtocolConfig) (headerKey : Bytes) (draws : Draws R) (host : String) :
    TunnelHeader where
  cipher := ⟨protocol.cipher, headerKey, draws.nonce, [], 0⟩
  salt := draws.salt
  padding := draws.paddingSize
  hostLen := strLen host

/-- Draws and a host that fit into a header. -/
structure Sendable (protocol : ProtocolConfig) (draws : Draws R) (host : String) : Prop where
  salt : draws.salt.length = 32
  padding : draws.padding.length = draws.paddingSize
  least : protocol.headerPadding.start.toNat ≤ draws.paddingSize
  small : draws.paddingSize < 65536
  long : minHostLen ≤ strLen host
  short : strLen host ≤ 259

def hostByte (host : String) : UInt8 :=
  UInt8.ofNat (strLen host - minHostLen)

namespace Sendable

variable {R' : Type} {protocol : ProtocolConfig} {draws : Draws R'} {host : String}

omit [Socket S] [Rng R] [Aead] [Hashes] in
theorem beNat_hostByte (fits : Sendable protocol draws host) :
    beNat [hostByte host] = strLen host - minHostLen := by
  have small : strLen host - minHostLen < 256 := by
    have long := fits.long
    have short := fits.short
    rw [minHostLen] at long ⊢
    omega
  simp [beNat, leNat, hostByte, Nat.mod_eq_of_lt small]

end Sendable

omit [Socket S] [Rng R] [Aead] [Hashes] in
theorem headerRecord_length {R' : Type} {protocol : ProtocolConfig} {draws : Draws R'}
    (hostLen : UInt8) (headerKey : Bytes) (salted : draws.salt.length = 32) :
    (headerRecord protocol headerKey draws hostLen).plain.length = 35 := by
  rw [headerRecord, List.length_append, List.length_append, salted, beBytes_length]
  rfl

omit [Socket S] [Rng R] in
/-- The fixed part of a packet, whatever its last byte says. -/
theorem openTunnelHeader_sent {R' : Type} (correct : Aead.Correct) {protocol : ProtocolConfig}
    {draws : Draws R'} {hostLen : UInt8} {headerKey : Bytes} {timestampForKey timestamp : Int}
    (salted : draws.salt.length = 32) (small : draws.paddingSize < 65536)
    (bucket : timestamp = timestampForKey ∨ timestamp = timestampForKey - 1)
    (derived : protocol.kdf.deriveKeyFromTimestamp (utf8Bytes protocol.key) timestamp =
      .ok headerKey)
    (wrong : ∀ other, protocol.kdf.deriveKeyFromTimestamp (utf8Bytes protocol.key)
      timestampForKey = .ok other →
        (headerRecord protocol headerKey draws hostLen).FailsUnder other) :
    openTunnelHeader protocol timestampForKey draws.nonce.bytes
      (headerRecord protocol headerKey draws hostLen).bytes =
        .ok (some {
          cipher := ⟨protocol.cipher, headerKey, draws.nonce, [], 0⟩
          salt := draws.salt
          padding := draws.paddingSize
          hostLen := beNat [hostLen] + minHostLen }) := by
  have plain : (headerRecord protocol headerKey draws hostLen).plain =
      draws.salt ++ (beBytes 2 draws.paddingSize ++ [hostLen]) := List.append_assoc _ _ _
  have opened := openHeader_sealed correct bucket derived wrong
  have front : (draws.salt ++ beBytes 2 draws.paddingSize).length = 34 := by
    rw [List.length_append, salted, beBytes_length]
  have salt : (headerRecord protocol headerKey draws hostLen).plain.take 32 = draws.salt := by
    rw [plain, List.take_left' salted]
  have padding : ((headerRecord protocol headerKey draws hostLen).plain.drop 32).take 2 =
      beBytes 2 draws.paddingSize := by
    rw [plain, List.drop_left' salted, List.take_left' (beBytes_length _ _)]
  have length : (headerRecord protocol headerKey draws hostLen).plain.drop 34 = [hostLen] :=
    List.drop_left' front
  refine (openTunnelHeader_some opened (headerRecord_length hostLen headerKey salted)).trans ?_
  rw [salt, padding, length, beNat_beBytes_of_lt small]
  rfl

namespace Sendable

variable {R' : Type} {protocol : ProtocolConfig} {draws : Draws R'} {host : String}

omit [Socket S] [Rng R] in
theorem openTunnelHeader (fits : Sendable protocol draws host) (correct : Aead.Correct)
    {headerKey : Bytes} {timestampForKey timestamp : Int}
    (bucket : timestamp = timestampForKey ∨ timestamp = timestampForKey - 1)
    (derived : protocol.kdf.deriveKeyFromTimestamp (utf8Bytes protocol.key) timestamp =
      .ok headerKey)
    (wrong : ∀ other, protocol.kdf.deriveKeyFromTimestamp (utf8Bytes protocol.key)
      timestampForKey = .ok other →
        (headerRecord protocol headerKey draws (hostByte host)).FailsUnder other) :
    Server.openTunnelHeader protocol timestampForKey draws.nonce.bytes
      (headerRecord protocol headerKey draws (hostByte host)).bytes =
        .ok (some (sentHeader protocol headerKey draws host)) := by
  rw [openTunnelHeader_sent correct fits.salt fits.small bucket derived wrong,
    fits.beNat_hostByte, Nat.sub_add_cancel fits.long]
  rfl

/-- A whole packet is read and decoded, and nothing behind it is touched. -/
theorem readHeader_packet (fits : Sendable protocol draws host) (correct : Aead.Correct)
    (buffered : Buffered holds) {lookup : String → Except IoError (List SocketAddr)}
    {connectTime timestamp : Int} {cfg : AppConfig} {headerKey rest : Bytes}
    {connection : Connection S R} (shared : cfg.protocol = protocol)
    (positive : protocol.maxConnectDelay.toNat ≠ 0)
    (bucket : timestamp = connectTime.tdiv protocol.maxConnectDelay.toNat ∨
      timestamp = connectTime.tdiv protocol.maxConnectDelay.toNat - 1)
    (derived : protocol.kdf.deriveKeyFromTimestamp (utf8Bytes protocol.key) timestamp =
      .ok headerKey)
    (wrong : ∀ other, protocol.kdf.deriveKeyFromTimestamp (utf8Bytes protocol.key)
      (connectTime.tdiv protocol.maxConnectDelay.toNat) = .ok other →
        (headerRecord protocol headerKey draws (hostByte host)).FailsUnder other)
    (waiting : holds connection.stream
      ((packetOf protocol headerKey draws (hostByte host) host).bytes ++ rest)) :
    ∃ stream, readHeader lookup connectTime cfg connection =
        (openTunnel lookup cfg draws.nonce.bytes (sentHeader protocol headerKey draws host) host >>=
          fun tunnel => pure (some tunnel)) { connection with stream } ∧
      holds stream rest := by
  subst shared
  let header := headerRecord cfg.protocol headerKey draws (hostByte host)
  let hostRec := hostRecord cfg.protocol headerKey draws host
  let got := 20 + cfg.protocol.headerPadding.start.toNat
  have headerSize : header.bytes.length = 51 := by
    rw [SealRecord.bytes_length, headerRecord_length _ _ fits.salt]
  have fixedSize : (draws.nonce.bytes ++ header.bytes).length = 63 := by
    rw [List.length_append, headerSize, draws.nonce.length_eq]
  have tailSize : (hostRec.bytes ++ draws.padding).length =
      strLen host + 16 + draws.paddingSize := by
    rw [List.length_append, SealRecord.bytes_length, fits.padding]
    rfl
  have minLen : minHeaderLen cfg.protocol = 63 + got := by
    change 83 + cfg.protocol.headerPadding.start.toNat = _
    omega
  have inside : got ≤ (hostRec.bytes ++ draws.padding).length := by
    have least := fits.least
    have long := fits.long
    rw [minHostLen] at long
    omega
  have gotSize := List.length_take_of_le inside
  -- the packet, cut where the first read ends
  have cut : (packetOf cfg.protocol headerKey draws (hostByte host) host).bytes ++ rest =
      (draws.nonce.bytes ++ header.bytes ++ (hostRec.bytes ++ draws.padding).take got) ++
        ((hostRec.bytes ++ draws.padding).drop got ++ rest) := by
    rw [List.append_assoc _ _ (_ ++ rest), ← List.append_assoc _ _ rest, List.take_append_drop]
    simp only [packetOf, List.append_assoc]
    rfl
  rw [cut] at waiting
  have frontSize : (draws.nonce.bytes ++ header.bytes ++
      (hostRec.bytes ++ draws.padding).take got).length = minHeaderLen cfg.protocol := by
    rw [List.length_append, fixedSize, gotSize, minLen]
  obtain ⟨first, read, left⟩ := buffered.io_read waiting frontSize
  -- the front, cut into the nonce, the fixed part and the start of the host record
  obtain ⟨nonceCut, headerCut⟩ := front_cut draws.nonce.length_eq (List.take_left' fixedSize)
  have hostCut : (draws.nonce.bytes ++ header.bytes ++
      (hostRec.bytes ++ draws.padding).take got).drop 63 =
        (hostRec.bytes ++ draws.padding).take got := List.drop_left' fixedSize
  have enough : ¬ (draws.nonce.bytes ++ header.bytes ++
      (hostRec.bytes ++ draws.padding).take got).length < minHeaderLen cfg.protocol := by
    omega
  obtain ⟨stream, decoded, untouched⟩ :
      ∃ stream, readHost cfg (sentHeader cfg.protocol headerKey draws host)
          ((hostRec.bytes ++ draws.padding).take got) { connection with stream := first } =
          (.ok host, { connection with stream }) ∧ holds stream rest :=
    readHost_ok correct buffered rfl rfl rfl rfl rfl fits.padding inside left
  refine ⟨stream, ?_, untouched⟩
  rw [readHeader_eq, bind_ok read, afterRead, if_neg enough, divide_pos positive, pure_bind,
    nonceCut, headerCut, hostCut, fits.openTunnelHeader correct bucket derived wrong,
    lift_ok_bind]
  dsimp only
  rw [acceptTunnel, bind_ok decoded]

end Sendable

omit [Socket S] [Rng R] [Aead] [Hashes] in
theorem hostLenByte_ok {ε : Type} (build : Build) {host : String}
    (long : minHostLen ≤ strLen host) :
    (hostLenByte build host : Outcome ε UInt8) = .ok (hostByte host) :=
  if_pos long

omit [Socket S] [Aead] [Hashes] in
theorem tunnelDraws_sendable {protocol : ProtocolConfig} {rng : R} {host : String}
    (filled : protocol.headerPadding.start.toNat < protocol.headerPadding.stop.toNat)
    (long : minHostLen ≤ strLen host) (short : strLen host ≤ 259) :
    Sendable protocol (tunnelDraws protocol rng) host where
  salt := Draws.salt_length
  padding := Draws.padding_length
  least := (Draws.paddingSize_bounds filled).1
  small := (Draws.paddingSize_bounds filled).2.trans protocol.headerPadding.stop.toNat_lt
  long := long
  short := short

omit [Socket S] [Rng R] [Aead] in
/-- A tunnel to a host that resolves. -/
theorem openTunnel_ok {lookup : String → Except IoError (List SocketAddr)} {cfg : AppConfig}
    {nonce : Bytes} {header : TunnelHeader} {host : String} {addresses : List SocketAddr}
    {ciphers : Cipher × Cipher} {connection : Connection S R}
    (resolved : lookup host = .ok addresses) (found : addresses ≠ [])
    (derived : Cipher.newClientServer cfg.protocol.cipher cfg.protocol.kdf
      (utf8Bytes cfg.protocol.key) header.salt = .ok ciphers) :
    ∃ tunnel, openTunnel lookup cfg nonce header host connection = (.ok tunnel, connection) := by
  cases addresses with
  | nil => exact absurd rfl found
  | cons first others =>
      rw [openTunnel, resolved]
      dsimp only [preferIpv4]
      rw [derived, mapErr, lift_ok_bind]
      exact ⟨_, rfl⟩

/-- The server decodes the packet of a client that shares its configuration
into the host and the salt of that client, derives the same ciphers, and leaves
what follows the packet to the tunnel. -/
theorem startTunnel_decodes_packet {S' : Type} {R' : Type} [Socket S'] [Rng R']
    (correct : Aead.Correct) (buffered : Buffered holds) (build : Build) {cfg : AppConfig}
    {host : String} {clientTime serverTime : Int} {sender sent : Connection S' R'}
    {packet : TunnelPacket} {connection ready : Connection S R} {rest : Bytes}
    (positive : cfg.protocol.maxConnectDelay.toNat ≠ 0)
    (long : minHostLen ≤ strLen host) (short : strLen host ≤ 259)
    (bucket : serverTime.tdiv cfg.protocol.maxConnectDelay.toNat -
      clientTime.tdiv cfg.protocol.maxConnectDelay.toNat ∈ [0, 1])
    (built : tunnelPacket build cfg.protocol host clientTime sender = (.ok packet, sent))
    (wrong : ∀ record, .sealed record ∈ sent.history → ∀ other,
      cfg.protocol.kdf.deriveKeyFromTimestamp (utf8Bytes cfg.protocol.key)
        (serverTime.tdiv cfg.protocol.maxConnectDelay.toNat) = .ok other → record.FailsUnder other)
    (lookup : String → Except IoError (List SocketAddr)) (socketAddr : SocketAddr)
    (urlPath : String) (upgradeSupport : Bool)
    (upgraded : acceptUpgrade socketAddr cfg urlPath upgradeSupport connection = (.ok (), ready))
    (waiting : holds ready.stream (packet.bytes ++ rest)) :
    ∃ stream ciphers header, holds stream rest ∧ header.salt = packet.salt ∧
      Cipher.newClientServer cfg.protocol.cipher cfg.protocol.kdf (utf8Bytes cfg.protocol.key)
        packet.salt = .ok ciphers ∧
      startTunnel lookup socketAddr serverTime cfg urlPath upgradeSupport connection =
        (openTunnel lookup cfg header.cipher.nonce.bytes header host >>=
          fun tunnel => pure (some tunnel)) { ready with stream } ∧
      (∀ addresses, lookup host = .ok addresses → addresses ≠ [] →
        ∃ tunnel, startTunnel lookup socketAddr serverTime cfg urlPath upgradeSupport connection =
            (.ok (some tunnel), { ready with stream }) ∧
          tunnel.host = host ∧ tunnel.header.salt = packet.salt ∧
          tunnel.client = .fromStream stream ciphers.1 ciphers.2 cfg.protocol.dataPadding
            cfg.protocol.encryptionLimit.toNat ready.rng) ∧
      ∀ clientStream after,
        processTunnel build cfg.protocol host clientTime sender = (.ok clientStream, after) →
          clientStream.writeCipher = ciphers.1 ∧ clientStream.readCipher = ciphers.2 := by
  obtain ⟨headerKey, hostLen, derived, filled, sized, rfl, history⟩ := tunnelPacket_inv built
  have fits : Sendable cfg.protocol (tunnelDraws cfg.protocol sender.rng) host :=
    tunnelDraws_sendable filled long short
  rw [hostLenByte_ok build long] at sized
  cases sized
  have recorded : .sealed (headerRecord cfg.protocol headerKey
      (tunnelDraws cfg.protocol sender.rng) (hostByte host)) ∈ sent.history := by
    simp [history]
  have bucket := bucket_cases bucket
  let draws := tunnelDraws cfg.protocol sender.rng
  let header := sentHeader cfg.protocol headerKey draws host
  obtain ⟨stream, decoded, left⟩ : ∃ stream, readHeader lookup serverTime cfg ready =
      (openTunnel lookup cfg draws.nonce.bytes header host >>= fun tunnel => pure (some tunnel))
        { ready with stream } ∧ holds stream rest :=
    fits.readHeader_packet correct buffered rfl positive bucket derived (wrong _ recorded) waiting
  have started : startTunnel lookup socketAddr serverTime cfg urlPath upgradeSupport connection =
      (openTunnel lookup cfg draws.nonce.bytes header host >>= fun tunnel => pure (some tunnel))
        { ready with stream } := by
    rw [startTunnel, bind_ok upgraded, decoded]
  -- both sides derive from the same password and the same salt
  obtain ⟨clientKey, client⟩ : ∃ clientKey, cfg.protocol.kdf.deriveClientKey
      (utf8Bytes cfg.protocol.key) draws.salt = .ok clientKey :=
    Kdf.deriveKey2_total derived fits.salt (by decide)
  obtain ⟨serverKey, server⟩ : ∃ serverKey, cfg.protocol.kdf.deriveServerKey
      (utf8Bytes cfg.protocol.key) draws.salt = .ok serverKey :=
    Kdf.deriveKey2_total derived fits.salt (by decide)
  obtain ⟨ciphers, both⟩ : ∃ ciphers, Cipher.newClientServer cfg.protocol.cipher
      cfg.protocol.kdf (utf8Bytes cfg.protocol.key) draws.salt = .ok ciphers :=
    ⟨_, Cipher.newClientServer_ok fits.salt client server⟩
  refine ⟨stream, ciphers, header, left, rfl, both, started, ?_, ?_⟩
  · intro addresses resolved found
    obtain ⟨tunnel, accepted⟩ : ∃ tunnel, openTunnel lookup cfg draws.nonce.bytes header host
        { ready with stream } = (.ok tunnel, { ready with stream }) :=
      openTunnel_ok resolved found both
    obtain ⟨hostEq, _, headerEq, ⟨ciphers', derived', clientEq⟩, _⟩ := openTunnel_inv accepted
    obtain rfl := Outcome.ok.inj (derived'.symm.trans both)
    exact ⟨tunnel, by rw [started, bind_ok accepted]; rfl, hostEq, by rw [headerEq]; rfl, clientEq⟩
  · intro clientStream after run
    obtain ⟨packet, next, ciphers', packed, derived', write, read, _⟩ := processTunnel_inv run
    obtain rfl := Outcome.ok.inj (Prod.mk.inj (packed.symm.trans built)).1
    obtain rfl := Outcome.ok.inj (derived'.symm.trans both)
    exact ⟨write, read⟩

end Reading

def lastMoment : Outcome Error TunnelPacket × Connection Loaded Unit :=
  @tunnelPacket Loaded Unit Aead.tagging Hashes.folding _ .release
    (sampleConfig ⟨200, 300⟩).protocol "a.org:80" 9999 ⟨⟨[], []⟩, (), []⟩

/-- No record of a client opens under the key of this bucket, if that is not
its own. -/
def closedTo (kdf : Kdf) (key : String) (timestamp : Int) (history : List ConnectionEvent) : Bool :=
  match @Kdf.deriveKeyFromTimestamp Hashes.folding kdf (utf8Bytes key) timestamp with
  | .error _ => true
  | .ok other => history.all fun
      | .terminated .. => true
      | .sealed record => other == record.key ||
          @Aead.openRecord Aead.tagging record.kind other record.nonce
            (@SealRecord.bytes Aead.tagging record) == none

theorem closedTo_failsUnder {kdf : Kdf} {key : String} {timestamp : Int}
    {history : List ConnectionEvent} (closed : closedTo kdf key timestamp history = true)
    {record : SealRecord} (recorded : .sealed record ∈ history) {other : Bytes}
    (derived : @Kdf.deriveKeyFromTimestamp Hashes.folding kdf (utf8Bytes key) timestamp =
      .ok other) : @SealRecord.FailsUnder Aead.tagging record other := by
  intro different
  rw [closedTo, derived] at closed
  have fails := List.all_eq_true.mp closed _ recorded
  simpa [different] using fails

theorem lastMoment_ok : ∃ packet sent, lastMoment = (.ok packet, sent) ∧
    packet.bytes.length = 287 := by
  have packed : lastMoment.1.isOkAnd (·.bytes.length == 287) = true := by decide +kernel
  obtain ⟨packet, sent, long⟩ := Outcome.isOkAnd_eq_true.mp packed
  exact ⟨packet, lastMoment.2, Prod.ext sent (Eq.refl lastMoment.2), eq_of_beq long⟩

/-- The next bucket has another key, which opens nothing of the packet. -/
theorem lastMoment_closed {packet : TunnelPacket} {sent : Connection Loaded Unit}
    (run : lastMoment = (.ok packet, sent)) :
    ∀ record, .sealed record ∈ sent.history → ∀ other,
      @Kdf.deriveKeyFromTimestamp Hashes.folding (sampleConfig ⟨200, 300⟩).protocol.kdf
          (utf8Bytes (sampleConfig ⟨200, 300⟩).protocol.key)
          ((10000 : Int).tdiv (sampleConfig ⟨200, 300⟩).protocol.maxConnectDelay.toNat) = .ok other →
        @SealRecord.FailsUnder Aead.tagging record other := by
  have closed : closedTo .blake3 "key" 1 lastMoment.2.history = true := by decide +kernel
  have bucket : (10000 : Int).tdiv (sampleConfig ⟨200, 300⟩).protocol.maxConnectDelay.toNat = 1 := by
    decide
  intro record recorded other derived
  rw [run] at closed
  exact closedTo_failsUnder closed recorded (bucket ▸ derived)

def openLate (incoming : Bytes) :
    Outcome Error (Option (Tunnel Loaded Unit)) × Connection Loaded Unit :=
  @startTunnel Loaded Unit _ _ Aead.tagging Hashes.folding (fun _ => .ok [peer]) peer 10000
    (sampleConfig ⟨200, 300⟩) "" false ⟨⟨incoming, []⟩, (), []⟩

theorem startTunnel_decodes_sample : ∃ packet tunnel after, lastMoment.1 = .ok packet ∧
    openLate (packet.bytes ++ [1, 2, 3]) = (.ok (some tunnel), after) ∧
    tunnel.host = "a.org:80" ∧ after.stream.incoming = [1, 2, 3] := by
  let _ := Aead.tagging
  let _ := Hashes.folding
  obtain ⟨packet, sent, run, _⟩ := lastMoment_ok
  let cfg := sampleConfig ⟨200, 300⟩
  let connection : Connection Loaded Unit := ⟨⟨packet.bytes ++ [1, 2, 3], []⟩, (), []⟩
  have positive : cfg.protocol.maxConnectDelay.toNat ≠ 0 := by decide
  have bucket : (10000 : Int).tdiv cfg.protocol.maxConnectDelay.toNat -
      (9999 : Int).tdiv cfg.protocol.maxConnectDelay.toNat ∈ [0, 1] := by decide
  have upgraded : acceptUpgrade peer cfg "" false connection = (.ok (), connection) := rfl
  have waiting : connection.stream.incoming = packet.bytes ++ [1, 2, 3] := rfl
  obtain ⟨stream, _, _, left, _, _, _, opens, _⟩ :=
    startTunnel_decodes_packet Aead.tagging_correct loaded_buffered .release positive
      (by decide) (by decide) bucket run (lastMoment_closed run) (fun _ => .ok [peer]) peer "" false
      upgraded waiting
  obtain ⟨tunnel, accepted, host, _⟩ := opens [peer] rfl (by simp)
  exact ⟨packet, tunnel, _, by rw [run], accepted, host, left⟩

end CovertConnect.Tunnel
