import CovertConnect.Data.Segments
import CovertConnect.Server.Rejections
import CovertConnect.Tunnel.RoundTrip

namespace CovertConnect.Tunnel

open CovertConnect.Data CovertConnect.Data.Exec
open CovertConnect.Crypto CovertConnect.Crypto.Connection
open CovertConnect.Client CovertConnect.Server

/-! # A tunnel header in segments

The server reads the front of a header once and takes the rest without waiting,
so that it matters what has arrived by then. -/

section Sizes

/-- The whole of a tunnel header, its padding included. -/
def headerLen (cfg : AppConfig) (header : TunnelHeader) : Nat :=
  63 + (header.hostLen + cfg.protocol.cipher.tagSize + header.padding)

/-- The front of a header is there when the read returns, and all of it when
the rest is taken. -/
structure ArrivesWhole (cfg : AppConfig) (size : Nat) (stream : Segmented) : Prop where
  first : minHeaderLen cfg.protocol ≤ stream.first.length
  second : size ≤ stream.second.length

theorem minHeaderLen_eq (protocol : ProtocolConfig) :
    minHeaderLen protocol = 83 + protocol.headerPadding.start.toNat := rfl

end Sizes

section Decoding

variable {S R : Type} [Socket S] [Rng R] [Aead]

/-- What the host record at the front of `data` says. -/
def hostOf (header : TunnelHeader) (data : Bytes) : Option String :=
  (Aead.openRecord header.cipher.kind header.cipher.key
    (header.cipher.nonce.inc header.padding) (data.take (header.hostLen + 16))).bind fromUtf8

theorem decodeHost_some {cfg : AppConfig} {header : TunnelHeader} {data : Bytes} {host : String}
    (enough : header.hostLen + 16 ≤ data.length) (found : hostOf header data = some host)
    (connection : Connection S R) :
    decodeHost cfg header data connection = (.ok host, connection) := by
  obtain ⟨plain, opened, utf8⟩ := Option.bind_eq_some_iff.mp found
  have plainSize : plain.length = header.hostLen := by
    have size := Aead.openRecord_length opened
    rw [List.length_take_of_le enough] at size
    omega
  have split : (Outcome.splitTo data (header.hostLen + cfg.protocol.cipher.tagSize) :
      Outcome Error (Bytes × Bytes)) =
        .ok (data.take (header.hostLen + 16), data.drop (header.hostLen + 16)) :=
    Outcome.splitTo_ok enough
  have decrypted := Cipher.decrypt_some
    (show Aead.openRecord (header.cipher.incNonce header.padding).kind
      (header.cipher.incNonce header.padding).key (header.cipher.incNonce header.padding).nonce
        (data.take (header.hostLen + 16)) = some plain from opened)
  rw [decodeHost, split, lift_ok_bind]
  dsimp only
  rw [decrypted]
  dsimp only
  rw [Outcome.slice_ok (Nat.zero_le _) (by rw [List.length_append]; omega), lift_ok_bind,
    List.drop_zero, Nat.sub_zero, ← plainSize, List.take_left, utf8]
  rfl

theorem hostOf_of_decodeHost {cfg : AppConfig} {header : TunnelHeader} {data : Bytes}
    {host : String} {connection after : Connection S R}
    (run : decodeHost cfg header data connection = (.ok host, after)) :
    hostOf header data = some host ∧ after = connection := by
  obtain ⟨plain, opened, utf8, same⟩ := decodeHost_inv run
  exact ⟨Option.bind_eq_some_iff.mpr ⟨plain, opened, utf8⟩, same⟩

end Decoding

section Segments

variable {R : Type} [Rng R] [Aead]

/-- The rest of the header is taken at once, behind `data`. -/
theorem readHost_segments (cfg : AppConfig) (header : TunnelHeader) (data : Bytes)
    {connection : Connection Segmented R} (ready : connection.stream.arrive.ready = true)
    (whole : data.length ≤ header.hostLen + cfg.protocol.cipher.tagSize + header.padding) :
    let rest := header.hostLen + cfg.protocol.cipher.tagSize + header.padding - data.length
    (rest ≤ connection.stream.arrive.arrived.length →
      ∃ stream, readHost cfg header data connection =
          decodeHost cfg header (data ++ connection.stream.arrive.arrived.take rest)
            { connection with stream } ∧
        stream.unread = connection.stream.arrive.unread.drop rest) ∧
    (connection.stream.arrive.arrived.length < rest →
      ∀ host after, readHost cfg header data connection ≠ (.ok host, after)) := by
  intro rest
  let size := header.hostLen + cfg.protocol.cipher.tagSize + header.padding
  have grown : (resize data size).take data.length = data := by
    rw [resize_grow whole, List.take_left]
  have room : (resize data size).length - data.length = rest := by rw [resize_length]
  have inside : data.length ≤ (resize data size).length := by
    rw [resize_length]
    exact whole
  have taking : ∀ bytes stream, connection.stream.tryRead rest = (.ok bytes, stream) →
      (tryReadRest (resize data size) data.length : Exec (Connection Segmented R) Error Bytes)
          connection = (.ok bytes, { connection with stream }) := by
    intro bytes stream answered
    have answered : Socket.tryRead connection.stream rest = (.ok bytes, stream) := answered
    rw [tryReadRest, if_pos inside, room, io, answered]
  have failing : ∀ error stream, connection.stream.tryRead rest = (.error error, stream) →
      (tryReadRest (resize data size) data.length : Exec (Connection Segmented R) Error Bytes)
          connection = (.err (.io error), { connection with stream }) := by
    intro error stream answered
    have answered : Socket.tryRead connection.stream rest = (.error error, stream) := answered
    rw [tryReadRest, if_pos inside, room, io, answered]
  constructor
  · intro enough
    rcases Segmented.tryRead_eq ready with ⟨stream, answered, left⟩ | ⟨nothing, some', _⟩
    · refine ⟨stream, ?_, ?_⟩
      · have full : ¬ data.length + (connection.stream.arrive.arrived.take rest).length < size := by
          rw [List.length_take_of_le enough]
          omega
        rw [readHost, bind_ok (taking _ _ answered), if_neg full, grown]
      · rw [left, List.length_take_of_le enough]
    · rw [nothing] at enough
      exact absurd (Nat.le_zero.mp enough) some'
  · intro short host after run
    rcases Segmented.tryRead_eq ready with ⟨stream, answered, _⟩ | ⟨_, _, stream, answered⟩
    · have few : data.length + (connection.stream.arrive.arrived.take rest).length < size := by
        rw [List.length_take]
        omega
      rw [readHost, bind_ok (taking _ _ answered), if_pos few] at run
      exact refuse_not_ok run
    · rw [readHost, bind_err (failing _ _ answered)] at run
      cases run

variable [Hashes]

/-- The host and the salt of a tunnel, and the bytes that are left to read. -/
def decoded (run : Outcome Error (Option (Bytes × TunnelHeader × String)) ×
    Connection Segmented R) : Option (String × Bytes × Bytes) :=
  match run with
  | (.ok (some (_, header, host)), after) => some (host, header.salt, after.stream.unread)
  | _ => none

omit [Rng R] [Aead] [Hashes] in
theorem decoded_eq_some {run : Outcome Error (Option (Bytes × TunnelHeader × String)) ×
    Connection Segmented R} {host : String} {salt left : Bytes} :
    decoded run = some (host, salt, left) ↔ ∃ nonce header after,
      run = (.ok (some (nonce, header, host)), after) ∧ header.salt = salt ∧
        after.stream.unread = left := by
  rcases run with ⟨(_ | ⟨nonce, header, found⟩) | error | reason, after⟩
  · simp [decoded]
  · simp only [decoded, Option.some.injEq, Prod.mk.injEq, Outcome.ok.injEq]
    constructor
    · intro given
      obtain ⟨rfl, salted, unread⟩ := given
      exact ⟨nonce, header, after, ⟨⟨rfl, rfl, rfl⟩, rfl⟩, salted, unread⟩
    · intro given
      obtain ⟨_, _, _, ⟨⟨rfl, rfl, rfl⟩, rfl⟩, salted, unread⟩ := given
      exact ⟨rfl, salted, unread⟩
  · simp [decoded]
  · simp [decoded]

omit [Rng R] in
/-- The fixed part is within the first read. -/
theorem tunnelHeader_take {cfg : AppConfig} {connectTime : Int} (bytes : Bytes) {count : Nat}
    (long : 63 ≤ count) :
    tunnelHeader cfg connectTime (bytes.take count) = tunnelHeader cfg connectTime bytes := by
  rw [tunnelHeader, tunnelHeader, List.take_take, List.take_take, Nat.min_eq_left long,
    Nat.min_eq_left (by omega)]

omit [Hashes] in
/-- The rest of a header behind the `count` bytes that the first read returned. -/
theorem readHost_decoded {cfg : AppConfig} {header : TunnelHeader} {bytes : Bytes} {count : Nat}
    {connection : Connection Segmented R} {arrived later : Bytes} (front : 63 ≤ count)
    (split : bytes = arrived ++ later) (inside : count ≤ arrived.length)
    (known : connection.stream.arrive.ready = true)
    (there : connection.stream.arrive.arrived = arrived.drop count)
    (unread : connection.stream.arrive.unread = bytes.drop count) {host : String}
    {left : Bytes} :
    (∃ after, readHost cfg header ((bytes.take count).drop 63) connection = (.ok host, after) ∧
        after.stream.unread = left) ↔
      count ≤ headerLen cfg header ∧ headerLen cfg header ≤ arrived.length ∧
        hostOf header (bytes.drop 63) = some host ∧ bytes.drop (headerLen cfg header) = left := by
  have tag : cfg.protocol.cipher.tagSize = 16 := rfl
  have total : bytes.length = arrived.length + later.length := by rw [split, List.length_append]
  have dataSize : ((bytes.take count).drop 63).length = count - 63 := by
    rw [List.length_drop, List.length_take_of_le (by omega)]
  have dataEq : (bytes.take count).drop 63 = (bytes.drop 63).take (count - 63) := List.drop_take
  have size : headerLen cfg header =
      63 + (header.hostLen + cfg.protocol.cipher.tagSize + header.padding) := rfl
  by_cases fits : count ≤ headerLen cfg header
  swap
  · refine iff_of_false ?_ (fun given => fits given.1)
    intro given
    obtain ⟨after, run, _⟩ := given
    rw [readHost, tryReadRest, if_neg (by rw [resize_length]; omega)] at run
    cases run
  obtain ⟨opens, closes⟩ := readHost_segments cfg header ((bytes.take count).drop 63)
    known (by omega)
  rw [dataSize, there] at opens
  rw [dataSize, there, List.length_drop] at closes
  by_cases whole : headerLen cfg header ≤ arrived.length
  swap
  · refine iff_of_false ?_ (fun given => whole given.2.1)
    intro given
    obtain ⟨after, run, _⟩ := given
    exact closes (by omega) _ _ run
  obtain ⟨stream, run, rest⟩ := opens (by rw [List.length_drop]; omega)
  -- what was read first and what is read now are the header
  have joined : (bytes.take count).drop 63 ++ (arrived.drop count).take
      (header.hostLen + cfg.protocol.cipher.tagSize + header.padding - (count - 63)) =
        (bytes.drop 63).take (header.hostLen + cfg.protocol.cipher.tagSize + header.padding) := by
    have behind : bytes.drop count = arrived.drop count ++ later := by
      rw [split, List.drop_append_of_le_length inside]
    have taken : (arrived.drop count).take
        (header.hostLen + cfg.protocol.cipher.tagSize + header.padding - (count - 63)) =
          ((bytes.drop 63).drop (count - 63)).take
            (header.hostLen + cfg.protocol.cipher.tagSize + header.padding - (count - 63)) := by
      rw [List.drop_drop, show 63 + (count - 63) = count by omega, behind,
        List.take_append_of_le_length]
      rw [List.length_drop]
      omega
    rw [dataEq, taken, ← List.take_add]
    congr 1
    omega
  rw [joined] at run
  have same : hostOf header ((bytes.drop 63).take
      (header.hostLen + cfg.protocol.cipher.tagSize + header.padding)) =
        hostOf header (bytes.drop 63) := by
    rw [hostOf, hostOf, List.take_take, Nat.min_eq_left (by omega)]
  have enough : header.hostLen + 16 ≤ ((bytes.drop 63).take
      (header.hostLen + cfg.protocol.cipher.tagSize + header.padding)).length := by
    rw [List.length_take, List.length_drop]
    omega
  have behind : (bytes.drop count).drop
      (header.hostLen + cfg.protocol.cipher.tagSize + header.padding - (count - 63)) =
        bytes.drop (headerLen cfg header) := by
    rw [List.drop_drop]
    congr 1
    omega
  rw [unread, behind] at rest
  rw [run]
  constructor
  · intro given
    obtain ⟨_, decoding, unread⟩ := given
    obtain ⟨found, kept⟩ := hostOf_of_decodeHost decoding
    cases kept
    exact ⟨fits, whole, same ▸ found, rest.symm.trans unread⟩
  · intro given
    obtain ⟨_, _, found, unread⟩ := given
    exact ⟨_, decodeHost_some enough (same.trans found) _, rest.trans unread⟩

/-- What `start_tunnel` decodes behind the upgrade, and from what. -/
theorem frontToHost_decoded {cfg : AppConfig} {connectTime : Int}
    {ready : Connection Segmented R} (positive : cfg.protocol.maxConnectDelay.toNat ≠ 0)
    {host : String} {salt left : Bytes} :
    decoded ((io (Socket.read · (minHeaderLen cfg.protocol)) >>= frontToHost connectTime cfg) ready) =
        some (host, salt, left) ↔
      ∃ header, tunnelHeader cfg connectTime ready.stream.unread = .ok (some header) ∧
        minHeaderLen cfg.protocol ≤ headerLen cfg header ∧
        ArrivesWhole cfg (headerLen cfg header) ready.stream ∧
        hostOf header (ready.stream.unread.drop 63) = some host ∧ header.salt = salt ∧
        ready.stream.unread.drop (headerLen cfg header) = left := by
  have least := minHeaderLen_eq cfg.protocol
  generalize bytesEq : ready.stream.unread = bytes
  by_cases short : ready.stream.first.length < minHeaderLen cfg.protocol
  · refine iff_of_false ?_ ?_
    · intro found
      obtain ⟨nonce, header, after, run, _⟩ := decoded_eq_some.mp found
      have read : (io (Socket.read · (minHeaderLen cfg.protocol)) :
          Exec (Connection Segmented R) Error Bytes) ready =
            (.ok (ready.stream.first.take (minHeaderLen cfg.protocol)), _) := rfl
      have few : (ready.stream.first.take (minHeaderLen cfg.protocol)).length <
          minHeaderLen cfg.protocol := by
        rw [List.length_take]
        omega
      rw [bind_ok read, frontToHost, if_pos few] at run
      cases otherwise_none run
    · intro given
      obtain ⟨_, _, _, whole, _⟩ := given
      exact absurd whole.first (Nat.not_le_of_lt short)
  have enough := Nat.le_of_not_lt short
  obtain ⟨stream, read, known, arrived, unread⟩ := Segmented.read_full enough
  rw [bytesEq] at read unread
  have reading : (io (Socket.read · (minHeaderLen cfg.protocol)) :
      Exec (Connection Segmented R) Error Bytes) ready =
        (.ok (bytes.take (minHeaderLen cfg.protocol)), { ready with stream }) := io_ok read
  have within : ready.stream.second.length ≤ bytes.length := bytesEq ▸ ready.stream.second_le_unread
  have ordered := ready.stream.first_le_second
  have frontSize : (bytes.take (minHeaderLen cfg.protocol)).length = minHeaderLen cfg.protocol :=
    List.length_take_of_le (by omega)
  have full : ¬ (bytes.take (minHeaderLen cfg.protocol)).length < minHeaderLen cfg.protocol := by
    omega
  have opening : openTunnelHeader cfg.protocol
      (connectTime.tdiv cfg.protocol.maxConnectDelay.toNat)
      ((bytes.take (minHeaderLen cfg.protocol)).take 12)
      (((bytes.take (minHeaderLen cfg.protocol)).take 63).drop 12) =
        tunnelHeader cfg connectTime bytes :=
    tunnelHeader_take bytes (by omega)
  rw [bind_ok reading, frontToHost, if_neg full, divide_pos positive, pure_bind, opening]
  cases opened : tunnelHeader cfg connectTime bytes with
  | err error => exact iff_of_false (by simp [lift_err_bind, decoded]) (by simp)
  | panic reason => exact iff_of_false (by simp [bind_apply, lift_apply, decoded]) (by simp)
  | ok result =>
      rw [lift_ok_bind]
      cases result with
      | none =>
          refine iff_of_false ?_ (by simp)
          intro found
          obtain ⟨nonce, header, after, run, _⟩ := decoded_eq_some.mp found
          cases otherwise_none run
      | some header =>
          dsimp only
          have reads : ∀ host left,
              (∃ after, readHost cfg header ((bytes.take (minHeaderLen cfg.protocol)).drop 63)
                { ready with stream } = (.ok host, after) ∧ after.stream.unread = left) ↔
              minHeaderLen cfg.protocol ≤ headerLen cfg header ∧
                headerLen cfg header ≤ ready.stream.second.length ∧
                hostOf header (bytes.drop 63) = some host ∧
                bytes.drop (headerLen cfg header) = left :=
            fun host left => readHost_decoded (by omega) (bytesEq ▸ ready.stream.second_append)
              (by omega) known arrived unread
          constructor
          · intro found
            obtain ⟨nonce, header', after, run, salted, left'⟩ := decoded_eq_some.mp found
            obtain ⟨host', middle, read', run⟩ := bind_eq_ok.mp run
            cases run
            obtain ⟨fits, whole, found, unread'⟩ := (reads host left).mp ⟨_, read', left'⟩
            exact ⟨header, rfl, fits, ⟨enough, whole⟩, found, salted, unread'⟩
          · intro given
            obtain ⟨_, same, fits, whole, found, salted, left'⟩ := given
            cases same
            obtain ⟨final, run, unread'⟩ := (reads host left).mpr ⟨fits, whole.second, found, left'⟩
            rw [bind_ok run]
            exact decoded_eq_some.mpr ⟨_, _, _, rfl, salted, unread'⟩

/-- Bytes that come in segments are decoded like the same bytes in one piece,
where a header is there at once or there is none to decode. -/
theorem decoded_segments_iff {cfg : AppConfig} {connectTime : Int}
    {ready ready' : Connection Segmented R} {bytes : Bytes}
    (positive : cfg.protocol.maxConnectDelay.toNat ≠ 0) (all : ready.stream.unread = bytes)
    (whole : ready'.stream = .whole bytes) :
    let call : Exec (Connection Segmented R) Error _ :=
      io (Socket.read · (minHeaderLen cfg.protocol)) >>= frontToHost connectTime cfg
    decoded (call ready) = decoded (call ready') ↔ decoded (call ready') = none ∨
      ∃ header, tunnelHeader cfg connectTime bytes = .ok (some header) ∧
        ArrivesWhole cfg (headerLen cfg header) ready.stream := by
  intro call
  have wholeUnread : ready'.stream.unread = bytes := whole ▸ Segmented.whole_unread bytes
  have wholeFirst : ready'.stream.first = bytes := whole ▸ Segmented.whole_first bytes
  have wholeSecond : ready'.stream.second = bytes := whole ▸ Segmented.whole_second bytes
  have within : ready.stream.second.length ≤ bytes.length := all ▸ ready.stream.second_le_unread
  have ordered := ready.stream.first_le_second
  have pieces : ∀ host salt left, decoded (call ready) = some (host, salt, left) ↔ _ :=
    fun host salt left => frontToHost_decoded positive
  have piece : ∀ host salt left, decoded (call ready') = some (host, salt, left) ↔ _ :=
    fun host salt left => frontToHost_decoded positive
  rw [all] at pieces
  rw [wholeUnread] at piece
  have wholeArrives : ∀ size, minHeaderLen cfg.protocol ≤ bytes.length → size ≤ bytes.length →
      ArrivesWhole cfg size ready'.stream := by
    intro size long enough
    exact ⟨by rw [wholeFirst]; exact long, by rw [wholeSecond]; exact enough⟩
  constructor
  · intro same
    cases found : decoded (call ready') with
    | none => exact .inl rfl
    | some result =>
        obtain ⟨header, opened, _, arrives, _⟩ :=
          (pieces result.1 result.2.1 result.2.2).mp (same.trans found)
        exact .inr ⟨header, opened, arrives⟩
  · intro given
    refine Option.ext fun result => ?_
    obtain ⟨host, salt, left⟩ := result
    constructor
    · intro found
      obtain ⟨header, opened, fits, arrives, rest⟩ := (pieces host salt left).mp found
      exact (piece host salt left).mpr ⟨header, opened, fits,
        wholeArrives _ (arrives.first.trans (ordered.trans within)) (arrives.second.trans within),
        rest⟩
    · intro found
      rcases given with nothing | ⟨header, opened, arrives⟩
      · rw [nothing] at found
        cases found
      · obtain ⟨header', opened', fits, _, rest⟩ := (piece host salt left).mp found
        have opened' : tunnelHeader cfg connectTime bytes = .ok (some header') := opened'
        rw [opened] at opened'
        cases opened'
        exact (pieces host salt left).mpr ⟨header, opened, fits, arrives, rest⟩

omit [Rng R] in
/-- What the packet of a client says, to a server of the same bucket or of the
next one. -/
theorem packet_says {R' : Type} (correct : Aead.Correct) {cfg : AppConfig} {draws : Draws R'}
    {host : String} {connectTime timestamp : Int} {headerKey : Bytes} (rest : Bytes)
    (fits : Sendable cfg.protocol draws host)
    (bucket : timestamp = connectTime.tdiv cfg.protocol.maxConnectDelay.toNat ∨
      timestamp = connectTime.tdiv cfg.protocol.maxConnectDelay.toNat - 1)
    (derived : cfg.protocol.kdf.deriveKeyFromTimestamp (utf8Bytes cfg.protocol.key) timestamp =
      .ok headerKey)
    (wrong : ∀ other, cfg.protocol.kdf.deriveKeyFromTimestamp (utf8Bytes cfg.protocol.key)
      (connectTime.tdiv cfg.protocol.maxConnectDelay.toNat) = .ok other →
        (headerRecord cfg.protocol headerKey draws (hostByte host)).FailsUnder other) :
    let packet := packetOf cfg.protocol headerKey draws (hostByte host) host
    let header := sentHeader cfg.protocol headerKey draws host
    tunnelHeader cfg connectTime (packet.bytes ++ rest) = .ok (some header) ∧
      headerLen cfg header = packet.bytes.length ∧
      minHeaderLen cfg.protocol ≤ packet.bytes.length ∧
      hostOf header ((packet.bytes ++ rest).drop 63) = some host := by
  intro packet header
  let fixed := headerRecord cfg.protocol headerKey draws (hostByte host)
  let hostRec := hostRecord cfg.protocol headerKey draws host
  have fixedSize : (draws.nonce.bytes ++ fixed.bytes).length = 63 := by
    rw [List.length_append, SealRecord.bytes_length, headerRecord_length _ _ fits.salt,
      draws.nonce.length_eq]
  have hostSize : hostRec.bytes.length = strLen host + 16 := SealRecord.bytes_length _
  have bytesEq : packet.bytes ++ rest =
      (draws.nonce.bytes ++ fixed.bytes) ++ (hostRec.bytes ++ (draws.padding ++ rest)) := by
    simp only [packet, packetOf, fixed, hostRec, List.append_assoc]
  have size : packet.bytes.length = 63 + (strLen host + 16 + draws.paddingSize) := by
    have padded := fits.padding
    have front : packet.bytes = (draws.nonce.bytes ++ fixed.bytes) ++ hostRec.bytes ++ draws.padding :=
      rfl
    rw [front, List.length_append, List.length_append, fixedSize, hostSize, padded]
    omega
  have front : (packet.bytes ++ rest).take 63 = draws.nonce.bytes ++ fixed.bytes :=
    bytesEq ▸ List.take_left' fixedSize
  obtain ⟨nonceCut, headerCut⟩ := front_cut draws.nonce.length_eq front
  refine ⟨?_, size.symm, ?_, ?_⟩
  · rw [tunnelHeader, nonceCut, headerCut]
    exact fits.openTunnelHeader correct bucket derived wrong
  · have least := fits.least
    have long := fits.long
    rw [minHostLen] at long
    rw [minHeaderLen_eq, size]
    omega
  · have taken : ((packet.bytes ++ rest).drop 63).take (header.hostLen + 16) = hostRec.bytes := by
      rw [bytesEq, List.drop_left' fixedSize]
      exact List.take_left' hostSize
    have opened : Aead.openRecord header.cipher.kind header.cipher.key
        (header.cipher.nonce.inc header.padding) hostRec.bytes = some (utf8Bytes host) :=
      Aead.openRecord_sealRecord correct _ _ _ _
    rw [hostOf, taken, opened]
    exact fromUtf8_utf8Bytes host

/-- The header of a client is decoded in segments as it is in one piece where
its front is there at the first read and the rest when it is taken. -/
theorem startTunnel_segments {S' : Type} {R' : Type} [Rng R'] (correct : Aead.Correct)
    (build : Build) {cfg : AppConfig} {host : String} {clientTime serverTime : Int}
    {sender sent : Connection S' R'} {packet : TunnelPacket}
    (positive : cfg.protocol.maxConnectDelay.toNat ≠ 0)
    (bucket : serverTime.tdiv cfg.protocol.maxConnectDelay.toNat -
      clientTime.tdiv cfg.protocol.maxConnectDelay.toNat ∈ [0, 1])
    (built : tunnelPacket build cfg.protocol host clientTime sender = (.ok packet, sent))
    (wrong : ∀ record, .sealed record ∈ sent.history → ∀ other,
      cfg.protocol.kdf.deriveKeyFromTimestamp (utf8Bytes cfg.protocol.key)
        (serverTime.tdiv cfg.protocol.maxConnectDelay.toNat) = .ok other → record.FailsUnder other)
    (socketAddr : SocketAddr) (urlPath : String) (upgradeSupport : Bool)
    {connection ready connection' ready' : Connection Segmented R} {rest : Bytes}
    (upgraded : acceptUpgrade socketAddr cfg urlPath upgradeSupport connection = (.ok (), ready))
    (pieces : ready.stream.unread = packet.bytes ++ rest)
    (upgraded' : acceptUpgrade socketAddr cfg urlPath upgradeSupport connection' = (.ok (), ready'))
    (piece : ready'.stream = .whole (packet.bytes ++ rest)) :
    let split := decoded (startToHost socketAddr serverTime cfg urlPath upgradeSupport connection)
    let once := decoded (startToHost socketAddr serverTime cfg urlPath upgradeSupport connection')
    (minHostLen ≤ strLen host → strLen host ≤ 259 →
      once = some (host, packet.salt, rest) ∧
        (split = once ↔ ArrivesWhole cfg packet.bytes.length ready.stream)) ∧
    (split = once ↔ once = none ∨ ∃ header,
      tunnelHeader cfg serverTime (packet.bytes ++ rest) = .ok (some header) ∧
        ArrivesWhole cfg (headerLen cfg header) ready.stream) := by
  intro split once
  have splitEq : split = decoded ((io (Socket.read · (minHeaderLen cfg.protocol)) >>=
      frontToHost serverTime cfg) ready) := by
    simp only [split, startToHost, bind_ok upgraded]
  have onceEq : once = decoded ((io (Socket.read · (minHeaderLen cfg.protocol)) >>=
      frontToHost serverTime cfg) ready') := by
    simp only [once, startToHost, bind_ok upgraded']
  have general : split = once ↔ once = none ∨ ∃ header,
      tunnelHeader cfg serverTime (packet.bytes ++ rest) = .ok (some header) ∧
        ArrivesWhole cfg (headerLen cfg header) ready.stream := by
    rw [splitEq, onceEq]
    exact decoded_segments_iff positive pieces piece
  refine ⟨fun long short => ?_, general⟩
  obtain ⟨headerKey, hostLen, derived, filled, sized, rfl, history⟩ := tunnelPacket_inv built
  have fits : Sendable cfg.protocol (tunnelDraws cfg.protocol sender.rng) host :=
    tunnelDraws_sendable filled long short
  rw [hostLenByte_ok build long] at sized
  cases sized
  let draws := tunnelDraws cfg.protocol sender.rng
  have recorded : .sealed (headerRecord cfg.protocol headerKey draws (hostByte host)) ∈
      sent.history := by
    simp [history, draws]
  have bucket := bucket_cases bucket
  obtain ⟨opened, size, least, found⟩ := packet_says correct rest fits bucket derived
    (wrong _ recorded)
  have inside : (packetOf cfg.protocol headerKey (tunnelDraws cfg.protocol sender.rng)
      (hostByte host) host).bytes.length ≤ ready'.stream.second.length := by
    rw [piece, Segmented.whole_second, List.length_append]
    exact Nat.le_add_right _ _
  have front : minHeaderLen cfg.protocol ≤ ready'.stream.first.length := by
    rw [piece, Segmented.whole_second] at inside
    rw [piece, Segmented.whole_first]
    exact least.trans inside
  have decodes : once = some (host, draws.salt, rest) := by
    rw [onceEq]
    refine (frontToHost_decoded positive).mpr
      ⟨sentHeader cfg.protocol headerKey draws host, ?_, ?_, ⟨front, ?_⟩, ?_, rfl, ?_⟩
    · rw [piece, Segmented.whole_unread]
      exact opened
    · exact size ▸ least
    · exact size ▸ inside
    · rw [piece, Segmented.whole_unread]
      exact found
    · rw [piece, Segmented.whole_unread, size]
      exact List.drop_left
  refine ⟨decodes, general.trans ?_⟩
  rw [← size]
  constructor
  · intro given
    rcases given with nothing | ⟨header, opened', arrives⟩
    · rw [decodes] at nothing
      cases nothing
    · rw [opened] at opened'
      cases opened'
      exact arrives
  · exact fun arrives => .inr ⟨_, opened, arrives⟩

end Segments

/-- `bytes` have come before the first call, and `segments` before those after it. -/
def bringing (bytes : Bytes) (segments : List Bytes) : Connection Segmented Unit :=
  ⟨⟨bytes, true, [] :: segments, []⟩, (), []⟩

def decodeSample (headerPadding : PaddingRange) (time : Int)
    (connection : Connection Segmented Unit) : Option (String × Bytes × Bytes) :=
  decoded (@startToHost Segmented Unit _ _ Aead.tagging Hashes.folding peer time
    (sampleConfig headerPadding) "" false connection)

/-- The padding of the packet comes with the bytes behind it, in time. -/
theorem startTunnel_segments_sample : ∃ packet, lastMoment.1 = .ok packet ∧
    decodeSample ⟨200, 300⟩ 10000
        (bringing (packet.bytes.take 283) [packet.bytes.drop 283 ++ [1, 2, 3]]) =
      some ("a.org:80", packet.salt, [1, 2, 3]) := by
  let _ := Aead.tagging
  let _ := Hashes.folding
  obtain ⟨packet, sent, run, size⟩ := lastMoment_ok
  let cfg := sampleConfig ⟨200, 300⟩
  have positive : cfg.protocol.maxConnectDelay.toNat ≠ 0 := by decide
  have bucket : (10000 : Int).tdiv cfg.protocol.maxConnectDelay.toNat -
      (9999 : Int).tdiv cfg.protocol.maxConnectDelay.toNat ∈ [0, 1] := by decide
  let segments := bringing (packet.bytes.take 283) [packet.bytes.drop 283 ++ [1, 2, 3]]
  let piece : Connection Segmented Unit := ⟨.whole (packet.bytes ++ [1, 2, 3]), (), []⟩
  have upgraded : acceptUpgrade peer cfg "" false segments = (.ok (), segments) := rfl
  have upgraded' : acceptUpgrade peer cfg "" false piece = (.ok (), piece) := rfl
  have joined : packet.bytes.take 283 ++ (packet.bytes.drop 283 ++ [1, 2, 3]) =
      packet.bytes ++ [1, 2, 3] := by
    rw [← List.append_assoc, List.take_append_drop]
  have pieces : segments.stream.unread = packet.bytes ++ [1, 2, 3] := by
    simp only [segments, bringing, Segmented.unread, List.flatten_cons, List.flatten_nil,
      List.nil_append, List.append_nil, joined]
  obtain ⟨decodes, _⟩ := startTunnel_segments Aead.tagging_correct .release positive bucket run
    (lastMoment_closed run) peer "" false upgraded pieces upgraded' rfl
  obtain ⟨once, split⟩ := decodes (by decide) (by decide)
  have front : (packet.bytes.take 283).length = 283 := by
    rw [List.length_take, size]
    rfl
  have filled : packet.bytes.take 283 ≠ [] := List.ne_nil_of_length_pos (by omega)
  have settled : segments.stream.settled =
      (packet.bytes.take 283, [packet.bytes.drop 283 ++ [1, 2, 3]]) := by
    simp only [Segmented.settled, segments, bringing, Segmented.settle, List.append_nil,
      if_neg filled]
  have arrives : ArrivesWhole cfg packet.bytes.length segments.stream := by
    constructor
    · rw [Segmented.first, settled, front]
      decide
    · rw [Segmented.second, settled]
      simp only [List.headD_cons, joined, List.length_append]
      omega
  exact ⟨packet, by rw [run], (split.mpr arrives).trans once⟩

/-- The same packet, with a pause before its last four bytes. -/
theorem startTunnel_segments_differ :
    decodeSample ⟨1, 2⟩ 0 (bringing (recordedPacket.take 84) [[], recordedPacket.drop 84]) ≠
      decodeSample ⟨1, 2⟩ 0 (bringing recordedPacket []) := by
  decide +kernel

end CovertConnect.Tunnel
