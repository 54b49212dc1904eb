import CovertConnect.Client.Protocol
import CovertConnect.Server.Opening

namespace CovertConnect.Server

open CovertConnect.Data CovertConnect.Data.Exec
open CovertConnect.Crypto CovertConnect.Crypto.Connection
open CovertConnect.Client (IpAddr SocketAddr)

/-! # Which input makes the server panic

Every buffer is split at sizes that it has by then, whatever the peer sent.
What is left is one slice, from the end of the first read to the end of the
packet, that is taken twice. -/

variable {bad : String → Prop}

section Calls

variable {S R : Type} [Socket S] [Rng R] {connection : Connection S R}

theorem terminateSlowly_spares_iff {cooldown : PaddingRange} :
    Spares bad (terminateSlowly cooldown) connection ↔
      (bad emptyRange → cooldown.start.toNat < cooldown.stop.toNat) := by
  rw [terminateSlowly, spares_bind_of_ok (genRange_ok (by decide)), spares_bind_iff,
    genRange_spares_iff]
  refine and_iff_left_of_imp ?_
  intro _ maxTimeMs after _
  exact Outcome.spares_ok ()

/-- A refusal with a range to sample the cooldown from. -/
theorem refuse_spares {α : Type} {cfg : AppConfig} {message : String}
    (filled : cfg.unauthCooldown.start.toNat < cfg.unauthCooldown.stop.toNat) :
    Spares bad (refuse cfg message : Exec (Connection S R) Error α) connection := by
  rw [refuse, spares_bind_iff]
  exact ⟨terminateSlowly_spares_iff.mpr fun _ => filled, fun _ _ _ => spares_fail _ _⟩

theorem readUpgradeRequest_spares {stream : S} (left lfInRow : Nat) (readed : Bytes) :
    Spares bad (readUpgradeRequest left lfInRow readed : Exec S Error Bytes) stream := by
  induction left generalizing stream lfInRow readed with
  | zero => exact spares_fail _ _
  | succ left ih =>
      rw [readUpgradeRequest]
      split
      · rw [spares_bind_iff]
        refine ⟨?_, fun byte after _ => ih _ _⟩
        rw [Spares, ioCall]
        rcases Socket.readExact stream 1 with ⟨error | value, after⟩
        · exact Outcome.spares_err _
        · exact Outcome.spares_ok _
      · exact spares_pure _ _

omit [Socket S] in
theorem ioCall_spares {α : Type} {stream : S} (call : S → Except IoError α × S) :
    Spares bad (ioCall call) stream := by
  rw [Spares, ioCall]
  rcases call stream with ⟨error | value, after⟩
  · exact Outcome.spares_err _
  · exact Outcome.spares_ok _

theorem processHttpUpgrade_spares {stream : S} (urlPath : String) :
    Spares bad (processHttpUpgrade urlPath) stream := by
  rw [processHttpUpgrade, spares_bind_iff]
  refine ⟨readUpgradeRequest_spares _ _ _, ?_⟩
  intro request after _
  rw [replyUpgrade]
  split
  · exact spares_fail _ _
  · rw [spares_bind_iff]
    exact ⟨ioCall_spares _, fun _ _ _ => ioCall_spares _⟩

theorem acceptUpgrade_spares {socketAddr : SocketAddr} {cfg : AppConfig} {urlPath : String}
    {upgradeSupport : Bool}
    (filled : cfg.unauthCooldown.start.toNat < cfg.unauthCooldown.stop.toNat) :
    Spares bad (acceptUpgrade socketAddr cfg urlPath upgradeSupport) connection := by
  rw [acceptUpgrade]
  split
  · rw [spares_bind_iff, spares_attempt]
    refine ⟨spares_focus.mpr (processHttpUpgrade_spares urlPath), ?_⟩
    intro result after _
    cases result with
    | ok _ => exact spares_pure _ _
    | error err =>
        dsimp only
        rw [spares_bind_iff]
        exact ⟨terminateSlowly_spares_iff.mpr fun _ => filled, fun _ _ _ => spares_fail _ _⟩
  · exact spares_pure _ _

variable [Aead] [Hashes]

omit [Socket S] in
theorem specialResponse_spares {protocol : ProtocolConfig} {salt : Bytes}
    (sized : salt.length = 32) : Spares bad (specialResponse protocol salt) connection := by
  rw [specialResponse, spares_bind_of_ok (genRange_ok (by decide)),
    spares_bind_of_ok (genRange_ok (by decide)), spares_bind_iff]
  exact ⟨responseCiphers_spares sized, fun _ _ _ => Outcome.spares_ok _⟩

/-- The slice from `readed` on is inside the buffer of the request. -/
def SpecialFits (cfg : AppConfig) (connectTime : Int) (data : Bytes) (readed : Nat) : Prop :=
  78 ≤ readed → ∀ header, specialHeader cfg connectTime data = .ok header →
    readed ≤ 78 + header.padding

theorem answerSpecialRequest_spares_iff {cfg : AppConfig} {data : Bytes} {readed : Nat}
    {header : SpecialHeader} (sized : header.salt.length = 32) :
    Spares bad (answerSpecialRequest cfg data readed header) connection ↔
      (bad outOfRange → readed ≤ 78 + header.padding) := by
  rw [answerSpecialRequest, spares_bind_iff, tryReadRest_spares_iff, resize_length]
  refine and_iff_left_of_imp ?_
  intro _ rest after _
  split
  · exact spares_fail _ _
  · rw [spares_bind_iff]
    refine ⟨specialResponse_spares sized, ?_⟩
    intro response after _
    rw [spares_bind_iff]
    exact ⟨io_spares _, fun _ _ _ => io_spares _⟩

theorem trySpecialRequest_spares_iff {cfg : AppConfig} {connectTime : Int} {data : Bytes}
    {readed : Nat} (inside : readed ≤ data.length) :
    Spares bad (trySpecialRequest cfg connectTime data readed) connection ↔
      (bad outOfRange → SpecialFits cfg connectTime data readed) := by
  by_cases short : readed < 78
  · refine iff_of_true ?_ fun _ long => absurd long (Nat.not_le_of_lt short)
    have few : readed < specialHeaderLen := short
    rw [trySpecialRequest, divide_pos (by decide), pure_bind, if_pos few]
    exact spares_fail _ _
  have long : 78 ≤ readed := Nat.le_of_not_lt short
  have sizes := specialHeader_sizes (long.trans inside)
  rw [trySpecialRequest_long long inside]
  rcases openSpecialHeader_cases (utf8Bytes cfg.protocol.key)
      (connectTime.tdiv getProtocolMaxConnectDelay) sizes.1 sizes.2 with
    ⟨error, failed⟩ | ⟨header, _, _, _, plain, opened, _, _, plainSize, salt, _⟩
  · have read : specialHeader cfg connectTime data = .err error := failed
    refine iff_of_true ?_ ?_
    · rw [read, lift_err_bind]
      exact spares_fail _ _
    · intro _ _ header opened
      rw [read] at opened
      cases opened
  · have read : specialHeader cfg connectTime data = .ok header := opened
    have sized : header.salt.length = 32 := by
      rw [salt, List.length_take, plainSize]
      rfl
    rw [read, lift_ok_bind, answerSpecialRequest_spares_iff sized]
    simp only [SpecialFits, read, Outcome.ok.injEq, forall_eq', long, forall_const]

theorem otherwise_spares_iff {α : Type} {cfg : AppConfig} {connectTime : Int} {data : Bytes}
    {readed : Nat} {message : String}
    (filled : cfg.unauthCooldown.start.toNat < cfg.unauthCooldown.stop.toNat)
    (inside : readed ≤ data.length) :
    Spares bad (otherwise cfg connectTime data readed message :
        Exec (Connection S R) Error (Option α)) connection ↔
      (bad outOfRange → SpecialFits cfg connectTime data readed) := by
  rw [otherwise, spares_bind_iff, spares_attempt, trySpecialRequest_spares_iff inside]
  refine and_iff_left_of_imp ?_
  intro _ result after _
  cases result with
  | ok _ => exact spares_pure _ _
  | error _ => exact refuse_spares filled

omit [Hashes] in
theorem decodeHost_spares {cfg : AppConfig} {header : TunnelHeader} {data : Bytes}
    (filled : cfg.unauthCooldown.start.toNat < cfg.unauthCooldown.stop.toNat)
    (enough : header.hostLen + 16 ≤ data.length) :
    Spares bad (decodeHost cfg header data) connection := by
  have enough' : header.hostLen + cfg.protocol.cipher.tagSize ≤ data.length := enough
  rw [decodeHost, Outcome.splitTo_ok enough', lift_ok_bind]
  have kept := (header.cipher.incNonce header.padding).decrypt_length
    (data.take (header.hostLen + cfg.protocol.cipher.tagSize))
  dsimp only
  split
  · exact refuse_spares filled
  · rename_i hostData decrypted
    rw [decrypted, List.length_take_of_le enough'] at kept
    dsimp only at kept
    rw [Outcome.slice_ok (Nat.zero_le _) (by omega), lift_ok_bind]
    split
    · exact spares_pure _ _
    · exact refuse_spares filled

omit [Hashes] in
theorem readHost_spares_iff {cfg : AppConfig} {header : TunnelHeader} {data : Bytes}
    (filled : cfg.unauthCooldown.start.toNat < cfg.unauthCooldown.stop.toNat) :
    Spares bad (readHost cfg header data) connection ↔
      (bad outOfRange → data.length ≤ header.hostLen + 16 + header.padding) := by
  rw [readHost, spares_bind_iff, tryReadRest_spares_iff, resize_length]
  refine and_iff_left_of_imp ?_
  intro _ rest after run
  have inside := tryReadRest_inside run
  have tag : cfg.protocol.cipher.tagSize = 16 := rfl
  rw [resize_length] at inside
  split
  · exact refuse_spares filled
  · refine decodeHost_spares filled ?_
    rw [List.length_append, List.length_take, resize_length]
    omega

omit [Socket S] [Rng R] [Aead] in
theorem openTunnel_spares {lookup : String → Except IoError (List SocketAddr)} {cfg : AppConfig}
    {nonce : Bytes} {header : TunnelHeader} {host : String} (sized : header.salt.length = 32) :
    Spares bad (openTunnel lookup cfg nonce header host) connection := by
  rw [openTunnel]
  split
  · exact spares_fail _ _
  · split
    · exact spares_fail _ _
    · rw [spares_bind_iff]
      refine ⟨mapErr_spares _ (Cipher.newClientServer_spares sized), ?_⟩
      intro ciphers after _
      exact Outcome.spares_ok _

/-- The packet that begins with the bytes of the first read has the size that
the slice behind them assumes. -/
def Fits (cfg : AppConfig) (connectTime : Int) (front : Bytes) : Prop :=
  if front.length < minHeaderLen cfg.protocol then SpecialFits cfg connectTime front front.length
  else
    (∀ header, tunnelHeader cfg connectTime front = .ok (some header) →
      minHostLen + cfg.protocol.headerPadding.start.toNat ≤ header.hostLen + header.padding) ∧
    (tunnelHeader cfg connectTime front = .ok none →
      SpecialFits cfg connectTime front front.length)

omit [Socket S] [Rng R] in
theorem specialFits_resize {cfg : AppConfig} {connectTime : Int} {front : Bytes} {size : Nat}
    (grows : front.length ≤ size) :
    SpecialFits cfg connectTime (resize front size) front.length ↔
      SpecialFits cfg connectTime front front.length := by
  refine forall_congr' fun long => ?_
  rw [specialHeader_resize long grows]

theorem afterRead_spares_iff {lookup : String → Except IoError (List SocketAddr)}
    {connectTime : Int} {cfg : AppConfig} {front : Bytes}
    (positive : cfg.protocol.maxConnectDelay.toNat ≠ 0)
    (filled : cfg.unauthCooldown.start.toNat < cfg.unauthCooldown.stop.toNat)
    (fits : front.length ≤ minHeaderLen cfg.protocol) :
    Spares bad (afterRead lookup connectTime cfg front) connection ↔
      (bad outOfRange → Fits cfg connectTime front) := by
  have minLen : minHeaderLen cfg.protocol = 83 + cfg.protocol.headerPadding.start.toNat := rfl
  rw [afterRead, Fits]
  split
  · rw [otherwise_spares_iff filled (by rw [resize_length]; exact fits), specialFits_resize fits]
  rename_i long
  rw [divide_pos positive, pure_bind]
  have nonceSize : (front.take 12).length = 12 := List.length_take_of_le (by omega)
  have headerSize : ((front.take 63).drop 12).length = 51 := by
    rw [List.length_drop, List.length_take]
    omega
  rcases openTunnelHeader_cases cfg.protocol
      (connectTime.tdiv cfg.protocol.maxConnectDelay.toNat) nonceSize headerSize with
    ⟨error, failed⟩ | failed | ⟨header, plain, _, opened, _, read⟩
  · have read : tunnelHeader cfg connectTime front = .err error := failed
    rw [failed, lift_err_bind, read]
    refine iff_of_true (spares_fail _ _) fun _ => ⟨?_, ?_⟩
    · intro _ opened
      cases opened
    · intro opened
      cases opened
  · have read : tunnelHeader cfg connectTime front = .ok none := failed
    rw [failed, lift_ok_bind, read, otherwise_spares_iff filled (Nat.le_refl _)]
    simp
  · have found : tunnelHeader cfg connectTime front = .ok (some header) := opened
    have sized : header.salt.length = 32 := by
      rw [read.salt, List.length_take, read.size]
      rfl
    have rest : (front.drop 63).length = 20 + cfg.protocol.headerPadding.start.toNat := by
      rw [List.length_drop]
      omega
    rw [opened, lift_ok_bind, found]
    dsimp only
    rw [acceptTunnel, spares_bind_iff, readHost_spares_iff filled, rest]
    simp only [Outcome.ok.injEq, Option.some.injEq, forall_eq', reduceCtorEq, false_implies,
      and_true, minHostLen]
    constructor
    · intro given dreaded
      obtain ⟨inside, _⟩ := given
      have := inside dreaded
      omega
    · intro inside
      refine ⟨fun dreaded => ?_, ?_⟩
      · have := inside dreaded
        omega
      · intro host after _
        rw [spares_bind_iff]
        exact ⟨openTunnel_spares sized, fun _ _ _ => spares_pure _ _⟩

/-- A configuration with no empty range and no zero to divide by has the
server panic at the slice only. -/
theorem startTunnel_spares_iff {lookup : String → Except IoError (List SocketAddr)}
    {socketAddr : SocketAddr} {connectTime : Int} {cfg : AppConfig} {urlPath : String}
    {upgradeSupport : Bool}
    (positive : cfg.protocol.maxConnectDelay.toNat ≠ 0)
    (filled : cfg.unauthCooldown.start.toNat < cfg.unauthCooldown.stop.toNat) :
    Spares bad (startTunnel lookup socketAddr connectTime cfg urlPath upgradeSupport) connection ↔
      ∀ front, FirstRead socketAddr cfg urlPath upgradeSupport connection front →
        bad outOfRange → Fits cfg connectTime front := by
  rw [startTunnel, spares_bind_iff, and_iff_right (acceptUpgrade_spares filled),
    readHeader_eq]
  constructor
  · intro spared front given
    obtain ⟨ready, after, accepted, read⟩ := given
    have reading := spared () ready accepted
    have run : (io (Socket.read · (minHeaderLen cfg.protocol)) :
        Exec (Connection S R) Error Bytes) ready = (.ok front, { ready with stream := after }) := by
      rw [io, read]
    rw [spares_bind_of_ok run, afterRead_spares_iff positive filled
      (Socket.read_fits _ _ _ _ read)] at reading
    exact reading
  · intro fits _ ready accepted
    rw [spares_bind_iff]
    refine ⟨io_spares _, ?_⟩
    intro front after run
    rcases read : Socket.read ready.stream (minHeaderLen cfg.protocol) with ⟨error | bytes, stream⟩
    · rw [io, read] at run
      cases run
    · rw [io, read] at run
      cases run
      exact (afterRead_spares_iff positive filled (Socket.read_fits _ _ _ _ read)).mpr
        (fits front ⟨ready, stream, accepted, read⟩)

/-- The server returns from every input but those whose first packet is
shorter than what came with it in the first read. -/
theorem startTunnel_returns_iff {cfg : AppConfig} (valid : cfg.Valid)
    (lookup : String → Except IoError (List SocketAddr)) (socketAddr : SocketAddr)
    (connectTime : Int) (urlPath : String) (upgradeSupport : Bool) (connection : Connection S R) :
    (Returns (startTunnel lookup socketAddr connectTime cfg urlPath upgradeSupport) connection ↔
      ∀ front, FirstRead socketAddr cfg urlPath upgradeSupport connection front →
        Fits cfg connectTime front) ∧
    ∀ data readed, readed ≤ data.length →
      (Returns (trySpecialRequest cfg connectTime data readed) connection ↔
        SpecialFits cfg connectTime data readed) := by
  constructor
  · rw [← spares_all, startTunnel_spares_iff valid.delay valid.unauthCooldown]
    simp only [forall_const]
  · intro data readed inside
    rw [← spares_all, trySpecialRequest_spares_iff inside]
    simp only [forall_const]

end Calls

def sampleConfig (headerPadding : PaddingRange) : AppConfig where
  address := { ip := .v4 #v[10, 0, 0, 1], port := 8387 }
  outAddress := none
  protocol :=
    { key := "key"
      kdf := .blake3
      cipher := .aes256Gcm
      maxConnectDelay := 10000
      headerPadding
      dataPadding := ⟨0, 0⟩
      encryptionLimit := 0 }
  unauthCooldown := defaultCooldown

def peer : SocketAddr := { ip := .v4 #v[10, 0, 0, 2], port := 50000 }

/-- A client with the key and with another range sends a tunnel header and
then data. -/
def shortTunnel : Bytes :=
  match @Client.tunnelPacket Unit Unit Aead.tagging Hashes.folding _ .release
      (sampleConfig ⟨1, 2⟩).protocol "a.org:80" 0 ⟨(), (), []⟩ with
  | (.ok packet, _) => packet.bytes ++ List.replicate 300 0
  | _ => []

/-- A genuine get-protocol request, sent again with more bytes behind it. -/
def longRequest : Bytes :=
  match @Client.protocolRequest Unit Unit Aead.tagging Hashes.folding _ "key" 0 ⟨(), (), []⟩ with
  | (.ok request, _) => request.bytes ++ List.replicate 300 0
  | _ => []

def serveSample (incoming : Bytes) : Outcome Error (Option (Tunnel Loaded Unit)) :=
  (@startTunnel Loaded Unit _ _ Aead.tagging Hashes.folding (fun _ => .ok []) peer 0
    (sampleConfig ⟨200, 300⟩) "" false ⟨⟨incoming, []⟩, (), []⟩).1

theorem sampleConfig_valid : (sampleConfig ⟨200, 300⟩).Valid := ⟨by decide, by decide, by decide⟩

theorem startTunnel_panics : (sampleConfig ⟨200, 300⟩).Valid ∧
    (serveSample shortTunnel).panicReason = some outOfRange ∧
    (serveSample longRequest).panicReason = some outOfRange :=
  ⟨sampleConfig_valid, by decide +kernel⟩

/-- A client with the key and the server's range sends a tunnel header and then
data. -/
@[irreducible] def fullTunnel : Bytes :=
  match @Client.tunnelPacket Unit Unit Aead.tagging Hashes.folding _ .release
      (sampleConfig ⟨200, 300⟩).protocol "a.org:80" 0 ⟨(), (), []⟩ with
  | (.ok packet, _) => packet.bytes ++ List.replicate 300 0
  | _ => []

/-- What the first read has of it. -/
@[irreducible] def fullFront : Bytes :=
  fullTunnel.take (minHeaderLen (sampleConfig ⟨200, 300⟩).protocol)

theorem fullFront_long : ¬ fullFront.length < minHeaderLen (sampleConfig ⟨200, 300⟩).protocol := by
  decide +kernel

theorem fullFront_announces :
    (@tunnelHeader Aead.tagging Hashes.folding (sampleConfig ⟨200, 300⟩) 0 fullFront).isOkAnd
      (fun header? => header?.any fun header =>
        decide (minHostLen + 200 ≤ header.hostLen + header.padding)) = true := by
  decide +kernel

theorem fullFront_fits : @Fits Aead.tagging Hashes.folding (sampleConfig ⟨200, 300⟩) 0 fullFront := by
  obtain ⟨header?, opened, announced⟩ := Outcome.isOkAnd_eq_true.mp fullFront_announces
  unfold Fits
  rw [if_neg fullFront_long, opened]
  rcases header? with _ | header
  · cases announced
  · refine ⟨fun header' same => ?_, fun same => ?_⟩
    · obtain rfl : header = header' := Option.some.inj (Outcome.ok.inj same)
      exact of_decide_eq_true announced
    · cases Outcome.ok.inj same

/-- A peer without an upgrade is read from its first byte on. -/
theorem firstRead_loaded {cfg : AppConfig} {socketAddr : SocketAddr} {urlPath : String}
    {incoming front : Bytes} (given : FirstRead socketAddr cfg urlPath false
      (⟨⟨incoming, []⟩, (), []⟩ : Connection Loaded Unit) front) :
    front = incoming.take (minHeaderLen cfg.protocol) := by
  obtain ⟨ready, after, accepted, read⟩ := given
  cases accepted
  exact (Except.ok.inj (congrArg Prod.fst read)).symm

theorem startTunnel_returns_sent :
    @Returns (Connection Loaded Unit) Error (Option (Tunnel Loaded Unit))
      (@startTunnel Loaded Unit _ _ Aead.tagging Hashes.folding (fun _ => .ok [peer]) peer 0
        (sampleConfig ⟨200, 300⟩) "" false) ⟨⟨fullTunnel, []⟩, (), []⟩ := by
  let _ := Aead.tagging
  let _ := Hashes.folding
  let sent : Connection Loaded Unit := ⟨⟨fullTunnel, []⟩, (), []⟩
  refine ((startTunnel_returns_iff sampleConfig_valid (fun _ => .ok [peer]) peer 0 "" false
    sent).1).mpr ?_
  intro front given
  obtain rfl : front = fullFront := by
    rw [firstRead_loaded given, fullFront]
  exact fullFront_fits

end CovertConnect.Server
