import CovertConnect.Crypto.Deserialize
import CovertConnect.Tunnel.RoundTrip

namespace CovertConnect.Tunnel

open CovertConnect.Data CovertConnect.Data.Exec
open CovertConnect.Crypto CovertConnect.Crypto.Connection
open CovertConnect.Client CovertConnect.Server

/-! # The two nonces of a tunnel header

The fixed part and the host record are sealed under one key; the padding size
is what the nonce moves on between them. -/

section Nonces

variable {S R : Type} [Rng R] {protocol : ProtocolConfig} {headerKey : Bytes} {host : String}

theorem tunnelDraws_small {rng : R}
    (filled : protocol.headerPadding.start.toNat < protocol.headerPadding.stop.toNat) :
    (tunnelDraws protocol rng).paddingSize < 65536 :=
  (Draws.paddingSize_bounds filled).2.trans protocol.headerPadding.stop.toNat_lt

omit [Rng R] in
theorem headerNonces_iff {draws : Draws R} {hostLen : UInt8} (small : draws.paddingSize < 65536) :
    (headerRecord protocol headerKey draws hostLen).nonce ≠
      (hostRecord protocol headerKey draws host).nonce ↔ draws.paddingSize ≠ 0 := by
  change draws.nonce ≠ draws.nonce.inc draws.paddingSize ↔ _
  constructor
  · intro different zero
    rw [zero, Nonce.inc_zero] at different
    exact different rfl
  · intro moved same
    have still : draws.nonce.inc 0 = draws.nonce.inc draws.paddingSize := by
      rw [Nonce.inc_zero]
      exact same
    exact moved (Nonce.inc_inj (by omega) (by omega) still).symm

variable [Aead] [Hashes]

/-- All of `processTunnel` that seals is the packet. -/
theorem processTunnel_history [Socket S] {build : Build} {now : Int}
    {connection sent : Connection S R} {packet : TunnelPacket}
    (built : tunnelPacket build protocol host now connection = (.ok packet, sent)) :
    (processTunnel build protocol host now connection).2.history = sent.history := by
  rw [processTunnel, bind_ok built]
  refine Keeps.bind (io_keeps _) (fun _ => ?_) sent
  refine Keeps.bind (io_keeps _) fun _ => ?_
  refine Keeps.bind (Keeps.lift _) fun _ => ?_
  exact Keeps.get_bind fun _ _ => rfl

omit [Rng R] in
/-- A tunnel accepted from the fixed part of a packet has the cipher and the
padding of the client. -/
theorem acceptedFrom_sent {S' R' : Type} (correct : Aead.Correct) {cfg : AppConfig}
    {draws : Draws R} {hostLen : UInt8} {serverTime timestamp : Int} {front : Bytes}
    {tunnel : Tunnel S' R'} (salted : draws.salt.length = 32) (small : draws.paddingSize < 65536)
    (bucket : timestamp = serverTime.tdiv cfg.protocol.maxConnectDelay.toNat ∨
      timestamp = serverTime.tdiv cfg.protocol.maxConnectDelay.toNat - 1)
    (derived : cfg.protocol.kdf.deriveKeyFromTimestamp (utf8Bytes cfg.protocol.key) timestamp =
      .ok headerKey)
    (wrong : ∀ other, cfg.protocol.kdf.deriveKeyFromTimestamp (utf8Bytes cfg.protocol.key)
      (serverTime.tdiv cfg.protocol.maxConnectDelay.toNat) = .ok other →
        (headerRecord cfg.protocol headerKey draws hostLen).FailsUnder other)
    (arrived : front.take 63 =
      (packetOf cfg.protocol headerKey draws hostLen host).bytes.take 63)
    (accepted : tunnel.AcceptedFrom cfg serverTime front) :
    tunnel.header.cipher = ⟨cfg.protocol.cipher, headerKey, draws.nonce, [], 0⟩ ∧
      tunnel.header.padding = draws.paddingSize := by
  have headerSize : (draws.nonce.bytes ++
      (headerRecord cfg.protocol headerKey draws hostLen).bytes).length = 63 := by
    rw [List.length_append, SealRecord.bytes_length, headerRecord_length _ _ salted,
      draws.nonce.length_eq]
  have fixed : front.take 63 = draws.nonce.bytes ++
      (headerRecord cfg.protocol headerKey draws hostLen).bytes := by
    rw [arrived, packetOf, List.append_assoc, List.take_left' headerSize]
  obtain ⟨nonceCut, headerCut⟩ := front_cut draws.nonce.length_eq fixed
  have opened := accepted.header
  rw [tunnelHeader, nonceCut, headerCut,
    openTunnelHeader_sent correct salted small bucket derived wrong] at opened
  have same := Option.some.inj (Outcome.ok.inj opened)
  rw [← same]
  exact ⟨rfl, rfl⟩

/-- One connection seals its two records under different nonces where the draw
of the padding size is not zero, and the server opens them under the same
two. -/
theorem headerNonces_distinct_iff [Socket S] (correct : Aead.Correct) {build : Build} {now : Int}
    {connection sent : Connection S R} {packet : TunnelPacket}
    (built : tunnelPacket build protocol host now connection = (.ok packet, sent)) :
    ∃ first second : SealRecord,
      (processTunnel build protocol host now connection).2.history =
        connection.history ++ [.sealed first] ++ [.sealed second] ∧
      first.kind = second.kind ∧ first.key = second.key ∧
      (first.nonce ≠ second.nonce ↔ (tunnelDraws protocol connection.rng).paddingSize ≠ 0) ∧
      (0 < protocol.headerPadding.start.toNat → first.nonce ≠ second.nonce) ∧
      ∀ (S' R' : Type) [Socket S'] [Rng R'] (lookup : String → Except IoError (List SocketAddr))
        (socketAddr : SocketAddr) (serverTime : Int) (cfg : AppConfig) (urlPath : String)
        (upgradeSupport : Bool) (accepting after : Connection S' R') (tunnel : Tunnel S' R'),
        cfg.protocol = protocol →
        serverTime.tdiv protocol.maxConnectDelay.toNat -
          now.tdiv protocol.maxConnectDelay.toNat ∈ [0, 1] →
        (∀ other, protocol.kdf.deriveKeyFromTimestamp (utf8Bytes protocol.key)
          (serverTime.tdiv protocol.maxConnectDelay.toNat) = .ok other →
            first.FailsUnder other) →
        (∀ front, FirstRead socketAddr cfg urlPath upgradeSupport accepting front →
          front.take 63 = packet.bytes.take 63) →
        startTunnel lookup socketAddr serverTime cfg urlPath upgradeSupport accepting =
          (.ok (some tunnel), after) →
        tunnel.header.cipher.kind = first.kind ∧ tunnel.header.cipher.key = first.key ∧
          tunnel.header.cipher.nonce = first.nonce ∧
          ∃ record plain, Aead.openRecord second.kind second.key second.nonce record =
            some plain ∧ fromUtf8 plain = some tunnel.host := by
  have history := processTunnel_history built
  obtain ⟨headerKey, hostLen, derived, filled, _, rfl, sealedBoth⟩ := tunnelPacket_inv built
  have small : (tunnelDraws protocol connection.rng).paddingSize < 65536 := tunnelDraws_small filled
  refine ⟨_, _, history.trans sealedBoth, rfl, rfl, headerNonces_iff small, ?_, ?_⟩
  · intro positive
    have least : protocol.headerPadding.start.toNat ≤
        (tunnelDraws protocol connection.rng).paddingSize := (Draws.paddingSize_bounds filled).1
    exact (headerNonces_iff small).mpr (by omega)
  · intro S' R' _ _ lookup socketAddr serverTime cfg urlPath upgradeSupport accepting after tunnel
      rfl bucket wrong arrived started
    obtain ⟨⟨front, read, accepted⟩, _⟩ := startTunnel_inv started
    have bucket : now.tdiv cfg.protocol.maxConnectDelay.toNat =
        serverTime.tdiv cfg.protocol.maxConnectDelay.toNat ∨
          now.tdiv cfg.protocol.maxConnectDelay.toNat =
            serverTime.tdiv cfg.protocol.maxConnectDelay.toNat - 1 := by
      simp only [List.mem_cons, List.not_mem_nil, or_false] at bucket
      omega
    obtain ⟨cipher, padding⟩ := acceptedFrom_sent correct Draws.salt_length small bucket derived
      wrong (arrived front read) accepted
    obtain ⟨record, plain, opened, utf8⟩ := accepted.host
    rw [cipher, padding] at opened
    exact ⟨by rw [cipher]; rfl, by rw [cipher]; rfl, by rw [cipher]; rfl, record, plain, opened, utf8⟩

end Nonces

theorem headerNonces_distinct_sample : ∃ first second : SealRecord,
    (@processTunnel Loaded Unit Aead.tagging Hashes.folding _ _ .release
      (sampleConfig ⟨200, 300⟩).protocol "a.org:80" 9999 ⟨⟨[], []⟩, (), []⟩).2.history =
        [.sealed first, .sealed second] ∧
      first.nonce ≠ second.nonce := by
  let _ := Aead.tagging
  let _ := Hashes.folding
  obtain ⟨packet, sent, run, _⟩ := lastMoment_ok
  obtain ⟨first, second, history, _, _, _, distinct, _⟩ :=
    headerNonces_distinct_iff Aead.tagging_correct run
  exact ⟨first, second, history, distinct (by decide)⟩

/-- A range that the loader accepts. -/
def fromZero : ProtocolDocument where
  key := some "key"
  kdf := some .blake3
  cipher := none
  maxConnectDelay := none
  headerPadding := some "0..1"
  dataPadding := none
  encryptionLimit := none

def sealedBy (document : ProtocolDocument) : List ConnectionEvent :=
  match ProtocolConfig.deserialize document with
  | .ok protocol =>
      if protocol.headerPadding.start.toNat < protocol.headerPadding.stop.toNat then
        (@processTunnel Loaded Unit Aead.tagging Hashes.folding _ _ .release protocol "a.org:80" 0
          ⟨⟨[], []⟩, (), []⟩).2.history
      else []
  | .error _ => []

/-- Two records under one key and one nonce. -/
def reusesNonce : List ConnectionEvent → Bool
  | [.sealed first, .sealed second] =>
      decide (first.kind = second.kind ∧ first.key = second.key ∧
        first.nonce.bytes = second.nonce.bytes ∧ first.plain ≠ second.plain)
  | _ => false

theorem headerNonces_reused : reusesNonce (sealedBy fromZero) = true := by
  decide +kernel

end CovertConnect.Tunnel
