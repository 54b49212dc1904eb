import CovertConnect.Tunnel.Segments

namespace CovertConnect.Tunnel

open CovertConnect.Data CovertConnect.Data.Exec
open CovertConnect.Crypto CovertConnect.Crypto.Connection
open CovertConnect.Client CovertConnect.Server

/-! # For how long a header is accepted

No time travels in a header: the server derives the keys of two buckets, and
accepts what opens under one of them. -/

/-- A packet that is at most as old as a bucket is long comes in its bucket or
in the next one. -/
theorem bucket_recent {sent now delay : Int} (positive : 0 < delay) (known : 0 ≤ sent)
    (later : sent ≤ now) (recent : now - sent ≤ delay) :
    now.tdiv delay - sent.tdiv delay ∈ [(0 : Int), 1] := by
  rw [Int.tdiv_eq_ediv_of_nonneg known, Int.tdiv_eq_ediv_of_nonneg (known.trans later)]
  have least : sent / delay ≤ now / delay := Int.ediv_le_ediv positive later
  have most : now / delay ≤ sent / delay + 1 := by
    have turn : (sent + 1 * delay) / delay = sent / delay + 1 :=
      Int.add_mul_ediv_right _ _ (Int.ne_of_gt positive)
    rw [← turn]
    exact Int.ediv_le_ediv positive (by omega)
  simp only [List.mem_cons, List.not_mem_nil, or_false]
  omega

/-- After two whole buckets neither is left. -/
theorem bucket_old {sent now delay : Int} (positive : 0 < delay) (known : 0 ≤ sent)
    (old : 2 * delay ≤ now - sent) : now.tdiv delay - sent.tdiv delay ∉ [(0 : Int), 1] := by
  rw [Int.tdiv_eq_ediv_of_nonneg known, Int.tdiv_eq_ediv_of_nonneg (by omega)]
  have least : sent / delay + 2 ≤ now / delay := by
    rw [← Int.add_mul_ediv_right _ _ (Int.ne_of_gt positive)]
    exact Int.ediv_le_ediv positive (by omega)
  simp only [List.mem_cons, List.not_mem_nil, or_false]
  omega

section Window

variable {S R S' R' : Type} [Socket S] [Rng R] [Rng R'] [Aead] [Hashes]

/-- What is assumed of the keys of the buckets that a server tries: they differ
from the key of a header of another bucket, and do not open it. -/
structure KeysSeparate (protocol : ProtocolConfig) (current sent : Int)
    (history : List ConnectionEvent) : Prop where
  distinct : ∀ bucket key, (bucket = current ∨ bucket = current - 1) → bucket ≠ sent →
    protocol.kdf.deriveKeyFromTimestamp (utf8Bytes protocol.key) bucket = .ok key →
    protocol.kdf.deriveKeyFromTimestamp (utf8Bytes protocol.key) sent ≠ .ok key
  wrong : ∀ bucket key, (bucket = current ∨ bucket = current - 1) →
    protocol.kdf.deriveKeyFromTimestamp (utf8Bytes protocol.key) bucket = .ok key →
    ∀ record, .sealed record ∈ history → record.FailsUnder key

/-- The header at the front of these bytes opens. -/
def Authenticates (cfg : AppConfig) (connectTime : Int) (bytes : Bytes) : Prop :=
  ∃ header, tunnelHeader cfg connectTime bytes = .ok (some header)

/-- A header opens in its bucket and in the next one, and in no other. -/
theorem tunnelHeader_window (correct : Aead.Correct) {cfg : AppConfig} {build : Build}
    {host : String} {clientTime serverTime : Int} {sender sent : Connection S' R'}
    {packet : TunnelPacket}
    (built : tunnelPacket build cfg.protocol host clientTime sender = (.ok packet, sent))
    (separate : KeysSeparate cfg.protocol (serverTime.tdiv cfg.protocol.maxConnectDelay.toNat)
      (clientTime.tdiv cfg.protocol.maxConnectDelay.toNat) sent.history) (rest : Bytes) :
    (serverTime.tdiv cfg.protocol.maxConnectDelay.toNat -
        clientTime.tdiv cfg.protocol.maxConnectDelay.toNat ∈ [(0 : Int), 1] →
      Authenticates cfg serverTime (packet.bytes ++ rest)) ∧
    (serverTime.tdiv cfg.protocol.maxConnectDelay.toNat -
        clientTime.tdiv cfg.protocol.maxConnectDelay.toNat ∉ [(0 : Int), 1] →
      tunnelHeader cfg serverTime (packet.bytes ++ rest) = .ok none) := by
  obtain ⟨headerKey, hostLen, derived, filled, _, rfl, history⟩ := tunnelPacket_inv built
  let draws := tunnelDraws cfg.protocol sender.rng
  let record := headerRecord cfg.protocol headerKey draws hostLen
  have salted : draws.salt.length = 32 := Draws.salt_length
  have small : draws.paddingSize < 65536 :=
    (Draws.paddingSize_bounds filled).2.trans_le cfg.protocol.headerPadding.stop.toNat_lt.le
  have recorded : .sealed record ∈ sent.history := by
    simp [history, record, draws]
  have fixedSize : (draws.nonce.bytes ++ record.bytes).length = 63 := by
    rw [List.length_append, SealRecord.bytes_length, headerRecord_length _ _ salted,
      draws.nonce.length_eq]
  have front : ((packetOf cfg.protocol headerKey draws hostLen host).bytes ++ rest).take 63 =
      draws.nonce.bytes ++ record.bytes := by
    simp only [packetOf, List.append_assoc]
    rw [← List.append_assoc]
    exact List.take_left' fixedSize
  obtain ⟨nonceCut, headerCut⟩ := front_cut draws.nonce.length_eq front
  rw [Authenticates, tunnelHeader, nonceCut, headerCut]
  constructor
  · intro near
    exact ⟨_, openTunnelHeader_sent correct salted small (bucket_cases near) derived
      (fun key current => separate.wrong _ key (.inl rfl) current record recorded)⟩
  · intro far
    refine openTunnelHeader_closed (openHeader_closed draws.nonce.length_eq
      (Kdf.deriveKeyFromTimestamp_total derived) ?_)
    intro bucket key near current nonce nonceEq
    -- the key of another bucket is another key, and opens nothing
    have later : bucket ≠ clientTime.tdiv cfg.protocol.maxConnectDelay.toNat := by
      simp only [List.mem_cons, List.not_mem_nil, or_false] at far
      omega
    have other : key ≠ record.key := by
      intro equal
      subst equal
      exact separate.distinct bucket _ near later current derived
    rw [Nonce.ext_bytes nonceEq]
    exact separate.wrong bucket key near current record recorded other

/-- What a server does with the front of a header. -/
theorem startTunnel_front {cfg : AppConfig} {serverTime : Int}
    (positive : cfg.protocol.maxConnectDelay.toNat ≠ 0)
    (lookup : String → Except IoError (List SocketAddr)) {socketAddr : SocketAddr}
    {urlPath : String} {upgradeSupport : Bool} {connection ready : Connection S R} {stream : S}
    {bytes : Bytes}
    (upgraded : acceptUpgrade socketAddr cfg urlPath upgradeSupport connection = (.ok (), ready))
    (long : minHeaderLen cfg.protocol ≤ bytes.length)
    (read : Socket.read ready.stream (minHeaderLen cfg.protocol) =
      (.ok (bytes.take (minHeaderLen cfg.protocol)), stream)) :
    let front := bytes.take (minHeaderLen cfg.protocol)
    startTunnel lookup socketAddr serverTime cfg urlPath upgradeSupport connection =
      ((lift (tunnelHeader cfg serverTime bytes) : Exec (Connection S R) Error _) >>= fun found =>
        match found with
        | none => otherwise cfg serverTime front front.length "decrypt header failed"
        | some header => acceptTunnel lookup cfg (front.take 12) (front.drop 63) header)
        { ready with stream } := by
  intro front
  have least := minHeaderLen_eq cfg.protocol
  have frontSize : front.length = minHeaderLen cfg.protocol := List.length_take_of_le long
  have reading : (io (Socket.read · (minHeaderLen cfg.protocol)) :
      Exec (Connection S R) Error Bytes) ready = (.ok front, { ready with stream }) := io_ok read
  have opening : openTunnelHeader cfg.protocol
      (serverTime.tdiv cfg.protocol.maxConnectDelay.toNat) (front.take 12)
      ((front.take 63).drop 12) = tunnelHeader cfg serverTime bytes :=
    tunnelHeader_take bytes (by omega)
  rw [← opening, startTunnel, bind_ok upgraded, readHeader_eq, bind_ok reading, afterRead,
    if_neg (by omega), divide_pos positive]
  exact congrFun (pure_bind _ _) _

/-- A header is accepted in its bucket and in the next one: surely for as long
as a bucket is, and never after two. -/
theorem startTunnel_replay_window (correct : Aead.Correct) {cfg : AppConfig}
    (positive : cfg.protocol.maxConnectDelay.toNat ≠ 0) {build : Build} {host : String}
    {clientTime serverTime : Int} (clientKnown : 0 ≤ clientTime) (serverKnown : 0 ≤ serverTime)
    {sender sent : Connection S' R'} {packet : TunnelPacket}
    (built : tunnelPacket build cfg.protocol host clientTime sender = (.ok packet, sent))
    (separate : KeysSeparate cfg.protocol (serverTime.tdiv cfg.protocol.maxConnectDelay.toNat)
      (clientTime.tdiv cfg.protocol.maxConnectDelay.toNat) sent.history) (rest : Bytes) :
    let delay := cfg.protocol.maxConnectDelay.toNat
    let accepted := Authenticates cfg serverTime (packet.bytes ++ rest)
    (accepted ↔ serverTime / delay - clientTime / delay ∈ [0, 1]) ∧
    (clientTime ≤ serverTime → serverTime - clientTime ≤ delay → accepted) ∧
    (2 * delay ≤ serverTime - clientTime → ¬ accepted) ∧
    (serverTime / delay < clientTime / delay → ¬ accepted) ∧
    ∀ (lookup : String → Except IoError (List SocketAddr)) (socketAddr : SocketAddr)
      (urlPath : String) (upgradeSupport : Bool) (connection ready : Connection S R) (stream : S),
      acceptUpgrade socketAddr cfg urlPath upgradeSupport connection = (.ok (), ready) →
      minHeaderLen cfg.protocol ≤ (packet.bytes ++ rest).length →
      let front := (packet.bytes ++ rest).take (minHeaderLen cfg.protocol)
      Socket.read ready.stream (minHeaderLen cfg.protocol) = (.ok front, stream) →
      let run := startTunnel lookup socketAddr serverTime cfg urlPath upgradeSupport connection
      (accepted → ∃ header, tunnelHeader cfg serverTime (packet.bytes ++ rest) = .ok (some header) ∧
        run = acceptTunnel lookup cfg (front.take 12) (front.drop 63) header { ready with stream }) ∧
      (¬ accepted → run = otherwise cfg serverTime front front.length "decrypt header failed"
        { ready with stream }) := by
  intro delay accepted
  have lengths : (0 : Int) < delay := Int.natCast_pos.mpr (Nat.pos_of_ne_zero positive)
  obtain ⟨fresh, late⟩ := tunnelHeader_window correct built separate rest
  have clientBucket : clientTime.tdiv delay = clientTime / delay :=
    Int.tdiv_eq_ediv_of_nonneg clientKnown
  have serverBucket : serverTime.tdiv delay = serverTime / delay :=
    Int.tdiv_eq_ediv_of_nonneg serverKnown
  have closed : serverTime.tdiv delay - clientTime.tdiv delay ∉ [(0 : Int), 1] → ¬ accepted := by
    intro far opens
    obtain ⟨header, opens⟩ := opens
    cases (late far).symm.trans opens
  have window : accepted ↔ serverTime / delay - clientTime / delay ∈ [(0 : Int), 1] := by
    rw [← clientBucket, ← serverBucket]
    exact ⟨fun opens => by_contra fun far => closed far opens, fresh⟩
  refine ⟨window, ?_, ?_, ?_, ?_⟩
  · intro ordered recent
    exact fresh (bucket_recent lengths clientKnown ordered recent)
  · intro old
    exact closed (bucket_old lengths clientKnown old)
  · intro early opens
    have near := window.mp opens
    simp only [List.mem_cons, List.not_mem_nil, or_false] at near
    omega
  · intro lookup socketAddr urlPath upgradeSupport connection ready stream upgraded long front read run
    have started : run = _ := startTunnel_front positive lookup upgraded long read
    constructor
    · intro opens
      obtain ⟨header, opens⟩ := opens
      rw [opens, lift_ok_bind] at started
      exact ⟨header, opens, started⟩
    · intro shut
      have far := mt fresh shut
      rw [late far, lift_ok_bind] at started
      exact started

end Window

/-- A header of the last moment of a bucket, in the next one. -/
theorem startTunnel_replay_sample : ∃ packet, lastMoment.1 = .ok packet ∧
    @Authenticates Aead.tagging Hashes.folding (sampleConfig ⟨200, 300⟩) 10000
      (packet.bytes ++ []) := by
  let _ := Aead.tagging
  let _ := Hashes.folding
  have closed : closedTo .blake3 "key" 0 lastMoment.2.history = true := by decide +kernel
  have differ : (Kdf.blake3.deriveKeyFromTimestamp (utf8Bytes "key") 1).toOption ≠
      (Kdf.blake3.deriveKeyFromTimestamp (utf8Bytes "key") 0).toOption := by decide +kernel
  obtain ⟨packet, sent, run, _⟩ := lastMoment_ok
  rw [run] at closed
  let cfg := sampleConfig ⟨200, 300⟩
  have positive : cfg.protocol.maxConnectDelay.toNat ≠ 0 := by decide
  have current : (10000 : Int).tdiv cfg.protocol.maxConnectDelay.toNat = 1 := by decide
  have before : (9999 : Int).tdiv cfg.protocol.maxConnectDelay.toNat = 0 := by decide
  have separate : KeysSeparate cfg.protocol ((10000 : Int).tdiv cfg.protocol.maxConnectDelay.toNat)
      ((9999 : Int).tdiv cfg.protocol.maxConnectDelay.toNat) sent.history := by
    have opensNone := lastMoment_closed run
    rw [show (10000 : Int).tdiv (sampleConfig ⟨200, 300⟩).protocol.maxConnectDelay.toNat = 1 from
      current] at opensNone
    rw [current, before]
    constructor
    · intro bucket key near later first second
      obtain rfl : bucket = 1 := by
        rcases near with same | same
        · exact same
        · exact absurd same later
      have first : Kdf.blake3.deriveKeyFromTimestamp (utf8Bytes "key") 1 = .ok key := first
      have second : Kdf.blake3.deriveKeyFromTimestamp (utf8Bytes "key") 0 = .ok key := second
      rw [first, second] at differ
      exact absurd rfl differ
    · intro bucket key near derived record recorded
      rcases near with same | same
      · subst same
        exact opensNone record recorded key derived
      · subst same
        exact closedTo_failsUnder closed recorded derived
  obtain ⟨_, recent, _⟩ := startTunnel_replay_window (S := Loaded) (R := Unit)
    Aead.tagging_correct positive (by decide) (by decide) run separate []
  exact ⟨packet, by rw [run], recent (by decide) (by decide)⟩

end CovertConnect.Tunnel
