import CovertConnect.Client.Connect
import CovertConnect.Client.Packets
import CovertConnect.Server.Panics

namespace CovertConnect.Tunnel

open CovertConnect.Data CovertConnect.Data.Exec
open CovertConnect.Crypto CovertConnect.Crypto.Connection
open CovertConnect.Client CovertConnect.Server

/-! # What a configuration divides by and samples from -/

def arithmeticPanic (reason : String) : Prop :=
  reason = divisionByZero ∨ reason = emptyRange

theorem outOfRange_not_arithmetic : ¬ arithmeticPanic outOfRange := by
  intro given
  rcases given with same | same
  · exact absurd same (by decide)
  · exact absurd same (by decide)

theorem hostLenByte_spares {ε : Type} (build : Build) (host : String) :
    (hostLenByte build host : Outcome ε UInt8).Spares arithmeticPanic := by
  unfold hostLenByte
  split
  · exact Outcome.spares_ok _
  · cases build with
    | debug =>
        refine (Outcome.spares_panic _).mpr ?_
        intro given
        rcases given with same | same
        · exact absurd same (by decide)
        · exact absurd same (by decide)
    | release => exact Outcome.spares_ok _

section Calls

variable {S R : Type} [Rng R] [Aead] [Hashes] {connection : Connection S R}

/-- The client divides by the delay and, once it has a key, samples the header
padding. -/
theorem tunnelPacket_spares_iff {build : Build} {protocol : ProtocolConfig} {host : String}
    {now : Int} :
    Spares arithmeticPanic (tunnelPacket build protocol host now) connection ↔
      protocol.maxConnectDelay.toNat ≠ 0 ∧
        (protocol.headerPadding.start.toNat < protocol.headerPadding.stop.toNat ∨
          ∃ message, protocol.kdf.deriveKeyFromTimestamp (utf8Bytes protocol.key)
            (now.tdiv protocol.maxConnectDelay.toNat) = .error message) := by
  rw [tunnelPacket, spares_bind_of_ok (fillBytes_ok _)]
  by_cases zero : protocol.maxConnectDelay.toNat = 0
  · refine iff_of_false ?_ fun fine => fine.1 zero
    rw [divide, if_pos zero, abort_bind]
    exact fun spared => (Outcome.spares_panic _).mp spared (.inl rfl)
  rw [divide_pos zero, pure_bind, and_iff_right zero]
  cases derived : protocol.kdf.deriveKeyFromTimestamp (utf8Bytes protocol.key)
      (now.tdiv protocol.maxConnectDelay.toNat) with
  | error message =>
      refine iff_of_true ?_ (.inr ⟨message, rfl⟩)
      exact spares_fail _ _
  | ok headerKey =>
      have sized := Kdf.deriveKeyFromTimestamp_length derived
      have nonceSize := Rng.fillBytes_length
        (Rng.fillBytes connection.rng protocol.cipher.keySize).2 protocol.cipher.nonceSize
      rw [derive, Outcome.ofExcept, lift_ok_bind, spares_bind_of_ok (fillBytes_ok _),
        Cipher.newWithNonce_sized sized nonceSize, lift_ok_bind, spares_bind_iff,
        genRange_spares_iff]
      simp only [reduceCtorEq, exists_false, or_false]
      constructor
      · intro given
        obtain ⟨filled, _⟩ := given
        exact filled (.inr rfl)
      · intro filled
        refine ⟨fun _ => filled, ?_⟩
        intro paddingSize after _
        rw [spares_bind_iff]
        exact ⟨hostLenByte_spares build host, fun _ _ _ => Outcome.spares_ok _⟩

variable [Socket S]

theorem processTunnel_spares_iff {build : Build} {protocol : ProtocolConfig} {host : String}
    {now : Int} :
    Spares arithmeticPanic (processTunnel build protocol host now) connection ↔
      protocol.maxConnectDelay.toNat ≠ 0 ∧
        (protocol.headerPadding.start.toNat < protocol.headerPadding.stop.toNat ∨
          ∃ message, protocol.kdf.deriveKeyFromTimestamp (utf8Bytes protocol.key)
            (now.tdiv protocol.maxConnectDelay.toNat) = .error message) := by
  rw [processTunnel, spares_bind_iff]
  refine (and_iff_left_of_imp ?_).trans tunnelPacket_spares_iff
  intro _ packet after run
  obtain ⟨headerKey, hostLen, _, _, _, same, _⟩ := tunnelPacket_inv run
  have saltSize : packet.salt.length = 32 := by
    rw [same]
    exact Rng.fillBytes_length _ _
  rw [spares_bind_iff]
  refine ⟨io_spares _, fun _ flushing _ => ?_⟩
  rw [spares_bind_iff]
  refine ⟨io_spares _, fun _ sent _ => ?_⟩
  rw [spares_bind_iff]
  exact ⟨mapErr_spares _ (Cipher.newClientServer_spares saltSize), fun _ _ _ => Outcome.spares_ok _⟩

/-- With no delay to divide by, a first read of full length ends in the
division. -/
theorem readHeader_zero {lookup : String → Except IoError (List SocketAddr)} {connectTime : Int}
    {cfg : AppConfig} {front : Bytes} {after : S} (zero : cfg.protocol.maxConnectDelay.toNat = 0)
    (read : Socket.read connection.stream (minHeaderLen cfg.protocol) = (.ok front, after))
    (full : front.length = minHeaderLen cfg.protocol) :
    ¬ Spares arithmeticPanic (readHeader lookup connectTime cfg) connection := by
  have run : (io (Socket.read · (minHeaderLen cfg.protocol)) :
      Exec (Connection S R) Error Bytes) connection =
        (.ok front, { connection with stream := after }) := by
    rw [io, read]
  have long : ¬ front.length < minHeaderLen cfg.protocol := by omega
  rw [readHeader_eq, spares_bind_of_ok run, afterRead, if_neg long, divide, if_pos zero,
    abort_bind]
  exact fun spared => (Outcome.spares_panic _).mp spared (.inl rfl)

end Calls

section Configured

variable [Aead] [Hashes]

/-- No peer, no time and no draw makes the server divide by zero or sample an
empty range. -/
def ServerRuns (cfg : AppConfig) : Prop :=
  ∀ (S R : Type) [Socket S] [Rng R] (lookup : String → Except IoError (List SocketAddr))
    (socketAddr : SocketAddr) (connectTime : Int) (urlPath : String) (upgradeSupport : Bool)
    (connection : Connection S R),
    Spares arithmeticPanic
      (startTunnel lookup socketAddr connectTime cfg urlPath upgradeSupport) connection ∧
    Spares arithmeticPanic (terminateSlowly cfg.unauthCooldown) connection

theorem serverRuns_iff (cfg : AppConfig) :
    ServerRuns cfg ↔ cfg.protocol.maxConnectDelay.toNat ≠ 0 ∧
      cfg.unauthCooldown.start.toNat < cfg.unauthCooldown.stop.toNat := by
  constructor
  · intro runs
    constructor
    · intro zero
      let front := List.replicate (minHeaderLen cfg.protocol) (0 : UInt8)
      let connection : Connection Loaded Unit := ⟨⟨front, []⟩, (), []⟩
      have spared := (runs Loaded Unit (fun _ => .ok []) peer 0 "" false connection).1
      have full : (front.take (minHeaderLen cfg.protocol)).length = minHeaderLen cfg.protocol := by
        rw [List.take_of_length_le (Nat.le_of_eq (List.length_replicate)), List.length_replicate]
      have skipped : (acceptUpgrade peer cfg "" false :
          Exec (Connection Loaded Unit) Error Unit) connection = (.ok (), connection) := rfl
      rw [startTunnel, spares_bind_of_ok skipped] at spared
      exact readHeader_zero zero rfl full spared
    · have spared := (runs Loaded Unit (fun _ => .ok []) peer 0 "" false ⟨⟨[], []⟩, (), []⟩).2
      exact terminateSlowly_spares_iff.mp spared (.inr rfl)
  · intro given S R _ _ lookup socketAddr connectTime urlPath upgradeSupport connection
    obtain ⟨positive, filled⟩ := given
    exact ⟨(startTunnel_spares_iff positive filled).mpr fun _ _ dreaded =>
      absurd dreaded outOfRange_not_arithmetic, terminateSlowly_spares_iff.mpr fun _ => filled⟩

/-- Both ends, for every configuration: the server for all its runs, the
client for each. -/
theorem configured_runs_iff (cfg : AppConfig) (protocol : ProtocolConfig) :
    (ServerRuns cfg ↔ cfg.protocol.maxConnectDelay.toNat ≠ 0 ∧
      cfg.unauthCooldown.start.toNat < cfg.unauthCooldown.stop.toNat) ∧
    ∀ (S R : Type) [Socket S] [Rng R] (build : Build) (host : String) (now : Int)
      (connection : Connection S R),
      Spares arithmeticPanic (processTunnel build protocol host now) connection ↔
        protocol.maxConnectDelay.toNat ≠ 0 ∧
          (protocol.headerPadding.start.toNat < protocol.headerPadding.stop.toNat ∨
            ∃ message, protocol.kdf.deriveKeyFromTimestamp (utf8Bytes protocol.key)
              (now.tdiv protocol.maxConnectDelay.toNat) = .error message) :=
  ⟨serverRuns_iff cfg, fun _ _ _ _ _ _ _ _ => processTunnel_spares_iff⟩

end Configured

def keyDocument : ProtocolDocument where
  key := some "key"
  kdf := some .blake3
  cipher := none
  maxConnectDelay := none
  headerPadding := none
  dataPadding := none
  encryptionLimit := none

def appDocument (protocol : ProtocolDocument) (unauthCooldown : Option String) : AppDocument where
  address := some "10.0.0.1:8387"
  outAddress := none
  protocol := protocol
  unauthCooldown := unauthCooldown

def serverDocument (protocol : ProtocolDocument) : ServerDocument where
  caption := none
  host := some "example.org"
  weight := none
  domains := none
  apps := none
  enabled := none
  protocol := some protocol

/-- How the server panics that is configured by a document. -/
def servedFrom (document : AppDocument) (incoming : Bytes) : Option String :=
  match AppConfig.build document with
  | .ok cfg =>
      (@startTunnel Loaded Unit _ _ Aead.tagging Hashes.folding (fun _ => .ok []) peer 0 cfg "" false
        ⟨⟨incoming, []⟩, (), []⟩).1.panicReason
  | .error _ => none

def connectedFrom (document : ServerDocument) : Option String :=
  match ServerConfig.deserialize document with
  | .ok config =>
      (@processTunnel Loaded Unit Aead.tagging Hashes.folding _ _ .release config.protocol
        "example.org:80" 0 ⟨⟨[], []⟩, (), []⟩).1.panicReason
  | .error _ => none

theorem accepted_panics :
    servedFrom (appDocument { keyDocument with maxConnectDelay := some 0 } none)
      (List.replicate 200 0) = some divisionByZero ∧
    servedFrom (appDocument keyDocument (some "777..50")) [] = some emptyRange ∧
    connectedFrom (serverDocument { keyDocument with maxConnectDelay := some 0 }) =
      some divisionByZero ∧
    connectedFrom (serverDocument { keyDocument with headerPadding := some "100..100" }) =
      some emptyRange := by
  decide +kernel

end CovertConnect.Tunnel
