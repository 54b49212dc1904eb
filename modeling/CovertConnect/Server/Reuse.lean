import CovertConnect.Client.Packets
import CovertConnect.Server.Panics
import CovertConnect.Server.Sealing

namespace CovertConnect.Server

open CovertConnect.Data CovertConnect.Data.Exec
open CovertConnect.Crypto CovertConnect.Crypto.Connection
open CovertConnect.Client (SocketAddr)

/-! # One connection after another

The server keeps nothing from one connection to the next: what they seal
together is what each of them seals. -/

/-- A connection with what comes in on it, and the calls of the relay if it
becomes a tunnel. -/
structure Incoming (S R : Type) where
  lookup : String → Except IoError (List SocketAddr)
  socketAddr : SocketAddr
  connectTime : Int
  stream : S
  rng : R
  calls : List Call

/-- No two plaintexts under one algorithm, key and nonce. -/
def NoReuse (records : List SealRecord) : Prop :=
  ∀ first ∈ records, ∀ second ∈ records, first.kind = second.kind → first.key = second.key →
    first.nonce = second.nonce → first.plain = second.plain

theorem noReuse_of_nodup {records : List SealRecord} (nodup : (records.map slot).Nodup) :
    NoReuse records := by
  intro first found second found' kind key nonce
  have same : slot first = slot second := by rw [slot, slot, kind, key, nonce]
  rw [List.inj_on_of_nodup_map nodup found found' same]

namespace Incoming

variable {S R : Type} [Socket S] [Rng R] [Aead] [Hashes]
  (cfg : AppConfig) (urlPath : String) (upgradeSupport : Bool)

def opened (incoming : Incoming S R) : Connection S R where
  stream := incoming.stream
  rng := incoming.rng
  history := []

def start (incoming : Incoming S R) : Outcome Error (Option (Tunnel S R)) × Connection S R :=
  startTunnel incoming.lookup incoming.socketAddr incoming.connectTime cfg urlPath upgradeSupport
    incoming.opened

/-- Every record that is sealed on a connection. -/
def sealed (incoming : Incoming S R) : List SealRecord :=
  match incoming.start cfg urlPath upgradeSupport with
  | (.ok (some tunnel), after) =>
      sealedSoFar after ++
        ((Sender.fresh tunnel.client).runWrapping incoming.calls).stream.writeCipher.sealed
  | (_, after) => sealedSoFar after

/-- The frames that are written into the tunnel. -/
def frames (incoming : Incoming S R) : Nat :=
  match incoming.start cfg urlPath upgradeSupport with
  | (.ok (some tunnel), _) => (Sender.fresh tunnel.client).framesWritten incoming.calls
  | _ => 0

/-- The keys that the first read of a connection has the server seal under. -/
def SealsUnder (incoming : Incoming S R) (key : Bytes) : Prop :=
  ∃ front, FirstRead incoming.socketAddr cfg urlPath upgradeSupport incoming.opened front ∧
    KeyedBy cfg incoming.connectTime front key

variable {cfg urlPath upgradeSupport}

/-- A tunnel seals what its stream seals. -/
theorem tunnel_slots {incoming : Incoming S R} {tunnel : Tunnel S R} {after : Connection S R}
    (run : incoming.start cfg urlPath upgradeSupport = (.ok (some tunnel), after))
    (few : incoming.frames cfg urlPath upgradeSupport < 2 ^ 79) :
    ((incoming.sealed cfg urlPath upgradeSupport).map slot).Nodup ∧
      ∀ record ∈ incoming.sealed cfg urlPath upgradeSupport,
        incoming.SealsUnder cfg urlPath upgradeSupport record.key := by
  obtain ⟨⟨front, first, accepted⟩, kept⟩ := startTunnel_inv run
  have full : 83 ≤ front.length := (Nat.le_add_right 83 _).trans accepted.full
  have salted := tunnelHeader_salt (by omega) accepted.header
  obtain ⟨stream, ciphers, rng, built, client⟩ := accepted.client
  obtain ⟨derived, _, unused⟩ := Cipher.newClientServer_server salted built
  rw [frames, run] at few
  dsimp only at few
  rw [client] at few
  obtain ⟨nonces, keyed⟩ := Sender.unused_runWrapping unused stream ciphers.1
    cfg.protocol.dataPadding cfg.protocol.encryptionLimit.toNat rng incoming.calls few
  have nothing : sealedSoFar after = [] := congrArg sealedRecords kept
  rw [sealed, run]
  dsimp only
  rw [nothing, client, List.nil_append]
  constructor
  · -- the nonces are enough to tell the slots apart
    apply List.Nodup.of_map fun part : CipherType × Bytes × Nonce => part.2.2
    rw [List.map_map]
    exact nonces
  · intro record logged
    rw [(keyed record logged).2]
    exact ⟨front, first, .inl ⟨tunnel.header, accepted.header, derived⟩⟩

/-- What is no tunnel seals a response or nothing. -/
theorem answer_slots {incoming : Incoming S R} {records : List SealRecord}
    (sealedOnes : records = sealedSoFar (incoming.start cfg urlPath upgradeSupport).2) :
    (records.map slot).Nodup ∧
      ∀ record ∈ records, incoming.SealsUnder cfg urlPath upgradeSupport record.key := by
  obtain ⟨added, history, answered⟩ : Seals _ (startTunnel incoming.lookup incoming.socketAddr
      incoming.connectTime cfg urlPath upgradeSupport) incoming.opened := startTunnel_seals
  have same : records = added := sealedOnes.trans history
  subst same
  by_cases none : records = []
  · simp [none]
  obtain ⟨front, first, long, header, read, answers⟩ := answered none
  obtain ⟨nodup, responseKey, derived, keyed⟩ := answers.slots (specialHeader_salt long read)
  refine ⟨nodup, fun record logged => ?_⟩
  rw [keyed record logged]
  exact ⟨front, first, .inr ⟨header, read, derived⟩⟩

/-- One connection repeats no slot, and its keys are those of its first
read. -/
theorem sealed_slots {incoming : Incoming S R}
    (few : incoming.frames cfg urlPath upgradeSupport < 2 ^ 79) :
    ((incoming.sealed cfg urlPath upgradeSupport).map slot).Nodup ∧
      ∀ record ∈ incoming.sealed cfg urlPath upgradeSupport,
        incoming.SealsUnder cfg urlPath upgradeSupport record.key := by
  rcases run : incoming.start cfg urlPath upgradeSupport with ⟨(_ | tunnel) | error | reason, after⟩
  · exact answer_slots (by rw [sealed, run])
  · exact tunnel_slots run few
  · exact answer_slots (by rw [sealed, run])
  · exact answer_slots (by rw [sealed, run])

end Incoming

section Served

variable {S R : Type} [Socket S] [Rng R] [Aead] [Hashes]

/-- `serve`: every connection that comes in is a tunnel or a request of its
own. -/
def served (cfg : AppConfig) (urlPath : String) (upgradeSupport : Bool)
    (incomings : List (Incoming S R)) : List SealRecord :=
  incomings.flatMap fun incoming => incoming.sealed cfg urlPath upgradeSupport

/-- The server repeats no slot in a run in which no connection brings a key
that an earlier one has brought. -/
theorem served_noReuse {cfg : AppConfig} {urlPath : String} {upgradeSupport : Bool}
    {incomings : List (Incoming S R)}
    (fresh : incomings.Pairwise fun earlier later => ∀ key,
      earlier.SealsUnder cfg urlPath upgradeSupport key →
        ¬ later.SealsUnder cfg urlPath upgradeSupport key)
    (few : ∀ incoming ∈ incomings, incoming.frames cfg urlPath upgradeSupport < 2 ^ 79) :
    NoReuse (served cfg urlPath upgradeSupport incomings) := by
  apply noReuse_of_nodup
  rw [served, List.map_flatMap, List.nodup_flatMap]
  constructor
  · intro incoming found
    exact (Incoming.sealed_slots (few incoming found)).1
  · refine List.Pairwise.imp_of_mem ?_ fresh
    intro earlier later before behind apart shared first second
    obtain ⟨record, logged, rfl⟩ := List.mem_map.mp first
    obtain ⟨record', logged', same⟩ := List.mem_map.mp second
    have keys : record'.key = record.key := congrArg (fun part => part.2.1) same
    have brought := (Incoming.sealed_slots (few earlier before)).2 record logged
    have again := (Incoming.sealed_slots (few later behind)).2 record' logged'
    rw [keys] at again
    exact apart record.key brought again

end Served

def sampleRequest : Bytes :=
  match @Client.protocolRequest Unit Unit Aead.tagging Hashes.folding _ "key" 0 ⟨(), (), []⟩ with
  | (.ok request, _) => request.bytes
  | _ => []

def sampleTunnel : Bytes :=
  match @Client.tunnelPacket Unit Unit Aead.tagging Hashes.folding _ .release
      (sampleConfig ⟨200, 300⟩).protocol "a.org:80" 0 ⟨(), (), []⟩ with
  | (.ok packet, _) => packet.bytes
  | _ => []

def bringing (bytes : Bytes) (seed : Nat) (calls : List Call) : Incoming Loaded Nat where
  lookup _ := .ok [peer]
  socketAddr := peer
  connectTime := 0
  stream := ⟨bytes, []⟩
  rng := seed
  calls := calls

def servedSample (incomings : List (Incoming Loaded Nat)) : List SealRecord :=
  @served Loaded Nat _ _ Aead.tagging Hashes.folding (sampleConfig ⟨200, 300⟩) "" false incomings

/-- The keys that a first read brings, to compare them. -/
def keysBrought (connectTime : Int) (front : Bytes) : List Bytes :=
  let cfg := sampleConfig ⟨200, 300⟩
  (match @tunnelHeader Aead.tagging Hashes.folding cfg connectTime front with
    | .ok (some header) =>
        match @Kdf.deriveServerKey Hashes.folding cfg.protocol.kdf (utf8Bytes cfg.protocol.key)
            header.salt with
        | .ok key => [key]
        | .error _ => []
    | _ => []) ++
  (match @specialHeader Aead.tagging Hashes.folding cfg connectTime front with
    | .ok header =>
        match @Kdf.deriveProtocolResponseKey Hashes.folding .argon2 (utf8Bytes cfg.protocol.key)
            header.salt with
        | .ok key => [key]
        | .error _ => []
    | _ => [])

theorem mem_keysBrought {bytes key : Bytes} {seed : Nat} {calls : List Call}
    (brought : @Incoming.SealsUnder Loaded Nat _ _ Aead.tagging Hashes.folding
      (sampleConfig ⟨200, 300⟩) "" false (bringing bytes seed calls) key) :
    key ∈ keysBrought 0 (bytes.take 283) := by
  obtain ⟨front, ⟨ready, after, accepted, read⟩, keyed⟩ := brought
  cases accepted
  cases read
  rcases keyed with ⟨header, opened, derived⟩ | ⟨header, opened, derived⟩
  · have opened : @tunnelHeader Aead.tagging Hashes.folding (sampleConfig ⟨200, 300⟩) 0
        (bytes.take 283) = .ok (some header) := opened
    simp only [keysBrought, opened, derived]
    exact List.mem_append_left _ (List.mem_singleton.mpr rfl)
  · have opened : @specialHeader Aead.tagging Hashes.folding (sampleConfig ⟨200, 300⟩) 0
        (bytes.take 283) = .ok header := opened
    simp only [keysBrought, opened, derived]
    exact List.mem_append_right _ (List.mem_singleton.mpr rfl)

theorem served_noReuse_sample :
    NoReuse (servedSample [bringing sampleRequest 100 [], bringing sampleTunnel 0 [.write [1]]]) ∧
      (servedSample [bringing sampleRequest 100 [], bringing sampleTunnel 0 [.write [1]]]).length =
        6 := by
  let _ := Aead.tagging
  let _ := Hashes.folding
  have apart : ((keysBrought 0 (sampleRequest.take 283)).all fun key =>
      !(keysBrought 0 (sampleTunnel.take 283)).contains key) = true := by decide +kernel
  have few : ([bringing sampleRequest 100 [], bringing sampleTunnel 0 [.write [1]]].all fun incoming =>
      decide (incoming.frames (sampleConfig ⟨200, 300⟩) "" false < 2 ^ 79)) = true := by
    decide +kernel
  refine ⟨served_noReuse ?_ ?_, by decide +kernel⟩
  · refine List.Pairwise.cons ?_ (List.pairwise_singleton _ _)
    intro later found key brought again
    obtain rfl := List.mem_singleton.mp found
    have absent := List.all_eq_true.mp apart key (mem_keysBrought brought)
    simp [mem_keysBrought again] at absent
  · intro incoming found
    exact of_decide_eq_true (List.all_eq_true.mp few incoming found)

def repeatsSlot (records : List SealRecord) : Bool :=
  records.any fun first => records.any fun second =>
    decide (first.kind = second.kind ∧ first.key = second.key ∧
      first.nonce.bytes = second.nonce.bytes ∧ first.plain ≠ second.plain)

theorem repeatsSlot_reuse {records : List SealRecord} (repeated : repeatsSlot records = true) :
    ¬ NoReuse records := by
  intro noReuse
  obtain ⟨first, found, repeated⟩ := List.any_eq_true.mp repeated
  obtain ⟨second, found', repeated⟩ := List.any_eq_true.mp repeated
  obtain ⟨kind, key, nonce, different⟩ := of_decide_eq_true repeated
  exact different (noReuse first found second found' kind key (Nonce.ext_bytes nonce))

/-- A request that is sent twice, and a tunnel header in front of other data. -/
theorem served_reuses :
    ¬ NoReuse (servedSample [bringing sampleRequest 100 [], bringing sampleRequest 200 []]) ∧
    ¬ NoReuse (servedSample [bringing sampleTunnel 0 [.write [1]],
      bringing (sampleTunnel ++ [0]) 0 [.write [2]]]) :=
  ⟨repeatsSlot_reuse (by decide +kernel), repeatsSlot_reuse (by decide +kernel)⟩

end CovertConnect.Server
