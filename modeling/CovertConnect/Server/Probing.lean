import CovertConnect.Data.Trace
import CovertConnect.Server.Panics

namespace CovertConnect.Server

open CovertConnect.Data CovertConnect.Data.Exec
open CovertConnect.Crypto CovertConnect.Crypto.Connection
open CovertConnect.Client (IpAddr SocketAddr)

/-! # Active probing

A prober knows neither the key nor the path of the upgrade.  It sees of a server
how far its bytes are read and what is written back: the socket at the end. -/

section Records

variable [Aead] [Hashes]

/-- The record opens under no header key of the time. -/
def NoKeyOpens (kind : CipherType) (kdf : Kdf) (key : Bytes) (timestampForKey : Int)
    (nonce record : Bytes) : Prop :=
  ∀ timestamp headerKey, (timestamp = timestampForKey ∨ timestamp = timestampForKey - 1) →
    kdf.deriveKeyFromTimestamp key timestamp = .ok headerKey → ∀ drawn : Nonce,
      drawn.bytes = nonce → Aead.openRecord kind headerKey drawn record = none

/-- No header of the server is at the front of the bytes, neither of a tunnel
nor of a request for the protocol. -/
structure Foreign (cfg : AppConfig) (connectTime : Int) (front : Bytes) : Prop where
  tunnel : NoKeyOpens cfg.protocol.cipher cfg.protocol.kdf (utf8Bytes cfg.protocol.key)
    (connectTime.tdiv cfg.protocol.maxConnectDelay.toNat) (front.take 12) ((front.take 63).drop 12)
  special : NoKeyOpens .aes256Gcm .argon2 (utf8Bytes cfg.protocol.key)
    (connectTime.tdiv getProtocolMaxConnectDelay) (front.take 12) ((front.take 78).drop 12)

/-- Header keys can be derived at any time: Argon2 takes the key. -/
structure AppConfig.Keyed (cfg : AppConfig) : Prop where
  delay : cfg.protocol.maxConnectDelay.toNat ≠ 0
  key : strLen cfg.protocol.key ≤ 0xFFFFFFFF

omit [Aead] in
theorem AppConfig.Keyed.derives {cfg : AppConfig} (keyed : cfg.Keyed) (kdf : Kdf) (timestamp : Int) :
    ∃ headerKey,
      kdf.deriveKeyFromTimestamp (utf8Bytes cfg.protocol.key) timestamp = .ok headerKey := by
  have short : ¬ 0xFFFFFFFF < (utf8Bytes cfg.protocol.key).length := Nat.not_lt_of_le keyed.key
  have argon2 : Kdf.argon2.deriveKeyFromTimestamp (utf8Bytes cfg.protocol.key) timestamp =
      .ok (Hashes.argon2id (utf8Bytes cfg.protocol.key)
        (Hashes.blake2b512 (i64Bytes timestamp ++ timeSalt))) := by
    rw [Kdf.deriveKeyFromTimestamp, Kdf.deriveKey, if_neg short, Hashes.blake2b512_length,
      if_neg (by decide), if_neg (by decide)]
  exact Kdf.deriveKeyFromTimestamp_both argon2 kdf timestamp

variable {cfg : AppConfig} {connectTime : Int} {front : Bytes}

omit [Aead] [Hashes] in
theorem nonce_sized {count : Nat} (long : count ≤ front.length) (enough : 12 ≤ count) :
    (front.take 12).length = 12 := by
  rw [List.length_take]
  omega

theorem Foreign.tunnelHeader (foreign : Foreign cfg connectTime front) (keyed : cfg.Keyed)
    (long : 63 ≤ front.length) : tunnelHeader cfg connectTime front = .ok none :=
  openTunnelHeader_closed
    (openHeader_closed (nonce_sized long (by decide)) (keyed.derives _) foreign.tunnel)

theorem Foreign.specialHeader (foreign : Foreign cfg connectTime front) (keyed : cfg.Keyed)
    (long : 78 ≤ front.length) :
    specialHeader cfg connectTime front = .err (.anyhow "decrypt error") := by
  have closed := openHeader_closed (nonce_sized long (by decide)) (keyed.derives _) foreign.special
  rw [Server.specialHeader, openSpecialHeader, closed]
  rfl

end Records

section Calls

variable {S R : Type} [Socket S] [Rng R]

omit [Socket S] in
theorem genRange_keeps_stream (low high : Nat) :
    Keeps Connection.stream (genRange low high : Exec (Connection S R) Error Nat) := by
  intro connection
  rw [genRange]
  split <;> rfl

/-- The wait is for no bytes. -/
theorem terminateSlowly_keeps_stream (cooldown : PaddingRange) :
    Keeps Connection.stream (terminateSlowly cooldown : Exec (Connection S R) Error Unit) := by
  refine Keeps.bind (genRange_keeps_stream _ _) fun maxRead => ?_
  refine Keeps.bind (genRange_keeps_stream _ _) fun maxTimeMs => ?_
  refine Keeps.bind (fun _ => rfl) fun _ => ?_
  exact fun connection => Socket.readTimeout_empty connection.stream maxTimeMs

/-- The call gives nothing, and leaves of the socket what `left` is. -/
def EndsWith {α : Type} (call : Exec (Connection S R) Error α) (connection : Connection S R)
    (left : S) : Prop :=
  (call connection).2.stream = left ∧ ∀ value, (call connection).1 ≠ .ok value

/-- A refusal leaves the socket as it is. -/
theorem refusal_endsWith {α : Type} (cooldown : PaddingRange) (failure : Error)
    (connection : Connection S R) :
    EndsWith ((do terminateSlowly cooldown; .fail failure) : Exec (Connection S R) Error α)
      connection connection.stream := by
  have kept : Keeps Connection.stream
      ((do terminateSlowly cooldown; .fail failure) : Exec (Connection S R) Error α) :=
    Keeps.bind (terminateSlowly_keeps_stream _) fun _ => Keeps.fail _
  refine ⟨kept connection, fun value run => ?_⟩
  rw [bind_apply] at run
  rcases terminated : terminateSlowly cooldown connection with ⟨_ | error | reason, after⟩
  · rw [terminated] at run
    cases run
  · rw [terminated] at run
    cases run
  · rw [terminated] at run
    cases run

variable [Aead] [Hashes] {cfg : AppConfig} {connectTime : Int} {front : Bytes}

/-- A request that no key opens changes nothing. -/
theorem trySpecialRequest_foreign {data : Bytes} {readed : Nat}
    (inside : readed ≤ data.length)
    (foreign : 78 ≤ readed → specialHeader cfg connectTime data = .err (.anyhow "decrypt error"))
    (connection : Connection S R) : ∃ error,
      trySpecialRequest cfg connectTime data readed connection = (.err error, connection) := by
  by_cases long : 78 ≤ readed
  · refine ⟨.anyhow "decrypt error", ?_⟩
    rw [trySpecialRequest_long long inside, foreign long]
    rfl
  · have short : readed < specialHeaderLen := Nat.lt_of_not_le long
    refine ⟨.anyhow "not enough readed", ?_⟩
    rw [trySpecialRequest, divide_pos (by decide), Exec.pure_bind, if_pos short]
    rfl

theorem otherwise_foreign {α : Type} {data : Bytes} {readed : Nat}
    (inside : readed ≤ data.length)
    (foreign : 78 ≤ readed → specialHeader cfg connectTime data = .err (.anyhow "decrypt error"))
    (message : String) (connection : Connection S R) :
    EndsWith (otherwise cfg connectTime data readed message : Exec (Connection S R) Error (Option α))
      connection connection.stream := by
  obtain ⟨error, failed⟩ := trySpecialRequest_foreign inside foreign connection
  have tried : (Exec.attempt (trySpecialRequest cfg connectTime data readed)) connection =
      (.ok (.error error), connection) := by
    rw [Exec.attempt, failed]
  have refused : (otherwise cfg connectTime data readed message :
      Exec (Connection S R) Error (Option α)) connection = refuse cfg message connection := by
    rw [otherwise, bind_ok tried]
  rw [EndsWith, refused]
  exact refusal_endsWith cfg.unauthCooldown _ connection

theorem afterRead_foreign (keyed : cfg.Keyed) (foreign : Foreign cfg connectTime front)
    (lookup : String → Except IoError (List SocketAddr)) (connection : Connection S R) :
    EndsWith (afterRead lookup connectTime cfg front) connection connection.stream := by
  rw [afterRead]
  by_cases short : front.length < minHeaderLen cfg.protocol
  · have grows : front.length ≤ minHeaderLen cfg.protocol := Nat.le_of_lt short
    rw [if_pos short]
    refine otherwise_foreign (by rw [resize_length]; exact grows) (fun long => ?_) _ _
    rw [specialHeader_resize long grows]
    exact foreign.specialHeader keyed long
  · have long : 83 ≤ front.length :=
      (Nat.le_add_right 83 _).trans (Nat.le_of_not_lt short)
    have closed := foreign.tunnelHeader keyed (by omega)
    rw [Server.tunnelHeader] at closed
    rw [if_neg short, divide_pos keyed.delay, Exec.pure_bind, closed, lift_ok_bind]
    exact otherwise_foreign (Nat.le_refl _) (foreign.specialHeader keyed) _ _

omit [Aead] [Hashes] in
/-- A request without the path is read, and nothing else. -/
theorem processHttpUpgrade_refused {urlPath : String} {stream : S}
    (unknown : ∀ request after, readUpgradeRequest maxUpgradeRequest 0 [] stream =
      (.ok request, after) → checkUpgradeRequest urlPath request ≠ .ok ()) :
    (processHttpUpgrade urlPath stream).2 = (readUpgradeRequest maxUpgradeRequest 0 [] stream).2 ∧
      ∀ value, (processHttpUpgrade urlPath stream).1 ≠ .ok value := by
  rw [processHttpUpgrade, bind_apply]
  rcases read : readUpgradeRequest maxUpgradeRequest 0 [] stream with ⟨request | error | reason, after⟩
  · dsimp only
    rw [replyUpgrade]
    cases checked : checkUpgradeRequest urlPath request with
    | ok value => exact absurd checked (unknown request after read)
    | error error => exact ⟨rfl, fun _ run => by cases run⟩
  · exact ⟨rfl, fun _ run => by cases run⟩
  · exact ⟨rfl, fun _ run => by cases run⟩

omit [Aead] [Hashes] in
theorem acceptUpgrade_refused {socketAddr : SocketAddr} {urlPath : String} {upgradeSupport : Bool}
    {connection : Connection S R} (behind : upgradeSupport ∧ socketAddr.ip = localHost)
    (unknown : ∀ request after, readUpgradeRequest maxUpgradeRequest 0 [] connection.stream =
      (.ok request, after) → checkUpgradeRequest urlPath request ≠ .ok ()) :
    EndsWith (acceptUpgrade socketAddr cfg urlPath upgradeSupport) connection
      (readUpgradeRequest maxUpgradeRequest 0 [] connection.stream).2 := by
  obtain ⟨left, refused⟩ := processHttpUpgrade_refused unknown
  rw [acceptUpgrade, if_pos behind, EndsWith, bind_apply, attempt_apply, onStream, focus_apply]
  rcases upgrade : processHttpUpgrade urlPath connection.stream with ⟨value | error | reason, after⟩
  · rw [upgrade] at refused
    exact absurd rfl (refused value)
  · rw [upgrade] at left
    rw [← left]
    exact refusal_endsWith cfg.unauthCooldown error { connection with stream := after }
  · rw [upgrade] at left
    exact ⟨left, fun _ run => by cases run⟩

omit [Aead] [Hashes] in
theorem acceptUpgrade_direct {socketAddr : SocketAddr} {urlPath : String} {upgradeSupport : Bool}
    (direct : ¬ (upgradeSupport ∧ socketAddr.ip = localHost)) (connection : Connection S R) :
    acceptUpgrade socketAddr cfg urlPath upgradeSupport connection = (.ok (), connection) := by
  rw [acceptUpgrade, if_neg direct]
  rfl

end Calls

/-- The arguments of `serve`. -/
structure Serving where
  cfg : AppConfig
  urlPath : String
  upgradeSupport : Bool

/-- A connection that a prober makes: where from, and the socket, which is also
what the prober does on it. -/
structure Probe (S : Type) where
  socketAddr : SocketAddr
  stream : S

/-- What the server has for an accepted connection. -/
structure Accepted (R : Type) where
  connectTime : Int
  rng : R

namespace Serving

section Probes

variable {S R : Type} [Socket S] [Rng R]

/-- The connection comes from the proxy, which asks for an upgrade first. -/
def BehindProxy (serving : Serving) (socketAddr : SocketAddr) : Prop :=
  serving.upgradeSupport ∧ socketAddr.ip = localHost

instance (serving : Serving) (socketAddr : SocketAddr) :
    Decidable (serving.BehindProxy socketAddr) :=
  inferInstanceAs (Decidable (_ ∧ _))

/-- What a server that knows of no key leaves of a socket. -/
def heard (serving : Serving) (probe : Probe S) : S :=
  if serving.BehindProxy probe.socketAddr then
    (readUpgradeRequest maxUpgradeRequest 0 [] probe.stream).2
  else (Socket.read probe.stream (minHeaderLen serving.cfg.protocol)).2

variable [Aead] [Hashes] (lookup : String → Except IoError (List SocketAddr))

/-- The prober shows neither the path nor a header. -/
def Stranger (serving : Serving) (accepted : Accepted R) (probe : Probe S) : Prop :=
  if serving.BehindProxy probe.socketAddr then
    ∀ request after, readUpgradeRequest maxUpgradeRequest 0 [] probe.stream = (.ok request, after) →
      checkUpgradeRequest serving.urlPath request ≠ .ok ()
  else
    ∀ front after, Socket.read probe.stream (minHeaderLen serving.cfg.protocol) =
      (.ok front, after) → Foreign serving.cfg accepted.connectTime front

def start (serving : Serving) (accepted : Accepted R) (probe : Probe S) :
    Outcome Error (Option (Tunnel S R)) × Connection S R :=
  startTunnel lookup probe.socketAddr accepted.connectTime serving.cfg serving.urlPath
    serving.upgradeSupport ⟨probe.stream, accepted.rng, []⟩

theorem start_stranger {serving : Serving} (keyed : serving.cfg.Keyed) {accepted : Accepted R}
    {probe : Probe S} (stranger : serving.Stranger accepted probe) :
    (serving.start lookup accepted probe).2.stream = serving.heard probe ∧
      ∀ result, (serving.start lookup accepted probe).1 ≠ .ok result := by
  let connection : Connection S R := ⟨probe.stream, accepted.rng, []⟩
  rw [start, startTunnel, heard]
  by_cases behind : serving.BehindProxy probe.socketAddr
  · rw [Stranger, if_pos behind] at stranger
    obtain ⟨left, refused⟩ : EndsWith (acceptUpgrade probe.socketAddr serving.cfg serving.urlPath
      serving.upgradeSupport) connection _ := acceptUpgrade_refused behind stranger
    rw [if_pos behind, bind_apply]
    rcases upgrade : acceptUpgrade probe.socketAddr serving.cfg serving.urlPath
      serving.upgradeSupport connection with ⟨value | error | reason, after⟩
    · rw [upgrade] at refused
      exact absurd rfl (refused value)
    · rw [upgrade] at left
      exact ⟨left, fun _ run => by cases run⟩
    · rw [upgrade] at left
      exact ⟨left, fun _ run => by cases run⟩
  · rw [Stranger, if_neg behind] at stranger
    rw [if_neg behind, bind_ok (acceptUpgrade_direct behind connection), readHeader_eq, bind_apply, io]
    rcases read : Socket.read probe.stream (minHeaderLen serving.cfg.protocol) with
      ⟨error | front, after⟩
    · exact ⟨rfl, fun _ run => by cases run⟩
    · exact afterRead_foreign keyed (stranger front after read) lookup
        { connection with stream := after }

/-- The next connection, chosen by how those before it ended. -/
abbrev Prober (S : Type) := List S → Probe S

/-- What a prober has seen after one more connection. -/
def probed (serving : Serving) (prober : Prober S) (seen : List S) (accepted : Accepted R) : List S :=
  seen ++ [(serving.start lookup accepted (prober seen)).2.stream]

/-- The servers differ in what a prober is not to know. -/
structure Alike (serving other : Serving) : Prop where
  upgradeSupport : serving.upgradeSupport = other.upgradeSupport
  paddingStart : serving.cfg.protocol.headerPadding.start = other.cfg.protocol.headerPadding.start

omit [Aead] [Hashes] in
theorem Alike.heard {serving other : Serving} (alike : serving.Alike other) (probe : Probe S) :
    serving.heard probe = other.heard probe := by
  have room : minHeaderLen serving.cfg.protocol = minHeaderLen other.cfg.protocol := by
    change 83 + _ = 83 + _
    rw [alike.paddingStart]
  have behind : serving.BehindProxy probe.socketAddr ↔ other.BehindProxy probe.socketAddr := by
    rw [BehindProxy, BehindProxy, alike.upgradeSupport]
  rw [Serving.heard, Serving.heard, room, if_congr behind rfl rfl]

/-- What reading does not change of a socket, such as the bytes written to it. -/
structure Quiet {α : Type} (view : S → α) : Prop where
  read : ∀ stream room, view (Socket.read stream room).2 = view stream
  readExact : ∀ stream size, view (Socket.readExact stream size).2 = view stream

omit [Rng R] [Aead] [Hashes] in
theorem Quiet.readUpgradeRequest {α : Type} {view : S → α} (quiet : Quiet view)
    (left lfInRow : Nat) (readed : Bytes) (stream : S) :
    view (readUpgradeRequest left lfInRow readed stream).2 = view stream := by
  induction left generalizing lfInRow readed stream with
  | zero => rfl
  | succ left ih =>
      rw [Server.readUpgradeRequest]
      split
      · have kept := quiet.readExact stream 1
        rw [bind_apply, ioCall]
        rcases read : Socket.readExact stream 1 with ⟨error | byte, after⟩
        · rw [read] at kept
          exact kept
        · rw [read] at kept
          exact (ih _ _ after).trans kept
      · rfl

omit [Rng R] [Aead] [Hashes] in
theorem Quiet.heard {α : Type} {view : S → α} (quiet : Quiet view) (serving : Serving)
    (probe : Probe S) : view (serving.heard probe) = view probe.stream := by
  rw [Serving.heard]
  split
  · exact quiet.readUpgradeRequest _ _ _ _
  · exact quiet.read _ _

/-- Whatever a prober does on any number of connections, each of them chosen by
how those before it ended: as long as it comes upon no header and no path of
either server, both servers show it the same, give it no tunnel and write
nothing to it. -/
theorem probes_alike {serving other : Serving} (alike : serving.Alike other)
    (keyed : serving.cfg.Keyed) (keyed' : other.cfg.Keyed) (prober : Prober S)
    {accepts : List (Accepted R)}
    (strangers : AllSteps (serving.probed lookup prober) (fun seen accepted =>
      serving.Stranger accepted (prober seen) ∧ other.Stranger accepted (prober seen)) [] accepts) :
    accepts.foldl (serving.probed lookup prober) [] =
        accepts.foldl (other.probed lookup prober) [] ∧
      ∀ {α : Type} {view : S → α}, Quiet view →
        AllSteps (serving.probed lookup prober) (fun seen accepted =>
          (∀ result, (serving.start lookup accepted (prober seen)).1 ≠ .ok result) ∧
            view (serving.start lookup accepted (prober seen)).2.stream =
              view (prober seen).stream) [] accepts := by
  constructor
  · refine foldl_congr_of_allSteps (allSteps_imp (fun seen accepted both => ?_) strangers)
    rw [probed, probed, (start_stranger lookup keyed both.1).1,
      (start_stranger lookup keyed' both.2).1, alike.heard]
  · intro α view quiet
    refine allSteps_imp (fun seen accepted both => ?_) strangers
    obtain ⟨left, refused⟩ := start_stranger lookup keyed both.1
    exact ⟨refused, by rw [left, quiet.heard]⟩

end Probes

/-- The bytes of a nonce, and bytes behind it. -/
def noise (count : Nat) : Bytes :=
  Nonce.zero.bytes ++ List.replicate count 22

/-- More noise at each try. -/
def guessing : Prober Loaded := fun seen =>
  { socketAddr := peer
    stream := ⟨noise (100 * seen.length), []⟩ }

def closes (kind : CipherType) (kdf : Kdf) (key : Bytes) (timestamp : Int) (record : Bytes) : Bool :=
  match @Kdf.deriveKeyFromTimestamp Hashes.folding kdf key timestamp with
  | .error _ => true
  | .ok headerKey => @Aead.openRecord Aead.tagging kind headerKey .zero record == none

theorem noKeyOpens_of_closes {kind : CipherType} {kdf : Kdf} {key record : Bytes} {timestamp : Int}
    (current : closes kind kdf key timestamp record = true)
    (before : closes kind kdf key (timestamp - 1) record = true) :
    @NoKeyOpens Aead.tagging Hashes.folding kind kdf key timestamp Nonce.zero.bytes record := by
  intro bucket headerKey near derived drawn same
  have closed : closes kind kdf key bucket record = true := by
    rcases near with rfl | rfl
    · exact current
    · exact before
  rw [closes, derived] at closed
  rw [Nonce.ext_bytes same]
  exact eq_of_beq closed

def closesBoth (cfg : AppConfig) (timestamp special : Int) (front : Bytes) : Bool :=
  [0, 1].all fun back =>
    closes cfg.protocol.cipher cfg.protocol.kdf (utf8Bytes cfg.protocol.key) (timestamp - back)
        ((front.take 63).drop 12) &&
      closes .aes256Gcm .argon2 (utf8Bytes cfg.protocol.key) (special - back)
        ((front.take 78).drop 12)

def guessed (key : String) (kdf : Kdf) : Serving where
  cfg :=
    { sampleConfig ⟨200, 300⟩ with
      protocol := { (sampleConfig ⟨200, 300⟩).protocol with key, kdf } }
  urlPath := key
  upgradeSupport := true

def tries : List (Accepted Unit) := [⟨30000, ()⟩, ⟨30500, ()⟩]

theorem noise_stranger {key : String} {kdf : Kdf} {count : Nat} {accepted : Accepted Unit}
    (few : count ≤ 200)
    (closed : closesBoth (guessed key kdf).cfg (accepted.connectTime.tdiv 10000)
      (accepted.connectTime.tdiv getProtocolMaxConnectDelay) (noise count) = true) :
    @Stranger Loaded Unit _ Aead.tagging Hashes.folding (guessed key kdf) accepted
      ⟨peer, ⟨noise count, []⟩⟩ := by
  have direct : ¬ (guessed key kdf).BehindProxy peer := by
    intro behind
    exact absurd behind.2 (by decide)
  simp only [Stranger, if_neg direct]
  intro front after read
  have whole : front = noise count := by
    have size : (noise count).length ≤ 283 := by
      rw [noise, List.length_append, List.length_replicate, Nonce.zero.length_eq]
      omega
    cases read
    exact List.take_of_length_le size
  rw [whole]
  simp only [closesBoth, List.all_cons, List.all_nil, Bool.and_eq_true, Int.sub_zero,
    Bool.and_true] at closed
  exact @Foreign.mk Aead.tagging Hashes.folding _ _ _
    (noKeyOpens_of_closes closed.1.1 closed.2.1) (noKeyOpens_of_closes closed.1.2 closed.2.2)

theorem probes_alike_sample :
    tries.foldl (@probed Loaded Unit _ _ Aead.tagging Hashes.folding (fun _ => .ok [])
        (guessed "key" .blake3) guessing) [] =
      tries.foldl (@probed Loaded Unit _ _ Aead.tagging Hashes.folding (fun _ => .ok [])
        (guessed "another" .argon2) guessing) [] := by
  let _ := Aead.tagging
  let _ := Hashes.folding
  have alike : (guessed "key" .blake3).Alike (guessed "another" .argon2) := ⟨rfl, rfl⟩
  have strangers : AllSteps ((guessed "key" .blake3).probed (fun _ => .ok []) guessing)
      (fun seen accepted => (guessed "key" .blake3).Stranger accepted (guessing seen) ∧
        (guessed "another" .argon2).Stranger accepted (guessing seen)) [] tries := by
    refine ⟨⟨?_, ?_⟩, ⟨?_, ?_⟩, trivial⟩
    · exact noise_stranger (by decide) (by decide +kernel)
    · exact noise_stranger (by decide) (by decide +kernel)
    · exact noise_stranger (by decide) (by decide +kernel)
    · exact noise_stranger (by decide) (by decide +kernel)
  exact (probes_alike (fun _ => .ok []) alike ⟨by decide, by decide⟩ ⟨by decide, by decide⟩ guessing
    strangers).1

end Serving

end CovertConnect.Server
