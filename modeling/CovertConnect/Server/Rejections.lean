import CovertConnect.Server.Panics
import CovertConnect.Server.Sealing

namespace CovertConnect.Server

open CovertConnect.Data CovertConnect.Data.Exec
open CovertConnect.Crypto CovertConnect.Crypto.Connection
open CovertConnect.Client (SocketAddr)

/-! # How the server turns a peer away

A peer that is refused at once can tell from the time how far its bytes were
understood; `terminate_slowly` hides that. -/

/-- The calls of `terminate_slowly`, with what each of them drew. -/
def cooldowns (history : List ConnectionEvent) : List (Nat × Nat) :=
  history.filterMap fun
    | .sealed _ => none
    | .terminated maxRead maxTimeMs => some (maxRead, maxTimeMs)

theorem cooldowns_append (before after : List ConnectionEvent) :
    cooldowns (before ++ after) = cooldowns before ++ cooldowns after :=
  List.filterMap_append

section Calls

variable {S R : Type}

def cooledSoFar (connection : Connection S R) : List (Nat × Nat) :=
  cooldowns connection.history

/-- `terminate_slowly` was called once, for a time of the configured range. -/
def Cooled (cfg : AppConfig) (connection after : Connection S R) : Prop :=
  ∃ maxRead maxTimeMs, cfg.unauthCooldown.start.toNat ≤ maxTimeMs ∧
    maxTimeMs < cfg.unauthCooldown.stop.toNat ∧
    cooledSoFar after = cooledSoFar connection ++ [(maxRead, maxTimeMs)]

theorem Cooled.not_kept {cfg : AppConfig} {connection after : Connection S R}
    (cooled : Cooled cfg connection after) : after.history ≠ connection.history := by
  intro same
  obtain ⟨maxRead, maxTimeMs, _, _, added⟩ := cooled
  have sizes := congrArg List.length added
  rw [cooledSoFar, cooledSoFar, same, List.length_append] at sizes
  simp at sizes

/-- A call that fails has cooled down. -/
def Cools {α : Type} (cfg : AppConfig) (call : Exec (Connection S R) Error α)
    (connection : Connection S R) : Prop :=
  ∀ error after, call connection = (.err error, after) → Cooled cfg connection after

namespace Cools

variable {α β : Type} {cfg : AppConfig} {call : Exec (Connection S R) Error α}
  {next : α → Exec (Connection S R) Error β} {connection : Connection S R}

theorem bind (first : Cools cfg call connection)
    (kept : ∀ value after, call connection = (.ok value, after) →
      cooledSoFar after = cooledSoFar connection)
    (later : ∀ value after, call connection = (.ok value, after) → Cools cfg (next value) after) :
    Cools cfg (call >>= next) connection := by
  intro error after run
  rw [bind_apply] at run
  rcases front : call connection with ⟨value | failure | reason, middle⟩
  · rw [front] at run
    have cooled := later value middle front error after run
    rw [Cooled, kept value middle front] at cooled
    exact cooled
  · rw [front] at run
    cases run
    exact first error after front
  · rw [front] at run
    cases run

theorem of_not_err (returns : ∀ error after, call connection ≠ (.err error, after)) :
    Cools cfg call connection :=
  fun error after run => absurd run (returns error after)

theorem pure (value : α) : Cools cfg (Pure.pure value) connection := by
  intro error after run
  cases run

end Cools

theorem cools_nothing_of_history {α : Type} {call : Exec (Connection S R) Error α}
    (kept : Keeps Connection.history call) : Keeps cooledSoFar call :=
  fun connection => congrArg cooldowns (kept connection)

theorem io_cools_nothing {α : Type} (call : S → Except IoError α × S) :
    Keeps cooledSoFar (io call : Exec (Connection S R) Error α) :=
  cools_nothing_of_history (io_keeps call)

theorem encrypt_cools_nothing [Aead] (cipher : Cipher) (buffer : Bytes) (start : Nat) :
    Keeps cooledSoFar (encrypt cipher buffer start :
      Exec (Connection S R) Error (Bytes × Cipher)) := by
  intro connection
  change cooldowns (connection.history ++ _) = _
  rw [cooldowns_append]
  exact List.append_nil _

theorem divide_cools_nothing (time : Int) (delay : Nat) :
    Keeps cooledSoFar (divide time delay : Exec (Connection S R) Error Int) := by
  rw [divide]
  split <;> exact fun _ => rfl

theorem genRange_cools_nothing [Rng R] (low high : Nat) :
    Keeps cooledSoFar (genRange low high : Exec (Connection S R) Error Nat) := by
  intro connection
  rw [genRange]
  split <;> rfl

theorem tryReadRest_cools_nothing [Socket S] (data : Bytes) (readed : Nat) :
    Keeps cooledSoFar (tryReadRest data readed : Exec (Connection S R) Error Bytes) := by
  rw [tryReadRest]
  split
  · exact io_cools_nothing _
  · exact fun _ => rfl

section Requests

variable [Rng R] [Aead] [Hashes]

theorem specialResponse_cools_nothing (protocol : ProtocolConfig) (salt : Bytes) :
    Keeps cooledSoFar (specialResponse protocol salt : Exec (Connection S R) Error Bytes) := by
  refine Keeps.bind (genRange_cools_nothing _ _) fun paddingBegin => ?_
  refine Keeps.bind (genRange_cools_nothing _ _) fun paddingEnd => ?_
  refine Keeps.bind (Keeps.lift _) fun ciphers => ?_
  refine Keeps.bind (encrypt_cools_nothing _ _ _) fun header => ?_
  refine Keeps.bind (encrypt_cools_nothing _ _ _) fun header => ?_
  refine Keeps.bind (fun _ => rfl) fun begin => ?_
  refine Keeps.bind (fun _ => rfl) fun padding => ?_
  refine Keeps.bind (encrypt_cools_nothing _ _ _) fun response => ?_
  exact Keeps.bind (encrypt_cools_nothing _ _ _) fun response _ => rfl

variable [Socket S]

theorem trySpecialRequest_cools_nothing (cfg : AppConfig) (connectTime : Int) (data : Bytes)
    (readed : Nat) :
    Keeps cooledSoFar (trySpecialRequest cfg connectTime data readed :
      Exec (Connection S R) Error Unit) := by
  refine Keeps.bind (divide_cools_nothing _ _) fun timestampForKey => ?_
  split
  · exact Keeps.fail _
  refine Keeps.bind (Keeps.lift _) fun header => ?_
  refine Keeps.bind (Keeps.lift _) fun nonce => ?_
  refine Keeps.bind (Keeps.lift _) fun opened => ?_
  refine Keeps.bind (tryReadRest_cools_nothing _ _) fun rest => ?_
  split
  · exact Keeps.fail _
  refine Keeps.bind (specialResponse_cools_nothing _ _) fun response => ?_
  exact Keeps.bind (io_cools_nothing _) fun _ => io_cools_nothing _

end Requests

variable [Socket S] [Rng R]

/-- The time is drawn from the range, so that there is one. -/
theorem terminateSlowly_cooled {cfg : AppConfig} {connection after : Connection S R}
    (run : terminateSlowly cfg.unauthCooldown connection = (.ok (), after)) :
    Cooled cfg connection after := by
  rw [terminateSlowly] at run
  obtain ⟨maxRead, first, drawn, run⟩ := bind_eq_ok.mp run
  rw [genRange_ok (by decide)] at drawn
  cases drawn
  obtain ⟨maxTimeMs, second, drawn, run⟩ := bind_eq_ok.mp run
  by_cases filled : cfg.unauthCooldown.start.toNat < cfg.unauthCooldown.stop.toNat
  · have bounds := Rng.genRange_bounds (Rng.genRange connection.rng 0 0x10000).2 _ _ filled
    rw [genRange_ok filled] at drawn
    cases drawn
    cases run
    exact ⟨_, _, bounds.1, bounds.2, cooldowns_append _ _⟩
  · rw [genRange, if_neg filled] at drawn
    cases drawn

theorem terminateSlowly_not_err (cooldown : PaddingRange) (connection after : Connection S R)
    (error : Error) : terminateSlowly cooldown connection ≠ (.err error, after) := by
  rw [terminateSlowly, bind_ok (genRange_ok (by decide))]
  intro run
  by_cases filled : cooldown.start.toNat < cooldown.stop.toNat
  · rw [bind_ok (genRange_ok filled)] at run
    cases run
  · rw [bind_apply, genRange, if_neg filled] at run
    cases run

theorem terminateSlowly_fails_cooled {α : Type} (cfg : AppConfig) (failure : Error)
    (connection : Connection S R) :
    Cools cfg ((do terminateSlowly cfg.unauthCooldown; .fail failure) :
      Exec (Connection S R) Error α) connection := by
  intro error after run
  rw [bind_apply] at run
  rcases terminated : terminateSlowly cfg.unauthCooldown connection with ⟨_ | other | _, middle⟩
  · rw [terminated] at run
    cases run
    exact terminateSlowly_cooled terminated
  · exact absurd terminated (terminateSlowly_not_err _ _ _ _)
  · rw [terminated] at run
    cases run

theorem refuse_cools {α : Type} (cfg : AppConfig) (message : String)
    (connection : Connection S R) :
    Cools cfg (refuse cfg message : Exec (Connection S R) Error α) connection :=
  terminateSlowly_fails_cooled cfg _ connection

theorem acceptUpgrade_cools (socketAddr : SocketAddr) (cfg : AppConfig) (urlPath : String)
    (upgradeSupport : Bool) (connection : Connection S R) :
    Cools cfg (acceptUpgrade socketAddr cfg urlPath upgradeSupport) connection := by
  rw [acceptUpgrade]
  split
  · have kept : Keeps cooledSoFar
        (onStream (processHttpUpgrade urlPath) : Exec (Connection S R) Error Unit) :=
      fun _ => rfl
    refine Cools.bind (.of_not_err fun _ _ => attempt_not_err _ _ _ _)
      (fun _ _ => kept.attempt.after) fun result after _ => ?_
    cases result with
    | ok _ => exact .pure ()
    | error err => exact terminateSlowly_fails_cooled cfg err after
  · exact .pure ()

variable [Aead] [Hashes]

theorem otherwise_cools {α : Type} (cfg : AppConfig) (connectTime : Int) (data : Bytes)
    (readed : Nat) (message : String) (connection : Connection S R) :
    Cools cfg (otherwise cfg connectTime data readed message :
      Exec (Connection S R) Error (Option α)) connection := by
  refine Cools.bind (.of_not_err fun _ _ => attempt_not_err _ _ _ _)
    (fun _ _ => (trySpecialRequest_cools_nothing _ _ _ _).attempt.after) fun result after _ => ?_
  cases result with
  | ok _ => exact .pure none
  | error _ => exact refuse_cools cfg message after

omit [Hashes] in
theorem decodeHost_cools (cfg : AppConfig) (header : TunnelHeader) (data : Bytes)
    (connection : Connection S R) : Cools cfg (decodeHost cfg header data) connection := by
  rw [decodeHost]
  refine Cools.bind (.of_not_err ?_) (fun _ _ => (Keeps.lift _).after) fun cut after _ => ?_
  · intro error after run
    rw [Outcome.splitTo, lift_apply] at run
    split at run <;> cases run
  dsimp only
  split
  · exact refuse_cools cfg _ after
  refine Cools.bind (.of_not_err ?_) (fun _ _ => (Keeps.lift _).after) fun hostBytes after _ => ?_
  · intro error after run
    rw [Outcome.slice, lift_apply, if_pos (Nat.zero_le _)] at run
    split at run <;> cases run
  split
  · exact .pure _
  · exact refuse_cools cfg _ after

/-- What follows the first read, as far as the host; `none` is that a special
request was answered. -/
def frontToHost (connectTime : Int) (cfg : AppConfig) (front : Bytes) :
    Exec (Connection S R) Error (Option (Bytes × TunnelHeader × String)) :=
  if front.length < minHeaderLen cfg.protocol then
    otherwise cfg connectTime (resize front (minHeaderLen cfg.protocol)) front.length
      "wrong header packet size"
  else do
    let timestampForKey ← divide connectTime cfg.protocol.maxConnectDelay.toNat
    match ← .lift (openTunnelHeader cfg.protocol timestampForKey (front.take 12)
        ((front.take 63).drop 12)) with
    | none => otherwise cfg connectTime front front.length "decrypt header failed"
    | some opened => do
        let host ← readHost cfg opened (front.drop 63)
        return some (front.take 12, opened, host)

def startToHost (socketAddr : SocketAddr) (connectTime : Int) (cfg : AppConfig) (urlPath : String)
    (upgradeSupport : Bool) :
    Exec (Connection S R) Error (Option (Bytes × TunnelHeader × String)) := do
  acceptUpgrade socketAddr cfg urlPath upgradeSupport
  let front ← io (Socket.read · (minHeaderLen cfg.protocol))
  frontToHost connectTime cfg front

/-- What `start_tunnel` does with the host. -/
def finishTunnel (lookup : String → Except IoError (List SocketAddr)) (cfg : AppConfig) :
    Option (Bytes × TunnelHeader × String) → Exec (Connection S R) Error (Option (Tunnel S R))
  | none => return none
  | some (nonce, header, host) => do
      let tunnel ← openTunnel lookup cfg nonce header host
      return some tunnel

omit [Aead] [Hashes] in
theorem refuse_bind {α β : Type} (cfg : AppConfig) (message : String)
    (next : α → Exec (Connection S R) Error β) : refuse cfg message >>= next = refuse cfg message := by
  rw [refuse, refuse, bind_assoc]
  rfl

theorem otherwise_finish (lookup : String → Except IoError (List SocketAddr)) (cfg : AppConfig)
    (connectTime : Int) (data : Bytes) (readed : Nat) (message : String) :
    (otherwise cfg connectTime data readed message :
        Exec (Connection S R) Error _) >>= finishTunnel lookup cfg =
      otherwise cfg connectTime data readed message := by
  rw [otherwise, otherwise, bind_assoc]
  congr 1
  funext result
  cases result with
  | ok _ => rfl
  | error _ => exact refuse_bind cfg message _

theorem startTunnel_eq (lookup : String → Except IoError (List SocketAddr))
    (socketAddr : SocketAddr) (connectTime : Int) (cfg : AppConfig) (urlPath : String)
    (upgradeSupport : Bool) :
    (startTunnel lookup socketAddr connectTime cfg urlPath upgradeSupport :
        Exec (Connection S R) Error (Option (Tunnel S R))) =
      startToHost socketAddr connectTime cfg urlPath upgradeSupport >>= finishTunnel lookup cfg := by
  rw [startTunnel, startToHost, bind_assoc]
  congr 1
  funext _
  rw [readHeader_eq, bind_assoc]
  congr 1
  funext front
  rw [afterRead, frontToHost]
  split
  · exact (otherwise_finish lookup cfg _ _ _ _).symm
  rw [bind_assoc]
  congr 1
  funext timestampForKey
  rw [bind_assoc]
  congr 1
  funext opened
  cases opened with
  | none => exact (otherwise_finish lookup cfg _ _ _ _).symm
  | some header =>
      dsimp only
      rw [acceptTunnel, bind_assoc]
      rfl

section Exits

variable (socketAddr : SocketAddr) (connectTime : Int) (cfg : AppConfig) (urlPath : String)
  (upgradeSupport : Bool) (connection : Connection S R)

/-- The host name was decrypted and decoded. -/
def HostDecoded : Prop :=
  ∃ found after, startToHost socketAddr connectTime cfg urlPath upgradeSupport connection =
    (.ok (some found), after)

def FirstReadFails : Prop :=
  ∃ ready error after,
    acceptUpgrade socketAddr cfg urlPath upgradeSupport connection = (.ok (), ready) ∧
      Socket.read ready.stream (minHeaderLen cfg.protocol) = (.error error, after)

/-- The key of a header could not be derived. -/
def KeyFails : Prop :=
  ∃ front error, FirstRead socketAddr cfg urlPath upgradeSupport connection front ∧
    minHeaderLen cfg.protocol ≤ front.length ∧ tunnelHeader cfg connectTime front = .err error

/-- `start_tunnel` cools down wherever it fails short of the host, but for a
failing first read or key. -/
def RejectsSlowly (lookup : String → Except IoError (List SocketAddr)) : Prop :=
  ∀ error after,
    startTunnel lookup socketAddr connectTime cfg urlPath upgradeSupport connection =
      (.err error, after) →
    ¬ HostDecoded socketAddr connectTime cfg urlPath upgradeSupport connection →
    ¬ FirstReadFails socketAddr cfg urlPath upgradeSupport connection →
    ¬ KeyFails socketAddr connectTime cfg urlPath upgradeSupport connection →
    Cooled cfg connection after

/-- The bytes of the header behind what the first read returned. -/
def restSize (cfg : AppConfig) (front : Bytes) (header : TunnelHeader) : Nat :=
  header.hostLen + cfg.protocol.cipher.tagSize + header.padding - (front.length - 63)

/-- The first read opens a tunnel header that goes on behind it. -/
structure OpensTunnel (front : Bytes) (header : TunnelHeader) : Prop where
  long : minHeaderLen cfg.protocol ≤ front.length
  delay : cfg.protocol.maxConnectDelay.toNat ≠ 0
  opened : tunnelHeader cfg connectTime front = .ok (some header)
  fits : front.length - 63 ≤ header.hostLen + cfg.protocol.cipher.tagSize + header.padding

/-- `try_read` fails for the rest of a header, as when the peer has sent no more
than the front of it. -/
def RestReadFails : Prop :=
  ∃ ready front next header error after,
    acceptUpgrade socketAddr cfg urlPath upgradeSupport connection = (.ok (), ready) ∧
    Socket.read ready.stream (minHeaderLen cfg.protocol) = (.ok front, next) ∧
    OpensTunnel connectTime cfg front header ∧
    Socket.tryRead next (restSize cfg front header) = (.error error, after)

end Exits

omit [Hashes] in
theorem readHost_cools {cfg : AppConfig} {header : TunnelHeader} {data : Bytes}
    {connection : Connection S R}
    (answers : data.length ≤ header.hostLen + cfg.protocol.cipher.tagSize + header.padding →
      ∀ error after, Socket.tryRead connection.stream
        (header.hostLen + cfg.protocol.cipher.tagSize + header.padding - data.length) ≠
          (.error error, after)) :
    Cools cfg (readHost cfg header data) connection := by
  refine Cools.bind (.of_not_err ?_)
    (fun _ _ => (tryReadRest_cools_nothing _ _).after) fun rest after _ => ?_
  · intro error after run
    rw [tryReadRest, resize_length] at run
    split at run
    · rename_i fits
      rw [io] at run
      rcases answer : Socket.tryRead connection.stream
          (header.hostLen + cfg.protocol.cipher.tagSize + header.padding - data.length)
        with ⟨failure | bytes, stream⟩
      · exact answers fits failure stream answer
      · rw [answer] at run
        cases run
    · cases run
  · split
    · exact refuse_cools cfg _ after
    · exact decodeHost_cools cfg header _ after

/-- Every exit behind the first read but two. -/
theorem frontToHost_cools {connectTime : Int} {cfg : AppConfig} {front : Bytes}
    {connection : Connection S R}
    (keys : minHeaderLen cfg.protocol ≤ front.length →
      ∀ error, tunnelHeader cfg connectTime front ≠ .err error)
    (answers : ∀ header, OpensTunnel connectTime cfg front header →
      ∀ error after, Socket.tryRead connection.stream (restSize cfg front header) ≠
        (.error error, after)) :
    Cools cfg (frontToHost connectTime cfg front) connection := by
  rw [frontToHost]
  split
  · exact otherwise_cools cfg _ _ _ _ _
  rename_i long
  have long := Nat.le_of_not_lt long
  by_cases zero : cfg.protocol.maxConnectDelay.toNat = 0
  · intro error after run
    rw [divide, if_pos zero] at run
    cases run
  rw [divide_pos zero, pure_bind]
  cases opened : openTunnelHeader cfg.protocol
      (connectTime.tdiv cfg.protocol.maxConnectDelay.toNat) (front.take 12)
      ((front.take 63).drop 12) with
  | err error => exact absurd opened (keys long error)
  | panic reason =>
      intro error after run
      cases run
  | ok result =>
      rw [lift_ok_bind]
      cases result with
      | none => exact otherwise_cools cfg _ _ _ _ _
      | some header =>
          refine Cools.bind (readHost_cools ?_) ?_ fun host after _ => .pure _
          · intro fits error after
            rw [List.length_drop] at fits ⊢
            exact answers header ⟨long, zero, opened, fits⟩ error after
          · intro host after run
            obtain ⟨_, _, _, _, kept⟩ := readHost_inv run
            exact congrArg cooldowns kept

theorem rejectsSlowly_of_rest {lookup : String → Except IoError (List SocketAddr)}
    {socketAddr : SocketAddr} {connectTime : Int} {cfg : AppConfig} {urlPath : String}
    {upgradeSupport : Bool} {connection : Connection S R}
    (answers : ¬ RestReadFails socketAddr connectTime cfg urlPath upgradeSupport connection) :
    RejectsSlowly socketAddr connectTime cfg urlPath upgradeSupport connection lookup := by
  intro error after run undecoded reads keys
  have cools : Cools cfg (startToHost socketAddr connectTime cfg urlPath upgradeSupport)
      connection := by
    refine Cools.bind (acceptUpgrade_cools _ _ _ _ _)
      (fun _ _ accepted => congrArg cooldowns (acceptUpgrade_history accepted))
      fun _ ready accepted => ?_
    refine Cools.bind ?_ (fun _ _ => (io_cools_nothing _).after) fun front next read => ?_
    · intro error after failed
      rcases answer : Socket.read ready.stream (minHeaderLen cfg.protocol) with ⟨failure | _, stream⟩
      · exact absurd ⟨ready, failure, stream, accepted, answer⟩ reads
      · rw [io, answer] at failed
        cases failed
    have first := firstRead_of_run accepted read
    refine frontToHost_cools (fun long error failed => keys ⟨front, error, first, long, failed⟩) ?_
    intro header opens error after failed
    rw [io] at read
    rcases answer : Socket.read ready.stream (minHeaderLen cfg.protocol) with ⟨_ | bytes, stream⟩
    · rw [answer] at read
      cases read
    · rw [answer] at read
      cases read
      exact answers ⟨ready, front, stream, header, error, after, accepted, answer, opens, failed⟩
  rw [startTunnel_eq, bind_apply] at run
  rcases host : startToHost socketAddr connectTime cfg urlPath upgradeSupport connection with
    ⟨(_ | found) | failure | reason, middle⟩
  · rw [host] at run
    cases run
  · exact absurd ⟨found, middle, host⟩ undecoded
  · rw [host] at run
    cases run
    exact cools error after host
  · rw [host] at run
    cases run

theorem rest_not_rejectsSlowly {lookup : String → Except IoError (List SocketAddr)}
    {socketAddr : SocketAddr} {connectTime : Int} {cfg : AppConfig} {urlPath : String}
    {upgradeSupport : Bool} {connection : Connection S R}
    (fails : RestReadFails socketAddr connectTime cfg urlPath upgradeSupport connection) :
    ¬ RejectsSlowly socketAddr connectTime cfg urlPath upgradeSupport connection lookup := by
  obtain ⟨ready, front, next, header, error, after, accepted, read, opens, failed⟩ := fails
  intro slow
  have reading : (io (Socket.read · (minHeaderLen cfg.protocol)) :
      Exec (Connection S R) Error Bytes) ready = (.ok front, { ready with stream := next }) :=
    io_ok read
  have rest : (readHost cfg header (front.drop 63) : Exec (Connection S R) Error String)
      { ready with stream := next } = (.err (.io error), { ready with stream := after }) := by
    have size : (front.drop 63).length = front.length - 63 := List.length_drop
    have trying : (tryReadRest (resize (front.drop 63)
        (header.hostLen + cfg.protocol.cipher.tagSize + header.padding)) (front.drop 63).length :
          Exec (Connection S R) Error Bytes) { ready with stream := next } =
        (.err (.io error), { ready with stream := after }) := by
      rw [restSize] at failed
      rw [tryReadRest, resize_length, size, if_pos opens.fits, io, failed]
    rw [readHost]
    exact bind_err trying _
  have toHost : startToHost socketAddr connectTime cfg urlPath upgradeSupport connection =
      (.err (.io error), { ready with stream := after }) := by
    have opened := opens.opened
    rw [tunnelHeader] at opened
    rw [startToHost, bind_ok accepted, bind_ok reading, frontToHost,
      if_neg (Nat.not_lt_of_le opens.long), divide_pos opens.delay, pure_bind, opened, lift_ok_bind]
    exact bind_err rest _
  have run : startTunnel lookup socketAddr connectTime cfg urlPath upgradeSupport connection =
      (.err (.io error), { ready with stream := after }) := by
    rw [startTunnel_eq]
    exact bind_err toHost _
  have cooled := slow _ _ run ?_ ?_ ?_
  · have kept := acceptUpgrade_history accepted
    exact cooled.not_kept kept
  · intro given
    obtain ⟨found, final, decoded⟩ := given
    rw [toHost] at decoded
    cases decoded
  · intro given
    obtain ⟨ready', failure, final, accepted', failing⟩ := given
    rw [accepted] at accepted'
    cases accepted'
    rw [read] at failing
    cases failing
  · intro given
    obtain ⟨front', failure, ⟨ready', final, accepted', read'⟩, _, underived⟩ := given
    rw [accepted] at accepted'
    cases accepted'
    rw [read] at read'
    cases read'
    rw [opens.opened] at underived
    cases underived

/-- A prober that holds the front of a genuine header back from the rest of it
is answered at once, and nobody else is. -/
theorem startTunnel_slow_iff (lookup : String → Except IoError (List SocketAddr))
    (socketAddr : SocketAddr) (connectTime : Int) (cfg : AppConfig) (urlPath : String)
    (upgradeSupport : Bool) (connection : Connection S R) :
    RejectsSlowly socketAddr connectTime cfg urlPath upgradeSupport connection lookup ↔
      ¬ RestReadFails socketAddr connectTime cfg urlPath upgradeSupport connection :=
  ⟨fun slow fails => rest_not_rejectsSlowly fails slow, rejectsSlowly_of_rest⟩

end Calls

/-- A peer that waits before it sends the next packet. -/
structure Paced where
  now : Loaded
  later : List Bytes

namespace Paced

/-- A read waits for the next packet. -/
def read (this : Paced) (room : Nat) : Except IoError Bytes × Paced :=
  match this.now.incoming, this.later with
  | [], packet :: later =>
      ((Loaded.read { this.now with incoming := packet } room).1,
        ⟨(Loaded.read { this.now with incoming := packet } room).2, later⟩)
  | _, _ => ((this.now.read room).1, ⟨(this.now.read room).2, this.later⟩)

def tryRead (this : Paced) (room : Nat) : Except IoError Bytes × Paced :=
  if this.now.incoming = [] ∧ this.later ≠ [] then (.error .wouldBlock, this)
  else ((this.now.read room).1, ⟨(this.now.read room).2, this.later⟩)

theorem read_all {front outgoing : Bytes} {later : List Bytes} {room : Nat} (some : front ≠ [])
    (fits : front.length ≤ room) :
    read ⟨⟨front, outgoing⟩, later⟩ room = (.ok front, ⟨⟨[], outgoing⟩, later⟩) := by
  cases front with
  | nil => exact absurd rfl some
  | cons byte front =>
      rw [read, Loaded.read, List.take_of_length_le fits, List.drop_eq_nil_of_le fits]

theorem tryRead_waits (outgoing packet : Bytes) (later : List Bytes) (room : Nat) :
    tryRead ⟨⟨[], outgoing⟩, packet :: later⟩ room =
      (.error .wouldBlock, ⟨⟨[], outgoing⟩, packet :: later⟩) :=
  if_pos ⟨rfl, List.cons_ne_nil _ _⟩

/-- The peer keeps its pace while the server waits for all of `size` bytes. -/
def readExact (this : Paced) (size : Nat) : Except IoError Bytes × Paced :=
  let arrived : Loaded := { this.now with incoming := this.now.incoming ++ this.later.flatten }
  ((arrived.readExact size).1, ⟨(arrived.readExact size).2, []⟩)

theorem read_fits (this after : Paced) (room : Nat) (bytes : Bytes)
    (taken : this.read room = (.ok bytes, after)) : bytes.length ≤ room := by
  rw [read] at taken
  split at taken <;>
  · cases taken
    exact Loaded.read_fits _ _ _ _ rfl

instance : Socket Paced where
  pollRead this room := (.ready (this.read room).1, (this.read room).2)
  pollRead_fits this room bytes after poll := by
    simp only [Prod.mk.injEq, Poll.ready.injEq] at poll
    exact read_fits this after room bytes (Prod.ext poll.1 poll.2)
  pollWrite this bytes := (.ready (.ok bytes.length), { this with now := this.now.write bytes })
  pollFlush this := (.ready (.ok ()), this)
  pollShutdown this := (.ready (.ok ()), this)
  pollWrite_fits _ _ _ _ poll := by
    cases poll
    exact Nat.le_refl _
  read := read
  tryRead := tryRead
  readExact := readExact
  readTimeout this size _ := { this with now := (this.now.read size).2 }
  writeAll this bytes := (.ok (), { this with now := this.now.write bytes })
  flush this := (.ok (), this)
  read_fits := fun this room bytes after => read_fits this after room bytes
  tryRead_fits this room bytes after taken := by
    rw [tryRead] at taken
    split at taken
    · cases taken
    · cases taken
      exact Loaded.read_fits _ _ _ _ rfl
  readExact_fits this size bytes after taken := by
    simp only [readExact, Prod.mk.injEq] at taken
    exact Socket.readExact_fits _ size bytes _ (Prod.ext taken.1 rfl)
  readTimeout_empty _ _ := rfl

end Paced

/-- The packet of a client that was recorded. -/
def recordedPacket : Bytes :=
  match @Client.tunnelPacket Unit Unit Aead.tagging Hashes.folding _ .release
      (sampleConfig ⟨1, 2⟩).protocol "a.org:80" 0 ⟨(), (), []⟩ with
  | (.ok packet, _) => packet.bytes
  | _ => []

/-- It is sent again with a pause behind `count` bytes. -/
def heldBack (count : Nat) : Connection Paced Unit :=
  ⟨⟨⟨recordedPacket.take count, []⟩, [recordedPacket.drop count]⟩, (), []⟩

def headerSizes : Outcome Error (Option TunnelHeader) → Option (Nat × Nat)
  | .ok (some header) => some (header.hostLen, header.padding)
  | _ => none

theorem headerSizes_some {opened : Outcome Error (Option TunnelHeader)} {hostLen padding : Nat}
    (sizes : headerSizes opened = some (hostLen, padding)) :
    ∃ header, opened = .ok (some header) ∧ header.hostLen = hostLen ∧ header.padding = padding := by
  match opened, sizes with
  | .ok (some header), sizes =>
      cases sizes
      exact ⟨header, rfl, rfl, rfl⟩

/-- The front that is read first, with the last four bytes held back. -/
theorem startTunnel_answers_at_once :
    ¬ @RejectsSlowly Paced Unit _ _ Aead.tagging Hashes.folding peer 0 (sampleConfig ⟨1, 2⟩) ""
      false (heldBack 84) (fun _ => .ok []) := by
  let _ := Aead.tagging
  let _ := Hashes.folding
  have sizes : headerSizes (tunnelHeader (sampleConfig ⟨1, 2⟩) 0 (recordedPacket.take 84)) =
      some (8, 1) := by decide +kernel
  have front : (recordedPacket.take 84).length = 84 := by decide +kernel
  have filled : recordedPacket.take 84 ≠ [] := List.ne_nil_of_length_pos (by omega)
  obtain ⟨header, opened, hostLen, padding⟩ := headerSizes_some sizes
  let waiting : Paced := ⟨⟨[], []⟩, [recordedPacket.drop 84]⟩
  have opens : OpensTunnel 0 (sampleConfig ⟨1, 2⟩) (recordedPacket.take 84) header := by
    refine ⟨Nat.le_of_eq front.symm, by decide, opened, ?_⟩
    rw [front, hostLen, padding]
    decide
  have fails : RestReadFails peer 0 (sampleConfig ⟨1, 2⟩) "" false (heldBack 84) :=
    ⟨heldBack 84, recordedPacket.take 84, waiting, header, .wouldBlock, waiting, rfl,
      Paced.read_all filled (Nat.le_of_eq front), opens,
      Paced.tryRead_waits _ _ _ _⟩
  exact rest_not_rejectsSlowly fails

end CovertConnect.Server
