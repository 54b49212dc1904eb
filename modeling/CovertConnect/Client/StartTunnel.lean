import CovertConnect.Client.LazyInit

namespace CovertConnect.Client

open CovertConnect.Data CovertConnect.Crypto

/-! # Opening a tunnel

A connection selects a server, has it looked up if that is not done yet, and
connects to it.  The selected server is a copy of an entry of the list. -/

/-- How the network answers to a TCP connection, to a name for TLS and to a
handshake. -/
structure Network where
  connect : SocketAddr → Except Error Unit
  serverName : String → Except Error Unit
  handshake : SocketAddr → String → Except Error Unit

/-- `attempts` are the addresses connected to. -/
structure Tunnelling (S R : Type) where
  session : Session S
  rng : R
  attempts : List SocketAddr

inductive StreamType where
  | tcpStream (address : SocketAddr)
  | ugradeStream (address : SocketAddr) (host httpPath : String)
deriving DecidableEq, Repr

def StreamType.urlPath : StreamType → Option String
  | .tcpStream _ => none
  | .ugradeStream _ _ httpPath => some httpPath

def answered {σ : Type} : Except Error Unit → Exec σ Error Unit
  | .ok () => pure ()
  | .error error => .fail error

namespace Proxy

variable {S R : Type}

/-- `TcpStream::connect`. -/
def dial (network : Network) (address : SocketAddr) : Exec (Tunnelling S R) Error Unit := do
  .modify fun state => { state with attempts := state.attempts ++ [address] }
  answered (network.connect address)

def connect (network : Network) (address : SocketAddr) (host : String) (urlPath : Option String) :
    Exec (Tunnelling S R) Error StreamType := do
  dial network address
  match urlPath with
  | some httpPath => do
      -- HTTPS connect
      let host := String.ofList (stripPort host.toList)
      answered (network.serverName host)
      answered (network.handshake address host)
      pure (.ugradeStream address host httpPath)
  | none => pure (.tcpStream address)

/-- The stream that `process_tunnel` is run on. -/
def startTunnelWithServer (network : Network) (selected : SelectedServer) :
    Exec (Tunnelling S R) Error StreamType :=
  connect network selected.address selected.host selected.urlPath

def preferIpv4 (acc val : SocketAddr) : SocketAddr :=
  match acc.ip, val.ip with
  | .v6 _, .v4 _ => val
  | _, _ => acc

def directConnection (network : Network) (lookup : String → Except IoError (List SocketAddr))
    (targetHost : String) : Exec (Tunnelling S R) Error StreamType :=
  match lookup targetHost with
  | .error error => .fail (.io error)
  | .ok [] => .fail (.anyhow ("host " ++ targetHost ++ " notfound"))
  | .ok (address :: addresses) => do
      let targetAddress := addresses.foldl preferIpv4 address
      dial network targetAddress
      pure (.tcpStream targetAddress)

section Tunnel

variable [SystemProxy S] [Hashes] [Rng R]

/-- `ensure_config_initialized` when no other call comes in between. -/
def ensured (lookup : String → Except IoError (List SocketAddr)) (selSrv : SelectedServer)
    (session : Session S) : Session S :=
  (((ensureConfigInitialized selSrv session).goOn lookup).goOn lookup).session

def startTunnel (network : Network) (lookup : String → Except IoError (List SocketAddr))
    (targetHost processName : String) : Exec (Tunnelling S R) Error StreamType := do
  let state ← .get
  let proxy := state.session.proxy
  let selected ← .focus Tunnelling.rng (fun rng state => { state with rng })
    (selectServer proxy.apps proxy.servers targetHost processName)
  match selected with
  | some server => do
      .modify fun state => { state with session := ensured lookup server state.session }
      startTunnelWithServer network server
  | none => directConnection network lookup targetHost

/-- The only address connected to is the one of the initialised configuration,
over its path, and not the default one. -/
structure OpensResolved (initialized : ServerConfig) (opened : Outcome Error StreamType)
    (attempts : List SocketAddr) : Prop where
  address : attempts = [initialized.address]
  urlPath : ∀ stream, opened = .ok stream → stream.urlPath = initialized.urlPath
  notDefault : defaultServerAddress ∉ attempts

omit [SystemProxy S] [Hashes] [Rng R] in
/-- One address is connected to, whatever the network answers. -/
theorem connect_attempts (network : Network) (address : SocketAddr) (host : String)
    (urlPath : Option String) (state : Tunnelling S R) :
    (connect network address host urlPath state).2 =
        { state with attempts := state.attempts ++ [address] } ∧
      ∀ stream, (connect network address host urlPath state).1 = .ok stream →
        stream.urlPath = urlPath := by
  have failed : ∀ {after : Tunnelling S R} {error : Error} {stream : StreamType},
      (Outcome.err error, after).1 = .ok stream → stream.urlPath = urlPath := by
    intro _ _ _ impossible
    cases impossible
  rw [connect.eq_def, dial, Exec.bind_assoc, Exec.bind_ok (Exec.modify_apply _ _)]
  cases network.connect address with
  | error error =>
      simp only [answered, Exec.fail_bind]
      exact ⟨rfl, fun _ => failed⟩
  | ok _ =>
      simp only [answered, Exec.pure_bind]
      cases urlPath with
      | none => exact ⟨rfl, by rintro _ ⟨⟩; rfl⟩
      | some httpPath =>
          dsimp only
          cases network.serverName (String.ofList (stripPort host.toList)) with
          | error error => exact ⟨rfl, fun _ => failed⟩
          | ok _ =>
              simp only [Exec.pure_bind]
              cases network.handshake address (String.ofList (stripPort host.toList)) with
              | error error => exact ⟨rfl, fun _ => failed⟩
              | ok _ => exact ⟨rfl, by rintro _ ⟨⟩; rfl⟩

omit [SystemProxy S] [Hashes] [Rng R] in
theorem focus_rng {call : Exec R Error (Option SelectedServer)} {state : Tunnelling S R}
    {selected : SelectedServer} (chosen : (call state.rng).1 = .ok (some selected)) :
    Exec.focus Tunnelling.rng (fun rng state => { state with rng }) call state =
      (.ok (some selected), { state with rng := (call state.rng).2 }) := by
  rw [← chosen]
  rfl

/-- A tunnel is opened to what its server was when it was selected; what the
lookup finds is for the connections after it. -/
theorem startTunnel_selected (network : Network)
    (lookup : String → Except IoError (List SocketAddr)) {targetHost processName : String}
    {state : Tunnelling S R} {selected : SelectedServer}
    (chosen : (selectServer state.session.proxy.apps state.session.proxy.servers targetHost
      processName state.rng).1 = .ok (some selected)) :
    startTunnel network lookup targetHost processName state =
      startTunnelWithServer network selected
        { state with
          session := ensured lookup selected state.session
          rng := (selectServer state.session.proxy.apps state.session.proxy.servers targetHost
            processName state.rng).2 } := by
  rw [startTunnel, Exec.bind_ok (Exec.get_apply _), Exec.bind_ok (focus_rng chosen)]
  dsimp only
  rw [Exec.bind_ok (Exec.modify_apply _ _)]

omit [Rng R] in
/-- What the lookup finds is stored for the first server of that host. -/
theorem ensured_resolved {lookup : String → Except IoError (List SocketAddr)}
    {selected : SelectedServer} {session : Session S} {srv : Server} {initialized : ServerConfig}
    (uninitialized : selected.address = defaultServerAddress)
    (found : session.proxy.servers.find? (·.config.host = selected.host) = some srv)
    (resolved : srv.config.init lookup = .ok initialized) :
    (ensured lookup selected session).proxy =
      (Proxy.updateServer selected.host initialized session.proxy).2 := by
  have first : ensureConfigInitialized selected session =
      ⟨session, [], .waits (.lookUp selected.host srv.config)⟩ := by
    rw [ensureConfigInitialized, if_neg (not_not.mpr uninitialized), found]
  have second : (ensureConfigInitialized selected session).goOn lookup =
      ⟨session, [], .waits (.writeBack selected.host srv.config initialized)⟩ := by
    rw [first, Turn.goOn]
    simp only [Pending.resume, resolved]
  rw [ensured, second]
  rfl

/-- The tunnel of the connection that has a server looked up never goes to the
address that is found, but to the default one. -/
theorem startTunnel_unresolved (network : Network)
    (lookup : String → Except IoError (List SocketAddr)) (targetHost processName : String)
    (session : Session S) (rng : R) {selected : SelectedServer} {srv : Server}
    {initialized : ServerConfig}
    (chosen : (selectServer session.proxy.apps session.proxy.servers targetHost processName rng).1 =
      .ok (some selected))
    (uninitialized : selected.address = defaultServerAddress)
    (found : session.proxy.servers.find? (·.config.host = selected.host) = some srv)
    (resolved : srv.config.init lookup = .ok initialized) :
    let run := startTunnel network lookup targetHost processName ⟨session, rng, []⟩
    run.2.session.proxy = (Proxy.updateServer selected.host initialized session.proxy).2 ∧
      ¬ OpensResolved initialized run.1 run.2.attempts := by
  dsimp only
  rw [startTunnel_selected network lookup chosen, startTunnelWithServer]
  obtain ⟨after, _⟩ := connect_attempts network selected.address selected.host selected.urlPath
    ⟨ensured lookup selected session,
      (selectServer session.proxy.apps session.proxy.servers targetHost processName rng).2, []⟩
  rw [after]
  refine ⟨ensured_resolved uninitialized found resolved, fun opens => opens.notDefault ?_⟩
  rw [uninitialized]
  exact List.mem_singleton.mpr rfl

end Tunnel

end Proxy

namespace Concurrent

open Proxy

/-- A network where everything can be reached. -/
def openNetwork : Network where
  connect _ := .ok ()
  serverName _ := .ok ()
  handshake _ _ := .ok ()

theorem unresolved_chosen :
    (selectServer unresolved.proxy.apps unresolved.proxy.servers "x.org:443" "" ()).1 =
      .ok (some (.ofServer (namedServer true defaultServerAddress))) := by
  decide

theorem namedServer_unresolved :
    let _ := Hashes.folding
    let run := startTunnel openNetwork noLookup "x.org:443" "" ⟨unresolved, (), []⟩
    run.2.session.proxy = (Proxy.updateServer "1.2.3.4:5" (namedServer true resolvedAddress).config
        unresolved.proxy).2 ∧
      ¬ OpensResolved (namedServer true resolvedAddress).config run.1 run.2.attempts := by
  intro _
  exact startTunnel_unresolved openNetwork noLookup "x.org:443" "" unresolved () unresolved_chosen
    rfl rfl namedServer_init

/-- The address is found and stored, and the tunnel is opened to 0.0.0.0:0. -/
theorem startTunnel_default :
    let _ := Hashes.folding
    let run := startTunnel openNetwork noLookup "x.org:443" "" ⟨unresolved, (), []⟩
    run.1 = .ok (.tcpStream defaultServerAddress) ∧ run.2.attempts = [defaultServerAddress] ∧
      run.2.session.proxy.servers = [namedServer true resolvedAddress] := by
  intro _
  dsimp only
  rw [startTunnel_selected openNetwork noLookup unresolved_chosen]
  refine ⟨rfl, rfl, ?_⟩
  exact congrArg Proxy.servers (ensured_resolved rfl rfl namedServer_init)

end Concurrent

end CovertConnect.Client
