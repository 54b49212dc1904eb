import CovertConnect.Client.Routing

namespace CovertConnect.Client

open CovertConnect.Data

/-! # The service behind the user interface

The service starts the proxy from a saved configuration and passes the calls of
the user interface on.  A change of the routed items or of the port is followed
by `reset_proxy`, which builds the PAC text again. -/

/-- The configuration given to `start`; the addresses of the servers are
already looked up. -/
structure ProxyConfig where
  state : ProxyState
  port : UInt16
  domains : List String
  apps : List String
  servers : List ServerConfig
deriving DecidableEq, Repr

namespace Proxy

def new (proxyPort : UInt16) (proxyState : ProxyState) : Proxy where
  servers := []
  apps := []
  pacService := PacFileService.new proxyPort
  proxyState := proxyState
  initialized := false
  restart := .absent

def addApps (apps : List String) (this : Proxy) : Proxy :=
  { this with apps := this.apps ++ apps }

def addDomains (hosts : List String) (this : Proxy) : Proxy :=
  { this with pacService := { this.pacService with domains := this.pacService.domains ++ hosts } }

def updatePacContent (this : Proxy) : Proxy :=
  { this with pacService := this.pacService.updateContent }

/-- `ProxyService::start`, up to the call of `serve`. -/
def start (cfg : ProxyConfig) : Proxy :=
  let proxyState := if cfg.servers.isEmpty then .off else cfg.state
  let proxy := ((new cfg.port proxyState).addApps cfg.apps).addDomains cfg.domains
  cfg.servers.foldl (fun proxy config => (addServer config proxy).2) proxy.updatePacContent

theorem start_pacService (cfg : ProxyConfig) :
    (start cfg).pacService =
      ⟨some (buildPac cfg.domains cfg.port), cfg.domains, cfg.port⟩ := by
  have servers : ∀ (configs : List ServerConfig) (proxy : Proxy),
      (configs.foldl (fun proxy config => (addServer config proxy).2) proxy).pacService =
        proxy.pacService := by
    intro configs
    induction configs with
    | nil => exact fun _ => rfl
    | cons config configs ih => exact fun proxy => ih _
  exact servers _ _

end Proxy

inductive ServiceCall where
  | setProxyState (proxyState : ProxyState)
  | stop
  | setServerEnabled (host : String) (value : Bool)
  | addServer (config : ServerConfig)
  | updateServer (origHost : String) (newConfig : ServerConfig)
  | deleteServer (host : String)
  | setDomain (domain serverHost : String)
  | removeDomain (domain : String)
  | setApp (app serverHost : String)
  | removeApp (app : String)
  | setProxyPort (port : UInt16)

namespace Session

variable {S : Type} [SystemProxy S]

/-- Change the routed items and reset the proxy. -/
def changeRoutes (change : Exec Proxy Error Unit) : Exec (Session S) Error Unit := do
  onProxy change
  resetProxy

/-- The system proxy follows a state that is on when the loop starts. -/
def applyState : Exec (Session S) Error Unit := do
  let session ← .get
  if session.proxy.proxyState ≠ .off then
    setProxyStateInt session.proxy.proxyState

/-- `TcpListener::bind` with its answer; an error ends the loop, and the
receiver of the restart channel with it. -/
def listen : Except IoError Unit → Exec (Session S) Error Unit
  | .ok () => onProxy (.modify fun proxy => { proxy with restart := .waiting })
  | .error error => do
      onProxy (.modify fun proxy => { proxy with restart := .gone })
      .fail (.io error)

/-- The first part of `serve`. -/
def serve (bound : Except IoError Unit) : Exec (Session S) Error Unit := do
  onProxy (.modify fun proxy => { proxy with initialized := true })
  applyState
  listen bound

/-- The loop of `serve` takes the restart message. -/
def takeRestart (bound : Except IoError Unit) : Exec (Session S) Error Unit := do
  let session ← .get
  if session.proxy.restart = .sent then
    listen bound

end Session

namespace ServiceCall

variable {S : Type} [SystemProxy S]

def run : ServiceCall → Exec (Session S) Error Unit
  | .setProxyState proxyState => Session.setProxyState proxyState
  | .stop => Session.setProxyState .off
  | .setServerEnabled host value => Session.onProxy (Proxy.setEnabled host value)
  | .addServer config => Session.onProxy (Proxy.addServer config)
  | .updateServer origHost newConfig => Session.onProxy (Proxy.updateServer origHost newConfig)
  | .deleteServer host => Session.delServer host
  | .setDomain domain serverHost => Session.changeRoutes (Proxy.setDomain domain serverHost)
  | .removeDomain domain => Session.changeRoutes (Proxy.removeDomain domain)
  | .setApp app serverHost => Session.changeRoutes (Proxy.setApp app serverHost)
  | .removeApp app => Session.changeRoutes (Proxy.removeApp app)
  | .setProxyPort port => Session.setProxyPort port

/-- The calls that end with `reset_proxy`. -/
def resets : ServiceCall → Bool
  | .setDomain .. | .removeDomain .. | .setApp .. | .removeApp .. | .setProxyPort .. => true
  | _ => false

end ServiceCall

inductive ServiceEvent where
  | call (request : ServiceCall)
  | serve (bound : Except IoError Unit)
  | takeRestart (bound : Except IoError Unit)

def ServiceEvent.run {S : Type} [SystemProxy S] : ServiceEvent → Exec (Session S) Error Unit
  | .call request => request.run
  | .serve bound => Session.serve bound
  | .takeRestart bound => Session.takeRestart bound

namespace Session

variable {S : Type}

theorem onProxy_apply (call : Exec Proxy Error Unit) (session : Session S) :
    onProxy call session = ((call session.proxy).1, { session with proxy := (call session.proxy).2 }) :=
  rfl

theorem onProxy_bind (call : Exec Proxy Error Unit) (next : Unit → Exec (Session S) Error Unit)
    (session : Session S) :
    (onProxy call >>= next) session =
      match call session.proxy with
      | (.ok (), proxy) => next () { session with proxy }
      | (.err error, proxy) => (.err error, { session with proxy })
      | (.panic reason, proxy) => (.panic reason, { session with proxy }) := by
  rw [Exec.bind_apply, onProxy_apply]
  rcases call session.proxy with ⟨_ | _ | _, proxy⟩ <;> rfl

theorem callSystem_keeps (call : S → Except Error Unit × S) :
    Exec.Keeps Session.proxy (callSystem call) := by
  intro session
  rw [callSystem]
  split <;> rfl

/-- What the PAC text depends on. -/
def pacView (session : Session S) : PacFileService × ProxyState :=
  (session.proxy.pacService, session.proxy.proxyState)

theorem listen_keeps (bound : Except IoError Unit) :
    Exec.Keeps pacView (listen bound : Exec (Session S) Error Unit) := by
  cases bound with
  | ok _ => exact fun _ => rfl
  | error error => exact .bind (fun _ => rfl) fun _ => .fail _

theorem sendRestart_keeps :
    Exec.Keeps pacView (sendRestart : Exec (Session S) Error Unit) := by
  intro session
  rcases session with ⟨⟨servers, apps, pacService, proxyState, initialized, restart⟩, system⟩
  cases restart <;> rfl

theorem takeRestart_keeps (bound : Except IoError Unit) :
    Exec.Keeps pacView (takeRestart bound : Exec (Session S) Error Unit) := by
  refine .get_bind fun session => ?_
  split
  · exact listen_keeps bound
  · exact fun _ => rfl

variable [SystemProxy S]

theorem setProxyStateInt_keeps (proxyState : ProxyState) :
    Exec.Keeps Session.proxy (setProxyStateInt proxyState : Exec (Session S) Error Unit) := by
  intro session
  cases proxyState with
  | pac => exact callSystem_keeps _ _
  | all => exact callSystem_keeps _ _
  | off => exact callSystem_keeps _ _

theorem setProxyState_proxy (proxyState : ProxyState) (session : Session S) :
    (setProxyState proxyState session).2.proxy = { session.proxy with proxyState } :=
  setProxyStateInt_keeps proxyState _

theorem resetProxy_pac {session : Session S} (state : session.proxy.proxyState = .pac) :
    resetProxy session =
      setProxyPac { session with
        proxy := { session.proxy with pacService := session.proxy.pacService.updateContent } } := by
  rw [resetProxy, Exec.bind_ok (Exec.get_apply _), if_pos state]
  rfl

theorem resetProxy_other {session : Session S} (state : session.proxy.proxyState ≠ .pac) :
    resetProxy session = (.ok (), session) := by
  rw [resetProxy, Exec.bind_ok (Exec.get_apply _), if_neg state]
  rfl

theorem resetProxy_proxy (session : Session S) :
    (resetProxy session).2.proxy =
      if session.proxy.proxyState = .pac then
        { session.proxy with pacService := session.proxy.pacService.updateContent }
      else session.proxy := by
  split
  · rename_i state
    rw [resetProxy_pac state]
    exact setProxyStateInt_keeps .pac _
  · rename_i state
    rw [resetProxy_other state]

theorem delServer_proxy (host : String) (session : Session S) :
    (delServer host session).2.proxy.pacService = session.proxy.pacService ∧
      ((delServer host session).2.proxy.proxyState = session.proxy.proxyState ∨
        (delServer host session).2.proxy.proxyState = .off) := by
  rw [delServer, Exec.bind_ok (Exec.get_apply _)]
  cases session.proxy.position host with
  | none => exact ⟨rfl, .inl rfl⟩
  | some idx =>
      dsimp only
      rw [onProxy_bind, Exec.modify_apply]
      dsimp only
      split
      · rw [setProxyState_proxy]
        exact ⟨rfl, .inr rfl⟩
      · exact ⟨rfl, .inl rfl⟩

theorem applyState_keeps : Exec.Keeps pacView (applyState : Exec (Session S) Error Unit) := by
  refine .get_bind fun session => ?_
  split
  · intro session
    rw [pacView, setProxyStateInt_keeps _ session]
    rfl
  · exact fun _ => rfl

theorem serve_keeps (bound : Except IoError Unit) :
    Exec.Keeps pacView (serve bound : Exec (Session S) Error Unit) :=
  .bind (fun _ => rfl) fun _ => .bind applyState_keeps fun _ => listen_keeps bound

end Session

/-- A change of the routed items leaves the text, the port and the state. -/
theorem Proxy.rerouted_pac (kind : ItemKind) (direct : List String) (servers : List Server)
    (proxy : Proxy) :
    ((proxy.rerouted kind direct servers).pacService.pacContent,
        (proxy.rerouted kind direct servers).proxyState) =
      (proxy.pacService.pacContent, proxy.proxyState) := by
  cases kind <;> rfl

/-- The calls that only change where items are routed. -/
def Reroutes (change : Exec Proxy Error Unit) : Prop :=
  Exec.Keeps (fun proxy => (proxy.pacService.pacContent, proxy.proxyState)) change

theorem setItem_reroutes (kind : ItemKind) (item serverHost : String) :
    Reroutes (Proxy.setItem kind item serverHost) := by
  intro proxy
  by_cases named : serverHost = ""
  · subst named
    rw [Proxy.setItem_direct]
    exact Proxy.rerouted_pac kind _ _ proxy
  cases found : proxy.position serverHost with
  | none =>
      rw [Proxy.setItem_unknown named found]
      exact Proxy.rerouted_pac kind _ _ proxy
  | some pos =>
      rw [Proxy.setItem_known named found]
      exact Proxy.rerouted_pac kind _ _ proxy

theorem removeItem_reroutes (kind : ItemKind) (item : String) :
    Reroutes (Proxy.removeItem kind item) := by
  intro proxy
  by_cases present : item ∈ kind.direct proxy
  · rw [Proxy.removeItem_present present]
    exact Proxy.rerouted_pac kind _ _ proxy
  · rw [Proxy.removeItem_missing present]

theorem changeServer_keeps (host : String) (change : ServerConfig → ServerConfig) :
    Exec.Keeps (fun proxy => (proxy.pacService, proxy.proxyState))
      (Proxy.changeServer host change) := by
  intro proxy
  rw [Proxy.changeServer]
  split <;> rfl

/-- The text is the one that the list and the port give. -/
def Built (proxy : Proxy) : Prop :=
  proxy.pacService.pacContent =
    some (buildPac proxy.pacService.domains proxy.pacService.proxyPort)

namespace ServiceCall

variable {S : Type} [SystemProxy S] {session : Session S}

/-- A successful call that resets the proxy builds the text again while the
text is in use, and leaves the old text otherwise. -/
def Rebuilds (before after : Proxy) : Prop :=
  after.proxyState = before.proxyState ∧
    (before.proxyState = .pac → Built after) ∧
    (before.proxyState ≠ .pac → after.pacService.pacContent = before.pacService.pacContent)

theorem resetProxy_rebuilds (session : Session S) (before : Proxy)
    (content : session.proxy.pacService.pacContent = before.pacService.pacContent)
    (state : session.proxy.proxyState = before.proxyState) :
    Rebuilds before (Session.resetProxy session).2.proxy := by
  rw [Session.resetProxy_proxy, state]
  split
  · rename_i served
    exact ⟨state, fun _ => rfl, fun other => absurd served other⟩
  · rename_i other
    exact ⟨state, fun served => absurd served other, fun _ => content⟩

theorem changeRoutes_rebuilds {change : Exec Proxy Error Unit} (reroutes : Reroutes change)
    (succeeds : (Session.changeRoutes change session).1 = .ok ()) :
    Rebuilds session.proxy (Session.changeRoutes change session).2.proxy := by
  have kept := reroutes session.proxy
  simp only [Prod.mk.injEq] at kept
  rw [Session.changeRoutes, Session.onProxy_bind] at succeeds ⊢
  rcases changed : change session.proxy with ⟨_ | error | reason, proxy⟩
  · rw [changed] at kept
    exact resetProxy_rebuilds _ _ kept.1 kept.2
  · simp [changed] at succeeds
  · simp [changed] at succeeds

theorem setProxyPort_rebuilds (port : UInt16)
    (succeeds : (Session.setProxyPort port session).1 = .ok ()) :
    Rebuilds session.proxy (Session.setProxyPort port session).2.proxy := by
  rw [Session.setProxyPort, Session.onProxy_bind, Exec.modify_apply] at succeeds ⊢
  dsimp only at succeeds ⊢
  rw [Exec.bind_apply] at succeeds ⊢
  have kept := Session.sendRestart_keeps { session with
    proxy := { session.proxy with pacService := session.proxy.pacService.setNewPort port } }
  rcases run : Session.sendRestart _ with ⟨_ | error | reason, sent⟩
  · rw [run] at kept
    obtain ⟨service, state⟩ := Prod.ext_iff.mp kept
    have content := congrArg PacFileService.pacContent service
    exact resetProxy_rebuilds sent session.proxy content state
  · simp [run] at succeeds
  · simp [run] at succeeds

theorem run_rebuilds {request : ServiceCall} (resets : request.resets = true)
    (succeeds : (request.run session).1 = .ok ()) :
    Rebuilds session.proxy (request.run session).2.proxy := by
  cases request with
  | setDomain domain serverHost =>
      exact changeRoutes_rebuilds (setItem_reroutes .domain domain serverHost) succeeds
  | removeDomain domain => exact changeRoutes_rebuilds (removeItem_reroutes .domain domain) succeeds
  | setApp app serverHost =>
      exact changeRoutes_rebuilds (setItem_reroutes .app app serverHost) succeeds
  | removeApp app => exact changeRoutes_rebuilds (removeItem_reroutes .app app) succeeds
  | setProxyPort port => exact setProxyPort_rebuilds port succeeds
  | _ => simp [ServiceCall.resets] at resets

/-- The other calls leave the text and what it is made of, and only
`set_proxy_state` turns the PAC state on. -/
theorem run_keeps {request : ServiceCall} (session : Session S) (resets : request.resets = false) :
    (request.run session).2.proxy.pacService = session.proxy.pacService ∧
      ((request.run session).2.proxy.proxyState = .pac →
        request = .setProxyState .pac ∨ session.proxy.proxyState = .pac) := by
  cases request with
  | setProxyState proxyState =>
      change (Session.setProxyState _ _).2.proxy.pacService = _ ∧
        ((Session.setProxyState _ _).2.proxy.proxyState = _ → _)
      rw [Session.setProxyState_proxy]
      exact ⟨rfl, fun pac => .inl (by rw [← pac])⟩
  | stop =>
      change (Session.setProxyState _ _).2.proxy.pacService = _ ∧
        ((Session.setProxyState _ _).2.proxy.proxyState = _ → _)
      rw [Session.setProxyState_proxy]
      exact ⟨rfl, fun pac => absurd pac (by simp)⟩
  | setServerEnabled host value =>
      have kept := changeServer_keeps host (fun config => { config with enabled := value })
        session.proxy
      simp only [Prod.mk.injEq] at kept
      exact ⟨kept.1, fun pac => .inr (kept.2.symm.trans pac)⟩
  | addServer config => exact ⟨rfl, fun pac => .inr pac⟩
  | updateServer origHost newConfig =>
      have kept := changeServer_keeps origHost (fun _ => newConfig) session.proxy
      simp only [Prod.mk.injEq] at kept
      exact ⟨kept.1, fun pac => .inr (kept.2.symm.trans pac)⟩
  | deleteServer host =>
      obtain ⟨service, state⟩ := Session.delServer_proxy host session
      refine ⟨service, fun pac => ?_⟩
      rcases state with same | off
      · exact .inr (same.symm.trans pac)
      · exact absurd (off.symm.trans pac) (by decide)
  | _ => simp [ServiceCall.resets] at resets

end ServiceCall

/-- The session, and the list and the port that the kept text was built from. -/
structure Service (S : Type) where
  session : Session S
  basis : List String × UInt16

namespace Service

variable {S : Type}

/-- The service as `start` leaves it. -/
def started (cfg : ProxyConfig) (system : S) : Service S where
  session := { proxy := Proxy.start cfg, system }
  basis := (cfg.domains, cfg.port)

/-- The served text is the one that `update_content` would build now. -/
def Fresh (service : Service S) : Prop :=
  service.session.proxy.proxyState = .pac →
    service.session.proxy.pacService.pacHander =
      service.session.proxy.pacService.updateContent.pacHander

/-- The kept text is the one that the basis gives. -/
def Based (service : Service S) : Prop :=
  service.session.proxy.pacService.pacContent = some (buildPac service.basis.1 service.basis.2)

theorem fresh_iff {service : Service S} (based : service.Based) :
    service.Fresh ↔ (service.session.proxy.proxyState = .pac →
      buildPac service.basis.1 service.basis.2 =
        buildPac service.session.proxy.pacService.domains
          service.session.proxy.pacService.proxyPort) := by
  rw [Fresh, PacFileService.pacHander, based]
  simp [PacFileService.pacHander, PacFileService.updateContent]

variable [SystemProxy S]

/-- The calls that build the text: those that reset the proxy, in the PAC state. -/
def rebuilds (service : Service S) : ServiceEvent → Bool
  | .call request => request.resets && service.session.proxy.proxyState = .pac
  | .serve _ | .takeRestart _ => false

def after (service : Service S) (event : ServiceEvent) : Service S :=
  let session := (event.run service.session).2
  { session
    basis := if service.rebuilds event
      then (session.proxy.pacService.domains, session.proxy.pacService.proxyPort)
      else service.basis }

def Succeeds (service : Service S) : ServiceEvent → Prop
  | .call request => (request.run service.session).1 = .ok ()
  | .serve _ | .takeRestart _ => True

/-- The PAC state is turned on while the text from the last build is the one
that the list and the port give. -/
def TurnsOnFresh (service : Service S) : ServiceEvent → Prop
  | .call (.setProxyState .pac) =>
      buildPac service.basis.1 service.basis.2 =
        buildPac service.session.proxy.pacService.domains
          service.session.proxy.pacService.proxyPort
  | _ => True

/-- A step that builds no text. -/
theorem after_idle {service : Service S} {event : ServiceEvent}
    (idle : service.rebuilds event = false) :
    service.after event = ⟨(event.run service.session).2, service.basis⟩ := by
  simp [after, idle]

theorem after_based {service : Service S} {event : ServiceEvent} (based : service.Based)
    (succeeds : service.Succeeds event) : (service.after event).Based := by
  have kept : (event.run service.session).2.proxy.pacService.pacContent =
      service.session.proxy.pacService.pacContent → service.rebuilds event = false →
      (service.after event).Based := by
    intro same idle
    rw [after_idle idle]
    exact same.trans based
  cases event with
  | serve bound =>
      exact kept (congrArg (·.1.pacContent) (Session.serve_keeps bound service.session)) rfl
  | takeRestart bound =>
      exact kept (congrArg (·.1.pacContent) (Session.takeRestart_keeps bound service.session)) rfl
  | call request =>
      cases resets : request.resets with
      | false =>
          exact kept (congrArg PacFileService.pacContent (ServiceCall.run_keeps _ resets).1)
            (by simp [rebuilds, resets])
      | true =>
          obtain ⟨_, built, other⟩ := ServiceCall.run_rebuilds resets succeeds
          by_cases state : service.session.proxy.proxyState = .pac
          · have rebuilt : service.rebuilds (.call request) = true := by
              simp [rebuilds, resets, state]
            rw [Based, after]
            simp only [rebuilt, if_true]
            exact built state
          · exact kept (other state) (by simp [rebuilds, state])

/-- A step that leaves the text and what it is made of. -/
theorem after_fresh_kept {service : Service S} {event : ServiceEvent} (based : service.Based)
    (succeeds : service.Succeeds event) (idle : service.rebuilds event = false)
    (kept : (event.run service.session).2.proxy.pacService = service.session.proxy.pacService) :
    (service.after event).Fresh ↔
      ((event.run service.session).2.proxy.proxyState = .pac →
        buildPac service.basis.1 service.basis.2 =
          buildPac service.session.proxy.pacService.domains
            service.session.proxy.pacService.proxyPort) := by
  rw [fresh_iff (after_based based succeeds), after_idle idle, kept]

theorem after_fresh_iff {service : Service S} {event : ServiceEvent} (based : service.Based)
    (fresh : service.Fresh) (succeeds : service.Succeeds event) :
    (service.after event).Fresh ↔ service.TurnsOnFresh event := by
  have current := (fresh_iff based).mp fresh
  cases event with
  | serve bound =>
      obtain ⟨pacService, state⟩ := Prod.ext_iff.mp (Session.serve_keeps bound service.session)
      rw [after_fresh_kept based succeeds rfl pacService]
      exact iff_of_true (fun pac => current (state.symm.trans pac)) trivial
  | takeRestart bound =>
      obtain ⟨pacService, state⟩ :=
        Prod.ext_iff.mp (Session.takeRestart_keeps bound service.session)
      rw [after_fresh_kept based succeeds rfl pacService]
      exact iff_of_true (fun pac => current (state.symm.trans pac)) trivial
  | call request =>
      cases resets : request.resets with
      | true =>
          have turns : service.TurnsOnFresh (.call request) := by
            cases request <;> first | exact trivial | simp [ServiceCall.resets] at resets
          obtain ⟨state, built, _⟩ := ServiceCall.run_rebuilds resets succeeds
          refine iff_of_true (fun pac => ?_) turns
          exact built (state.symm.trans pac)
      | false =>
          obtain ⟨pacService, state⟩ := ServiceCall.run_keeps service.session resets
          rw [after_fresh_kept based succeeds (by simp [rebuilds, resets]) pacService]
          by_cases turnsOn : request = .setProxyState .pac
          · subst turnsOn
            have on : ((ServiceEvent.call (.setProxyState .pac)).run
                service.session).2.proxy.proxyState = .pac :=
              congrArg Proxy.proxyState (Session.setProxyState_proxy .pac service.session)
            exact ⟨fun holds => holds on, fun holds _ => holds⟩
          · have turns : service.TurnsOnFresh (.call request) := by
              cases request with
              | setProxyState proxyState =>
                  cases proxyState with
                  | pac => exact absurd rfl turnsOn
                  | all => exact trivial
                  | off => exact trivial
              | _ => exact trivial
            exact iff_of_true (fun pac => current ((state pac).resolve_left turnsOn)) turns

/-- In the runs from `start` whose calls succeed, the served text is up to date
in every state just when each call that turns the PAC state on finds a text that
is still right. -/
theorem run_fresh_iff (cfg : ProxyConfig) (system : S) (events : List ServiceEvent)
    (succeed : AllSteps after Succeeds (started cfg system) events) :
    AllStates after Fresh (started cfg system) events ↔
      AllSteps after TurnsOnFresh (started cfg system) events := by
  have based : (started cfg system).Based := by
    rw [Based, started, Proxy.start_pacService]
  have fresh : (started cfg system).Fresh := by
    rw [fresh_iff based, started, Proxy.start_pacService]
    exact fun _ => rfl
  exact allStates_iff Based Succeeds (fun _ _ based succeeds => after_based based succeeds)
    (fun _ _ based fresh succeeds => after_fresh_iff based fresh succeeds) based fresh succeed

def oneServer (state : ProxyState) : ProxyConfig where
  state := state
  port := 25444
  domains := []
  apps := []
  servers := [(idleServer "first" true).config]

theorem run_fresh_added :
    AllStates after Fresh (started (oneServer .pac) true)
      [.serve (.ok ()), .call (.setDomain "x.org" ""), .call (.setProxyState .pac)] := by
  have succeed : AllSteps after Succeeds (started (oneServer .pac) true)
      [.serve (.ok ()), .call (.setDomain "x.org" ""), .call (.setProxyState .pac)] :=
    ⟨trivial, rfl, rfl, trivial⟩
  have turnsOn : TurnsOnFresh
      (after (after (started (oneServer .pac) true) (.serve (.ok ()))) (.call (.setDomain "x.org" "")))
      (.call (.setProxyState .pac)) := by
    generalize stateIs : after (after (started (oneServer .pac) true) (.serve (.ok ())))
      (.call (.setDomain "x.org" "")) = state
    have basis : state.basis = (["x.org"], 25444) := by rw [← stateIs]; rfl
    have domains : state.session.proxy.pacService.domains = ["x.org"] := by rw [← stateIs]; rfl
    have port : state.session.proxy.pacService.proxyPort = 25444 := by rw [← stateIs]; rfl
    rw [TurnsOnFresh, basis, domains, port]
  exact (run_fresh_iff (oneServer .pac) true _ succeed).mpr ⟨trivial, trivial, turnsOn, trivial⟩

/-- A domain added while the proxy is off is missing from the text that is served
once the PAC state is turned on. -/
theorem setDomain_stale :
    AllSteps after Succeeds (started (oneServer .off) true)
        [.serve (.ok ()), .call (.setDomain "x.org" ""), .call (.setProxyState .pac)] ∧
      ¬ AllStates after Fresh (started (oneServer .off) true)
        [.serve (.ok ()), .call (.setDomain "x.org" ""), .call (.setProxyState .pac)] := by
  refine ⟨⟨trivial, rfl, rfl, trivial⟩, fun fresh => ?_⟩
  have served := fresh.2.2.2 rfl
  have same : buildPac [] 25444 = buildPac ["x.org"] 25444 := Option.some.inj served
  have notPort : 'x' ∉ proxyText 25444 := by decide
  exact buildPac_ne (by decide) (by decide) notPort notPort (by decide) same

end Service

end CovertConnect.Client
