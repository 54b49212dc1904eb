import CovertConnect.Client.SystemSettings

namespace CovertConnect.Client

open CovertConnect.Data

/-! # A proxy without servers

A proxy that is on and has no servers answers every connection with an error,
so that it is turned off when the last server goes. -/

namespace Session

variable {S : Type}

/-- Without servers the proxy is off, and the system is told so. -/
def OffWithoutServers (session : Session (Recorded S)) : Prop :=
  session.proxy.servers = [] →
    session.proxy.proxyState = .off ∧ session.system.installed = .nothing

/-- What `OffWithoutServers` is about. -/
def serversView (session : Session (Recorded S)) : Bool × ProxyState × Installed :=
  (session.proxy.servers.isEmpty, session.proxy.proxyState, session.system.installed)

theorem OffWithoutServers.congr {before after : Session (Recorded S)}
    (same : serversView after = serversView before) :
    after.OffWithoutServers ↔ before.OffWithoutServers := by
  simp only [serversView, Prod.mk.injEq] at same
  obtain ⟨empty, state, installed⟩ := same
  rw [Bool.eq_iff_iff, List.isEmpty_iff, List.isEmpty_iff] at empty
  rw [OffWithoutServers, OffWithoutServers, empty, state, installed]

theorem offWithoutServers_of_some {session : Session (Recorded S)}
    (some' : session.proxy.servers ≠ []) : session.OffWithoutServers :=
  fun none => absurd none some'

/-- A change that leaves no proxy without servers, or with them, behind. -/
def KeepsEmptiness (change : Exec Proxy Error Unit) : Prop :=
  Exec.Keeps (fun proxy => (proxy.servers.isEmpty, proxy.proxyState)) change

theorem isEmpty_modify {α : Type} (change : α → α) (items : List α) (pos : Nat) :
    (items.modify pos change).isEmpty = items.isEmpty := by
  cases items with
  | nil => simp
  | cons head items => cases pos <;> simp

theorem rerouted_emptiness (kind : ItemKind) (direct : List String) {servers : List Server}
    {proxy : Proxy} (same : servers.isEmpty = proxy.servers.isEmpty) :
    ((proxy.rerouted kind direct servers).servers.isEmpty,
        (proxy.rerouted kind direct servers).proxyState) =
      (proxy.servers.isEmpty, proxy.proxyState) := by
  rw [Proxy.rerouted_servers, same]
  cases kind <;> rfl

theorem setItem_keepsEmptiness (kind : ItemKind) (item serverHost : String) :
    KeepsEmptiness (Proxy.setItem kind item serverHost) := by
  intro proxy
  by_cases named : serverHost = ""
  · subst named
    rw [Proxy.setItem_direct]
    exact rerouted_emptiness kind _ List.isEmpty_map
  cases found : proxy.position serverHost with
  | none =>
      rw [Proxy.setItem_unknown named found]
      exact rerouted_emptiness kind _ rfl
  | some pos =>
      rw [Proxy.setItem_known named found]
      exact rerouted_emptiness kind _ (isEmpty_modify _ _ _)

theorem removeItem_keepsEmptiness (kind : ItemKind) (item : String) :
    KeepsEmptiness (Proxy.removeItem kind item) := by
  intro proxy
  by_cases present : item ∈ kind.direct proxy
  · rw [Proxy.removeItem_present present]
    exact rerouted_emptiness kind _ List.isEmpty_map
  · rw [Proxy.removeItem_missing present]

theorem changeServer_keepsEmptiness (host : String) (change : ServerConfig → ServerConfig) :
    KeepsEmptiness (Proxy.changeServer host change) := by
  intro proxy
  rw [Proxy.changeServer]
  split
  · rename_i idx _
    exact congrArg (·, proxy.proxyState) (isEmpty_modify _ _ _)
  · rfl

theorem onProxy_keeps {change : Exec Proxy Error Unit} (kept : KeepsEmptiness change) :
    Exec.Keeps serversView (onProxy change : Exec (Session (Recorded S)) Error Unit) := by
  intro session
  have same := kept session.proxy
  simp only [Prod.mk.injEq] at same
  simp only [onProxy_apply, serversView, same]

theorem sendRestart_keepsView :
    Exec.Keeps serversView (sendRestart : Exec (Session (Recorded S)) Error Unit) := by
  intro session
  rcases session with ⟨⟨servers, apps, pacService, proxyState, initialized, restart⟩, system⟩
  cases restart <;> rfl

theorem listen_keepsView (bound : Except IoError Unit) :
    Exec.Keeps serversView (listen bound : Exec (Session (Recorded S)) Error Unit) := by
  cases bound with
  | ok _ => exact fun _ => rfl
  | error error => exact .bind (fun _ => rfl) fun _ => .fail _

variable [SystemProxy S]

/-- A proxy that is off is not reset. -/
theorem resetProxy_off {session : Session (Recorded S)} (off : session.OffWithoutServers) :
    (resetProxy session).2.OffWithoutServers := by
  by_cases none : session.proxy.servers = []
  · have other : session.proxy.proxyState ≠ .pac := by
      rw [(off none).1]
      decide
    rw [resetProxy_other other]
    exact off
  · refine offWithoutServers_of_some ?_
    rw [resetProxy_proxy]
    split <;> exact none

theorem bind_resetProxy_off {call : Exec (Session (Recorded S)) Error Unit}
    (kept : Exec.Keeps serversView call) {session : Session (Recorded S)}
    (off : session.OffWithoutServers) :
    ((call >>= fun _ => resetProxy) session).2.OffWithoutServers := by
  have same := (OffWithoutServers.congr (kept session)).mpr off
  rw [Exec.bind_apply]
  rcases run : call session with ⟨_ | error | reason, after⟩
  · rw [run] at same
    exact resetProxy_off same
  · rw [run] at same
    exact same
  · rw [run] at same
    exact same

theorem restoreProxy_installed (session : Session (Recorded S)) :
    (setProxyStateInt .off session).2.system.installed = .nothing ↔
      session.system.installed = .nothing ∨ Takes .off session := by
  rw [Takes]
  change (callSystem SystemProxy.restore session).2.system.installed = .nothing ↔
    _ ∨ (callSystem SystemProxy.restore session).1 = .ok ()
  simp only [callSystem, SystemProxy.restore]
  rcases SystemProxy.restore session.system.system with ⟨error | _, system⟩
  · simp [Recorded.record]
  · simp [Recorded.record]

theorem setProxyState_off_iff (proxyState : ProxyState) {session : Session (Recorded S)}
    (off : session.OffWithoutServers) :
    (setProxyState proxyState session).2.OffWithoutServers ↔
      (session.proxy.servers = [] → proxyState = .off) := by
  have proxy := setProxyState_proxy proxyState session
  by_cases none : session.proxy.servers = []
  · rw [OffWithoutServers, proxy]
    constructor
    · intro after empty
      exact (after empty).1
    · intro turned _
      cases turned none
      refine ⟨rfl, ?_⟩
      exact (restoreProxy_installed { session with
        proxy := { session.proxy with proxyState := .off } }).mpr (.inl (off none).2)
  · refine iff_of_true (offWithoutServers_of_some ?_) fun empty => absurd empty none
    rw [proxy]
    exact none

/-- The last server goes, and the system does not take its settings back. -/
def LosesLast (session : Session (Recorded S)) (host : String) : Prop :=
  session.proxy.servers.length = 1 ∧ session.proxy.position host ≠ none ∧
    session.system.installed ≠ .nothing ∧ ¬ Takes .off session

theorem delServer_off_iff (host : String) {session : Session (Recorded S)}
    (off : session.OffWithoutServers) :
    (delServer host session).2.OffWithoutServers ↔ ¬ session.LosesLast host := by
  rw [delServer, Exec.bind_ok (Exec.get_apply _)]
  cases position : session.proxy.position host with
  | none => exact iff_of_true off fun loses => loses.2.1 position
  | some idx =>
      dsimp only
      rw [onProxy_bind, Exec.modify_apply]
      dsimp only
      have inside : idx < session.proxy.servers.length := by
        obtain ⟨front, srv, back, split, rfl, _⟩ := Proxy.position_eq_some.mp position
        rw [split, List.length_append, List.length_cons]
        omega
      have left := List.length_eraseIdx_of_lt inside
      by_cases last : session.proxy.servers.length = 1
      · have empty : session.proxy.servers.eraseIdx idx = [] :=
          List.eq_nil_of_length_eq_zero (by omega)
        let bare : Session (Recorded S) :=
          { session with proxy := { session.proxy with servers := [], proxyState := .off } }
        have takes : Takes .off session ↔ Takes .off bare := by
          rw [Takes, Takes, takes_congr session bare .off rfl rfl]
        have installed := restoreProxy_installed bare
        rw [if_pos last, empty, LosesLast, position, takes]
        rw [OffWithoutServers, setProxyState_proxy]
        constructor
        · intro after given
          obtain ⟨_, _, before, refused⟩ := given
          rcases installed.mp (after rfl).2 with same | taken
          · exact before same
          · exact refused taken
        · intro keeps _
          refine ⟨rfl, installed.mpr ?_⟩
          by_contra neither
          rw [not_or] at neither
          exact keeps ⟨last, by simp, neither⟩
      · rw [if_neg last]
        refine iff_of_true (offWithoutServers_of_some fun empty => ?_) fun loses => last loses.1
        have size : (session.proxy.servers.eraseIdx idx).length = 0 := congrArg List.length empty
        omega

end Session

namespace ServiceEvent

variable {S : Type} [SystemProxy S]

def after (session : Session (Recorded S)) (event : ServiceEvent) : Session (Recorded S) :=
  (event.run session).2

/-- The proxy is not turned on while it has no servers, and the system takes its
settings back when the last server goes. -/
def StaysOff (session : Session (Recorded S)) : ServiceEvent → Prop
  | .call (.setProxyState proxyState) => session.proxy.servers = [] → proxyState = .off
  | .call (.deleteServer host) => ¬ session.LosesLast host
  | _ => True

theorem changeRoutes_off {change : Exec Proxy Error Unit} (kept : Session.KeepsEmptiness change)
    {session : Session (Recorded S)} (off : session.OffWithoutServers) :
    (Session.changeRoutes change session).2.OffWithoutServers :=
  Session.bind_resetProxy_off (Session.onProxy_keeps kept) off

theorem serve_off (bound : Except IoError Unit) {session : Session (Recorded S)}
    (off : session.OffWithoutServers) : (Session.serve bound session).2.OffWithoutServers := by
  rw [Session.serve, Session.onProxy_bind, Exec.modify_apply]
  dsimp only
  by_cases none : session.proxy.servers = []
  · have state := (off none).1
    rw [Session.applyState, Exec.bind_assoc, Exec.bind_ok (Exec.get_apply _)]
    dsimp only
    rw [if_neg (not_not.mpr state)]
    refine (Session.OffWithoutServers.congr (Session.listen_keepsView bound _)).mpr ?_
    exact off
  · have kept : Exec.Keeps (fun session : Session (Recorded S) => session.proxy.servers)
        (Session.applyState >>= fun _ => Session.listen bound) := by
      refine .bind (.get_bind fun now => ?_) fun _ => ?_
      · split
        · exact fun before => congrArg Proxy.servers (Session.setProxyStateInt_keeps _ before)
        · exact fun _ => rfl
      · cases bound with
        | ok _ => exact fun _ => rfl
        | error error => exact .bind (fun _ => rfl) fun _ => .fail _
    refine Session.offWithoutServers_of_some ?_
    intro empty
    have same := kept { session with proxy := { session.proxy with initialized := true } }
    exact none (same.symm.trans empty)

omit [SystemProxy S] in
theorem takeRestart_off (bound : Except IoError Unit) {session : Session (Recorded S)}
    (off : session.OffWithoutServers) :
    (Session.takeRestart bound session).2.OffWithoutServers := by
  have kept : Exec.Keeps Session.serversView
      (Session.takeRestart bound : Exec (Session (Recorded S)) Error Unit) := by
    refine .get_bind fun now => ?_
    split
    · exact Session.listen_keepsView bound
    · exact fun _ => rfl
  exact (Session.OffWithoutServers.congr (kept session)).mpr off

theorem call_off_iff {session : Session (Recorded S)} (request : ServiceCall)
    (off : session.OffWithoutServers) :
    (request.run session).2.OffWithoutServers ↔ (ServiceEvent.call request).StaysOff session := by
  have changed : ∀ {change : Exec Proxy Error Unit}, Session.KeepsEmptiness change →
      (Session.onProxy change session).2.OffWithoutServers := fun kept =>
    (Session.OffWithoutServers.congr (Session.onProxy_keeps kept session)).mpr off
  cases request with
  | setProxyState proxyState => exact Session.setProxyState_off_iff proxyState off
  | stop => exact iff_of_true ((Session.setProxyState_off_iff .off off).mpr fun _ => rfl) trivial
  | deleteServer host => exact Session.delServer_off_iff host off
  | setServerEnabled host value =>
      exact iff_of_true (changed (Session.changeServer_keepsEmptiness host _)) trivial
  | updateServer origHost newConfig =>
      exact iff_of_true (changed (Session.changeServer_keepsEmptiness origHost _)) trivial
  | addServer config =>
      refine iff_of_true (Session.offWithoutServers_of_some ?_) trivial
      exact List.append_ne_nil_of_right_ne_nil _ (List.cons_ne_nil _ _)
  | setDomain domain serverHost =>
      exact iff_of_true (changeRoutes_off (Session.setItem_keepsEmptiness .domain _ _) off) trivial
  | removeDomain domain =>
      exact iff_of_true (changeRoutes_off (Session.removeItem_keepsEmptiness .domain _) off) trivial
  | setApp app serverHost =>
      exact iff_of_true (changeRoutes_off (Session.setItem_keepsEmptiness .app _ _) off) trivial
  | removeApp app =>
      exact iff_of_true (changeRoutes_off (Session.removeItem_keepsEmptiness .app _) off) trivial
  | setProxyPort port =>
      refine iff_of_true ?_ trivial
      change (Session.setProxyPort port session).2.OffWithoutServers
      rw [Session.setProxyPort, Session.onProxy_bind, Exec.modify_apply]
      exact Session.bind_resetProxy_off Session.sendRestart_keepsView
        ((Session.OffWithoutServers.congr rfl).mpr off)

theorem after_off_iff {session : Session (Recorded S)} (event : ServiceEvent)
    (off : session.OffWithoutServers) :
    (event.after session).OffWithoutServers ↔ event.StaysOff session := by
  cases event with
  | call request => exact call_off_iff request off
  | serve bound => exact iff_of_true (serve_off bound off) trivial
  | takeRestart bound => exact iff_of_true (takeRestart_off bound off) trivial

/-- The service once `start` has finished: the servers are added, and `serve`
listens or has failed. -/
def ready (cfg : ProxyConfig) (system : S) (bound : Except IoError Unit) : Session (Recorded S) :=
  (Session.serve bound ⟨Proxy.start cfg, ⟨system, .nothing⟩⟩).2

theorem start_servers (cfg : ProxyConfig) :
    (Proxy.start cfg).servers = cfg.servers.map fun config => ⟨config, ⟨0, 0, 0, 0⟩⟩ := by
  have added : ∀ (configs : List ServerConfig) (proxy : Proxy),
      (configs.foldl (fun proxy config => (Proxy.addServer config proxy).2) proxy).servers =
        proxy.servers ++ configs.map fun config => ⟨config, ⟨0, 0, 0, 0⟩⟩ := by
    intro configs
    induction configs with
    | nil => exact fun proxy => (List.append_nil _).symm
    | cons config configs ih =>
        intro proxy
        rw [List.foldl_cons, ih, List.map_cons]
        exact List.append_assoc ..
  exact added _ _

theorem ready_off (cfg : ProxyConfig) (system : S) (bound : Except IoError Unit) :
    (ready cfg system bound).OffWithoutServers := by
  refine serve_off bound fun empty => ⟨?_, rfl⟩
  have none : cfg.servers = [] := by
    rw [start_servers] at empty
    exact List.map_eq_nil_iff.mp empty
  rw [Proxy.start, none]
  rfl

/-- Once `start` has finished, the proxy is off whenever it has no servers, just
in the runs that never turn it on then, and in which the system takes its
settings back when the last server goes. -/
theorem run_off_iff (cfg : ProxyConfig) (system : S) (bound : Except IoError Unit)
    (events : List ServiceEvent) :
    AllStates after Session.OffWithoutServers (ready cfg system bound) events ↔
      AllSteps after StaysOff (ready cfg system bound) events :=
  allStates_iff (fun _ => True) (fun _ _ => True) (fun _ _ _ _ => trivial)
    (fun _ event _ off _ => after_off_iff event off) trivial (ready_off cfg system bound)
    allSteps_true

def noServers : ProxyConfig where
  state := .off
  port := 25444
  domains := []
  apps := []
  servers := []

/-- The state is set, and passed on to the system, before there are servers. -/
theorem setProxyState_noServers :
    ¬ AllStates after Session.OffWithoutServers (ready noServers true (.ok ()))
      [.call (.setProxyState .pac)] := by
  intro given
  obtain ⟨_, off⟩ := given
  have state := (off rfl).1
  cases state

end ServiceEvent

end CovertConnect.Client
