import CovertConnect.Client.ProxyService

namespace CovertConnect.Client

open CovertConnect.Data

/-! # What a failed call leaves

A call that fails half way keeps the changes it has made so far. -/

inductive ProxyCall where
  | setDomain (domain serverHost : String)
  | setApp (app serverHost : String)
  | removeDomain (domain : String)
  | removeApp (app : String)
  | setProxyState (proxyState : ProxyState)
  | setProxyPort (port : UInt16)
  | setEnabled (host : String) (value : Bool)
  | updateServer (origHost : String) (config : ServerConfig)
  | delServer (host : String)

inductive ProxyEvent where
  | call (request : ProxyCall)
  | addServer (config : ServerConfig)
  | resetProxy
  | serve (bound : Except IoError Unit)
  | takeRestart (bound : Except IoError Unit)

/-- What the user interface saves. -/
structure Settings where
  servers : List Server
  domains : List String
  apps : List String
  proxyState : ProxyState
  proxyPort : UInt16
deriving DecidableEq, Repr

namespace Proxy

def settings (proxy : Proxy) : Settings where
  servers := proxy.servers
  domains := proxy.pacService.domains
  apps := proxy.apps
  proxyState := proxy.proxyState
  proxyPort := proxy.pacService.proxyPort

theorem withDirect_settings (kind : ItemKind) (items : List String) (proxy : Proxy) :
    (kind.withDirect items proxy).settings = proxy.settings ↔ items = kind.direct proxy := by
  cases kind with
  | domain => simp [settings, ItemKind.withDirect, ItemKind.direct]
  | app => simp [settings, ItemKind.withDirect, ItemKind.direct]

end Proxy

section Calls

variable {S : Type} [SystemProxy S]

def ProxyCall.run : ProxyCall → Exec (Session S) Error Unit
  | .setDomain domain serverHost => Session.onProxy (Proxy.setDomain domain serverHost)
  | .setApp app serverHost => Session.onProxy (Proxy.setApp app serverHost)
  | .removeDomain domain => Session.onProxy (Proxy.removeDomain domain)
  | .removeApp app => Session.onProxy (Proxy.removeApp app)
  | .setProxyState proxyState => Session.setProxyState proxyState
  | .setProxyPort port => Session.setProxyPort port
  | .setEnabled host value => Session.onProxy (Proxy.setEnabled host value)
  | .updateServer origHost config => Session.onProxy (Proxy.updateServer origHost config)
  | .delServer host => Session.delServer host

def ProxyEvent.run : ProxyEvent → Exec (Session S) Error Unit
  | .call request => request.run
  | .addServer config => Session.onProxy (Proxy.addServer config)
  | .resetProxy => Session.resetProxy
  | .serve bound => Session.serve bound
  | .takeRestart bound => Session.takeRestart bound

def ProxyEvent.after (session : Session S) (event : ProxyEvent) : Session S :=
  (event.run session).2

/-- A call that returns an error leaves the settings as they were. -/
def Atomic (call : Exec (Session S) Error Unit) (session : Session S) : Prop :=
  ∀ error, (call session).1 = .err error →
    (call session).2.proxy.settings = session.proxy.settings

/-- The host is unknown, and the item is in the direct list. -/
def LosesItem (kind : ItemKind) (item serverHost : String) (proxy : Proxy) : Prop :=
  serverHost ≠ "" ∧ proxy.position serverHost = none ∧ item ∈ kind.direct proxy

/-- The system takes the setting for that state. -/
def Takes (proxyState : ProxyState) (session : Session S) : Prop :=
  (Session.setProxyStateInt proxyState session).1 = .ok ()

def Session.withPort (port : UInt16) (session : Session S) : Session S :=
  { session with
    proxy := { session.proxy with pacService := session.proxy.pacService.setNewPort port } }

/-- No change is made before the last point where the call can fail. -/
def Guarded (session : Session S) : ProxyCall → Prop
  | .setDomain domain serverHost => ¬ LosesItem .domain domain serverHost session.proxy
  | .setApp app serverHost => ¬ LosesItem .app app serverHost session.proxy
  | .setProxyState proxyState =>
      proxyState = session.proxy.proxyState ∨ Takes proxyState session
  | .setProxyPort port =>
      port = session.proxy.pacService.proxyPort ∨ session.proxy.restart = .gone ∨
        (session.proxy.restart = .waiting ∧
          (session.proxy.proxyState = .pac → Takes .pac (session.withPort port)))
  | .delServer host =>
      ∀ srv, session.proxy.servers = [srv] → srv.config.host = host → Takes .off session
  | .removeDomain _ | .removeApp _ | .setEnabled .. | .updateServer .. => True

end Calls

section Step

variable {S : Type} {session : Session S}

theorem atomic_of_no_error {call : Exec (Session S) Error Unit}
    (succeeds : ∀ error, (call session).1 ≠ .err error) : Atomic call session :=
  fun error failed => absurd failed (succeeds error)

theorem atomic_of_error {call : Exec (Session S) Error Unit} {error : Error}
    (failed : (call session).1 = .err error) :
    Atomic call session ↔ (call session).2.proxy.settings = session.proxy.settings :=
  ⟨fun atomic => atomic error failed, fun same _ _ => same⟩

theorem setItem_atomic_iff (kind : ItemKind) (item serverHost : String) :
    Atomic (Session.onProxy (Proxy.setItem kind item serverHost)) session ↔
      ¬ LosesItem kind item serverHost session.proxy := by
  by_cases named : serverHost = ""
  · subst named
    refine iff_of_true (atomic_of_no_error fun error => ?_) fun loses => loses.1 rfl
    rw [Session.onProxy_apply, Proxy.setItem_direct]
    simp
  cases found : session.proxy.position serverHost with
  | some pos =>
      refine iff_of_true (atomic_of_no_error fun error => ?_) fun loses => ?_
      · rw [Session.onProxy_apply, Proxy.setItem_known named found]
        simp
      · exact absurd (found.symm.trans loses.2.1) (by simp)
  | none =>
      have run := Session.onProxy_apply (Proxy.setItem kind item serverHost) session
      rw [Proxy.setItem_unknown named found, ← Proxy.withDirect_eq_rerouted] at run
      rw [atomic_of_error (congrArg Prod.fst run), run]
      change (kind.withDirect _ session.proxy).settings = _ ↔ _
      rw [Proxy.withDirect_settings]
      constructor
      · intro kept given
        obtain ⟨_, _, present⟩ := given
        have shorter := List.length_erase_of_mem present
        have := List.length_pos_of_mem present
        rw [kept] at shorter
        omega
      · intro keeps
        exact List.erase_of_not_mem fun present => keeps ⟨named, found, present⟩

theorem removeItem_atomic (kind : ItemKind) (item : String) :
    Atomic (Session.onProxy (Proxy.removeItem kind item)) session := by
  by_cases present : item ∈ kind.direct session.proxy
  · refine atomic_of_no_error fun error => ?_
    rw [Session.onProxy_apply, Proxy.removeItem_present present]
    simp
  · intro error _
    rw [Session.onProxy_apply, Proxy.removeItem_missing present]

theorem changeServer_atomic (host : String) (change : ServerConfig → ServerConfig) :
    Atomic (Session.onProxy (Proxy.changeServer host change)) session := by
  cases found : session.proxy.position host with
  | some pos =>
      refine atomic_of_no_error fun error => ?_
      simp [Session.onProxy_apply, Proxy.changeServer, found]
  | none =>
      intro error _
      simp [Session.onProxy_apply, Proxy.changeServer, found]

theorem setProxyPort_settings {port : UInt16} {after : Session S}
    (same : after.proxy.settings = (session.withPort port).proxy.settings) :
    after.proxy.settings = session.proxy.settings ↔ port = session.proxy.pacService.proxyPort := by
  rw [same]
  simp [Proxy.settings, Session.withPort, PacFileService.setNewPort]

def Session.sent (session : Session S) : Session S :=
  { session with proxy := { session.proxy with restart := .sent } }

theorem sendRestart_missing (session : Session S) (missing : session.proxy.restart = .absent ∨
    session.proxy.restart = .sent) :
    Session.sendRestart session =
      (.err (.anyhow "restart channel not initialized"), session) := by
  rcases missing with absent | sent
  · simp [Session.sendRestart, absent]
  · simp [Session.sendRestart, sent]

theorem sendRestart_gone (session : Session S) (gone : session.proxy.restart = .gone) :
    ∃ reason, (Session.sendRestart session).1 = .panic reason := by
  simp [Session.sendRestart, gone]

theorem sendRestart_waiting (session : Session S) (waiting : session.proxy.restart = .waiting) :
    Session.sendRestart session = (.ok (), session.sent) := by
  simp [Session.sendRestart, Session.sent, waiting]

variable [SystemProxy S]

/-- The system either takes a setting or answers with an error. -/
theorem setProxyStateInt_answer (proxyState : ProxyState) (session : Session S) :
    Takes proxyState session ∨
      ∃ error, (Session.setProxyStateInt proxyState session).1 = .err error := by
  have answers : ∀ (call : S → Except Error Unit × S) (session : Session S),
      (Session.callSystem call session).1 = .ok () ∨
        ∃ error, (Session.callSystem call session).1 = .err error := by
    intro call session
    rw [Session.callSystem]
    split
    · exact .inl rfl
    · exact .inr ⟨_, rfl⟩
  cases proxyState with
  | pac => exact answers _ _
  | all => exact answers _ _
  | off => exact answers _ _

/-- The answer depends on the port and on the system. -/
theorem takes_congr (session other : Session S) (proxyState : ProxyState)
    (samePort : session.proxy.pacService.proxyPort = other.proxy.pacService.proxyPort)
    (sameSystem : session.system = other.system) :
    (Session.setProxyStateInt proxyState session).1 =
      (Session.setProxyStateInt proxyState other).1 := by
  have same : ∀ (call : S → Except Error Unit × S) (first second : Session S),
      first.system = second.system →
      (Session.callSystem call first).1 = (Session.callSystem call second).1 := by
    intro call first second same
    rw [Session.callSystem, Session.callSystem, same]
    split <;> rfl
  cases proxyState with
  | off => exact same _ _ _ sameSystem
  | all =>
      simp only [Session.setProxyStateInt, Session.setProxyAll, samePort]
      exact same _ _ _ sameSystem
  | pac =>
      simp only [Session.setProxyStateInt, Session.setProxyPac, samePort, sameSystem]
      exact same _ _ _ rfl

theorem setProxyState_atomic_iff (proxyState : ProxyState) :
    Atomic (Session.setProxyState proxyState) session ↔
      (proxyState = session.proxy.proxyState ∨ Takes proxyState session) := by
  have answer : (Session.setProxyState proxyState session).1 =
      (Session.setProxyStateInt proxyState session).1 := takes_congr _ _ proxyState rfl rfl
  rcases setProxyStateInt_answer proxyState session with takes | ⟨error, fails⟩
  · refine iff_of_true (atomic_of_no_error fun error => ?_) (.inr takes)
    rw [answer, takes]
    simp
  · rw [atomic_of_error (answer.trans fails), Session.setProxyState_proxy]
    have refuses : ¬ Takes proxyState session := by
      intro takes
      rw [Takes, fails] at takes
      simp at takes
    simp [Proxy.settings, refuses]

theorem resetProxy_answer (session : Session S) :
    (Session.resetProxy session).1 = .ok () ∨ ∃ error, (Session.resetProxy session).1 = .err error := by
  by_cases served : session.proxy.proxyState = .pac
  · rw [Session.resetProxy_pac served]
    exact setProxyStateInt_answer .pac _
  · rw [Session.resetProxy_other served]
    exact .inl rfl

theorem resetProxy_ok_iff (session : Session S) :
    (Session.resetProxy session).1 = .ok () ↔
      (session.proxy.proxyState = .pac → Takes .pac session) := by
  by_cases served : session.proxy.proxyState = .pac
  · have answer : (Session.resetProxy session).1 = (Session.setProxyStateInt .pac session).1 := by
      rw [Session.resetProxy_pac served]
      exact takes_congr _ _ .pac rfl rfl
    rw [answer]
    exact ⟨fun takes _ => takes, fun takes => takes served⟩
  · rw [Session.resetProxy_other served]
    exact iff_of_true rfl fun other => absurd other served

theorem setProxyPort_eq (session : Session S) (port : UInt16) :
    Session.setProxyPort port session =
      (do Session.sendRestart; Session.resetProxy : Exec (Session S) Error Unit)
        (session.withPort port) := by
  rw [Session.setProxyPort, Session.onProxy_bind, Exec.modify_apply]
  rfl

theorem resetProxy_settings (session : Session S) :
    (Session.resetProxy session).2.proxy.settings = session.proxy.settings := by
  rw [Session.resetProxy_proxy]
  split <;> rfl

theorem setProxyPort_atomic_iff (port : UInt16) :
    Atomic (Session.setProxyPort port) session ↔ Guarded session (.setProxyPort port) := by
  have run := setProxyPort_eq session port
  have missing : session.proxy.restart = .absent ∨ session.proxy.restart = .sent →
      (Atomic (Session.setProxyPort port) session ↔ Guarded session (.setProxyPort port)) := by
    intro missing
    rw [Exec.bind_err (sendRestart_missing (session.withPort port) missing)] at run
    rw [atomic_of_error (congrArg Prod.fst run), run, setProxyPort_settings rfl]
    rcases missing with absent | sent
    · simp [Guarded, absent]
    · simp [Guarded, sent]
  cases channel : session.proxy.restart with
  | absent => exact missing (.inl channel)
  | sent => exact missing (.inr channel)
  | gone =>
      obtain ⟨reason, panics⟩ := sendRestart_gone (session.withPort port) channel
      refine iff_of_true (atomic_of_no_error fun error => ?_) (.inr (.inl channel))
      rw [run, Exec.bind_apply]
      rcases sends : Session.sendRestart (session.withPort port) with ⟨_ | _ | _, after⟩ <;>
        simp [sends] at panics ⊢
  | waiting =>
      rw [Exec.bind_ok (sendRestart_waiting (session.withPort port) channel)] at run
      have answer : Takes .pac (session.withPort port).sent ↔ Takes .pac (session.withPort port) :=
        Eq.to_iff (congrArg (· = Outcome.ok ()) (takes_congr _ _ .pac rfl rfl))
      have takes : (Session.resetProxy (session.withPort port).sent).1 = .ok () ↔
          (session.proxy.proxyState = .pac → Takes .pac (session.withPort port)) := by
        rw [resetProxy_ok_iff, answer]
        rfl
      have guarded : Guarded session (.setProxyPort port) ↔
          port = session.proxy.pacService.proxyPort ∨
            (session.proxy.proxyState = .pac → Takes .pac (session.withPort port)) := by
        simp [Guarded, channel]
      rw [guarded, ← takes]
      rcases resetProxy_answer (session.withPort port).sent with succeeds | ⟨error, fails⟩
      · refine iff_of_true (atomic_of_no_error fun error => ?_) (.inr succeeds)
        rw [run, succeeds]
        simp
      · have kept : (Session.resetProxy (session.withPort port).sent).2.proxy.settings =
            (session.withPort port).proxy.settings := resetProxy_settings _
        have fails' : (Session.setProxyPort port session).1 = .err error :=
          (congrArg Prod.fst run).trans fails
        rw [atomic_of_error fails', run, setProxyPort_settings kept, fails]
        simp

theorem delServer_atomic_iff (host : String) :
    Atomic (Session.delServer host) session ↔ Guarded session (.delServer host) := by
  cases found : session.proxy.position host with
  | none =>
      refine iff_of_true ?_ ?_
      · intro error _
        rw [Session.delServer, Exec.bind_ok (Exec.get_apply _), found]
        rfl
      · intro srv only same
        have : session.proxy.position host = some 0 :=
          Proxy.position_eq_some.mpr ⟨[], srv, [], only, rfl, same, by simp⟩
        simp [found] at this
  | some idx =>
      obtain ⟨front, srv, back, split, rfl, here, _⟩ := Proxy.position_eq_some.mp found
      by_cases last : session.proxy.servers.length = 1
      · have run : Session.delServer host session = Session.setProxyState .off { session with
            proxy := { session.proxy with
              servers := session.proxy.servers.eraseIdx front.length } } := by
          rw [Session.delServer, Exec.bind_ok (Exec.get_apply _), found]
          dsimp only
          rw [if_pos last]
          rfl
        have only : session.proxy.servers = [srv] := by
          rw [split] at last ⊢
          simp only [List.length_append, List.length_cons] at last
          rw [List.eq_nil_of_length_eq_zero (by omega : front.length = 0),
            List.eq_nil_of_length_eq_zero (by omega : back.length = 0)]
          rfl
        have guarded : Guarded session (.delServer host) ↔ Takes .off session := by
          simp [Guarded, only, here]
        have answer : (Session.delServer host session).1 =
            (Session.setProxyStateInt .off session).1 := by
          rw [run]
          exact takes_congr _ _ .off rfl rfl
        rw [guarded]
        rcases setProxyStateInt_answer .off session with takes | ⟨error, fails⟩
        · refine iff_of_true (atomic_of_no_error fun error => ?_) takes
          rw [answer, takes]
          simp
        · rw [atomic_of_error (answer.trans fails), run, Session.setProxyState_proxy]
          refine iff_of_false (fun kept => ?_) fun takes => ?_
          · have inside : front.length < session.proxy.servers.length := by simp [split]
            have shorter := List.length_eraseIdx_of_lt inside
            have same : session.proxy.servers.eraseIdx front.length = session.proxy.servers :=
              congrArg Settings.servers kept
            rw [same] at shorter
            omega
          · rw [Takes, fails] at takes
            simp at takes
      · refine iff_of_true (atomic_of_no_error fun error => ?_) fun srv only _ => ?_
        · rw [Session.delServer, Exec.bind_ok (Exec.get_apply _), found]
          dsimp only
          rw [if_neg last]
          simp [Session.onProxy_bind]
        · rw [only] at last
          exact absurd rfl last

/-- Exactly the guarded calls leave the settings alone when they fail. -/
theorem call_atomic_iff (request : ProxyCall) :
    Atomic request.run session ↔ Guarded session request := by
  cases request with
  | setDomain domain serverHost => exact setItem_atomic_iff .domain domain serverHost
  | setApp app serverHost => exact setItem_atomic_iff .app app serverHost
  | removeDomain domain => exact iff_of_true (removeItem_atomic .domain domain) trivial
  | removeApp app => exact iff_of_true (removeItem_atomic .app app) trivial
  | setProxyState proxyState => exact setProxyState_atomic_iff proxyState
  | setProxyPort port => exact setProxyPort_atomic_iff port
  | setEnabled host value => exact iff_of_true (changeServer_atomic host _) trivial
  | updateServer origHost config => exact iff_of_true (changeServer_atomic origHost _) trivial
  | delServer host => exact delServer_atomic_iff host

end Step

namespace ProxyEvent

variable {S : Type} [SystemProxy S]

def KeepsOnError (session : Session S) : ProxyEvent → Prop
  | .call request => Atomic request.run session
  | _ => True

def AvoidsLoss (session : Session S) : ProxyEvent → Prop
  | .call request => Guarded session request
  | _ => True

/-- No call of a run changes the settings and fails just when each call of the
run is guarded. -/
theorem run_atomic_iff (session : Session S) (events : List ProxyEvent) :
    AllSteps after KeepsOnError session events ↔ AllSteps after AvoidsLoss session events := by
  refine allSteps_congr fun session event => ?_
  cases event with
  | call request => exact call_atomic_iff request
  | _ => exact Iff.rfl

/-- The domain has left the direct list when the host turns out to be unknown. -/
theorem setDomain_unknown_host :
    let session : Session Bool :=
      { proxy := Proxy.start
          { state := .all
            port := 25444
            domains := ["example.org"]
            apps := []
            servers := [(idleServer "first" true).config] }
        system := true }
    let run := (ProxyCall.setDomain "example.org" "second").run session
    run.1 = .err (.anyhow "host not found") ∧
      session.proxy.settings.domains = ["example.org"] ∧ run.2.proxy.settings.domains = [] := by
  refine ⟨rfl, rfl, rfl⟩

end ProxyEvent

end CovertConnect.Client
