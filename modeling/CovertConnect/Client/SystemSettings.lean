import CovertConnect.Client.Atomicity
import Std.Data.String.ToNat

namespace CovertConnect.Client

open CovertConnect.Data

/-! # What the system is told about the proxy

The settings of the system should name the port that the proxy listens on, in
the way that the state of the proxy asks for. -/

inductive Installed where
  | nothing
  | manual (address : String)
  | autoConfig (url : String)
deriving DecidableEq, Repr

/-- A system together with the settings it took last. -/
structure Recorded (S : Type) where
  system : S
  installed : Installed

namespace Recorded

variable {S : Type}

def record (recorded : Recorded S) (installed : Installed) :
    Except Error Unit × S → Except Error Unit × Recorded S
  | (.ok (), system) => (.ok (), { system, installed })
  | (.error error, system) => (.error error, { recorded with system })

theorem record_ok {installed : Installed} {recorded after : Recorded S}
    {answer : Except Error Unit × S} (taken : recorded.record installed answer = (.ok (), after)) :
    after.installed = installed := by
  obtain ⟨_ | _, system⟩ := answer
  · cases taken
  · cases taken
    rfl

instance [SystemProxy S] : SystemProxy (Recorded S) where
  setPac recorded url := recorded.record (.autoConfig url) (SystemProxy.setPac recorded.system url)
  setProxy recorded address :=
    recorded.record (.manual address) (SystemProxy.setProxy recorded.system address)
  restore recorded := recorded.record .nothing (SystemProxy.restore recorded.system)
  randomKey recorded :=
    ((SystemProxy.randomKey recorded.system).1,
      { recorded with system := (SystemProxy.randomKey recorded.system).2 })

end Recorded

theorem proxyAddressText_injective {port other : UInt16}
    (same : proxyAddressText port = proxyAddressText other) : port = other := by
  have digits : toString port.toNat = toString other.toNat :=
    String.append_right_inj _ |>.mp same
  exact UInt16.toNat_inj.mp (Nat.repr_injective digits)

namespace Session

variable {S : Type}

def port (session : Session S) : UInt16 :=
  session.proxy.pacService.proxyPort

/-- The settings fit the state and the port of the proxy. -/
def Agrees (session : Session (Recorded S)) : Prop :=
  match session.proxy.proxyState with
  | .all => session.system.installed = .manual ("http://" ++ proxyAddressText session.port)
  | .pac => ∃ key, session.system.installed =
      .autoConfig ("http://" ++ proxyAddressText session.port ++ "/pac/" ++ key)
  | .off => session.system.installed = .nothing

variable [SystemProxy S]

omit [SystemProxy S] in
theorem callSystem_installs {session : Session (Recorded S)}
    {call : Recorded S → Except Error Unit × Recorded S} {installed : Installed}
    (records : ∀ recorded after, call recorded = (.ok (), after) → after.installed = installed)
    (answered : (callSystem call session).1 = .ok ()) :
    (callSystem call session).2.system.installed = installed := by
  rw [callSystem] at answered ⊢
  cases answer : call session.system with
  | mk outcome after =>
      rw [answer] at answered
      cases outcome with
      | error error => cases answered
      | ok _ => exact records _ _ answer

/-- A state that the system took is the one it shows. -/
theorem setProxyStateInt_agrees (session : Session (Recorded S)) {proxyState : ProxyState}
    (state : session.proxy.proxyState = proxyState)
    (answered : (setProxyStateInt proxyState session).1 = .ok ()) :
    (setProxyStateInt proxyState session).2.Agrees := by
  have kept := setProxyStateInt_keeps proxyState session
  have port : (setProxyStateInt proxyState session).2.port = session.port :=
    congrArg (fun proxy : Proxy => proxy.pacService.proxyPort) kept
  unfold Agrees
  rw [kept, state, port]
  cases proxyState with
  | pac => exact ⟨_, callSystem_installs (fun _ _ => Recorded.record_ok) answered⟩
  | all => exact callSystem_installs (fun _ _ => Recorded.record_ok) answered
  | off => exact callSystem_installs (fun _ _ => Recorded.record_ok) answered

omit [SystemProxy S] in
/-- The settings are left alone, and so is what they should fit. -/
theorem Agrees.congr {before after : Session (Recorded S)}
    (view : pacView after = pacView before)
    (system : after.system.installed = before.system.installed) :
    after.Agrees ↔ before.Agrees := by
  simp only [pacView, Prod.mk.injEq] at view
  simp only [Agrees, port, view, system]

end Session

inductive SettingsEvent where
  | setProxyState (proxyState : ProxyState)
  | setProxyPort (port : UInt16)
  | takeRestart (bound : Except IoError Unit)

namespace SettingsEvent

variable {S : Type} [SystemProxy S]

def run : SettingsEvent → Exec (Session S) Error Unit
  | .setProxyState proxyState => Session.setProxyState proxyState
  | .setProxyPort port => Session.setProxyPort port
  | .takeRestart bound => Session.takeRestart bound

def after (session : Session S) (event : SettingsEvent) : Session S :=
  (event.run session).2

def Succeeds (session : Session S) : SettingsEvent → Prop
  | .takeRestart _ => True
  | event => (event.run session).1 = .ok ()

/-- A new port that nothing passes on: the state is `All`. -/
def KeepsPort (session : Session S) : SettingsEvent → Prop
  | .setProxyPort port => session.proxy.proxyState = .all → port = session.port
  | _ => True

theorem setProxyPort_agrees_iff {session : Session (Recorded S)} {port : UInt16}
    (agrees : session.Agrees) (answered : (Session.setProxyPort port session).1 = .ok ()) :
    (Session.setProxyPort port session).2.Agrees ↔
      (session.proxy.proxyState = .all → port = session.port) := by
  have run := setProxyPort_eq session port
  have waiting : session.proxy.restart = .waiting := by
    cases channel : session.proxy.restart with
    | waiting => rfl
    | absent =>
        rw [run, Exec.bind_err (sendRestart_missing (session.withPort port) (.inl channel))] at answered
        cases answered
    | sent =>
        rw [run, Exec.bind_err (sendRestart_missing (session.withPort port) (.inr channel))] at answered
        cases answered
    | gone =>
        obtain ⟨reason, panics⟩ := sendRestart_gone (session.withPort port) channel
        rw [run, Exec.bind_apply] at answered
        rcases sends : Session.sendRestart (session.withPort port) with ⟨_ | _ | _, after⟩ <;>
          simp [sends] at panics answered
  rw [run, Exec.bind_ok (sendRestart_waiting (session.withPort port) waiting)] at answered ⊢
  cases state : session.proxy.proxyState with
  | pac =>
      have served : (session.withPort port).sent.proxy.proxyState = .pac := state
      rw [Session.resetProxy_pac served] at answered ⊢
      generalize refreshed : ({ (session.withPort port).sent with
        proxy := { (session.withPort port).sent.proxy with
          pacService := (session.withPort port).sent.proxy.pacService.updateContent } } :
          Session (Recorded S)) = session' at answered ⊢
      have served' : session'.proxy.proxyState = .pac := by
        rw [← refreshed]
        exact served
      exact iff_of_true (Session.setProxyStateInt_agrees session' served' answered) (by simp)
  | off =>
      have other : (session.withPort port).sent.proxy.proxyState ≠ .pac := by
        rw [show (session.withPort port).sent.proxy.proxyState = .off from state]
        decide
      rw [Session.resetProxy_other other]
      refine iff_of_true ?_ (by simp)
      simp only [Session.Agrees, state] at agrees
      simp only [Session.Agrees, show (session.withPort port).sent.proxy.proxyState = .off from state]
      exact agrees
  | all =>
      have other : (session.withPort port).sent.proxy.proxyState ≠ .pac := by
        rw [show (session.withPort port).sent.proxy.proxyState = .all from state]
        decide
      rw [Session.resetProxy_other other]
      simp only [Session.Agrees, state] at agrees
      simp only [Session.Agrees, show (session.withPort port).sent.proxy.proxyState = .all from state,
        forall_const]
      -- The settings are still the ones for the old port.
      change session.system.installed = .manual ("http://" ++ proxyAddressText port) ↔ _
      rw [agrees]
      constructor
      · intro same
        exact (proxyAddressText_injective
          ((String.append_right_inj _).mp (Installed.manual.inj same))).symm
      · intro same
        subst same
        rfl

/-- A successful call leaves fitting settings unless it changes the port of
a proxy that is used for everything. -/
theorem event_agrees_iff {session : Session (Recorded S)} (event : SettingsEvent)
    (agrees : session.Agrees) (succeeds : event.Succeeds session) :
    (event.after session).Agrees ↔ event.KeepsPort session := by
  cases event with
  | setProxyState proxyState =>
      refine iff_of_true ?_ trivial
      exact Session.setProxyStateInt_agrees
        { session with proxy := { session.proxy with proxyState } } rfl succeeds
  | setProxyPort port => exact setProxyPort_agrees_iff agrees succeeds
  | takeRestart bound =>
      refine iff_of_true ?_ trivial
      have installed : ((SettingsEvent.takeRestart bound).after session).system = session.system := by
        simp only [after, run, Session.takeRestart]
        rw [Exec.bind_ok (Exec.get_apply _)]
        split
        · cases bound <;> rfl
        · rfl
      exact (Session.Agrees.congr (Session.takeRestart_keeps bound session)
        (congrArg Recorded.installed installed)).mpr agrees

theorem serve_agrees {cfg : ProxyConfig} {system : Recorded S} {bound : Except IoError Unit}
    {session : Session (Recorded S)} (fresh : system.installed = .nothing)
    (started : Session.serve bound { proxy := Proxy.start cfg, system } = (.ok (), session)) :
    session.Agrees := by
  rw [Session.serve, Session.onProxy_bind, Exec.modify_apply] at started
  obtain ⟨_, applied, ready, listened⟩ := Exec.bind_eq_ok.mp started
  have agrees : applied.Agrees := by
    rw [Session.applyState, Exec.bind_ok (Exec.get_apply _)] at ready
    by_cases on : (Proxy.start cfg).proxyState = .off
    · rw [if_neg (not_not.mpr on)] at ready
      cases ready
      simp only [Session.Agrees, on]
      exact fresh
    · rw [if_pos on] at ready
      have agrees := Session.setProxyStateInt_agrees _ rfl (congrArg Prod.fst ready)
      rwa [ready] at agrees
  cases bound with
  | error error => cases listened
  | ok _ =>
      cases listened
      exact (Session.Agrees.congr rfl rfl).mpr agrees

/-- Once the proxy is served, the settings of the system fit it at every moment
of a run of successful calls just when no call gives a proxy that is used for
everything a new port. -/
theorem run_agrees_iff {cfg : ProxyConfig} {system : Recorded S} {bound : Except IoError Unit}
    {session : Session (Recorded S)} (fresh : system.installed = .nothing)
    (started : Session.serve bound { proxy := Proxy.start cfg, system } = (.ok (), session))
    {events : List SettingsEvent} (succeed : AllSteps after Succeeds session events) :
    AllStates after Session.Agrees session events ↔ AllSteps after KeepsPort session events :=
  allStates_iff (fun _ => True) Succeeds (fun _ _ _ _ => trivial)
    (fun _ event _ agrees succeeds => event_agrees_iff event agrees succeeds)
    trivial (serve_agrees fresh started) succeed

def servedAll : Session (Recorded Bool) where
  proxy :=
    { servers := [{ config := (idleServer "first" true).config, state := ⟨0, 0, 0, 0⟩ }]
      apps := []
      pacService := ⟨some (buildPac [] 25444), [], 25444⟩
      proxyState := .all
      initialized := true
      restart := .waiting }
  system := { system := true, installed := .manual "http://127.0.0.1:25444" }

def servedConfig : ProxyConfig where
  state := .all
  port := 25444
  domains := []
  apps := []
  servers := [(idleServer "first" true).config]

theorem servedAll_started :
    Session.serve (.ok ()) { proxy := Proxy.start servedConfig, system := ⟨true, .nothing⟩ } =
      (.ok (), servedAll) := rfl

/-- Off, a new port, and back to all. -/
def offAndOn : List SettingsEvent :=
  [.setProxyState .off, .setProxyPort 25445, .takeRestart (.ok ()), .setProxyState .all]

theorem run_agrees_off_and_on :
    AllStates after Session.Agrees servedAll offAndOn := by
  refine (run_agrees_iff rfl servedAll_started ?_).mpr ?_
  · exact ⟨rfl, rfl, trivial, rfl, trivial⟩
  · refine ⟨trivial, ?_, trivial, trivial, trivial⟩
    intro all
    cases all

/-- After the first change of the port the system still sends everything to the
old one. -/
theorem setProxyPort_stale_system :
    Session.serve (.ok ()) { proxy := Proxy.start servedConfig, system := ⟨true, .nothing⟩ } =
        (.ok (), servedAll) ∧
      AllSteps after Succeeds servedAll [.setProxyPort 25445] ∧
      ((SettingsEvent.setProxyPort 25445).after servedAll).system.installed =
        .manual "http://127.0.0.1:25444" ∧
      ¬ AllStates after Session.Agrees servedAll [.setProxyPort 25445] := by
  refine ⟨rfl, ⟨rfl, trivial⟩, rfl, ?_⟩
  intro given
  obtain ⟨_, agrees⟩ := given
  exact absurd (Installed.manual.inj agrees) (by decide)

end SettingsEvent

end CovertConnect.Client
