import CovertConnect.Client.DomainLists
import CovertConnect.Client.SystemSettings

namespace CovertConnect.Client.CommandLine

open CovertConnect.Crypto CovertConnect.Data

/-! # The client of the command line

The command serves everything and gives the system its settings back when it is
interrupted.  The task of the interrupt runs beside the loop. -/

structure AppDocument where
  proxyPort : Option Int
  servers : Option (List ServerDocument)
deriving DecidableEq, Repr

structure AppConfig where
  proxyPort : UInt16
  servers : List ServerConfig
deriving DecidableEq, Repr

def defaultProxyPort : UInt16 := 25443

/-- `shellexpand::full` and the YAML source of the configuration. -/
structure Loader where
  expand : List Char → Except String (List Char)
  load : List Char → Except String AppDocument

def AppConfig.deserialize (document : AppDocument) : Except String AppConfig := do
  let proxyPort ← optional defaultProxyPort u16Value document.proxyPort
  let servers ← (← required "servers" document.servers).mapM ServerConfig.deserialize
  return { proxyPort, servers }

/-- `AppConfig::new`, from the text of the file on. -/
def AppConfig.new (loader : Loader) (config : List Char) : Except String AppConfig := do
  let document ← loader.load (← loader.expand config)
  (deserialize document).mapError ("deserialize config error: " ++ ·)

/-- What a whole list was read as comes from its items. -/
theorem exists_of_mem_mapM {ε α β : Type} {read : α → Except ε β} {items : List α}
    {results : List β} (all : items.mapM read = .ok results) {result : β}
    (there : result ∈ results) : ∃ item ∈ items, read item = .ok result := by
  induction items generalizing results with
  | nil =>
      cases all
      exact absurd there List.not_mem_nil
  | cons item items ih =>
      rw [List.mapM_cons] at all
      obtain ⟨first, here, all⟩ := except_bind_eq_ok.mp all
      obtain ⟨rest, later, all⟩ := except_bind_eq_ok.mp all
      cases all
      rcases List.mem_cons.mp there with rfl | behind
      · exact ⟨item, List.mem_cons_self, here⟩
      · obtain ⟨found, inside, reads⟩ := ih later behind
        exact ⟨found, List.mem_cons_of_mem _ inside, reads⟩

section Init

variable [Hashes] (lookup : String → Except IoError (List SocketAddr))

/-- The first server that is not found ends it. -/
def AppConfig.init (config : AppConfig) : Except Error AppConfig := do
  let servers ← config.servers.mapM (ServerConfig.init lookup)
  return { config with servers }

/-- What `main` starts with. -/
def configured (loader : Loader) (config : List Char) : Except Error AppConfig :=
  match AppConfig.new loader config with
  | .error message => .error (.anyhow message)
  | .ok cfg => cfg.init lookup

end Init

/-- The proxy before `serve`; its PAC text is built before it has servers. -/
def launched (cfg : AppConfig) : Proxy :=
  cfg.servers.foldl (fun proxy config => (Proxy.addServer config proxy).2)
    (Proxy.new cfg.proxyPort .all).updatePacContent

/-- What `serve` does next; it has read the state before it applies it. -/
inductive Stage where
  | reads
  | applies (proxyState : ProxyState)
  | listens
  | serving
  | ended
deriving DecidableEq, Repr

/-- The task that waits for Ctrl-C, stores that the proxy is off and restores
the settings. -/
inductive Interrupt where
  | waiting
  | stored
  | restored (answer : Outcome Error Unit)

structure Command (S : Type) where
  session : Session S
  stage : Stage
  interrupt : Interrupt

inductive CommandEvent where
  | read
  | apply
  | listen (bound : Except IoError Unit)
  | acceptError (bound : Except IoError Unit)
  | interrupt
  | restore

namespace Command

variable {S : Type}

def started (cfg : AppConfig) (system : S) : Command S where
  session := { proxy := launched cfg, system }
  stage := .reads
  interrupt := .waiting

/-- The loop goes on after a call that answers, and `main` ends with its error. -/
def next (this : Command S) (stage : Stage) : Outcome Error Unit × Session S → Command S
  | (.ok (), session) => { this with session, stage }
  | (_, session) => { this with session, stage := .ended }

variable [SystemProxy S]

/-- An event that is not due changes nothing.  A call of the system is one step, though
the source holds no lock over it. -/
def step (this : Command S) : CommandEvent → Command S
  | .read =>
      if this.stage = .reads then
        let proxy := { this.session.proxy with initialized := true }
        { this with session := { this.session with proxy }, stage := .applies proxy.proxyState }
      else this
  | .apply =>
      match this.stage with
      | .applies proxyState =>
          if proxyState ≠ .off then
            this.next .listens (Session.setProxyStateInt proxyState this.session)
          else { this with stage := .listens }
      | _ => this
  | .listen bound =>
      if this.stage = .listens then this.next .serving (Session.listen bound this.session)
      else this
  | .acceptError bound =>
      if this.stage = .serving then this.next .serving (Session.listen bound this.session)
      else this
  | .interrupt =>
      match this.interrupt with
      | .waiting =>
          { this with
            session :=
              { this.session with proxy := { this.session.proxy with proxyState := .off } }
            interrupt := .stored }
      | _ => this
  | .restore =>
      match this.interrupt with
      | .stored =>
          let (answer, session) := Session.setProxyStateInt .off this.session
          { this with session, interrupt := .restored answer }
      | _ => this

section Calls

omit [SystemProxy S] in
@[simp] theorem next_ok (this : Command S) (stage : Stage) (answer : Unit) (session : Session S) :
    this.next stage (.ok answer, session) = { this with session, stage } := rfl

omit [SystemProxy S] in
@[simp] theorem next_session (this : Command S) (stage : Stage)
    (result : Outcome Error Unit × Session S) :
    (this.next stage result).session = result.2 := by
  rcases result with ⟨_ | _ | _, session⟩ <;> rfl

omit [SystemProxy S] in
@[simp] theorem next_interrupt (this : Command S) (stage : Stage)
    (result : Outcome Error Unit × Session S) :
    (this.next stage result).interrupt = this.interrupt := by
  rcases result with ⟨_ | _ | _, session⟩ <;> rfl

omit [SystemProxy S] in
theorem next_stage (this : Command S) (stage : Stage) (result : Outcome Error Unit × Session S) :
    (this.next stage result).stage = if result.1 = .ok () then stage else .ended := by
  rcases result with ⟨_ | _ | _, session⟩ <;> simp [next]

/-- Nothing comes between the steps of the interrupt: the whole call. -/
theorem interrupt_call {this : Command S} (waiting : this.interrupt = .waiting) :
    ((this.step .interrupt).step .restore).session =
      (Session.setProxyState .off this.session).2 := by
  simp only [step, waiting]
  rfl

/-- Nothing comes between the steps of the loop: the first part of `serve`. -/
theorem serve_call {this : Command S} (stage : this.stage = .reads) (bound : Except IoError Unit) :
    (((this.step .read).step .apply).step (.listen bound)).session =
      (Session.serve bound this.session).2 := by
  obtain ⟨session, _, interrupt⟩ := this
  obtain rfl : _ = Stage.reads := stage
  rw [Session.serve, Session.onProxy_bind, Exec.modify_apply]
  simp only [step, if_true]
  rw [Session.applyState, Exec.bind_assoc, Exec.bind_ok (Exec.get_apply _)]
  by_cases on : session.proxy.proxyState = .off
  · simp only [on, ne_eq, not_true_eq_false, if_false, if_true, next_session]
    rfl
  · simp only [ne_eq, on, not_false_eq_true, if_true]
    rw [Exec.bind_apply]
    rcases Session.setProxyStateInt session.proxy.proxyState
      { session with proxy := { session.proxy with initialized := true } } with ⟨_ | _ | _, after⟩
    · simp only [next_ok, if_true, next_session]
    · simp [next]
    · simp [next]

end Calls

section Runs

/-- The settings that the command asks for are installed while it serves. -/
def Shown (port : UInt16) (this : Command (Recorded S)) : Prop :=
  this.interrupt = .waiting → this.stage = .listens ∨ this.stage = .serving →
    this.session.system.installed = .manual ("http://" ++ proxyAddressText port)

/-- An interrupt that was answered leaves no settings behind. -/
def GivenBack (this : Command (Recorded S)) : Prop :=
  this.interrupt = .restored (.ok ()) → this.session.system.installed = .nothing

/-- The loop does not put a state into effect after the settings were restored. -/
def InTime (this : Command S) : CommandEvent → Prop
  | .apply => ∀ proxyState, this.stage = .applies proxyState →
      this.interrupt = .restored (.ok ()) →
        proxyState = .off ∨ (Session.setProxyStateInt proxyState this.session).1 ≠ .ok ()
  | _ => True

/-- The interrupt does not come between the loop's look at the state and the
call that it makes of it. -/
def Apart (this : Command S) : CommandEvent → Prop
  | .interrupt => ∀ proxyState, this.stage ≠ .applies proxyState
  | _ => True

/-- What no event changes, and what the loop has read before an interrupt. -/
structure Kept (cfg : AppConfig) (this : Command (Recorded S)) : Prop where
  servers : this.session.proxy.servers = (launched cfg).servers
  port : this.session.port = cfg.proxyPort
  on : this.interrupt = .waiting → this.session.proxy.proxyState = .all
  read : this.interrupt = .waiting → ∀ proxyState, this.stage = .applies proxyState →
    proxyState = .all
  shown : this.Shown cfg.proxyPort

theorem launched_eq (cfg : AppConfig) :
    launched cfg =
      { (Proxy.new cfg.proxyPort .all).updatePacContent with
        servers := cfg.servers.map fun config => { config, state := ⟨0, 0, 0, 0⟩ } } := by
  have added : ∀ (configs : List ServerConfig) (proxy : Proxy),
      configs.foldl (fun proxy config => (Proxy.addServer config proxy).2) proxy =
        { proxy with
          servers := proxy.servers ++ configs.map fun config => ⟨config, ⟨0, 0, 0, 0⟩⟩ } := by
    intro configs
    induction configs with
    | nil => simp
    | cons config configs ih =>
        intro proxy
        rw [List.foldl_cons, ih]
        simp [Proxy.addServer, Exec.modify_apply]
  rw [launched, added]
  rfl

omit [SystemProxy S] in
theorem started_kept (cfg : AppConfig) (system : Recorded S) : (started cfg system).Kept cfg where
  servers := rfl
  port := by
    rw [Session.port, started, launched_eq]
    rfl
  on _ := by
    rw [started, launched_eq]
    rfl
  read _ _ due := by cases due
  shown _ due := by rcases due with due | due <;> cases due

omit [SystemProxy S] in
/-- The loop's calls keep the servers, the port and the state. -/
theorem next_kept {cfg : AppConfig} {this : Command (Recorded S)} (kept : this.Kept cfg)
    {stage : Stage} (settled : ∀ proxyState, stage ≠ .applies proxyState)
    {result : Outcome Error Unit × Session (Recorded S)}
    (servers : result.2.proxy.servers = this.session.proxy.servers)
    (pac : Session.pacView result.2 = Session.pacView this.session)
    (shows : this.interrupt = .waiting → result.1 = .ok () →
      result.2.system.installed = .manual ("http://" ++ proxyAddressText cfg.proxyPort)) :
    (this.next stage result).Kept cfg := by
  simp only [Session.pacView, Prod.mk.injEq] at pac
  refine ⟨?_, ?_, ?_, ?_, ?_⟩
  · rw [next_session, servers, kept.servers]
  · rw [next_session, Session.port, pac.1]
    exact kept.port
  · rw [next_session, next_interrupt, pac.2]
    exact kept.on
  · intro _ proxyState due
    rw [next_stage] at due
    split at due
    · exact absurd due (settled proxyState)
    · cases due
  · intro waiting due
    rw [next_interrupt] at waiting
    rw [next_stage] at due
    rw [next_session]
    split at due
    · rename_i answered
      exact shows waiting answered
    · rcases due with due | due <;> cases due

omit [SystemProxy S] in
theorem listen_kept {cfg : AppConfig} {this : Command (Recorded S)} (kept : this.Kept cfg)
    (due : this.stage = .listens ∨ this.stage = .serving) (bound : Except IoError Unit) :
    (this.next .serving (Session.listen bound this.session)).Kept cfg := by
  have servers : (Session.listen bound this.session).2.proxy.servers =
      this.session.proxy.servers := by
    cases bound <;> rfl
  have system : (Session.listen bound this.session).2.system = this.session.system := by
    cases bound <;> rfl
  refine next_kept kept (fun _ due => by cases due) servers (Session.listen_keeps bound _) ?_
  intro waiting _
  rw [system]
  exact kept.shown waiting due

theorem step_kept {cfg : AppConfig} {this : Command (Recorded S)} (event : CommandEvent)
    (kept : this.Kept cfg) : (this.step event).Kept cfg := by
  cases event with
  | read =>
      rw [step]
      split
      · refine ⟨kept.servers, kept.port, kept.on, ?_, ?_⟩
        · intro waiting proxyState due
          cases due
          exact kept.on waiting
        · intro _ due
          rcases due with due | due <;> cases due
      · exact kept
  | apply =>
      rw [step]
      split
      · rename_i proxyState stage
        split
        · have same := Session.setProxyStateInt_keeps proxyState this.session
          refine next_kept kept (fun _ due => by cases due) (congrArg Proxy.servers same)
            (congrArg (fun proxy : Proxy => (proxy.pacService, proxy.proxyState)) same) ?_
          intro waiting answered
          obtain rfl := kept.read waiting proxyState stage
          rw [← kept.port]
          exact Session.callSystem_installs (fun _ _ => Recorded.record_ok) answered
        · rename_i off
          refine ⟨kept.servers, kept.port, kept.on, fun _ _ due => (by cases due), ?_⟩
          intro waiting _
          exact absurd (kept.read waiting proxyState stage) (by simp [not_not.mp off])
      · exact kept
  | listen bound =>
      rw [step]
      split
      · rename_i stage
        exact listen_kept kept (.inl stage) bound
      · exact kept
  | acceptError bound =>
      rw [step]
      split
      · rename_i stage
        exact listen_kept kept (.inr stage) bound
      · exact kept
  | interrupt =>
      rw [step]
      split
      · exact ⟨kept.servers, kept.port, fun due => (by cases due), fun due => (by cases due),
          fun due => (by cases due)⟩
      · exact kept
  | restore =>
      rw [step]
      split
      · have same := Session.setProxyStateInt_keeps .off this.session
        refine ⟨?_, ?_, fun due => (by cases due), fun due => (by cases due),
          fun due => (by cases due)⟩
        · exact (congrArg Proxy.servers same).trans kept.servers
        · exact (congrArg (fun proxy : Proxy => proxy.pacService.proxyPort) same).trans kept.port
      · exact kept

omit [SystemProxy S] in
/-- A refused call leaves the settings alone. -/
theorem callSystem_refused {session : Session (Recorded S)}
    {call : Recorded S → Except Error Unit × Recorded S}
    (records : ∀ recorded error after, call recorded = (.error error, after) →
      after.installed = recorded.installed)
    (refused : (Session.callSystem call session).1 ≠ .ok ()) :
    (Session.callSystem call session).2.system.installed = session.system.installed := by
  rw [Session.callSystem] at refused ⊢
  cases answer : call session.system with
  | mk outcome after =>
      rw [answer] at refused
      cases outcome with
      | error error => exact records _ _ _ answer
      | ok _ => exact absurd rfl refused

omit [SystemProxy S] in
theorem record_error {installed : Installed} {recorded after : Recorded S} {error : Error}
    {answer : Except Error Unit × S}
    (refused : recorded.record installed answer = (.error error, after)) :
    after.installed = recorded.installed := by
  obtain ⟨_ | _, system⟩ := answer
  · cases refused
    rfl
  · cases refused

theorem setProxyStateInt_refused {proxyState : ProxyState} {session : Session (Recorded S)}
    (refused : (Session.setProxyStateInt proxyState session).1 ≠ .ok ()) :
    (Session.setProxyStateInt proxyState session).2.system.installed =
      session.system.installed := by
  cases proxyState with
  | pac => exact callSystem_refused (fun _ _ _ => record_error) refused
  | all => exact callSystem_refused (fun _ _ _ => record_error) refused
  | off => exact callSystem_refused (fun _ _ _ => record_error) refused

theorem setProxyStateInt_on {proxyState : ProxyState} {session : Session (Recorded S)}
    (on : proxyState ≠ .off)
    (answered : (Session.setProxyStateInt proxyState session).1 = .ok ()) :
    (Session.setProxyStateInt proxyState session).2.system.installed ≠ .nothing := by
  cases proxyState with
  | pac =>
      have shown := Session.callSystem_installs (fun _ _ => Recorded.record_ok) answered
      intro nothing
      cases shown.symm.trans nothing
  | all =>
      have shown := Session.callSystem_installs (fun _ _ => Recorded.record_ok) answered
      intro nothing
      cases shown.symm.trans nothing
  | off => exact absurd rfl on

/-- The settings stay restored through a step just when it is not the loop's late
call. -/
theorem step_givenBack_iff {this : Command (Recorded S)} (event : CommandEvent)
    (back : this.GivenBack) : (this.step event).GivenBack ↔ this.InTime event := by
  have listens : ∀ bound,
      (this.next .serving (Session.listen bound this.session)).GivenBack := by
    intro bound restored
    rw [next_interrupt] at restored
    rw [next_session, ← back restored]
    cases bound <;> rfl
  cases event with
  | read =>
      refine iff_of_true ?_ trivial
      rw [step]
      split <;> exact back
  | apply =>
      rw [step]
      split
      · rename_i proxyState stage
        by_cases off : proxyState = .off
        · rw [if_neg (not_not.mpr off)]
          refine iff_of_true back fun proxyState' stage' _ => .inl ?_
          rw [stage] at stage'
          cases stage'
          exact off
        rw [if_pos off]
        have intime : this.InTime .apply ↔ (this.interrupt = .restored (.ok ()) →
            (Session.setProxyStateInt proxyState this.session).1 ≠ .ok ()) := by
          simp [InTime, stage, off]
        rw [intime, GivenBack, next_interrupt, next_session]
        refine forall_congr' fun restored => ?_
        by_cases answered : (Session.setProxyStateInt proxyState this.session).1 = .ok ()
        · exact iff_of_false (setProxyStateInt_on off answered) (not_not.mpr answered)
        · refine iff_of_true ?_ answered
          rw [setProxyStateInt_refused answered, back restored]
      · rename_i other
        exact iff_of_true back fun proxyState stage => absurd stage (other proxyState)
  | listen bound | acceptError bound =>
      refine iff_of_true ?_ trivial
      rw [step]
      split
      · exact listens bound
      · exact back
  | interrupt =>
      refine iff_of_true ?_ trivial
      rw [step]
      split
      · exact fun restored => by cases restored
      · exact back
  | restore =>
      refine iff_of_true ?_ trivial
      rw [step]
      split
      · intro restored
        have answered : (Session.setProxyStateInt .off this.session).1 = .ok () :=
          Interrupt.restored.inj restored
        exact Session.callSystem_installs (fun _ _ => Recorded.record_ok) answered
      · exact back

/-- After an interrupt the loop finds the proxy off. -/
def Off (this : Command S) : Prop :=
  this.interrupt ≠ .waiting → this.session.proxy.proxyState = .off ∧
    ∀ proxyState, this.stage = .applies proxyState → proxyState = .off

theorem step_off {this : Command S} (event : CommandEvent) (off : this.Off)
    (apart : this.Apart event) : (this.step event).Off := by
  have goesOn : ∀ {stage : Stage} {result : Outcome Error Unit × Session S},
      (∀ proxyState, stage ≠ .applies proxyState) →
      Session.pacView result.2 = Session.pacView this.session →
      (this.next stage result).Off := by
    intro stage result settled pac interrupted
    simp only [Session.pacView, Prod.mk.injEq] at pac
    rw [next_interrupt] at interrupted
    rw [next_session, pac.2, next_stage]
    refine ⟨(off interrupted).1, fun proxyState due => ?_⟩
    split at due
    · exact absurd due (settled proxyState)
    · cases due
  cases event with
  | read =>
      rw [step]
      split
      · intro interrupted
        refine ⟨(off interrupted).1, fun proxyState due => ?_⟩
        cases due
        exact (off interrupted).1
      · exact off
  | apply =>
      rw [step]
      split
      · split
        · rename_i proxyState _ _
          have same := Session.setProxyStateInt_keeps proxyState this.session
          exact goesOn (fun _ due => by cases due)
            (congrArg (fun proxy : Proxy => (proxy.pacService, proxy.proxyState)) same)
        · exact fun interrupted => ⟨(off interrupted).1, fun _ due => by cases due⟩
      · exact off
  | listen bound | acceptError bound =>
      rw [step]
      split
      · exact goesOn (fun _ due => by cases due) (Session.listen_keeps bound _)
      · exact off
  | interrupt =>
      rw [step]
      split
      · exact fun _ => ⟨rfl, fun proxyState stage => absurd stage (apart proxyState)⟩
      · exact off
  | restore =>
      rw [step]
      split
      · rename_i stored
        have same := Session.setProxyStateInt_keeps .off this.session
        obtain ⟨state, stages⟩ := off (by simp [stored])
        exact fun _ => ⟨(congrArg Proxy.proxyState same).trans state, stages⟩
      · exact off

omit [SystemProxy S] in
theorem started_off (cfg : AppConfig) (system : S) : (started cfg system).Off :=
  fun interrupted => absurd rfl interrupted

end Runs

section File

variable [Hashes] {lookup : String → Except IoError (List SocketAddr)} {loader : Loader}
  {config : List Char} {cfg : AppConfig}

omit [SystemProxy S] in
/-- Every server of an accepted file was looked up, so that its domains are in
order. -/
theorem configured_searchable (accepted : configured lookup loader config = .ok cfg) :
    AllSearchable (launched cfg).servers := by
  rw [configured] at accepted
  split at accepted
  · cases accepted
  · rw [AppConfig.init] at accepted
    obtain ⟨servers, found, result⟩ := except_bind_eq_ok.mp accepted
    cases result
    rw [launched_eq]
    intro srv there
    obtain ⟨stored, inside, rfl⟩ := List.mem_map.mp there
    obtain ⟨_, _, initialized⟩ := exists_of_mem_mapM found inside
    exact ServerConfig.init_searchable initialized

/-- Whatever the order of the steps: while it serves and nobody interrupts it,
the system sends everything to its port, and every domain of the file is found.
The settings stay restored after an interrupt just when the loop does not put a
state into effect behind it, and they do where the interrupt does not come
between the loop's look at the state and its call. -/
theorem run_command (accepted : configured lookup loader config = .ok cfg)
    (system : Recorded S) (events : List CommandEvent) :
    AllStates step (fun this => this.Shown cfg.proxyPort ∧
        AllSearchable this.session.proxy.servers) (started cfg system) events ∧
      (AllStates step GivenBack (started cfg system) events ↔
        AllSteps step InTime (started cfg system) events) ∧
      (AllSteps step Apart (started cfg system) events →
        AllStates step GivenBack (started cfg system) events) := by
  have givenBack : AllStates step GivenBack (started cfg system) events ↔
      AllSteps step InTime (started cfg system) events :=
    allStates_iff (fun _ => True) (fun _ _ => True) (fun _ _ _ _ => trivial)
      (fun _ event _ back _ => step_givenBack_iff event back) trivial
      (fun restored => by cases restored) allSteps_true
  refine ⟨?_, givenBack, fun apart => givenBack.mpr ?_⟩
  · refine allStates_of_allSteps (fun _ event kept _ => step_kept event kept)
      (fun this kept => ⟨kept.shown, ?_⟩) (started_kept cfg system) allSteps_true
    rw [kept.servers]
    exact configured_searchable accepted
  · refine allSteps_of_allSteps (fun _ event off apart => step_off event off apart)
      (fun this event off _ => ?_) (started_off cfg system) apart
    cases event with
    | apply =>
        intro proxyState stage restored
        exact .inl ((off (by simp [restored])).2 proxyState stage)
    | read | listen _ | acceptError _ | interrupt | restore => exact trivial

end File

def oneServerDocument : AppDocument where
  proxyPort := none
  servers := some [
    { caption := none
      host := some "1.2.3.4:5"
      weight := none
      domains := none
      apps := none
      enabled := none
      protocol := some
        { key := some "key"
          kdf := some .blake3
          cipher := none
          maxConnectDelay := none
          headerPadding := none
          dataPadding := some ⟨some 0, some 0⟩
          encryptionLimit := some 1000 } }]

def oneServerLoader : Loader where
  expand := .ok
  load _ := .ok oneServerDocument

def oneServerConfig : AppConfig where
  proxyPort := defaultProxyPort
  servers := [(Concurrent.namedServer true Concurrent.resolvedAddress).config]

theorem oneServer_configured [Hashes] :
    configured Concurrent.noLookup oneServerLoader [] = .ok oneServerConfig := by
  have read : AppConfig.new oneServerLoader [] = .ok
      ⟨defaultProxyPort, [(Concurrent.namedServer true defaultServerAddress).config]⟩ := by
    rfl
  simp only [configured, read, AppConfig.init, List.mapM_cons, List.mapM_nil,
    Concurrent.namedServer_init]
  rfl

/-- The interrupt comes after the loop has looked at the state. -/
def lateApply : List CommandEvent :=
  [.read, .interrupt, .restore, .apply]

def interruptedServing : List CommandEvent :=
  [.read, .apply, .listen (.ok ()), .interrupt, .restore]

/-- The settings are restored, and then the loop installs its own. -/
theorem run_command_late :
    let _ := Hashes.folding
    AllStates step GivenBack (started oneServerConfig (⟨true, .nothing⟩ : Recorded Bool))
        interruptedServing ∧
      ¬ AllStates step GivenBack (started oneServerConfig (⟨true, .nothing⟩ : Recorded Bool))
        lateApply := by
  intro _
  constructor
  · refine (run_command oneServer_configured _ interruptedServing).2.2 ?_
    refine ⟨trivial, trivial, trivial, fun proxyState stage => ?_, trivial, trivial⟩
    cases stage
  · rw [(run_command oneServer_configured _ lateApply).2.1]
    intro intime
    obtain ⟨_, _, _, late, _⟩ := intime
    rcases late .all rfl rfl with off | refused
    · cases off
    · exact refused rfl

end Command

end CovertConnect.Client.CommandLine
