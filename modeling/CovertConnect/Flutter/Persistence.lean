import CovertConnect.Flutter.Restart

namespace CovertConnect.Flutter

open CovertConnect.Data
open CovertConnect.Client (Proxy ProxyState Server Session ServiceCall SystemProxy SocketAddr
  AllSearchable buildPac chooseServer)
open CovertConnect.Crypto (Hashes)

/-! # What is kept of a running service

A call of the user interface that succeeds is followed by a save.  The save
reads the configuration part by part, and nothing holds back other calls and
saves in the meantime, nor the start of the service, which goes on in the
background. -/

/-- What `start` leaves to its task. -/
inductive BootStep where
  | addApps (apps : List String)
  | addDomains (hosts : List String)
  | updatePacContent
  | addServer (config : Client.ServerConfig)

def BootStep.run (proxy : Proxy) : BootStep → Proxy
  | .addApps apps => proxy.addApps apps
  | .addDomains hosts => proxy.addDomains hosts
  | .updatePacContent => proxy.updatePacContent
  | .addServer config => (Proxy.addServer config proxy).2

def bootProxy (cfg : Wrappers.ProxyConfig) : Proxy :=
  Proxy.new cfg.port (if cfg.servers.isEmpty then .off else cfg.state)

def bootSteps [Hashes] (lookup : String → Except IoError (List SocketAddr))
    (cfg : Wrappers.ProxyConfig) : List BootStep :=
  [.addApps cfg.apps, .addDomains cfg.domains, .updatePacContent] ++
    cfg.servers.map fun srv => .addServer (srv.into.initOrKeep lookup)

/-- The task ends where `start` is said to. -/
theorem bootSteps_start [Hashes] (lookup : String → Except IoError (List SocketAddr))
    (cfg : Wrappers.ProxyConfig) :
    (bootSteps lookup cfg).foldl BootStep.run (bootProxy cfg) = start lookup cfg := by
  rw [bootSteps, List.foldl_append, List.foldl_map]
  rw [start, Proxy.start, List.foldl_map, List.isEmpty_map]
  rfl

/-- How much of the configuration a save has read. -/
inductive Save where
  | begun
  | gotState (state : ProxyState)
  | gotPort (state : ProxyState) (port : UInt16)
  | gotServers (state : ProxyState) (port : UInt16) (servers : List Wrappers.ServerConfig)
  | gotDomains (state : ProxyState) (port : UInt16) (servers : List Wrappers.ServerConfig)
      (domains : List String)
  | gotConfig (cfg : Wrappers.ProxyConfig)
  | finished
deriving DecidableEq, Repr

namespace Save

/-- The next part of `get_config`. -/
def read (proxy : Proxy) : Save → Save
  | .begun => .gotState proxy.proxyState
  | .gotState state => .gotPort state proxy.pacService.proxyPort
  | .gotPort state port =>
      .gotServers state port (proxy.servers.map fun srv => .ofClient srv.config)
  | .gotServers state port servers => .gotDomains state port servers proxy.pacService.domains
  | .gotDomains state port servers domains =>
      .gotConfig { state, port, domains, apps := proxy.apps, servers }
  | .gotConfig cfg => .gotConfig cfg
  | .finished => .finished

/-- What was read so far is of this configuration. -/
def Current (cfg : Wrappers.ProxyConfig) : Save → Prop
  | .begun => True
  | .gotState state => state = cfg.state
  | .gotPort state port => state = cfg.state ∧ port = cfg.port
  | .gotServers state port servers =>
      state = cfg.state ∧ port = cfg.port ∧ servers = cfg.servers
  | .gotDomains state port servers domains =>
      state = cfg.state ∧ port = cfg.port ∧ servers = cfg.servers ∧ domains = cfg.domains
  | .gotConfig read => read = cfg
  | .finished => False

theorem Current.read {proxy : Proxy} {save : Save} (current : save.Current (getConfig proxy)) :
    (save.read proxy).Current (getConfig proxy) := by
  cases save with
  | begun => rfl
  | gotState state => exact ⟨current, rfl⟩
  | gotPort state port => exact ⟨current.1, current.2, rfl⟩
  | gotServers state port servers => exact ⟨current.1, current.2.1, current.2.2, rfl⟩
  | gotDomains state port servers domains =>
      obtain ⟨rfl, rfl, rfl, rfl⟩ := current
      rfl
  | gotConfig cfg => exact current
  | finished => exact current

end Save

/-- What may be known of each part of a configuration. -/
structure Parts where
  state : ProxyState → Prop
  port : UInt16 → Prop
  servers : List Wrappers.ServerConfig → Prop
  domains : List String → Prop
  apps : List String → Prop

def Parts.Of (parts : Parts) (cfg : Wrappers.ProxyConfig) : Prop :=
  parts.state cfg.state ∧ parts.port cfg.port ∧ parts.servers cfg.servers ∧
    parts.domains cfg.domains ∧ parts.apps cfg.apps

/-- What was read so far is known to be such. -/
def Save.Within (parts : Parts) : Save → Prop
  | .begun => True
  | .gotState state => parts.state state
  | .gotPort state port => parts.state state ∧ parts.port port
  | .gotServers state port servers => parts.state state ∧ parts.port port ∧ parts.servers servers
  | .gotDomains state port servers domains =>
      parts.state state ∧ parts.port port ∧ parts.servers servers ∧ parts.domains domains
  | .gotConfig cfg => parts.Of cfg
  | .finished => True

theorem Save.Within.read {parts : Parts} {proxy : Proxy} {save : Save} (within : save.Within parts)
    (present : parts.Of (getConfig proxy)) : (save.read proxy).Within parts := by
  obtain ⟨state', port', servers', domains', apps'⟩ := present
  cases save with
  | begun => exact state'
  | gotState state => exact ⟨within, port'⟩
  | gotPort state port => exact ⟨within.1, within.2, servers'⟩
  | gotServers state port servers => exact ⟨within.1, within.2.1, within.2.2, domains'⟩
  | gotDomains state port servers domains =>
      exact ⟨within.1, within.2.1, within.2.2.1, within.2.2.2, apps'⟩
  | gotConfig cfg => exact within
  | finished => exact within

structure App (S : Type) where
  session : Session S
  boot : List BootStep
  saves : List Save
  kept : Option Text

inductive AppEvent where
  | boot
  | serve (bound : Except IoError Unit)
  | takeRestart (bound : Except IoError Unit)
  /-- Nothing in the user interface calls `stop`. -/
  | call (request : ServiceCall) (asked : request ≠ .stop)
  | read (idx : Nat)
  | write (idx : Nat)

namespace App

variable {S : Type}

def config (this : App S) : Wrappers.ProxyConfig :=
  getConfig this.session.proxy

variable [SystemProxy S]

def call (this : App S) (request : ServiceCall) : App S :=
  match request.run this.session with
  | (.ok (), session) => { this with session, saves := this.saves ++ [.begun] }
  | (_, session) => { this with session }

def boots (this : App S) : App S :=
  match this.boot with
  | [] => this
  | next :: boot =>
      { this with
        session := { this.session with proxy := next.run this.session.proxy }
        boot }

/-- What does not fit through the bridge is not kept. -/
def write (endian : Endian) (this : App S) (idx : Nat) : App S :=
  match this.saves[idx]? with
  | some (.gotConfig cfg) =>
      { this with
        saves := this.saves.set idx .finished
        kept := (ProxyServiceImpl.keptText endian cfg).or this.kept }
  | _ => this

def step (endian : Endian) (this : App S) : AppEvent → App S
  | .boot => this.boots
  | .serve bound => { this with session := (Session.serve bound this.session).2 }
  | .takeRestart bound => { this with session := (Session.takeRestart bound this.session).2 }
  | .call request _ => this.call request
  | .read idx => { this with saves := this.saves.modify idx (Save.read this.session.proxy) }
  | .write idx => this.write endian idx

def run (endian : Endian) (this : App S) (events : List AppEvent) : App S :=
  events.foldl (step endian) this

/-- The start is through before the first call, a call that fails has changed
nothing that is kept, and the saves are written in the order in which they were
begun. -/
def Orderly (this : App S) : AppEvent → Prop
  | .call request _ => this.boot = [] ∧ ((request.run this.session).1 = .ok () ∨
      getConfig (request.run this.session).2.proxy = this.config)
  | .write idx => ∀ earlier < idx, this.saves[earlier]? = some .finished
  | _ => True

instance (this : App S) : ∀ event, Decidable (this.Orderly event)
  | .call _ _ => inferInstanceAs (Decidable (_ ∧ _))
  | .write idx =>
      inferInstanceAs (Decidable (∀ earlier < idx, this.saves[earlier]? = some .finished))
  | .boot | .serve _ | .takeRestart _ | .read _ => .isTrue trivial

/-- The last save reads the present configuration, or all of them are finished
and the present configuration is kept. -/
structure Tracks (endian : Endian) (this : App S) : Prop where
  boot : this.boot = [] ∨ this.saves = []
  last : ∀ save, this.saves.getLast? = some save → save.Current this.config ∨
    (∀ save ∈ this.saves, save = .finished) ∧
      (this.config.Fits → this.kept = ProxyServiceImpl.keptText endian this.config)

omit [SystemProxy S] in
/-- A step that changes neither the configuration nor the saves. -/
theorem Tracks.still {endian : Endian} {this after : App S} (tracks : this.Tracks endian)
    (boot : after.boot = this.boot) (config : after.config = this.config)
    (saves : after.saves = this.saves) (kept : after.kept = this.kept) : after.Tracks endian := by
  obtain ⟨through, last⟩ := tracks
  constructor
  · rw [boot, saves]
    exact through
  · rw [saves, config, kept]
    exact last

/-- The user interface comes up with what is kept; `config` is what it read. -/
def opened [Hashes] (lookup : String → Except IoError (List SocketAddr)) (system : S)
    (config : Wrappers.ProxyConfig) (kept : Option Text) : App S where
  session := { proxy := bootProxy config, system }
  boot := bootSteps lookup config
  saves := []
  kept

/-- What the sample proxy was before: off, and without a direct app. -/
def keptBefore : Wrappers.ProxyConfig :=
  { getConfig keptProxy with state := .off, apps := [] }

def noLookup : String → Except IoError (List SocketAddr) :=
  fun _ => .error (.other 0)

def reopenedApp : App Bool :=
  @opened Bool Hashes.folding noLookup true keptBefore.reopened
    (ProxyServiceImpl.keptText .little keptBefore)

/-- Two calls whose saves overlap: the first save reads the state before the
second call, and the rest behind it. -/
def overlappingSaves : List AppEvent :=
  List.replicate 4 .boot ++ [.serve (.ok ()), .call (.setApp "curl" "") (by simp), .read 0,
    .call (.setProxyState .pac) (by simp), .read 1, .read 0, .read 0, .read 0, .read 0, .write 0,
    .read 1, .read 1, .read 1, .read 1, .write 1]

/-- What is kept was there before, or was read part by part. -/
structure Gathers (endian : Endian) (parts : Parts) (kept : Option Text) (this : App S) : Prop where
  saves : ∀ save ∈ this.saves, save.Within parts
  kept : this.kept = kept ∨
    ∃ cfg, parts.Of cfg ∧ this.kept = ProxyServiceImpl.keptText endian cfg

theorem step_gathers {endian : Endian} {parts : Parts} {kept : Option Text} {this : App S}
    (gathers : this.Gathers endian parts kept) (present : parts.Of this.config)
    (event : AppEvent) : (this.step endian event).Gathers endian parts kept := by
  obtain ⟨saves, kept⟩ := gathers
  cases event with
  | boot =>
      change this.boots.Gathers _ _ _
      unfold boots
      split <;> exact ⟨saves, kept⟩
  | serve bound => exact ⟨saves, kept⟩
  | takeRestart bound => exact ⟨saves, kept⟩
  | call request asked =>
      change (this.call request).Gathers _ _ _
      unfold call
      split
      · refine ⟨fun save there => ?_, kept⟩
        rcases List.mem_append.mp there with before | added
        · exact saves save before
        · rw [List.mem_singleton.mp added]
          exact trivial
      · exact ⟨saves, kept⟩
  | read idx =>
      refine ⟨fun save there => ?_, kept⟩
      obtain ⟨pos, there⟩ := List.mem_iff_getElem?.mp there
      change (this.saves.modify idx _)[pos]? = _ at there
      rw [List.getElem?_modify] at there
      obtain ⟨before, was, rfl⟩ := Option.map_eq_some_iff.mp there
      have within := saves before (List.mem_of_getElem? was)
      split
      · exact within.read present
      · exact within
  | write idx =>
      change (this.write endian idx).Gathers _ _ _
      unfold write
      split
      · rename_i cfg reading
        refine ⟨fun save there => ?_, ?_⟩
        · rcases List.mem_or_eq_of_mem_set there with before | rfl
          · exact saves save before
          · exact trivial
        · have whole : parts.Of cfg := saves _ (List.mem_of_getElem? reading)
          cases text : ProxyServiceImpl.keptText endian cfg with
          | none => exact kept
          | some text' => exact .inr ⟨cfg, whole, text.symm⟩
      · exact ⟨saves, kept⟩

theorem run_gathers {endian : Endian} {parts : Parts} {kept : Option Text} {this : App S}
    (gathers : this.Gathers endian parts kept) {events : List AppEvent}
    (present : AllStates (step endian) (fun app => parts.Of app.config) this events) :
    (this.run endian events).Gathers endian parts kept := by
  induction events generalizing this with
  | nil => exact gathers
  | cons event events ih =>
      have now : parts.Of this.config := present.1
      exact ih (step_gathers gathers now event) present.2

/-- Each part of the configuration is that part of one of these. -/
structure PatchedFrom (moments : Nat → Wrappers.ProxyConfig) (cfg : Wrappers.ProxyConfig) :
    Prop where
  state : ∃ count, cfg.state = (moments count).state
  port : ∃ count, cfg.port = (moments count).port
  servers : ∃ count, cfg.servers = (moments count).servers
  domains : ∃ count, cfg.domains = (moments count).domains
  apps : ∃ count, cfg.apps = (moments count).apps

/-- Whenever the user interface is closed and however its calls and saves came,
it comes up again: with what it read the last time, or with a configuration of
which each part was that part of the configuration at some moment. -/
theorem run_recovers [Hashes] (endian : Endian) (lookup : String → Except IoError (List SocketAddr))
    {system : S} {config : Wrappers.ProxyConfig} {kept : Option Text} {events : List AppEvent}
    (came : ProxyServiceImpl.init endian lookup kept = some (start lookup config))
    (fits : AllStates (step endian) (fun app => app.config.Fits)
      (opened lookup system config kept) events) :
    let moments := fun count =>
      ((opened lookup system config kept).run endian (events.take count)).config
    ∃ cfg, ProxyServiceImpl.init endian lookup
        ((opened lookup system config kept).run endian events).kept = some (start lookup cfg) ∧
      (cfg = config ∨
        ∃ read : Wrappers.ProxyConfig, cfg = read.reopened ∧ PatchedFrom moments read) := by
  intro moments
  let parts : Parts :=
    { state := fun state => ∃ count, state = (moments count).state
      port := fun port => ∃ count, port = (moments count).port
      servers := fun servers => (SizeFits servers.length ∧ ∀ server ∈ servers, server.Fits) ∧
        ∃ count, servers = (moments count).servers
      domains := fun domains => TextsFit domains ∧ ∃ count, domains = (moments count).domains
      apps := fun apps => TextsFit apps ∧ ∃ count, apps = (moments count).apps }
  have present : AllStates (step endian) (fun app => parts.Of app.config)
      (opened lookup system config kept) events := by
    rw [allStates_iff_take] at fits ⊢
    intro count
    have here := fits count
    exact ⟨⟨count, rfl⟩, ⟨count, rfl⟩, ⟨⟨here.size, here.servers⟩, count, rfl⟩,
      ⟨here.domains, count, rfl⟩, here.apps, count, rfl⟩
  have begun : (opened lookup system config kept).Gathers endian parts kept :=
    ⟨fun save there => (List.not_mem_nil there).elim, .inl rfl⟩
  rcases (run_gathers begun present).kept with same | ⟨read, whole, text⟩
  · exact ⟨config, by rw [same, came], .inl rfl⟩
  · obtain ⟨state, port, servers, domains, apps⟩ := whole
    have readFits : read.Fits := ⟨domains.1, apps.1, servers.1.1, servers.1.2⟩
    refine ⟨read.reopened, ?_, .inr ⟨read, rfl, ⟨state, port, servers.2, domains.2, apps.2⟩⟩⟩
    rw [text]
    exact ProxyServiceImpl.init_kept lookup readFits

/-- Closed between the two writes: the app is kept, and the state is not. -/
theorem run_recovers_torn : ∃ cfg,
    (reopenedApp.run .little (overlappingSaves.take 14)).kept =
      ProxyServiceImpl.keptText .little { getConfig keptProxy with state := .off } ∧
    @ProxyServiceImpl.init Hashes.folding .little noLookup
      (reopenedApp.run .little (overlappingSaves.take 14)).kept =
        some (@start Hashes.folding noLookup cfg) := by
  let _ := Hashes.folding
  have fits : keptBefore.Fits := by decide
  have all : AllStates (step .little) (fun app => app.config.Fits) reopenedApp
      (overlappingSaves.take 14) := by decide +kernel
  obtain ⟨cfg, came, _⟩ :=
    run_recovers .little noLookup (ProxyServiceImpl.init_kept noLookup fits) all
  exact ⟨cfg, by decide +kernel, came⟩

theorem run_boots (endian : Endian) (this : App S) (count : Nat) :
    this.run endian (List.replicate count .boot) =
      { this with
        session := { this.session with
          proxy := (this.boot.take count).foldl BootStep.run this.session.proxy }
        boot := this.boot.drop count } := by
  induction count generalizing this with
  | zero => rfl
  | succ count ih =>
      obtain ⟨⟨proxy, system⟩, boot, saves, kept⟩ := this
      rw [List.replicate_succ, run, List.foldl_cons, ← run, ih]
      cases boot with
      | nil => cases count <;> rfl
      | cons next rest => rfl

/-- A call and its save, before the last steps of the start. -/
def earlySave (request : ServiceCall) (asked : request ≠ .stop) (left : Nat) : List AppEvent :=
  .call request asked :: (List.replicate 5 (.read 0) ++ .write 0 :: List.replicate left .boot)

theorem run_earlySave {endian : Endian} {this : App S} {request : ServiceCall}
    (asked : request ≠ .stop) (left : Nat) {session : Session S} (fresh : this.saves = [])
    (ran : request.run this.session = (.ok (), session)) :
    this.run endian (earlySave request asked left) =
      ({ this with
        session := session
        saves := [.finished]
        kept := (ProxyServiceImpl.keptText endian (getConfig session.proxy)).or this.kept } :
        App S).run endian (List.replicate left .boot) := by
  have called : this.call request = { this with session, saves := [.begun] } := by
    rw [call, ran, fresh]
    rfl
  rw [earlySave, run, List.foldl_cons, List.foldl_append]
  change List.foldl (step endian) (List.foldl (step endian) (this.call request) _) _ = _
  rw [called]
  rfl

/-- The save of a call that comes before the last servers were added: they run,
and they are not there when the user interface comes up again. -/
theorem early_save [Hashes] (endian : Endian) (lookup : String → Except IoError (List SocketAddr))
    {system : S} {config : Wrappers.ProxyConfig} {kept : Option Text} {count : Nat}
    {request : ServiceCall} (asked : request ≠ .stop) {early : App S} {session : Session S}
    (begun : (opened lookup system config kept).run endian (List.replicate (3 + count) .boot) =
      early)
    (ran : request.run early.session = (.ok (), session)) (fits : (getConfig session.proxy).Fits) :
    let last := early.run endian (earlySave request asked (config.servers.length - count))
    last.boot = [] ∧ (∀ save ∈ last.saves, save = .finished) ∧
      last.session.proxy.servers = session.proxy.servers ++ (config.servers.drop count).map
        (fun srv => ⟨srv.into.initOrKeep lookup, ⟨0, 0, 0, 0⟩⟩) ∧
      ∃ again, ProxyServiceImpl.init endian lookup last.kept = some again ∧
        again.servers = session.proxy.servers.map (restartedServer lookup) := by
  intro last
  let others := config.servers.map fun srv => BootStep.addServer (srv.into.initOrKeep lookup)
  -- what is left of the start when the call comes
  have left : (bootSteps lookup config).drop (3 + count) = others.drop count := by
    let front : List BootStep :=
      [.addApps config.apps, .addDomains config.domains, .updatePacContent]
    change (front ++ others).drop (front.length + count) = _
    exact List.drop_length_add_append count
  rw [run_boots] at begun
  have fresh : early.saves = [] := by
    rw [← begun]
    rfl
  have boot : early.boot = others.drop count := by
    rw [← begun]
    exact left
  have all : (others.drop count).take (config.servers.length - count) = others.drop count := by
    apply List.take_of_length_le
    rw [List.length_drop, List.length_map]
  have ended : last = _ := run_earlySave asked (config.servers.length - count) fresh ran
  rw [run_boots, boot, all] at ended
  rw [ended]
  refine ⟨?_, ?_, ?_, ?_⟩
  · apply List.drop_eq_nil_of_le
    rw [List.length_drop, List.length_map]
  · intro save there
    exact List.mem_singleton.mp there
  · change ((others.drop count).foldl BootStep.run session.proxy).servers = _
    have added := addServers_eq ((config.servers.drop count).map fun srv =>
      srv.into.initOrKeep lookup) session.proxy
    rw [List.foldl_map, List.map_map] at added
    rw [← List.map_drop, List.foldl_map]
    exact congrArg Proxy.servers added
  · refine ⟨_, ?_, start_reopened lookup session.proxy⟩
    change ProxyServiceImpl.init endian lookup ((ProxyServiceImpl.keptText endian _).or _) = _
    rw [← ProxyServiceImpl.init_kept lookup fits, ProxyServiceImpl.keptText_eq fits]
    rfl

/-- A domain is set before the only server was added. -/
theorem early_save_domain : ∃ again,
    let early := reopenedApp.run .little (List.replicate 3 .boot)
    let last := early.run .little (earlySave (.setDomain "b.org" "") (by simp) 1)
    last.session.proxy.servers.length = 1 ∧
      @ProxyServiceImpl.init Hashes.folding .little noLookup last.kept = some again ∧
      again.servers = [] := by
  let _ := Hashes.folding
  let early := reopenedApp.run .little (List.replicate 3 .boot)
  let request : ServiceCall := .setDomain "b.org" ""
  obtain ⟨session, ran, none, fits⟩ : ∃ session, request.run early.session = (.ok (), session) ∧
      session.proxy.servers = [] ∧ (getConfig session.proxy).Fits := by
    have succeeds : (request.run early.session).1 = .ok () := by decide +kernel
    exact ⟨_, Prod.ext succeeds rfl, by decide +kernel, by decide +kernel⟩
  have begun : (opened noLookup true keptBefore.reopened
      (ProxyServiceImpl.keptText .little keptBefore)).run .little (List.replicate (3 + 0) .boot) =
        early := rfl
  obtain ⟨_, _, servers, again, came, lost⟩ :=
    early_save .little noLookup (show request ≠ .stop by simp [request]) begun ran fits
  rw [none] at lost servers
  exact ⟨again, congrArg List.length servers, came, lost⟩

end App

end CovertConnect.Flutter
