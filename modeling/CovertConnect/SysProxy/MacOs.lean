import CovertConnect.SysProxy.Calls
import Mathlib.Logic.Function.Basic

namespace CovertConnect.SysProxy

/-! # The proxy settings of macOS

`SystemProxy` sets a proxy on each network service in turn and remembers what it
has set last. -/

inductive ProxyState where
  | off
  | pac (autoConfigUrl : String)
  | proxy (address : String)
deriving DecidableEq, Repr

/-- A setting of a service that is on was turned on by the program or by others. -/
inductive Switch where
  | off
  | on (byProgram : Bool)
deriving DecidableEq, Repr

structure Settings where
  autoProxyUrl : String
  autoProxyState : Switch
  secureWebProxy : String × String
  secureWebProxyState : Switch

inductive Command where
  | setAutoProxyUrl (autoConfigUrl : String)
  | setSecureWebProxy (domain port : String)
  | setAutoProxyState
  | setSecureWebProxyState
deriving DecidableEq, Repr

/-- What `networksetup` does to the settings of one service. -/
def Command.apply : Command → Settings → Settings
  | .setAutoProxyUrl autoConfigUrl, settings =>
      { settings with autoProxyUrl := autoConfigUrl, autoProxyState := .on true }
  | .setSecureWebProxy domain port, settings =>
      { settings with secureWebProxy := (domain, port), secureWebProxyState := .on true }
  | .setAutoProxyState, settings => { settings with autoProxyState := .off }
  | .setSecureWebProxyState, settings => { settings with secureWebProxyState := .off }

/-- How a run of `networksetup` ends.  It is not run where it cannot be started
or where what it prints is needed and is no UTF-8. -/
inductive Exit where
  | success
  | nonZero
  | notRun
deriving DecidableEq, Repr

/-- The remembered state, the settings of the services, and how the next runs of
`networksetup` end; those behind the list succeed. -/
structure World where
  state : ProxyState
  settings : String → Settings
  outcomes : List Exit

abbrev Shell : Type → Type := Run World

def networksetupFailed : Error :=
  .failed "networksetup exit code"

def networksetupNotRun : Error :=
  .failed "networksetup"

def networksetup : Shell Exit := fun world =>
  match world.outcomes with
  | [] => (.ok .success, world)
  | exit :: outcomes => (.ok exit, { world with outcomes })

def networksetupWithCheck (command : Command) (service : String) : Shell Unit := do
  match ← networksetup with
  | .success =>
      modify fun world =>
        { world with settings :=
            Function.update world.settings service (command.apply (world.settings service)) }
  | .nonZero => throw networksetupFailed
  | .notRun => throw networksetupNotRun

/-- The services of the machine, and which of them have an address or do not tell:
the runs of `-getinfo` are answered here and not among the outcomes. -/
structure Services where
  listed : List String
  isActive : String → Bool

def Services.active (services : Services) : List String :=
  services.listed.filter services.isActive

/-- The lines of `-listallnetworkservices`. -/
def listAllNetworkServices (services : Services) : Shell (List String) := do
  match ← networksetup with
  | .success => return services.listed
  -- The exit code is not looked at, and nothing has been listed.
  | .nonZero => return []
  | .notRun => throw networksetupNotRun

def getServices (services : Services) (activeOnly : Bool) : Shell (List String) := do
  let output ← listAllNetworkServices services
  return if activeOnly then output.filter services.isActive else output

def repalceState (state : ProxyState) : Shell ProxyState := do
  let world ← getThe World
  set { world with state }
  return world.state

/-- `restore` of the module. -/
def restoreState (services : Services) (state : ProxyState) : Shell Unit := do
  let services ← getServices services false
  services.forM fun service =>
    match state with
    | .off => pure ()
    | .pac _ => networksetupWithCheck .setAutoProxyState service
    | .proxy _ => networksetupWithCheck .setSecureWebProxyState service

def setPac (services : Services) (autoConfigUrl : String) : Shell Unit := do
  let active ← getServices services true
  active.forM (networksetupWithCheck (.setAutoProxyUrl autoConfigUrl))
  let oldState ← repalceState (.pac autoConfigUrl)
  match oldState with
  | .off | .pac _ => pure ()
  | .proxy _ => restoreState services oldState

def setProxy (services : Services) (address : String) : Shell Unit := do
  let (domain, port) ← (addressParts address : Except Error (String × String))
  let active ← getServices services true
  active.forM (networksetupWithCheck (.setSecureWebProxy domain port))
  let oldState ← repalceState (.proxy address)
  match oldState with
  | .off | .proxy _ => pure ()
  | .pac _ => restoreState services oldState

def restore (services : Services) : Shell Unit := do
  let oldState ← repalceState .off
  restoreState services oldState

/-- The services that a loop comes to before a command fails. -/
def reached : List String → List Exit → List String
  | [], _ => []
  | services, [] => services
  | service :: services, exit :: outcomes =>
      if exit = .success then service :: reached services outcomes else []

/-- The outcomes that a loop leaves. -/
def unused : List String → List Exit → List Exit
  | [], outcomes => outcomes
  | _, [] => []
  | _ :: services, exit :: outcomes =>
      if exit = .success then unused services outcomes else outcomes

theorem reached_nil (services : List String) : reached services [] = services := by
  cases services <;> rfl

theorem unused_nil (services : List String) : unused services [] = [] := by
  cases services <;> rfl

theorem unused_subset (services : List String) (outcomes : List Exit) :
    unused services outcomes ⊆ outcomes := by
  induction services generalizing outcomes with
  | nil => exact List.Subset.refl _
  | cons service services ih =>
      cases outcomes with
      | nil => exact List.nil_subset _
      | cons exit outcomes =>
          rw [unused]
          split
          · exact List.Subset.trans (ih outcomes) (List.subset_cons_self exit outcomes)
          · exact List.subset_cons_self exit outcomes

def applyAll (command : Command) (services : List String) (settings : String → Settings) :
    String → Settings :=
  fun service => if service ∈ services then command.apply (settings service) else settings service

theorem Command.apply_twice (command : Command) (settings : Settings) :
    command.apply (command.apply settings) = command.apply settings := by
  cases command <;> rfl

theorem applyAll_nil (command : Command) (settings : String → Settings) :
    applyAll command [] settings = settings :=
  funext fun _ => if_neg List.not_mem_nil

theorem applyAll_cons (command : Command) (service : String) (services : List String)
    (settings : String → Settings) :
    applyAll command services
        (Function.update settings service (command.apply (settings service))) =
      applyAll command (service :: services) settings := by
  funext other
  by_cases same : other = service
  · rw [same, applyAll, applyAll, if_pos List.mem_cons_self, Function.update_self,
      command.apply_twice, ite_self]
  · simp only [applyAll, Function.update_of_ne same, List.mem_cons, or_iff_right same]

/-- What a command leaves alone, a loop of it leaves alone. -/
theorem applyAll_keeps {β : Sort*} (shown : Settings → β) {command : Command}
    (keeps : ∀ settings, shown (command.apply settings) = shown settings) (services : List String)
    (settings : String → Settings) (service : String) :
    shown (applyAll command services settings service) = shown (settings service) := by
  rw [applyAll]
  split
  · exact keeps _
  · rfl

/-- The services that a loop comes to are set, and it succeeds when these are all. -/
theorem networksetup_loop (command : Command) (services : List String) (world : World) :
    (services.forM (networksetupWithCheck command) world).2 =
        { world with
          settings := applyAll command (reached services world.outcomes) world.settings
          outcomes := unused services world.outcomes } ∧
      ((services.forM (networksetupWithCheck command) world).1 = .ok () ↔
        reached services world.outcomes = services) := by
  induction services generalizing world with
  | nil =>
      rw [reached, applyAll_nil, unused]
      exact ⟨rfl, iff_of_true rfl rfl⟩
  | cons service services ih =>
      obtain ⟨state, settings, outcomes⟩ := world
      show ((networksetupWithCheck command service >>= fun _ =>
          services.forM (networksetupWithCheck command)) _).2 = _ ∧
        (((networksetupWithCheck command service >>= fun _ =>
          services.forM (networksetupWithCheck command)) _).1 = _ ↔ _)
      have goesOn : ∀ {outcomes after},
          networksetupWithCheck command service ⟨state, settings, outcomes⟩ = (.ok (),
            ⟨state, Function.update settings service (command.apply (settings service)), after⟩) →
          ((networksetupWithCheck command service >>= fun _ =>
              services.forM (networksetupWithCheck command)) ⟨state, settings, outcomes⟩).2 =
            ⟨state, applyAll command (service :: reached services after) settings,
              unused services after⟩ ∧
          (((networksetupWithCheck command service >>= fun _ =>
              services.forM (networksetupWithCheck command)) ⟨state, settings, outcomes⟩).1 =
            .ok () ↔ reached services after = services) := by
        intro outcomes after done
        rw [Run.bind_ok done]
        obtain ⟨left, succeeds⟩ := ih
          ⟨state, Function.update settings service (command.apply (settings service)), after⟩
        exact ⟨left.trans (by rw [applyAll_cons]), succeeds⟩
      cases outcomes with
      | nil =>
          obtain ⟨left, succeeds⟩ := goesOn (rfl : networksetupWithCheck command service
            ⟨state, settings, []⟩ = (.ok (), ⟨state, _, []⟩))
          rw [left, succeeds]
          simp [reached_nil, unused_nil]
      | cons exit outcomes =>
          cases exit with
          | success =>
              obtain ⟨left, succeeds⟩ := goesOn (rfl : networksetupWithCheck command service
                ⟨state, settings, .success :: outcomes⟩ = (.ok (), ⟨state, _, outcomes⟩))
              rw [left, succeeds]
              simp [reached, unused]
          | nonZero =>
              have failed : networksetupWithCheck command service
                  ⟨state, settings, .nonZero :: outcomes⟩ =
                    (.error networksetupFailed, ⟨state, settings, outcomes⟩) := rfl
              rw [Run.bind_error failed]
              simp [reached, unused, applyAll_nil]
          | notRun =>
              have failed : networksetupWithCheck command service
                  ⟨state, settings, .notRun :: outcomes⟩ =
                    (.error networksetupNotRun, ⟨state, settings, outcomes⟩) := rfl
              rw [Run.bind_error failed]
              simp [reached, unused, applyAll_nil]

/-- The listing of a call prints the services. -/
def Answers (outcomes : List Exit) : Prop :=
  outcomes.head? = none ∨ outcomes.head? = some .success

instance (outcomes : List Exit) : Decidable (Answers outcomes) :=
  inferInstanceAs (Decidable (_ ∨ _))

/-- The services that a listing and a loop over some of them come to. -/
def attempt (names : List String) (outcomes : List Exit) : List String :=
  if Answers outcomes then reached names outcomes.tail else []

def unusedOf (names : List String) (outcomes : List Exit) : List Exit :=
  if Answers outcomes then unused names outcomes.tail else outcomes.tail

theorem unusedOf_subset (names : List String) (outcomes : List Exit) :
    unusedOf names outcomes ⊆ outcomes := by
  rw [unusedOf]
  split
  · exact List.Subset.trans (unused_subset names outcomes.tail) fun _ => List.mem_of_mem_tail
  · exact fun _ => List.mem_of_mem_tail

/-- A listing and a loop over some of the services. -/
def listedLoop (names : List String) (command : Command) : Shell Unit := do
  match ← networksetup with
  | .success => names.forM (networksetupWithCheck command)
  | .nonZero => pure ()
  | .notRun => throw networksetupNotRun

/-- The loop comes to the end of what was listed. -/
abbrev completes (names : List String) (outcomes : List Exit) : Prop :=
  if Answers outcomes then reached names outcomes.tail = names else outcomes.head? = some .nonZero

theorem answers_of_completes {names : List String} {outcomes : List Exit}
    (complete : completes names outcomes) (exits : outcomes.head? ≠ some .nonZero) :
    Answers outcomes := by
  by_contra silent
  rw [completes, if_neg silent] at complete
  exact exits complete

theorem attempt_of_completes {names : List String} {outcomes : List Exit}
    (complete : completes names outcomes) :
    attempt names outcomes = if Answers outcomes then names else [] := by
  rw [attempt]
  split
  · rename_i answers
    rwa [completes, if_pos answers] at complete
  · rfl

theorem listedLoop_run (names : List String) (command : Command) (world : World) :
    (listedLoop names command world).2 =
        { world with
          settings := applyAll command (attempt names world.outcomes) world.settings
          outcomes := unusedOf names world.outcomes } ∧
      ((listedLoop names command world).1 = .ok () ↔ completes names world.outcomes) := by
  obtain ⟨state, settings, outcomes⟩ := world
  cases outcomes with
  | nil => exact networksetup_loop command names ⟨state, settings, []⟩
  | cons exit outcomes =>
      cases exit with
      | success => exact networksetup_loop command names ⟨state, settings, outcomes⟩
      | nonZero =>
          have silent : ¬ Answers (.nonZero :: outcomes) := by simp [Answers]
          rw [attempt, unusedOf, completes, if_neg silent, if_neg silent, if_neg silent, applyAll_nil]
          exact ⟨rfl, iff_of_true rfl rfl⟩
      | notRun =>
          have silent : ¬ Answers (.notRun :: outcomes) := by simp [Answers]
          rw [attempt, unusedOf, completes, if_neg silent, if_neg silent, if_neg silent, applyAll_nil]
          exact ⟨rfl, iff_of_false nofun nofun⟩

theorem getServices_loop (services : Services) (activeOnly : Bool) (command : Command) :
    (getServices services activeOnly >>= fun names => names.forM (networksetupWithCheck command)) =
      listedLoop (if activeOnly then services.active else services.listed) command := by
  funext world
  obtain ⟨state, settings, outcomes⟩ := world
  cases activeOnly <;> rcases outcomes with _ | ⟨exit | exit | exit, outcomes⟩ <;> rfl

inductive Kind where
  | pac
  | proxy
deriving DecidableEq, Repr

def ProxyState.kind? : ProxyState → Option Kind
  | .off => none
  | .pac _ => some .pac
  | .proxy _ => some .proxy

def Settings.switch : Kind → Settings → Switch
  | .pac, settings => settings.autoProxyState
  | .proxy, settings => settings.secureWebProxyState

def Kind.offCommand : Kind → Command
  | .pac => .setAutoProxyState
  | .proxy => .setSecureWebProxyState

/-- The command turns the setting of a kind, and this setting only. -/
structure Turns (command : Command) (kind : Kind) (switch : Switch) : Prop where
  here : ∀ settings, (command.apply settings).switch kind = switch
  other : ∀ settings {kind'}, kind' ≠ kind →
    (command.apply settings).switch kind' = settings.switch kind'

theorem turns_off (kind : Kind) : Turns kind.offCommand kind .off where
  here settings := by cases kind <;> rfl
  other settings kind' other := by cases kind <;> cases kind' <;> first | rfl | exact absurd rfl other

theorem turns_pac (autoConfigUrl : String) : Turns (.setAutoProxyUrl autoConfigUrl) .pac (.on true) where
  here _ := rfl
  other settings kind' other := by cases kind' <;> first | rfl | exact absurd rfl other

theorem turns_proxy (domain port : String) :
    Turns (.setSecureWebProxy domain port) .proxy (.on true) where
  here _ := rfl
  other settings kind' other := by cases kind' <;> first | rfl | exact absurd rfl other

/-- `set_pac` and `set_proxy` of an address that has its parts. -/
def enable (services : Services) (command : Command) (newState : ProxyState) : Shell Unit := do
  listedLoop services.active command
  let oldState ← repalceState newState
  if oldState.kind? = none ∨ oldState.kind? = newState.kind? then pure ()
  else restoreState services oldState

theorem setPac_eq (services : Services) (autoConfigUrl : String) :
    setPac services autoConfigUrl =
      enable services (.setAutoProxyUrl autoConfigUrl) (.pac autoConfigUrl) := by
  have loop := getServices_loop services true (.setAutoProxyUrl autoConfigUrl)
  rw [if_pos rfl] at loop
  rw [enable, ← loop, bind_assoc]
  simp only [setPac]
  congr 1
  funext _
  congr 1
  funext _
  congr 1
  funext oldState
  cases oldState <;> rfl

theorem setProxy_eq (services : Services) {address domain port : String}
    (parts : addressParts address = .ok (domain, port)) :
    setProxy services address =
      enable services (.setSecureWebProxy domain port) (.proxy address) := by
  have loop := getServices_loop services true (.setSecureWebProxy domain port)
  rw [if_pos rfl] at loop
  rw [enable, ← loop, bind_assoc]
  simp only [setProxy, parts]
  show (getServices services true >>= fun _ => _) = _
  congr 1
  funext _
  congr 1
  funext _
  congr 1
  funext oldState
  cases oldState <;> rfl

theorem setProxy_invalid (services : Services) {address : String} {error : Error}
    (parts : addressParts address = .error error) (world : World) :
    setProxy services address world = (.error error, world) := by
  simp only [setProxy, parts]
  rfl

theorem restoreState_eq (services : Services) {state : ProxyState} {kind : Kind}
    (known : state.kind? = some kind) :
    restoreState services state = listedLoop services.listed kind.offCommand := by
  cases state with
  | off => cases known
  | pac autoConfigUrl =>
      cases known
      exact getServices_loop services false .setAutoProxyState
  | proxy address =>
      cases known
      exact getServices_loop services false .setSecureWebProxyState

/-- Nothing is set, and nothing is turned off. -/
theorem restoreState_off (services : Services) (world : World) :
    (restoreState services .off world).2 = { world with outcomes := world.outcomes.tail } ∧
      ((restoreState services .off world).1 = .ok () ↔ world.outcomes.head? ≠ some .notRun) := by
  have idle : ∀ services : List String, ∀ world,
      services.forM (fun _ => (pure () : Shell Unit)) world = (.ok (), world) := by
    intro services
    induction services with
    | nil => exact fun _ => rfl
    | cons service services ih => exact ih
  obtain ⟨state, settings, outcomes⟩ := world
  cases outcomes with
  | nil =>
      have run : restoreState services .off ⟨state, settings, []⟩ = (.ok (), ⟨state, settings, []⟩) :=
        idle services.listed _
      rw [run]
      exact ⟨rfl, iff_of_true rfl nofun⟩
  | cons exit outcomes =>
      cases exit with
      | success =>
          have run : restoreState services .off ⟨state, settings, .success :: outcomes⟩ =
              (.ok (), ⟨state, settings, outcomes⟩) := idle services.listed _
          rw [run]
          exact ⟨rfl, iff_of_true rfl nofun⟩
      | nonZero => exact ⟨rfl, iff_of_true rfl nofun⟩
      | notRun => exact ⟨rfl, iff_of_false nofun fun apart => apart rfl⟩

section Enable

variable {services : Services} {command : Command} {newState : ProxyState} {world : World}

theorem enable_incomplete (incomplete : ¬ completes services.active world.outcomes) :
    ∃ error, enable services command newState world =
      (.error error,
        { world with
          settings := applyAll command (attempt services.active world.outcomes) world.settings
          outcomes := unusedOf services.active world.outcomes }) := by
  obtain ⟨left, succeeds⟩ := listedLoop_run services.active command world
  rcases ran : listedLoop services.active command world with ⟨error | value, after⟩
  · rw [ran] at left
    exact ⟨error, left ▸ Run.bind_error ran⟩
  · rw [ran] at succeeds
    exact absurd (succeeds.mp rfl) incomplete

theorem enable_complete (complete : completes services.active world.outcomes) :
    enable services command newState world =
      (if world.state.kind? = none ∨ world.state.kind? = newState.kind? then pure ()
        else restoreState services world.state : Shell Unit)
        { state := newState
          settings := applyAll command (attempt services.active world.outcomes) world.settings
          outcomes := unusedOf services.active world.outcomes } := by
  obtain ⟨left, succeeds⟩ := listedLoop_run services.active command world
  rw [enable, Run.bind_ok (Prod.ext (succeeds.mpr complete) left)]
  rfl

end Enable

end CovertConnect.SysProxy
