import CovertConnect.SysProxy.MacOsRestore

namespace CovertConnect.SysProxy

open CovertConnect.Data

/-! # `update` between the calls of the user

The monitor of the network calls `update` from a thread of its own.  Calls take
the lock of the state for a moment only, and run one command after the other. -/

/-- The command that sets a state on a service. -/
def ProxyState.command? : ProxyState → Option Command
  | .off => none
  | .pac autoConfigUrl => some (.setAutoProxyUrl autoConfigUrl)
  | .proxy address =>
      match addressParts address with
      | .ok (domain, port) => some (.setSecureWebProxy domain port)
      | .error _ => none

/-- The state that a call leaves. -/
def SystemCall.newState : SystemCall → ProxyState
  | .setPac autoConfigUrl => .pac autoConfigUrl
  | .setProxy address => .proxy address
  | .restore => .off

/-- What is left of a call that has begun. -/
inductive Stage where
  | listing (command : Command) (newState : ProxyState)
  | applying (command : Command) (newState : ProxyState) (services : List String)
  | relisting (oldState : ProxyState)
  | restoring (command : Command) (services : List String)

inductive Thread where
  | called (call : SystemCall)
  | updating
  | running (byUser : Bool) (stage : Stage)
  | returned

/-- Where a thread is after its next lock or command. -/
def Thread.next (services : Services) (state : ProxyState) : Thread → Thread
  | .called .restore => .running true (.relisting state)
  | .called call =>
      match call.newState.command? with
      | some command => .running true (.applying command call.newState services.active)
      | none => .returned
  | .updating =>
      match state.command? with
      | some command => .running false (.listing command state)
      | none => .returned
  | .running byUser (.listing command newState) =>
      .running byUser (.applying command newState services.active)
  | .running byUser (.applying command newState (_ :: left)) =>
      .running byUser (.applying command newState left)
  | .running byUser (.applying _ newState []) =>
      if state.kind? = none ∨ state.kind? = newState.kind? then .returned
      else .running byUser (.relisting state)
  | .running byUser (.relisting oldState) =>
      match oldState.kind? with
      | some kind => .running byUser (.restoring kind.offCommand services.listed)
      | none => .returned
  | .running byUser (.restoring command (_ :: left)) => .running byUser (.restoring command left)
  | .running _ (.restoring _ []) => .returned
  | .returned => .returned

/-- The state that is stored by the next step. -/
def Thread.replaces : Thread → Option ProxyState
  | .called .restore => some .off
  | .running _ (.applying _ newState []) => some newState
  | _ => none

def Thread.byUser : Thread → Bool
  | .called _ => true
  | .running byUser _ => byUser
  | _ => false

/-- The command that is run by the next step, unless it lists the services. -/
def Thread.command? : Thread → Option (Command × String)
  | .running _ (.applying command _ (service :: _)) => some (command, service)
  | .running _ (.restoring command (service :: _)) => some (command, service)
  | _ => none

def runCommand (settings : String → Settings) : Option (Command × String) → String → Settings
  | some (command, service) => Function.update settings service (command.apply (settings service))
  | none => settings

section Steps

variable {ι : Type} [DecidableEq ι]

/-- The state and the settings, the calls, and the state that the last call of the
user has stored. -/
structure Machine (ι : Type) where
  state : ProxyState
  settings : String → Settings
  threads : ι → Thread
  last : ProxyState

def Machine.step (services : Services) (machine : Machine ι) (idx : ι) : Machine ι :=
  let thread := machine.threads idx
  { state := thread.replaces.getD machine.state
    settings := runCommand machine.settings thread.command?
    threads := Function.update machine.threads idx (thread.next services machine.state)
    last := if thread.byUser then thread.replaces.getD machine.last else machine.last }

/-- The settings of a service are those of a state, as far as the program has
set them. -/
structure Shows (state : ProxyState) (settings : Settings) : Prop where
  kind : ∀ {kind}, settings.switch kind = .on true → state.kind? = some kind
  values : ∀ {command}, state.command? = some command → command.apply settings = settings

/-- All calls are over. -/
def Machine.Finished (machine : Machine ι) : Prop :=
  ∀ idx, machine.threads idx = .returned

/-- When all calls are over, the last call of the user is in effect. -/
def Machine.Obeys (services : Services) (machine : Machine ι) : Prop :=
  machine.Finished →
    machine.state = machine.last ∧
      ∀ service ∈ services.active, Shows machine.last (machine.settings service)

/-- The calls have not begun, and an earlier one is in effect. -/
structure Machine.Initial (services : Services) (machine : Machine ι) : Prop where
  calls : ∀ idx byUser stage, machine.threads idx ≠ .running byUser stage
  state : machine.state = machine.last
  shown : ∀ service ∈ services.active, Shows machine.state (machine.settings service)

def Thread.Begun (byUser : Bool) (thread : Thread) : Prop :=
  ∃ stage, thread = .running byUser stage

/-- A thread that is going to change something. -/
def Thread.Begins (state : ProxyState) : Thread → Prop
  | .called .restore => True
  | .called call => call.newState.command? ≠ none
  | .updating => state.command? ≠ none
  | _ => False

/-- A call of the user begins when no other call is running, and an update when
no call of the user is. -/
def Machine.Fits (machine : Machine ι) (idx : ι) : Prop :=
  (machine.threads idx).Begins machine.state →
    ∀ other, ¬ (machine.threads other).Begun true ∧
      ((machine.threads other).Begun false → (machine.threads idx).byUser = false)

end Steps

/-- How a thread goes on when no other thread takes a step. -/
inductive Finishes (services : Services) (result : ProxyState × (String → Settings)) :
    Thread → ProxyState → (String → Settings) → Prop
  | returned : Finishes services result .returned result.1 result.2
  | next {thread : Thread} {state : ProxyState} {settings : String → Settings} :
      Finishes services result (thread.next services state) (thread.replaces.getD state)
          (runCommand settings thread.command?) →
        Finishes services result thread state settings

section Alone

variable {services : Services} {result : ProxyState × (String → Settings)} {byUser : Bool}
  {command : Command} {state newState : ProxyState}

theorem finishes_applying {left : List String} {settings : String → Settings}
    (rest : Finishes services result (.running byUser (.applying command newState [])) state
      (applyAll command left settings)) :
    Finishes services result (.running byUser (.applying command newState left)) state settings := by
  induction left generalizing settings with
  | nil => rwa [applyAll_nil] at rest
  | cons first left ih =>
      rw [← applyAll_cons] at rest
      exact Finishes.next (ih rest)

theorem finishes_restoring {left : List String} {settings : String → Settings}
    (rest : Finishes services result .returned state (applyAll command left settings)) :
    Finishes services result (.running byUser (.restoring command left)) state settings := by
  induction left generalizing settings with
  | nil =>
      rw [applyAll_nil] at rest
      exact Finishes.next rest
  | cons first left ih =>
      rw [← applyAll_cons] at rest
      exact Finishes.next (ih rest)

/-- `restore` of the module, from its listing on. -/
theorem finishes_relisting (byUser : Bool) (oldState : ProxyState) (world : World)
    (all : world.outcomes = []) :
    Finishes services
      ((restoreState services oldState world).2.state,
        (restoreState services oldState world).2.settings)
      (.running byUser (.relisting oldState)) world.state world.settings := by
  apply Finishes.next
  cases remembered : oldState.kind? with
  | none =>
      rw [ProxyState.eq_off remembered, (restoreState_off services world).1]
      exact Finishes.returned
  | some kind =>
      have whole : attempt services.listed world.outcomes = services.listed := by
        rw [all]
        exact reached_nil services.listed
      rw [Thread.next, remembered, restoreState_eq services remembered, (listedLoop_run _ _ _).1,
        whole]
      exact finishes_restoring Finishes.returned

theorem finishes_enable (settings : String → Settings) :
    Finishes services
      ((enable services command newState ⟨state, settings, []⟩).2.state,
        (enable services command newState ⟨state, settings, []⟩).2.settings)
      (.running byUser (.applying command newState services.active)) state settings := by
  have whole : attempt services.active [] = services.active := reached_nil services.active
  have complete : completes services.active (World.mk state settings []).outcomes := whole
  rw [enable_complete complete, whole]
  apply finishes_applying
  apply Finishes.next
  rw [Thread.next]
  by_cases same : state.kind? = none ∨ state.kind? = newState.kind?
  · rw [if_pos same, if_pos same]
    exact Finishes.returned
  · rw [if_neg same, if_neg same]
    exact finishes_relisting byUser state
      ⟨newState, applyAll command services.active settings, unusedOf services.active []⟩
      (unused_nil services.active)

/-- Alone, a call of the user does what the function of its name does. -/
theorem finishes_call (call : SystemCall) (settings : String → Settings) :
    Finishes services
      ((call.run services ⟨state, settings, []⟩).2.state,
        (call.run services ⟨state, settings, []⟩).2.settings)
      (.called call) state settings := by
  apply Finishes.next
  cases call with
  | restore => exact finishes_relisting true state ⟨.off, settings, []⟩ rfl
  | setPac autoConfigUrl =>
      rw [SystemCall.run, setPac_eq]
      exact finishes_enable settings
  | setProxy address =>
      rw [SystemCall.run]
      cases parts : addressParts address with
      | ok both =>
          obtain ⟨domain, port⟩ := both
          rw [setProxy_eq services parts]
          simp only [Thread.next, SystemCall.newState, ProxyState.command?, parts]
          exact finishes_enable settings
      | error error =>
          rw [setProxy_invalid services parts]
          simp only [Thread.next, SystemCall.newState, ProxyState.command?, parts]
          exact Finishes.returned

end Alone

theorem command?_turns {state : ProxyState} {command : Command} (sets : state.command? = some command) :
    ∃ kind, state.kind? = some kind ∧ Turns command kind (.on true) := by
  cases state with
  | off => cases sets
  | pac autoConfigUrl =>
      cases sets
      exact ⟨.pac, rfl, turns_pac autoConfigUrl⟩
  | proxy address =>
      rw [ProxyState.command?] at sets
      split at sets
      · cases sets
        exact ⟨.proxy, rfl, turns_proxy _ _⟩
      · cases sets

theorem apply_comm {state : ProxyState} {command : Command} (sets : state.command? = some command)
    {kind : Kind} (other : state.kind? ≠ some kind) (settings : Settings) :
    command.apply (kind.offCommand.apply settings) =
      kind.offCommand.apply (command.apply settings) := by
  cases state with
  | off => cases sets
  | pac autoConfigUrl =>
      cases sets
      cases kind with
      | pac => exact absurd rfl other
      | proxy => rfl
  | proxy address =>
      rw [ProxyState.command?] at sets
      split at sets
      · cases sets
        cases kind with
        | pac => rfl
        | proxy => exact absurd rfl other
      · cases sets

namespace Shows

variable {state newState : ProxyState} {command : Command} {settings : Settings}

/-- Setting a state in place of none or of one of its kind. -/
theorem apply (shows' : Shows state settings) (sets : newState.command? = some command)
    (same : state.kind? = none ∨ state.kind? = newState.kind?) :
    Shows newState (command.apply settings) := by
  obtain ⟨kind, known, turns⟩ := command?_turns sets
  constructor
  · intro kind' on
    by_cases here : kind' = kind
    · rw [here]
      exact known
    · rw [turns.other settings here] at on
      have before := shows'.kind on
      rcases same with nothing | equal
      · rw [nothing] at before
        cases before
      · rw [← equal]
        exact before
  · intro command' sets'
    rw [Option.some.inj (sets'.symm.trans sets), command.apply_twice]

/-- Setting a state and then turning off the other kind. -/
theorem replace (shows' : Shows state settings) (sets : newState.command? = some command)
    {kind : Kind} (remembered : state.kind? = some kind) (other : newState.kind? ≠ some kind) :
    Shows newState (kind.offCommand.apply (command.apply settings)) := by
  obtain ⟨newKind, known, turns⟩ := command?_turns sets
  constructor
  · intro kind' on
    by_cases off : kind' = kind
    · rw [off, (turns_off kind).here] at on
      cases on
    · rw [(turns_off kind).other _ off] at on
      by_cases here : kind' = newKind
      · rw [here]
        exact known
      · rw [turns.other settings here] at on
        exact absurd (Option.some.inj ((shows'.kind on).symm.trans remembered)) off
  · intro command' sets'
    rw [Option.some.inj (sets'.symm.trans sets), apply_comm sets other, command.apply_twice]

theorem turnOff (shows' : Shows state settings) {kind : Kind}
    (remembered : state.kind? = some kind) : Shows .off (kind.offCommand.apply settings) := by
  constructor
  · intro kind' on
    by_cases off : kind' = kind
    · rw [off, (turns_off kind).here] at on
      cases on
    · rw [(turns_off kind).other _ off] at on
      exact absurd (Option.some.inj ((shows'.kind on).symm.trans remembered)) off
  · nofun

theorem nothing (shows' : Shows state settings) (off : state.kind? = none) : Shows .off settings := by
  rw [ProxyState.eq_off off] at shows'
  exact shows'

end Shows

/-- A command has been run on settings that were those of the state. -/
def Applied (state : ProxyState) (command : Command) (settings : Settings) : Prop :=
  ∃ before, Shows state before ∧ settings = command.apply before

theorem Applied.again {state : ProxyState} {command : Command} {settings : Settings}
    (either : Shows state settings ∨ Applied state command settings) :
    Applied state command (command.apply settings) := by
  rcases either with shows' | ⟨before, shows', rfl⟩
  · exact ⟨settings, shows', rfl⟩
  · exact ⟨before, shows', command.apply_twice before⟩

/-- The settings on the way through a call of the user. -/
def Halfway (services : Services) (state : ProxyState) (settings : String → Settings) : Stage → Prop
  | .listing _ _ => False
  | .applying command newState left =>
      newState.command? = some command ∧ ∀ service ∈ services.active,
        (Shows state (settings service) ∨ Applied state command (settings service)) ∧
          (service ∉ left → Applied state command (settings service))
  | .relisting oldState =>
      ∀ service ∈ services.active,
        (oldState.kind? = none → Shows state (settings service)) ∧
          ∀ kind, oldState.kind? = some kind →
            Shows state (kind.offCommand.apply (settings service))
  | .restoring command left =>
      ∀ service ∈ services.active,
        Shows state (command.apply (settings service)) ∧
          (service ∉ left → Shows state (settings service))

/-- An update sets again what is set. -/
def Redo (state : ProxyState) : Stage → Prop
  | .listing command newState => newState = state ∧ state.command? = some command
  | .applying command newState _ => newState = state ∧ state.command? = some command
  | _ => False

section Stages

variable {services : Services} {state : ProxyState} {settings : String → Settings}

/-- A call of the user goes on, or it returns with its settings in effect. -/
theorem halfway_step {stage : Stage} (halfway : Halfway services state settings stage)
    {thread : Thread} (running : thread = .running true stage) :
    thread.next services state = .returned ∧
        (∀ service ∈ services.active, Shows (thread.replaces.getD state)
          (runCommand settings thread.command? service)) ∨
      ∃ stage', thread.next services state = .running true stage' ∧
        Halfway services (thread.replaces.getD state) (runCommand settings thread.command?) stage' := by
  subst running
  match stage with
  | .listing _ _ => exact halfway.elim
  | .applying command newState (first :: left) =>
      obtain ⟨sets, each⟩ := halfway
      refine .inr ⟨.applying command newState left, rfl, sets, ?_⟩
      intro service active
      by_cases here : service = first
      · subst here
        have now := Applied.again (each service active).1
        simp only [Thread.command?, runCommand, Function.update_self]
        exact ⟨.inr now, fun _ => now⟩
      · simp only [Thread.command?, runCommand, Function.update_of_ne here]
        refine ⟨(each service active).1, fun done => (each service active).2 ?_⟩
        rw [List.mem_cons, not_or]
        exact ⟨here, done⟩
  | .applying command newState [] =>
      obtain ⟨sets, each⟩ := halfway
      rw [Thread.next]
      by_cases same : state.kind? = none ∨ state.kind? = newState.kind?
      · rw [if_pos same]
        refine .inl ⟨rfl, ?_⟩
        intro service active
        obtain ⟨before, shows', applied⟩ := (each service active).2 List.not_mem_nil
        have now := shows'.apply sets same
        rw [← applied] at now
        exact now
      · rw [if_neg same]
        refine .inr ⟨.relisting state, rfl, ?_⟩
        intro service active
        obtain ⟨before, shows', applied⟩ := (each service active).2 List.not_mem_nil
        constructor
        · exact fun nothing => absurd (.inl nothing) same
        · intro kind remembered
          have other : newState.kind? ≠ some kind :=
            fun equal => same (.inr (remembered.trans equal.symm))
          have now := shows'.replace sets remembered other
          rw [← applied] at now
          exact now
  | .relisting oldState =>
      rw [Thread.next]
      cases remembered : oldState.kind? with
      | none => exact .inl ⟨rfl, fun service active => (halfway service active).1 remembered⟩
      | some kind =>
          refine .inr ⟨.restoring kind.offCommand services.listed, rfl, ?_⟩
          intro service active
          exact ⟨(halfway service active).2 kind remembered,
            fun unlisted => absurd (active_listed active) unlisted⟩
  | .restoring command (first :: left) =>
      refine .inr ⟨.restoring command left, rfl, ?_⟩
      intro service active
      have before := halfway service active
      by_cases here : service = first
      · subst here
        simp only [Thread.command?, runCommand, Function.update_self, command.apply_twice]
        exact ⟨before.1, fun _ => before.1⟩
      · simp only [Thread.command?, runCommand, Function.update_of_ne here]
        refine ⟨before.1, fun done => before.2 ?_⟩
        rw [List.mem_cons, not_or]
        exact ⟨here, done⟩
  | .restoring command [] =>
      exact .inl ⟨rfl, fun service active => (halfway service active).2 List.not_mem_nil⟩

/-- An update changes nothing while the settings are those of the state. -/
theorem redo_step {stage : Stage} (redo : Redo state stage)
    (shown : ∀ service ∈ services.active, Shows state (settings service)) {thread : Thread}
    (running : thread = .running false stage) :
    thread.replaces.getD state = state ∧
      (∀ service ∈ services.active, Shows state (runCommand settings thread.command? service)) ∧
      ∀ byUser stage', thread.next services state = .running byUser stage' →
        byUser = false ∧ Redo state stage' := by
  subst running
  match stage with
  | .listing command newState =>
      refine ⟨rfl, shown, ?_⟩
      intro byUser stage' next
      cases next
      exact ⟨rfl, redo⟩
  | .applying command newState (first :: left) =>
      refine ⟨rfl, ?_, ?_⟩
      · intro service active
        have before := shown service active
        by_cases here : service = first
        · subst here
          simp only [Thread.command?, runCommand, Function.update_self]
          rwa [before.values redo.2]
        · simp only [Thread.command?, runCommand, Function.update_of_ne here]
          exact before
      · intro byUser stage' next
        cases next
        exact ⟨rfl, redo⟩
  | .applying command newState [] =>
      obtain ⟨rfl, sets⟩ := redo
      refine ⟨rfl, shown, ?_⟩
      intro byUser stage' next
      rw [Thread.next, if_pos (.inr rfl)] at next
      cases next
  | .relisting _ => exact redo.elim
  | .restoring _ _ => exact redo.elim

end Stages

section Runs

variable {ι : Type} [DecidableEq ι] {services : Services} {machine : Machine ι}

/-- The settings are those of the state, and only updates are running. -/
structure Machine.Quiet (services : Services) (machine : Machine ι) : Prop where
  shown : ∀ service ∈ services.active, Shows machine.state (machine.settings service)
  updates : ∀ idx byUser stage, machine.threads idx = .running byUser stage →
    byUser = false ∧ Redo machine.state stage

/-- One call of the user is running, and no other call. -/
structure Machine.Busy (services : Services) (machine : Machine ι) (idx : ι) (stage : Stage) :
    Prop where
  running : machine.threads idx = .running true stage
  halfway : Halfway services machine.state machine.settings stage
  alone : ∀ other byUser stage, other ≠ idx → machine.threads other ≠ .running byUser stage

structure Machine.Kept (services : Services) (machine : Machine ι) : Prop where
  state : machine.state = machine.last
  settings : machine.Quiet services ∨ ∃ idx stage, machine.Busy services idx stage

/-- A thread goes on, and if it is running then it is an update. -/
theorem Machine.Quiet.updated (quiet : machine.Quiet services) {idx : ι} {thread : Thread}
    (next : ∀ byUser stage, thread = .running byUser stage →
      byUser = false ∧ Redo machine.state stage) :
    ∀ other byUser stage, Function.update machine.threads idx thread other = .running byUser stage →
      byUser = false ∧ Redo machine.state stage := by
  intro other byUser stage running
  by_cases here : other = idx
  · rw [here, Function.update_self] at running
    exact next byUser stage running
  · rw [Function.update_of_ne here] at running
    exact quiet.updates other byUser stage running

/-- A thread that goes on without a lock or a command. -/
theorem step_silent {idx : ι} {thread : Thread}
    (replaces : (machine.threads idx).replaces = none)
    (silent : (machine.threads idx).command? = none)
    (next : (machine.threads idx).next services machine.state = thread) :
    machine.step services idx =
      { machine with threads := Function.update machine.threads idx thread } := by
  rw [Machine.step]
  simp only [replaces, silent, next, Option.getD_none, runCommand, ite_self]

/-- A thread that has nothing to do does not disturb the others. -/
theorem Machine.Kept.returned (kept : machine.Kept services) {idx : ι}
    (idle : ∀ byUser stage, machine.threads idx ≠ .running byUser stage) :
    Machine.Kept services
      { machine with threads := Function.update machine.threads idx .returned } := by
  refine ⟨kept.state, ?_⟩
  rcases kept.settings with quiet | ⟨user, stage, busy⟩
  · exact .inl ⟨quiet.shown, quiet.updated nofun⟩
  · have apart : user ≠ idx := fun here => idle true stage (here ▸ busy.running)
    refine .inr ⟨user, stage, ?_, busy.halfway, ?_⟩
    · simp only [Function.update_of_ne apart]
      exact busy.running
    · intro other byUser stage apart'
      by_cases here : other = idx
      · rw [here]
        simp
      · simp only [Function.update_of_ne here]
        exact busy.alone other byUser stage apart'

omit [DecidableEq ι] in
theorem Machine.Kept.shown (kept : machine.Kept services)
    (noUser : ∀ other, ¬ (machine.threads other).Begun true) : machine.Quiet services := by
  rcases kept.settings with quiet | ⟨user, stage, busy⟩
  · exact quiet
  · exact absurd ⟨stage, busy.running⟩ (noUser user)

/-- A call of the user that begins. -/
theorem Machine.Kept.begins (kept : machine.Kept services) {idx : ι}
    (byUser : (machine.threads idx).byUser = true)
    (fits : ∀ other, ¬ (machine.threads other).Begun true ∧
      ((machine.threads other).Begun false → (machine.threads idx).byUser = false)) :
    (∀ service ∈ services.active, Shows machine.state (machine.settings service)) ∧
      ∀ stage other byUser stage', other ≠ idx →
        Function.update machine.threads idx (.running true stage) other ≠ .running byUser stage' := by
  refine ⟨(kept.shown fun other => (fits other).1).shown, ?_⟩
  intro stage other byOther stage' apart running
  rw [Function.update_of_ne apart] at running
  cases byOther with
  | true => exact (fits other).1 ⟨stage', running⟩
  | false =>
      have update := (fits other).2 ⟨stage', running⟩
      rw [byUser] at update
      cases update

theorem step_kept_restore {idx : ι} (kept : machine.Kept services)
    (called : machine.threads idx = .called .restore) (fits : machine.Fits idx) :
    Machine.Kept services (machine.step services idx) := by
  have byUser : (machine.threads idx).byUser = true := by rw [called]; rfl
  have begun : (machine.threads idx).Begins machine.state := by rw [called]; trivial
  obtain ⟨shown, alone⟩ := kept.begins byUser (fits begun)
  have stepped : machine.step services idx =
      ⟨.off, machine.settings,
        Function.update machine.threads idx (.running true (.relisting machine.state)), .off⟩ := by
    rw [Machine.step, called]
    rfl
  rw [stepped]
  refine ⟨rfl, .inr ⟨idx, .relisting machine.state, Function.update_self .., ?_, alone _⟩⟩
  intro service active
  exact ⟨(shown service active).nothing, fun kind => (shown service active).turnOff⟩

/-- A call that turns something on, or is refused, stores nothing yet. -/
theorem Thread.called_enable {call : SystemCall} (enables : call ≠ .restore) (services : Services)
    (state : ProxyState) :
    (Thread.called call).replaces = none ∧
      (Thread.called call).next services state =
        (match call.newState.command? with
        | some command => .running true (.applying command call.newState services.active)
        | none => .returned) ∧
      (call.newState.command? ≠ none → (Thread.called call).Begins state) := by
  cases call with
  | restore => exact absurd rfl enables
  | setPac autoConfigUrl => exact ⟨rfl, rfl, fun _ => nofun⟩
  | setProxy address => exact ⟨rfl, rfl, fun sets => sets⟩

theorem step_kept_called {idx : ι} {call : SystemCall} (kept : machine.Kept services)
    (called : machine.threads idx = .called call) (fits : machine.Fits idx) :
    Machine.Kept services (machine.step services idx) := by
  by_cases restores : call = .restore
  · exact step_kept_restore kept (restores ▸ called) fits
  · have byUser : (machine.threads idx).byUser = true := by rw [called]; rfl
    have command : (machine.threads idx).command? = none := by rw [called]; rfl
    obtain ⟨silent, next, begins⟩ := Thread.called_enable restores services machine.state
    rw [← called] at silent next begins
    cases sets : call.newState.command? with
    | none =>
        rw [sets] at next
        rw [step_silent silent command next]
        refine kept.returned ?_
        rw [called]
        nofun
    | some command' =>
        have begun : (machine.threads idx).Begins machine.state := begins (by rw [sets]; nofun)
        obtain ⟨shown, alone⟩ := kept.begins byUser (fits begun)
        rw [sets] at next
        rw [step_silent silent command next]
        refine ⟨kept.state, .inr ⟨idx, .applying command' call.newState services.active,
          Function.update_self .., ⟨sets, ?_⟩, alone _⟩⟩
        intro service active
        exact ⟨.inl (shown service active), fun missing => absurd active missing⟩

theorem step_kept_updating {idx : ι} (kept : machine.Kept services)
    (updating : machine.threads idx = .updating) (fits : machine.Fits idx) :
    Machine.Kept services (machine.step services idx) := by
  have silent : (machine.threads idx).replaces = none := by rw [updating]; rfl
  have command : (machine.threads idx).command? = none := by rw [updating]; rfl
  cases sets : machine.state.command? with
  | none =>
      have next : (machine.threads idx).next services machine.state = .returned := by
        rw [updating, Thread.next, sets]
      rw [step_silent silent command next]
      refine kept.returned ?_
      rw [updating]
      nofun
  | some command' =>
      have next : (machine.threads idx).next services machine.state =
          .running false (.listing command' machine.state) := by
        rw [updating, Thread.next, sets]
      have begun : (machine.threads idx).Begins machine.state := by
        rw [updating]
        intro nothing
        rw [sets] at nothing
        cases nothing
      have quiet := kept.shown fun other => (fits begun other).1
      rw [step_silent silent command next]
      refine ⟨kept.state, .inl ⟨quiet.shown, quiet.updated ?_⟩⟩
      intro byUser stage running
      cases running
      exact ⟨rfl, rfl, sets⟩

theorem step_kept_user {idx : ι} {stage : Stage} (kept : machine.Kept services)
    (running : machine.threads idx = .running true stage) :
    Machine.Kept services (machine.step services idx) := by
  have byUser : (machine.threads idx).byUser = true := by rw [running]; rfl
  obtain ⟨halfway, alone⟩ : Halfway services machine.state machine.settings stage ∧
      ∀ other byUser stage, other ≠ idx → machine.threads other ≠ .running byUser stage := by
    rcases kept.settings with quiet | ⟨user, stage', busy⟩
    · cases (quiet.updates idx true stage running).1
    · by_cases here : idx = user
      · subst here
        have same := busy.running.symm.trans running
        cases same
        exact ⟨busy.halfway, busy.alone⟩
      · exact absurd running (busy.alone idx true stage here)
  have others : ∀ thread other byUser stage, other ≠ idx →
      Function.update machine.threads idx thread other ≠ .running byUser stage := by
    intro thread other byUser stage apart
    rw [Function.update_of_ne apart]
    exact alone other byUser stage apart
  have state : (machine.step services idx).state = (machine.step services idx).last := by
    rw [Machine.step]
    simp only [byUser, if_true]
    rw [kept.state]
  refine ⟨state, ?_⟩
  rcases halfway_step halfway running with ⟨returned, shown⟩ | ⟨stage', next, halfway⟩
  · refine .inl ⟨shown, ?_⟩
    intro other byUser' stage' going
    by_cases here : other = idx
    · rw [here, Machine.step] at going
      simp only [Function.update_self, returned] at going
      cases going
    · exact absurd going (others _ other byUser' stage' here)
  · refine .inr ⟨idx, stage', ?_, halfway, others _⟩
    rw [Machine.step]
    simp only [Function.update_self, next]

theorem step_kept_update {idx : ι} {stage : Stage} (kept : machine.Kept services)
    (running : machine.threads idx = .running false stage) :
    Machine.Kept services (machine.step services idx) := by
  have byUser : (machine.threads idx).byUser = false := by rw [running]; rfl
  have quiet : machine.Quiet services := by
    rcases kept.settings with quiet | ⟨user, stage', busy⟩
    · exact quiet
    · by_cases here : idx = user
      · rw [here, busy.running] at running
        cases running
      · exact absurd running (busy.alone idx false stage here)
  obtain ⟨state, shown, next⟩ :=
    redo_step (quiet.updates idx false stage running).2 quiet.shown running
  have stepped : machine.step services idx =
      ⟨machine.state, runCommand machine.settings (machine.threads idx).command?,
        Function.update machine.threads idx ((machine.threads idx).next services machine.state),
        machine.last⟩ := by
    rw [Machine.step]
    simp only [byUser, state, Bool.false_eq_true, if_false]
  rw [stepped]
  exact ⟨kept.state, .inl ⟨shown, quiet.updated next⟩⟩

theorem machine_step_kept (idx : ι) (kept : machine.Kept services) (fits : machine.Fits idx) :
    Machine.Kept services (machine.step services idx) := by
  cases thread : machine.threads idx with
  | called call => exact step_kept_called kept thread fits
  | updating => exact step_kept_updating kept thread fits
  | running byUser stage =>
      cases byUser with
      | true => exact step_kept_user kept thread
      | false => exact step_kept_update kept thread
  | returned =>
      have silent : (machine.threads idx).replaces = none := by rw [thread]; rfl
      have command : (machine.threads idx).command? = none := by rw [thread]; rfl
      have next : (machine.threads idx).next services machine.state = .returned := by
        rw [thread]
        rfl
      rw [step_silent silent command next]
      refine kept.returned ?_
      rw [thread]
      nofun

/-- While calls of the user do not overlap with other calls, the last of them is in
effect when all are over. -/
theorem obeys_of_fits (initial : machine.Initial services) {events : List ι}
    (fits : AllSteps (Machine.step services) Machine.Fits machine events) :
    AllStates (Machine.step services) (Machine.Obeys services) machine events := by
  have first : machine.Kept services := by
    refine ⟨initial.state, .inl ⟨initial.shown, ?_⟩⟩
    intro idx byUser stage running
    exact absurd running (initial.calls idx byUser stage)
  have shows' : ∀ machine : Machine ι, machine.Kept services → machine.Obeys services := by
    intro machine kept finished
    refine ⟨kept.state, ?_⟩
    rw [← kept.state]
    refine (kept.shown ?_).shown
    intro idx begun
    obtain ⟨stage, running⟩ := begun
    rw [finished idx] at running
    cases running
  exact allStates_of_allSteps (fun _ idx kept fits => machine_step_kept idx kept fits) shows' first fits

end Runs

def wiFi : Services where
  listed := ["Wi-Fi"]
  isActive _ := true

def pacUrl : String := "http://127.0.0.1/pac"

/-- The auto proxy has been set, and is to be turned off. -/
def pacMachine : Machine (Fin 2) where
  state := .pac pacUrl
  settings := applyAll (.setAutoProxyUrl pacUrl) ["Wi-Fi"] untouchedWorld.settings
  threads idx := if idx = 0 then .called .restore else .updating
  last := .pac pacUrl

theorem pacMachine_initial : pacMachine.Initial wiFi := by
  constructor
  · intro idx byUser stage running
    rw [pacMachine] at running
    simp only at running
    split at running <;> cases running
  · rfl
  · intro service active
    obtain rfl := List.mem_singleton.mp active
    constructor
    · intro kind on
      cases kind with
      | pac => rfl
      | proxy => cases on
    · intro command sets
      cases sets
      rfl

theorem obeys_of_fits_restore :
    AllStates (Machine.step wiFi) (Machine.Obeys wiFi) pacMachine [0, 0, 0, 0, 1] := by
  have begins : pacMachine.Fits 0 := by
    intro _ other
    constructor
    · intro begun
      obtain ⟨stage, running⟩ := begun
      exact pacMachine_initial.calls other true stage running
    · intro begun
      obtain ⟨stage, running⟩ := begun
      exact absurd running (pacMachine_initial.calls other false stage)
  exact obeys_of_fits pacMachine_initial
    ⟨begins, fun absurd => absurd.elim, fun absurd => absurd.elim, fun absurd => absurd.elim,
      fun off => absurd rfl off, trivial⟩

/-- An update that has read the state in front of a `restore` sets it again. -/
theorem restored_proxy_back :
    ¬ AllStates (Machine.step wiFi) (Machine.Obeys wiFi) pacMachine [1, 0, 0, 0, 0, 1, 1, 1] := by
  intro all
  have finished : ∀ idx, (([1, 0, 0, 0, 0, 1, 1, 1] : List (Fin 2)).foldl (Machine.step wiFi)
      pacMachine).threads idx = .returned := by
    intro idx
    match idx with
    | 0 => rfl
    | 1 => rfl
  have state := (all.2.2.2.2.2.2.2.2 finished).1
  cases state

end CovertConnect.SysProxy
