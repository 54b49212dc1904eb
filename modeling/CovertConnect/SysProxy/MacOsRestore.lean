import CovertConnect.Data.Trace
import CovertConnect.SysProxy.MacOs

namespace CovertConnect.SysProxy

open CovertConnect.Data

/-! # What `restore` undoes on macOS

The settings of a service may be ahead of the remembered state when a command
fails, and the remembered state ahead of the settings when a listing exits with
a code; `restore` only turns off what is remembered, on the services that are
listed. -/

def SystemCall.run (services : Services) : SystemCall → Shell Unit
  | .setPac autoConfigUrl => SysProxy.setPac services autoConfigUrl
  | .setProxy address => SysProxy.setProxy services address
  | .restore => SysProxy.restore services

/-- The kind of settings that a call turns on. -/
def SystemCall.kind? : SystemCall → Option Kind
  | .setPac _ => some .pac
  | .setProxy address =>
      match addressParts address with
      | .ok _ => some .proxy
      | .error _ => none
  | .restore => none

/-- A call, and how the commands that it runs end. -/
def step (services : Services) (world : World) (event : SystemCall × List Exit) : World :=
  (event.1.run services { world with outcomes := event.2 }).2

/-- The program has turned the setting on. -/
def World.Ours (world : World) (kind : Kind) (service : String) : Prop :=
  (world.settings service).switch kind = .on true

/-- A `restore` that succeeds leaves nothing that the program has turned on. -/
def Undoes (services : Services) (world : World) (event : SystemCall × List Exit) : Prop :=
  event.1 = .restore → (restore services { world with outcomes := event.2 }).1 = .ok () →
    ∀ kind service, ¬ (step services world event).Ours kind service

/-- So would any `restore` that gets the services listed. -/
def Undone (services : Services) (world : World) : Prop :=
  ∀ outcomes, outcomes.head? ≠ some .nonZero → Undoes services world (.restore, outcomes)

/-- Before the first call. -/
structure Fresh (world : World) : Prop where
  off : world.state = .off
  untouched : ∀ kind service, ¬ world.Ours kind service

/-- Nothing is set on services that are not active. -/
def Inside (services : Services) (world : World) : Prop :=
  ∀ kind service, world.Ours kind service → service ∈ services.active

/-- What is set is remembered. -/
def Covered (world : World) : Prop :=
  ∀ kind service, world.Ours kind service → world.state.kind? = some kind

/-- Turning a kind on: it is remembered already, or it ends before the first
service, or it runs to its end and turns the other kind off on all that have it. -/
def EnableFits (services : Services) (world : World) (kind : Kind) (outcomes : List Exit) : Prop :=
  world.state.kind? = some kind ∨
    (¬ completes services.active outcomes ∧ attempt services.active outcomes = []) ∨
    (completes services.active outcomes ∧
      ∀ other service, other ≠ kind → world.Ours other service →
        service ∈ attempt services.listed (unusedOf services.active outcomes))

/-- The commands of a call do not stop half way, and turn off all that is on. -/
def Fits (services : Services) (world : World) (event : SystemCall × List Exit) : Prop :=
  match event.1 with
  | .restore => ∀ kind service, world.Ours kind service → service ∈ attempt services.listed event.2
  | call => ∀ kind, call.kind? = some kind → EnableFits services world kind event.2

theorem active_listed {services : Services} {service : String} (active : service ∈ services.active) :
    service ∈ services.listed :=
  (List.mem_filter.mp active).1

section Loops

variable {command : Command} {kind : Kind} {switch : Switch} {services : List String}
  {settings : String → Settings} {service : String}

theorem switch_applyAll (turns : Turns command kind switch) :
    (applyAll command services settings service).switch kind =
      if service ∈ services then switch else (settings service).switch kind := by
  rw [applyAll]
  split
  · exact turns.here _
  · rfl

theorem switch_applyAll_other (turns : Turns command kind switch) {kind' : Kind}
    (other : kind' ≠ kind) :
    (applyAll command services settings service).switch kind' = (settings service).switch kind' :=
  applyAll_keeps (Settings.switch kind') (fun settings => turns.other settings other) _ _ _

end Loops

theorem Kind.eq_of_ne {kind first second : Kind} (other : first ≠ kind) (other' : second ≠ kind) :
    first = second := by
  cases kind <;> cases first <;> cases second <;> first | rfl | exact absurd rfl other |
    exact absurd rfl other'

theorem reached_subset (services : List String) (outcomes : List Exit) :
    reached services outcomes ⊆ services := by
  induction services generalizing outcomes with
  | nil => exact List.Subset.refl _
  | cons service services ih =>
      cases outcomes with
      | nil => exact List.Subset.refl _
      | cons exit outcomes =>
          rw [reached]
          split
          · exact List.cons_subset_cons service (ih outcomes)
          · exact List.nil_subset _

theorem attempt_subset (names : List String) (outcomes : List Exit) :
    attempt names outcomes ⊆ names := by
  rw [attempt]
  split
  · exact reached_subset names outcomes.tail
  · exact List.nil_subset _

section Enable

variable {services : Services} {command : Command} {newState : ProxyState} {kind : Kind}
  {world : World}

/-- A kind that has been turned off for some services is left to the others. -/
theorem ours_turnOff (kind : Kind) (services : List String) (settings : String → Settings)
    (service : String) :
    (applyAll kind.offCommand services settings service).switch kind = .on true ↔
      service ∉ services ∧ (settings service).switch kind = .on true := by
  rw [switch_applyAll (turns_off kind)]
  split
  · rename_i turnedOff
    exact iff_of_false nofun fun both => both.1 turnedOff
  · rename_i left
    exact (and_iff_right left).symm

/-- What turning a kind on does: it is cut short, or it is remembered from then
on, and the other kind is turned off as far as the outcomes allow. -/
theorem enable_cases (turns : Turns command kind (.on true)) (known : newState.kind? = some kind)
    {after : World} (ran : (enable services command newState world).2 = after) :
    (∀ service, after.Ours kind service ↔
      service ∈ attempt services.active world.outcomes ∨ world.Ours kind service) ∧
    (¬ completes services.active world.outcomes ∧ after.state = world.state ∧
        (∀ other service, other ≠ kind → (after.Ours other service ↔ world.Ours other service)) ∨
      completes services.active world.outcomes ∧ after.state = newState ∧
        ((world.state.kind? = none ∨ world.state.kind? = some kind) ∧
            (∀ other service, other ≠ kind → (after.Ours other service ↔ world.Ours other service)) ∨
          ∃ old, old ≠ kind ∧ world.state.kind? = some old ∧
            ∀ service, after.Ours old service ↔
              service ∉ attempt services.listed (unusedOf services.active world.outcomes) ∧
                world.Ours old service)) := by
  have turned : ∀ services service, (applyAll command services world.settings service).switch kind =
      .on true ↔ service ∈ services ∨ world.Ours kind service := by
    intro services service
    rw [switch_applyAll turns, World.Ours]
    split <;> simp [*]
  have untouched : ∀ services other service, other ≠ kind →
      ((applyAll command services world.settings service).switch other = .on true ↔
        world.Ours other service) := by
    intro services other service apart
    rw [switch_applyAll_other turns apart, World.Ours]
  by_cases complete : completes services.active world.outcomes
  · rw [enable_complete complete, known] at ran
    by_cases same : world.state.kind? = none ∨ world.state.kind? = some kind
    · rw [if_pos same] at ran
      subst ran
      exact ⟨turned _, .inr ⟨complete, rfl, .inl ⟨same, untouched _⟩⟩⟩
    · rw [if_neg same] at ran
      obtain ⟨old, remembered⟩ : ∃ old, world.state.kind? = some old :=
        Option.ne_none_iff_exists'.mp fun none => same (.inl none)
      have apart : old ≠ kind := by
        intro equal
        exact same (.inr (equal ▸ remembered))
      rw [restoreState_eq services remembered, (listedLoop_run _ _ _).1] at ran
      subst ran
      constructor
      · intro service
        rw [World.Ours, switch_applyAll_other (turns_off old) apart.symm]
        exact turned _ service
      · refine .inr ⟨complete, rfl, .inr ⟨old, apart, remembered, ?_⟩⟩
        intro service
        exact (ours_turnOff old _ _ service).trans
          (and_congr_right' (untouched _ old service apart))
  · obtain ⟨error, run⟩ := @enable_incomplete services command newState world complete
    rw [run] at ran
    subst ran
    exact ⟨turned _, .inl ⟨complete, rfl, untouched _⟩⟩

theorem enable_inside (inside : Inside services world) (turns : Turns command kind (.on true))
    (known : newState.kind? = some kind) :
    Inside services (enable services command newState world).2 := by
  obtain ⟨here, what⟩ := @enable_cases services _ _ _ world turns known _ rfl
  intro other service ours
  by_cases apart : other = kind
  · rw [apart] at ours
    rcases (here service).mp ours with reached | before
    · exact attempt_subset services.active world.outcomes reached
    · exact inside kind service before
  · rcases what with ⟨-, -, others⟩ | ⟨-, -, ⟨-, others⟩ | ⟨old, apart', -, turnedOff⟩⟩
    · exact inside other service ((others other service apart).mp ours)
    · exact inside other service ((others other service apart).mp ours)
    · obtain rfl := Kind.eq_of_ne apart apart'
      exact inside other service ((turnedOff service).mp ours).2

theorem enable_covered_iff (covered : Covered world) (turns : Turns command kind (.on true))
    (known : newState.kind? = some kind) :
    Covered (enable services command newState world).2 ↔
      EnableFits services world kind world.outcomes := by
  obtain ⟨here, what⟩ := @enable_cases services _ _ _ world turns known _ rfl
  rcases what with ⟨incomplete, state, others⟩ |
    ⟨complete, state, ⟨same, others⟩ | ⟨old, apart, remembered, turnedOff⟩⟩
  · -- The state is the old one, and some services may be ahead of it.
    rw [Covered, state]
    constructor
    · intro after
      by_cases nobody : attempt services.active world.outcomes = []
      · exact .inr (.inl ⟨incomplete, nobody⟩)
      · obtain ⟨service, reached⟩ := List.exists_mem_of_ne_nil _ nobody
        exact .inl (after kind service ((here service).mpr (.inl reached)))
    · intro fits other service ours
      by_cases apart : other = kind
      · rw [apart] at ours ⊢
        rcases fits with remembered | ⟨-, nobody⟩ | ⟨complete, -⟩
        · exact remembered
        · rw [here, nobody] at ours
          exact covered kind service (ours.resolve_left List.not_mem_nil)
        · exact absurd complete incomplete
      · exact covered other service ((others other service apart).mp ours)
  · -- Nothing of the other kind is remembered, so none of it is on.
    have none_other : ∀ other service, other ≠ kind → ¬ world.Ours other service := by
      intro other service apart ours
      have before := covered other service ours
      rcases same with nothing | remembered
      · rw [nothing] at before
        cases before
      · rw [remembered] at before
        exact apart (Option.some.inj before).symm
    apply iff_of_true
    · intro other service ours
      by_cases apart : other = kind
      · rw [state, known, apart]
      · exact absurd ((others other service apart).mp ours) (none_other other service apart)
    · exact .inr (.inr ⟨complete, fun other service apart ours =>
        absurd ours (none_other other service apart)⟩)
  · -- The other kind has to be turned off everywhere.
    constructor
    · intro after
      refine .inr (.inr ⟨complete, ?_⟩)
      intro other service apart' before
      rw [Kind.eq_of_ne apart' apart] at before
      by_contra left
      have claimed := after old service ((turnedOff service).mpr ⟨left, before⟩)
      rw [state, known] at claimed
      exact apart (Option.some.inj claimed).symm
    · intro fits other service ours
      rw [state, known]
      by_cases apart' : other = kind
      · rw [apart']
      · rw [Kind.eq_of_ne apart' apart] at ours
        obtain ⟨left, before⟩ := (turnedOff service).mp ours
        rcases fits with remembered' | ⟨incomplete, -⟩ | ⟨-, everywhere⟩
        · rw [remembered] at remembered'
          exact absurd (Option.some.inj remembered') apart
        · exact absurd complete incomplete
        · exact absurd (everywhere old service apart before) left

end Enable

/-- A call that turns a kind on, or one that is refused before its first command. -/
theorem run_cases (services : Services) {call : SystemCall} (sets : call ≠ .restore) :
    (∃ command newState kind, call.kind? = some kind ∧ newState.kind? = some kind ∧
        Turns command kind (.on true) ∧ call.run services = enable services command newState) ∨
      call.kind? = none ∧ ∃ error, ∀ world, call.run services world = (.error error, world) := by
  cases call with
  | restore => exact absurd rfl sets
  | setPac autoConfigUrl =>
      exact .inl ⟨_, _, .pac, rfl, rfl, turns_pac autoConfigUrl, setPac_eq services autoConfigUrl⟩
  | setProxy address =>
      cases parts : addressParts address with
      | ok both =>
          obtain ⟨domain, port⟩ := both
          refine .inl ⟨_, .proxy address, .proxy, ?_, rfl, turns_proxy domain port,
            setProxy_eq services parts⟩
          rw [SystemCall.kind?, parts]
      | error error =>
          refine .inr ⟨?_, error, setProxy_invalid services parts⟩
          rw [SystemCall.kind?, parts]

theorem ProxyState.eq_off {state : ProxyState} (nothing : state.kind? = none) : state = .off := by
  cases state with
  | off => rfl
  | pac autoConfigUrl => cases nothing
  | proxy address => cases nothing

section Restore

variable {services : Services} {world : World}

theorem restore_nothing (nothing : world.state = .off) :
    restore services world = restoreState services .off { world with state := .off } := by
  show restoreState services world.state { world with state := .off } = _
  rw [nothing]

theorem restore_kind {kind : Kind} (remembered : world.state.kind? = some kind) :
    restore services world = listedLoop services.listed kind.offCommand { world with state := .off } := by
  show restoreState services world.state { world with state := .off } = _
  rw [restoreState_eq services remembered]

/-- The remembered kind is turned off as far as the outcomes allow. -/
theorem restore_cases {after : World} (ran : (restore services world).2 = after) :
    after.state = .off ∧
      (world.state.kind? = none ∧ (∀ kind service, after.Ours kind service ↔ world.Ours kind service) ∨
        ∃ kind, world.state.kind? = some kind ∧
          (∀ service, after.Ours kind service ↔
            service ∉ attempt services.listed world.outcomes ∧ world.Ours kind service) ∧
          ∀ other service, other ≠ kind → (after.Ours other service ↔ world.Ours other service)) := by
  cases remembered : world.state.kind? with
  | none =>
      rw [restore_nothing (ProxyState.eq_off remembered), (restoreState_off _ _).1] at ran
      subst ran
      exact ⟨rfl, .inl ⟨rfl, fun _ _ => Iff.rfl⟩⟩
  | some kind =>
      rw [restore_kind remembered, (listedLoop_run _ _ _).1] at ran
      subst ran
      refine ⟨rfl, .inr ⟨kind, rfl, ours_turnOff kind _ _, ?_⟩⟩
      intro other service apart
      rw [World.Ours, switch_applyAll_other (turns_off kind) apart]
      rfl

theorem restore_inside (inside : Inside services world) : Inside services (restore services world).2 := by
  obtain ⟨-, what⟩ := @restore_cases services world _ rfl
  intro kind service ours
  rcases what with ⟨-, same⟩ | ⟨kind', -, turnedOff, others⟩
  · exact inside kind service ((same kind service).mp ours)
  · by_cases apart : kind = kind'
    · rw [apart] at ours
      exact inside kind' service ((turnedOff service).mp ours).2
    · exact inside kind service ((others kind service apart).mp ours)

/-- After a `restore` nothing is remembered, so nothing may be on. -/
theorem restore_covered_iff :
    Covered (restore services world).2 ↔
      ∀ kind service, ¬ (restore services world).2.Ours kind service := by
  obtain ⟨state, -⟩ := @restore_cases services world _ rfl
  rw [Covered, state]
  exact forall₂_congr fun kind service => imp_congr_right fun _ => iff_of_false nofun id

/-- A `restore` leaves nothing just when the services that it reaches are all that
have something on. -/
theorem restore_nothing_iff (covered : Covered world) :
    (∀ kind service, ¬ (restore services world).2.Ours kind service) ↔
      ∀ kind service, world.Ours kind service → service ∈ attempt services.listed world.outcomes := by
  obtain ⟨-, what⟩ := @restore_cases services world _ rfl
  apply forall₂_congr
  intro kind service
  rcases what with ⟨nothing, same⟩ | ⟨kind', remembered, turnedOff, others⟩
  · have untouched : ¬ world.Ours kind service := fun ours =>
      absurd ((covered kind service ours).symm.trans nothing) nofun
    exact iff_of_true (fun ours => untouched ((same kind service).mp ours))
      fun ours => absurd ours untouched
  · by_cases apart : kind = kind'
    · rw [apart, turnedOff, not_and', imp_congr_right fun _ => not_not]
    · have untouched : ¬ world.Ours kind service := fun ours =>
        apart (Option.some.inj ((covered kind service ours).symm.trans remembered))
      exact iff_of_true (fun ours => untouched ((others kind service apart).mp ours))
        fun ours => absurd ours untouched

/-- A `restore` that succeeds reaches all services that it gets listed. -/
theorem restore_ok {kind : Kind} (remembered : world.state.kind? = some kind)
    (succeeds : (restore services world).1 = .ok ()) : completes services.listed world.outcomes := by
  rw [restore_kind remembered] at succeeds
  exact (listedLoop_run services.listed kind.offCommand { world with state := .off }).2.mp succeeds

theorem restore_succeeds (services : Services) {world : World} (all : world.outcomes = []) :
    (restore services world).1 = .ok () := by
  cases remembered : world.state.kind? with
  | none =>
      rw [restore_nothing (ProxyState.eq_off remembered)]
      apply (restoreState_off services _).2.mpr
      rw [all]
      exact nofun
  | some kind =>
      rw [restore_kind remembered]
      apply (listedLoop_run services.listed kind.offCommand _).2.mpr
      show completes services.listed world.outcomes
      rw [all]
      exact reached_nil services.listed

/-- A `restore` undoes everything just when everything is remembered. -/
theorem undone_iff_covered (inside : Inside services world) :
    Undone services world ↔ Covered world := by
  constructor
  · intro undone kind service ours
    have nothing := undone [] nofun rfl (restore_succeeds services rfl) kind service
    obtain ⟨-, what⟩ := @restore_cases services { world with outcomes := [] } _ rfl
    rcases what with ⟨-, same⟩ | ⟨kind', remembered, -, others⟩
    · exact absurd ((same kind service).mpr ours) nothing
    · by_cases apart : kind = kind'
      · rw [apart]
        exact remembered
      · exact absurd ((others kind service apart).mpr ours) nothing
  · intro covered outcomes exits _ succeeds
    apply (@restore_nothing_iff services { world with outcomes } covered).mpr
    intro kind service ours
    have complete := @restore_ok services { world with outcomes } kind (covered kind service ours)
      succeeds
    rw [attempt_of_completes complete, if_pos (answers_of_completes complete exits)]
    exact active_listed (inside kind service ours)

end Restore

theorem step_inside {services : Services} {world : World} (event : SystemCall × List Exit)
    (inside : Inside services world) : Inside services (step services world event) := by
  obtain ⟨call, outcomes⟩ := event
  have before : Inside services { world with outcomes } := inside
  by_cases restores : call = .restore
  · subst restores
    exact restore_inside before
  · rcases run_cases services restores with ⟨_, _, _, _, known, turns, run⟩ | ⟨-, error, idle⟩
    · rw [step, run]
      exact enable_inside before turns known
    · rw [step, idle]
      exact before

theorem fits_set {services : Services} {world : World} {call : SystemCall} {outcomes : List Exit}
    (sets : call ≠ .restore) :
    Fits services world (call, outcomes) ↔
      ∀ kind, call.kind? = some kind → EnableFits services world kind outcomes := by
  cases call with
  | restore => exact absurd rfl sets
  | setPac autoConfigUrl => exact Iff.rfl
  | setProxy address => exact Iff.rfl

theorem step_covered_iff {services : Services} {world : World} (event : SystemCall × List Exit)
    (covered : Covered world) : Covered (step services world event) ↔ Fits services world event := by
  obtain ⟨call, outcomes⟩ := event
  have before : Covered { world with outcomes } := covered
  by_cases restores : call = .restore
  · subst restores
    exact restore_covered_iff.trans (restore_nothing_iff before)
  · rw [fits_set restores]
    rcases run_cases services restores with ⟨_, _, kind, sets, known, turns, run⟩ | ⟨nothing, error, idle⟩
    · rw [step, run, enable_covered_iff before turns known, sets]
      exact ⟨fun fits other same => Option.some.inj same ▸ fits, fun fits => fits kind rfl⟩
    · rw [step, idle, nothing]
      exact iff_of_true covered nofun

/-- A `restore` behind which everything on is remembered has left nothing on. -/
theorem undoes_of_covered {services : Services} {world : World} {event : SystemCall × List Exit}
    (covered : Covered (step services world event)) : Undoes services world event := by
  obtain ⟨call, outcomes⟩ := event
  intro restores _
  obtain rfl : call = .restore := restores
  exact restore_covered_iff.mp covered

theorem Fresh.inside {services : Services} {world : World} (fresh : Fresh world) :
    Inside services world :=
  fun kind service ours => absurd ours (fresh.untouched kind service)

theorem Fresh.covered {world : World} (fresh : Fresh world) : Covered world :=
  fun kind service ours => absurd ours (fresh.untouched kind service)

/-- Every `restore` of a run that succeeds leaves nothing of the earlier calls, and so
would one more that gets the services listed, just when no call stops half way or
leaves on what it is to turn off. -/
theorem undone_iff (services : Services) {world : World} (fresh : Fresh world)
    (events : List (SystemCall × List Exit)) :
    AllStates (step services) (Undone services) world events ∧
        AllSteps (step services) (Undoes services) world events ↔
      AllSteps (step services) (Fits services) world events := by
  have each : ∀ world event, Inside services world → Undone services world → True →
      (Undone services (step services world event) ∧ Undoes services world event ↔
        Fits services world event) := by
    intro world event inside undone _
    have covered := (undone_iff_covered inside).mp undone
    rw [undone_iff_covered (step_inside event inside), and_iff_left_of_imp undoes_of_covered]
    exact step_covered_iff event covered
  exact allStates_and_allSteps_iff (Inside services) (fun _ _ => True) (Undoes services)
    (fun _ event inside _ => step_inside event inside) each fresh.inside
    ((undone_iff_covered fresh.inside).mpr fresh.covered) allSteps_true

def untouchedWorld : World where
  state := .off
  settings _ := {
    autoProxyUrl := "", autoProxyState := .off, secureWebProxy := ("", ""),
    secureWebProxyState := .on false }
  outcomes := []

theorem fresh_untouchedWorld : Fresh untouchedWorld where
  off := rfl
  untouched kind service := by cases kind <;> nofun

def twoServices : Services where
  listed := ["Wi-Fi", "Ethernet"]
  isActive _ := true

/-- The command that is to set the first service exits with a code. -/
def failedProxy : List (SystemCall × List Exit) :=
  [(.setPac "http://127.0.0.1/pac", []),
    (.setProxy "http://127.0.0.1:25445", [.success, .nonZero]), (.restore, [])]

theorem fits_failedProxy : AllSteps (step twoServices) (Fits twoServices) untouchedWorld failedProxy := by
  have inside : Inside twoServices untouchedWorld := fresh_untouchedWorld.inside
  refine ⟨?_, ?_, ?_, trivial⟩
  · intro kind here
    refine .inr (.inr ⟨by decide, ?_⟩)
    intro other service _ ours
    exact absurd ours (fresh_untouchedWorld.untouched other service)
  · intro kind _
    exact .inr (.inl ⟨by decide, by decide⟩)
  · intro kind service ours
    exact active_listed (step_inside _ (step_inside _ inside) kind service ours)

theorem undone_iff_failedProxy :
    AllStates (step twoServices) (Undone twoServices) untouchedWorld failedProxy ∧
      AllSteps (step twoServices) (Undoes twoServices) untouchedWorld failedProxy :=
  (undone_iff twoServices fresh_untouchedWorld failedProxy).mpr fits_failedProxy

/-- A `restore` does nothing after a `set_pac` that has failed at the second service, or
after a `restore` that has, or when the listing of the services exits with a code. -/
theorem not_undone :
    (¬ AllSteps (step twoServices) (Undoes twoServices) untouchedWorld
        [(.setPac "http://127.0.0.1/pac", [.success, .success, .nonZero]), (.restore, [])]) ∧
      (¬ AllSteps (step twoServices) (Undoes twoServices) untouchedWorld
        [(.setPac "http://127.0.0.1/pac", []), (.restore, [.success, .success, .nonZero]),
          (.restore, [])]) ∧
      ¬ AllSteps (step twoServices) (Undoes twoServices) untouchedWorld
        [(.setPac "http://127.0.0.1/pac", []), (.restore, [.nonZero])] := by
  refine ⟨?_, ?_, ?_⟩
  · intro all
    exact all.2.1 rfl rfl .pac "Wi-Fi" rfl
  · intro all
    exact all.2.2.1 rfl rfl .pac "Ethernet" rfl
  · intro all
    exact all.2.1 rfl rfl .pac "Wi-Fi" rfl

end CovertConnect.SysProxy
