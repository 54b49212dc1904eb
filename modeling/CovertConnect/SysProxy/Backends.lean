import CovertConnect.SysProxy.Linux
import CovertConnect.SysProxy.MacOsRestore
import CovertConnect.SysProxy.Windows

namespace CovertConnect.SysProxy

open CovertConnect.Data

/-! # One specification for the three systems

On Linux the last call decides.  On macOS and Windows a setting of the other
kind may stay beside the one that the call asks for, and on macOS a call that
gets no services listed changes nothing. -/

def Settings.effective (settings : Settings) : Effective (String × String) where
  autoConfig := if settings.autoProxyState = .off then none else some settings.autoProxyUrl
  manual := if settings.secureWebProxyState = .off then none else some settings.secureWebProxy

/-- The settings of every active service count. -/
def macOs (services : Services) : Backend World Exit (String × String) where
  run call outcomes world := call.run services { world with outcomes }
  Shows world effective :=
    ∀ service ∈ services.active, (world.settings service).effective = effective
  address address := (addressParts address).toOption

/-- Two settings agree in one kind. -/
def Effective.Agrees {α : Type} (kind : Kind) (first second : Effective α) : Prop :=
  match kind with
  | .pac => first.autoConfig = second.autoConfig
  | .proxy => first.manual = second.manual

/-- The outcomes that a call leaves for turning off what was remembered. -/
def leftForOff (services : Services) (event : SystemCall × List Exit) : List Exit :=
  match event.1 with
  | .restore => event.2
  | _ => unusedOf services.active event.2

/-- A call that succeeds gets the services listed for the kind that it sets, or for
the remembered one that it turns off. -/
def Reaches (services : Services) (state : ProxyState) (event : SystemCall × List Exit)
    (kind : Kind) : Prop :=
  if event.1.kind? = some kind then Answers event.2
  else state.kind? = some kind ∧ Answers (leftForOff services event)

/-- On macOS, a kind shows already what the last call asks for, or this call reaches
the services with it. -/
def MacOsFits (services : Services) (world : World) (last : SystemCall × List Exit) : Prop :=
  ∀ service ∈ services.active, ∀ kind,
    (world.settings service).effective.Agrees kind ((macOs services).specified last.1) ∨
      Reaches services world.state last kind

/-- Others have not turned on what the last call does not set. -/
def OthersOff (services : Services) (world : World) (last : SystemCall × List Exit) : Prop :=
  ∀ service ∈ services.active, ∀ kind, last.1.kind? ≠ some kind →
    (world.settings service).switch kind ≠ .on false

/-- What is remembered is set on all active services. -/
def Full (services : Services) (world : World) : Prop :=
  ∀ kind, world.state.kind? = some kind → ∀ service ∈ services.active, world.Ours kind service

theorem Effective.Agrees.refl {α : Type} (kind : Kind) (effective : Effective α) :
    effective.Agrees kind effective := by
  cases kind <;> rfl

theorem Effective.eq_iff_agrees {α : Type} {first second : Effective α} :
    first = second ↔ ∀ kind, first.Agrees kind second := by
  obtain ⟨autoConfig, manual⟩ := first
  obtain ⟨autoConfig', manual'⟩ := second
  rw [Effective.mk.injEq]
  constructor
  · intro same kind
    cases kind with
    | pac => exact same.1
    | proxy => exact same.2
  · intro agrees
    exact ⟨agrees .pac, agrees .proxy⟩

theorem Settings.agrees_off_iff {settings : Settings} {kind : Kind}
    {wanted : Effective (String × String)} (nothing : Effective.Agrees kind ⟨none, none⟩ wanted) :
    settings.effective.Agrees kind wanted ↔ settings.switch kind = .off := by
  cases kind with
  | pac =>
      have none_autoConfig : wanted.autoConfig = none := Eq.symm nothing
      simp [Effective.Agrees, none_autoConfig, Settings.effective, Settings.switch]
  | proxy =>
      have none_manual : wanted.manual = none := Eq.symm nothing
      simp [Effective.Agrees, none_manual, Settings.effective, Settings.switch]

/-- The command brings one kind, and this one only, to what is wanted. -/
structure Brings (command : Command) (kind : Kind) (wanted : Effective (String × String)) : Prop where
  here : ∀ settings, (command.apply settings).effective.Agrees kind wanted
  other : ∀ settings {kind'}, kind' ≠ kind →
    ((command.apply settings).effective.Agrees kind' wanted ↔ settings.effective.Agrees kind' wanted)

theorem brings_off {kind : Kind} {wanted : Effective (String × String)}
    (nothing : Effective.Agrees kind ⟨none, none⟩ wanted) : Brings kind.offCommand kind wanted where
  here settings := (Settings.agrees_off_iff nothing).mpr ((turns_off kind).here settings)
  other settings kind' other := by
    cases kind <;> cases kind' <;> first | exact Iff.rfl | exact absurd rfl other

theorem brings_pac (autoConfigUrl : String) :
    Brings (.setAutoProxyUrl autoConfigUrl) .pac ⟨some autoConfigUrl, none⟩ where
  here _ := rfl
  other settings kind' other := by cases kind' <;> first | exact Iff.rfl | exact absurd rfl other

theorem brings_proxy (domain port : String) :
    Brings (.setSecureWebProxy domain port) .proxy ⟨none, some (domain, port)⟩ where
  here _ := rfl
  other settings kind' other := by cases kind' <;> first | exact Iff.rfl | exact absurd rfl other

section Loops

variable {command : Command} {kind : Kind} {wanted : Effective (String × String)}
  {names : List String} {settings : String → Settings} {outcomes : List Exit} {service : String}

/-- A loop that runs to its end brings the kind to what is wanted where it was not,
if it gets the services listed. -/
theorem agrees_loop (brings : Brings command kind wanted) (complete : completes names outcomes)
    (named : service ∈ names) :
    (applyAll command (attempt names outcomes) settings service).effective.Agrees kind wanted ↔
      (settings service).effective.Agrees kind wanted ∨ Answers outcomes := by
  rw [attempt_of_completes complete]
  by_cases answers : Answers outcomes
  · rw [if_pos answers, applyAll, if_pos named]
    exact iff_of_true (brings.here _) (.inr answers)
  · rw [if_neg answers, applyAll_nil, or_iff_left answers]

theorem agrees_loop_other (brings : Brings command kind wanted) {kind' : Kind}
    (other : kind' ≠ kind) :
    (applyAll command names settings service).effective.Agrees kind' wanted ↔
      (settings service).effective.Agrees kind' wanted :=
  iff_of_eq (applyAll_keeps (fun settings => settings.effective.Agrees kind' wanted)
    (fun settings => propext (brings.other settings other)) _ _ _)

end Loops

section MacOs

variable {services : Services} {command : Command} {newState : ProxyState} {kind : Kind}
  {world : World}

/-- A call that succeeds has run all its commands. -/
theorem enable_ok (succeeds : (enable services command newState world).1 = .ok ()) :
    completes services.active world.outcomes ∧
      ((world.state.kind? = none ∨ world.state.kind? = newState.kind?) ∧
          (enable services command newState world).2.settings =
            applyAll command (attempt services.active world.outcomes) world.settings ∨
        ∃ old, world.state.kind? = some old ∧ newState.kind? ≠ some old ∧
          completes services.listed (unusedOf services.active world.outcomes) ∧
          (enable services command newState world).2.settings =
            applyAll old.offCommand
              (attempt services.listed (unusedOf services.active world.outcomes))
              (applyAll command (attempt services.active world.outcomes) world.settings)) := by
  by_cases complete : completes services.active world.outcomes
  · refine ⟨complete, ?_⟩
    rw [enable_complete complete] at succeeds ⊢
    by_cases same : world.state.kind? = none ∨ world.state.kind? = newState.kind?
    · rw [if_pos same]
      exact .inl ⟨same, rfl⟩
    · rw [if_neg same] at succeeds ⊢
      obtain ⟨old, remembered⟩ : ∃ old, world.state.kind? = some old :=
        Option.ne_none_iff_exists'.mp fun none => same (.inl none)
      rw [restoreState_eq services remembered] at succeeds ⊢
      obtain ⟨left, ends⟩ := listedLoop_run services.listed old.offCommand
        ⟨newState, applyAll command (attempt services.active world.outcomes) world.settings,
          unusedOf services.active world.outcomes⟩
      refine .inr ⟨old, remembered, fun equal => same (.inr (remembered.trans equal.symm)),
        ends.mp succeeds, ?_⟩
      rw [left]
  · obtain ⟨error, failed⟩ := @enable_incomplete services command newState world complete
    rw [failed] at succeeds
    cases succeeds

theorem restore_settings (succeeds : (restore services world).1 = .ok ()) :
    world.state.kind? = none ∧ (restore services world).2.settings = world.settings ∨
      ∃ old, world.state.kind? = some old ∧ completes services.listed world.outcomes ∧
        (restore services world).2.settings =
          applyAll old.offCommand (attempt services.listed world.outcomes) world.settings := by
  cases remembered : world.state.kind? with
  | none =>
      rw [restore_nothing (ProxyState.eq_off remembered), (restoreState_off _ _).1]
      exact .inl ⟨rfl, rfl⟩
  | some old =>
      refine .inr ⟨old, rfl, restore_ok remembered succeeds, ?_⟩
      rw [restore_kind remembered, (listedLoop_run _ _ _).1]

/-- What an active service shows after a call of a kind that succeeds. -/
theorem enable_shows_iff {wanted : Effective (String × String)}
    (brings : Brings command kind wanted) (known : newState.kind? = some kind)
    (nothing : ∀ other, other ≠ kind → Effective.Agrees other ⟨none, none⟩ wanted)
    (succeeds : (enable services command newState world).1 = .ok ()) {service : String}
    (active : service ∈ services.active) :
    ((enable services command newState world).2.settings service).effective = wanted ↔
      ∀ other, (world.settings service).effective.Agrees other wanted ∨
        if some kind = some other then Answers world.outcomes
        else world.state.kind? = some other ∧ Answers (unusedOf services.active world.outcomes) := by
  rw [Effective.eq_iff_agrees]
  apply forall_congr'
  intro other
  obtain ⟨complete, ⟨same, settings⟩ | ⟨old, remembered, differs, complete', settings⟩⟩ :=
    enable_ok succeeds
  · rw [settings]
    by_cases here : some kind = some other
    · rw [if_pos here, ← Option.some.inj here]
      exact agrees_loop brings complete active
    · rw [if_neg here, agrees_loop_other brings fun equal => here (congrArg some equal.symm)]
      refine (or_iff_left ?_).symm
      intro turnedOff
      rcases same with none | equal
      · exact absurd (turnedOff.1.symm.trans none) nofun
      · exact here (known.symm.trans (equal.symm.trans turnedOff.1))
  · have apart : old ≠ kind := fun equal => differs (known.trans (congrArg some equal.symm))
    have off := brings_off (nothing old apart)
    rw [settings]
    by_cases here : some kind = some other
    · rw [if_pos here, ← Option.some.inj here, agrees_loop_other off apart.symm]
      exact agrees_loop brings complete active
    · have apart' : other ≠ kind := fun equal => here (congrArg some equal.symm)
      obtain rfl := Kind.eq_of_ne apart' apart
      rw [if_neg here, agrees_loop off complete' (active_listed active),
        agrees_loop_other brings apart', and_iff_right remembered]

theorem restore_shows_iff (succeeds : (restore services world).1 = .ok ()) {service : String}
    (active : service ∈ services.active) :
    ((restore services world).2.settings service).effective = ⟨none, none⟩ ↔
      ∀ kind, (world.settings service).effective.Agrees kind ⟨none, none⟩ ∨
        world.state.kind? = some kind ∧ Answers world.outcomes := by
  rw [Effective.eq_iff_agrees]
  apply forall_congr'
  intro kind
  rcases restore_settings succeeds with ⟨nothing, settings⟩ | ⟨old, remembered, complete, settings⟩
  · rw [settings]
    exact (or_iff_left fun both => absurd (both.1.symm.trans nothing) nofun).symm
  · rw [settings]
    by_cases here : kind = old
    · subst here
      rw [agrees_loop (brings_off (Effective.Agrees.refl _ _)) complete (active_listed active),
        and_iff_right remembered]
    · rw [agrees_loop_other (brings_off (Effective.Agrees.refl _ _)) here]
      exact (or_iff_left fun both => here (Option.some.inj (both.1.symm.trans remembered))).symm

theorem kind_setProxy {address : String} {both : String × String}
    (parts : addressParts address = .ok both) :
    (SystemCall.setProxy address).kind? = some .proxy := by
  rw [SystemCall.kind?, parts]

theorem macOs_shows_iff {last : SystemCall × List Exit}
    (succeeds : (macOs services).Succeeds world last) :
    (macOs services).Shows ((macOs services).step world last) ((macOs services).specified last.1) ↔
      MacOsFits services world last := by
  obtain ⟨call, outcomes⟩ := last
  apply forall₂_congr
  intro service active
  cases call with
  | restore =>
      exact @restore_shows_iff services { world with outcomes } succeeds service active
  | setPac autoConfigUrl =>
      have done : (setPac services autoConfigUrl { world with outcomes }).1 = .ok () := succeeds
      show ((setPac services autoConfigUrl { world with outcomes }).2.settings service).effective =
        ⟨some autoConfigUrl, none⟩ ↔ _
      rw [setPac_eq] at done ⊢
      exact enable_shows_iff (brings_pac autoConfigUrl) rfl
        (fun other apart => by cases other <;> first | rfl | exact absurd rfl apart) done active
  | setProxy address =>
      have done : (setProxy services address { world with outcomes }).1 = .ok () := succeeds
      rcases parts : addressParts address with error | ⟨domain, port⟩
      · rw [setProxy_invalid services parts] at done
        cases done
      · have wanted : (macOs services).specified (.setProxy address) = ⟨none, some (domain, port)⟩ := by
          show Effective.mk none (addressParts address).toOption = _
          rw [parts]
          rfl
        rw [wanted]
        show ((setProxy services address { world with outcomes }).2.settings service).effective = _ ↔ _
        rw [setProxy_eq services parts] at done ⊢
        have shown := enable_shows_iff (brings_proxy domain port) rfl
          (fun other apart => by cases other <;> first | rfl | exact absurd rfl apart) done active
        rw [shown, ← kind_setProxy parts]
        exact Iff.rfl

end MacOs

section OthersOff

variable {services : Services} {world : World} {event : SystemCall × List Exit}

theorem answers_of_exits {names : List String} {outcomes : List Exit}
    (complete : completes names outcomes) (exits : .nonZero ∉ outcomes) : Answers outcomes :=
  answers_of_completes complete fun first => exits (List.mem_of_head? first)

theorem attempt_of_exits {names : List String} {outcomes : List Exit}
    (complete : completes names outcomes) (exits : .nonZero ∉ outcomes) :
    attempt names outcomes = names := by
  rw [attempt_of_completes complete, if_pos (answers_of_exits complete exits)]

theorem leftForOff_set {call : SystemCall} {outcomes : List Exit} (sets : call ≠ .restore) :
    leftForOff services (call, outcomes) = unusedOf services.active outcomes := by
  cases call with
  | restore => exact absurd rfl sets
  | setPac autoConfigUrl => rfl
  | setProxy address => rfl

theorem leftForOff_subset (services : Services) (event : SystemCall × List Exit) :
    leftForOff services event ⊆ event.2 := by
  obtain ⟨call, outcomes⟩ := event
  cases call with
  | restore => exact List.Subset.refl _
  | setPac autoConfigUrl => exact unusedOf_subset services.active outcomes
  | setProxy address => exact unusedOf_subset services.active outcomes

/-- A call that succeeds has run the loop for the kind that it sets, and the one for
the kind that it turns off. -/
theorem completes_of_succeeds (succeeds : (macOs services).Succeeds world event) :
    (∀ kind, event.1.kind? = some kind → completes services.active event.2) ∧
      ∀ old, event.1.kind? ≠ some old → world.state.kind? = some old →
        completes services.listed (leftForOff services event) := by
  obtain ⟨call, outcomes⟩ := event
  by_cases restores : call = .restore
  · subst restores
    exact ⟨nofun, fun old _ remembered =>
      @restore_ok services { world with outcomes } old remembered succeeds⟩
  · rw [leftForOff_set restores]
    have done : (call.run services { world with outcomes }).1 = .ok () := succeeds
    rcases run_cases services restores with ⟨_, _, kind, sets, known, -, run⟩ | ⟨-, error, fails⟩
    · rw [run] at done
      obtain ⟨complete, what⟩ := enable_ok done
      refine ⟨fun _ _ => complete, ?_⟩
      intro old other remembered
      rcases what with ⟨none | equal, -⟩ | ⟨_, -, -, complete', -⟩
      · exact absurd (remembered.symm.trans none) nofun
      · exact absurd ((sets.trans (known.symm.trans equal.symm)).trans remembered) other
      · exact complete'
    · rw [fails] at done
      cases done

/-- Where no listing exits with a code, a call reaches the services with the kind that it
sets and with the remembered one. -/
theorem reaches_iff_of_exits (succeeds : (macOs services).Succeeds world event)
    (exits : .nonZero ∉ event.2) {kind : Kind} :
    Reaches services world.state event kind ↔
      event.1.kind? = some kind ∨ world.state.kind? = some kind := by
  obtain ⟨sets, turnsOff⟩ := completes_of_succeeds succeeds
  rw [Reaches]
  by_cases here : event.1.kind? = some kind
  · rw [if_pos here]
    exact iff_of_true (answers_of_exits (sets kind here) exits) (.inl here)
  · rw [if_neg here, or_iff_right here]
    apply and_iff_left_of_imp
    intro remembered
    exact answers_of_exits (turnsOff kind here remembered)
      fun left => exits (leftForOff_subset services event left)

/-- Such a call does not stop half way. -/
theorem fits_of_succeeds (inside : Inside services world) (covered : Covered world)
    (succeeds : (macOs services).Succeeds world event) (exits : .nonZero ∉ event.2) :
    Fits services world event := by
  obtain ⟨sets, turnsOff⟩ := completes_of_succeeds succeeds
  have left : ∀ kind service, event.1.kind? ≠ some kind → world.Ours kind service →
      service ∈ attempt services.listed (leftForOff services event) := by
    intro kind service other ours
    have complete := turnsOff kind other (covered kind service ours)
    rw [attempt_of_exits complete fun left => exits (leftForOff_subset services event left)]
    exact active_listed (inside kind service ours)
  obtain ⟨call, outcomes⟩ := event
  by_cases restores : call = .restore
  · subst restores
    exact fun kind service ours => left kind service nofun ours
  · rw [fits_set restores]
    intro kind here
    refine .inr (.inr ⟨sets kind here, ?_⟩)
    intro other service apart ours
    rw [← leftForOff_set restores]
    exact left other service (fun equal => apart (Option.some.inj (equal.symm.trans here))) ours

/-- After it, what is remembered is set on all active services. -/
theorem step_full (succeeds : (macOs services).Succeeds world event) (exits : .nonZero ∉ event.2) :
    Full services ((macOs services).step world event) := by
  obtain ⟨call, outcomes⟩ := event
  by_cases restores : call = .restore
  · subst restores
    obtain ⟨state, -⟩ := @restore_cases services { world with outcomes } _ rfl
    intro kind remembered
    exact absurd (state ▸ remembered) nofun
  · have done : (call.run services { world with outcomes }).1 = .ok () := succeeds
    rcases run_cases services restores with ⟨_, _, kind, -, known, turns, run⟩ | ⟨-, error, fails⟩
    · show Full services (call.run services { world with outcomes }).2
      rw [run] at done ⊢
      obtain ⟨complete, -⟩ := enable_ok done
      obtain ⟨here, ⟨incomplete, -⟩ | ⟨-, state, -⟩⟩ :=
        @enable_cases services _ _ _ { world with outcomes } turns known _ rfl
      · exact absurd complete incomplete
      · intro other remembered service active
        rw [state, known] at remembered
        rw [← Option.some.inj remembered, here, attempt_of_exits complete exits]
        exact .inl active
    · rw [fails] at done
      cases done

theorem Switch.off_or_iff {switch : Switch} {ours : Prop} (byProgram : ours ↔ switch = .on true) :
    switch = .off ∨ ours ↔ switch ≠ .on false := by
  rw [byProgram]
  rcases switch with _ | _ | _ <;> simp

theorem agrees_specified_iff {call : SystemCall} {kind : Kind} (other : call.kind? ≠ some kind)
    (settings : Settings) :
    settings.effective.Agrees kind ((macOs services).specified call) ↔
      settings.switch kind = .off := by
  apply Settings.agrees_off_iff
  cases call with
  | restore => exact .refl _ _
  | setPac autoConfigUrl =>
      cases kind with
      | pac => exact absurd rfl other
      | proxy => rfl
  | setProxy address =>
      cases kind with
      | pac => rfl
      | proxy =>
          rcases parts : addressParts address with error | both
          · show none = (addressParts address).toOption
            rw [parts]
            rfl
          · exact absurd (kind_setProxy parts) other

/-- What is on is remembered just when the program has turned it on, so only what
others have turned on stays. -/
theorem macOsFits_iff_othersOff (full : Full services world) (covered : Covered world)
    (succeeds : (macOs services).Succeeds world event) (exits : .nonZero ∉ event.2) :
    MacOsFits services world event ↔ OthersOff services world event := by
  apply forall₂_congr
  intro service active
  apply forall_congr'
  intro kind
  rw [reaches_iff_of_exits succeeds exits]
  by_cases here : event.1.kind? = some kind
  · exact iff_of_true (.inr (.inl here)) fun other => absurd here other
  · rw [agrees_specified_iff here, or_iff_right here, forall_prop_of_true here]
    exact Switch.off_or_iff
      ⟨fun remembered => full kind remembered service active, covered kind service⟩

end OthersOff

/-- Calls that succeed, and whose listings do not exit with a code, leave remembered
what they have set. -/
theorem kept_of_succeed {services : Services} {world : World} (fresh : Fresh world)
    {events : List (SystemCall × List Exit)}
    (all : AllSteps (macOs services).step (macOs services).Succeeds world events)
    (exits : ∀ event ∈ events, .nonZero ∉ event.2) :
    Full services (events.foldl (macOs services).step world) ∧
      Covered (events.foldl (macOs services).step world) := by
  have later : ∀ {world : World} {events : List (SystemCall × List Exit)},
      Inside services world → Full services world → Covered world →
      AllSteps (macOs services).step (macOs services).Succeeds world events →
      (∀ event ∈ events, .nonZero ∉ event.2) →
      Full services (events.foldl (macOs services).step world) ∧
        Covered (events.foldl (macOs services).step world) := by
    intro world events
    induction events generalizing world with
    | nil => exact fun _ full covered _ _ => ⟨full, covered⟩
    | cons event events ih =>
        intro inside _ covered all exits
        obtain ⟨exit, exits⟩ := List.forall_mem_cons.mp exits
        exact ih (step_inside event inside) (step_full all.1 exit)
          ((step_covered_iff event covered).mpr (fits_of_succeeds inside covered all.1 exit))
          all.2 exits
  have full : Full services world := by
    intro kind remembered
    rw [fresh.off] at remembered
    cases remembered
  exact later fresh.inside full fresh.covered all exits

/-- For the three systems, after calls that succeed: the last one decides on Linux; on
macOS where it reaches the services with what they do not show already, which it does
unless others have turned on what it does not set, as long as no listing exits with a
code; and on Windows unless it leaves a proxy enabled or an url undeleted. -/
theorem backends_iff (gnome : Linux.Gnome) (services : Services) (world : World)
    (registry : Windows.Registry) (events : List (SystemCall × List Bool))
    (last : SystemCall × List Bool) (runs : List (SystemCall × List Exit))
    (final : SystemCall × List Exit) :
    Linux.backend.Refines gnome events last ∧
      (AllSteps (macOs services).step (macOs services).Succeeds world (runs ++ [final]) →
        ((macOs services).Refines world runs final ↔
            MacOsFits services (runs.foldl (macOs services).step world) final) ∧
          (Fresh world → (∀ event ∈ runs ++ [final], .nonZero ∉ event.2) →
            ((macOs services).Refines world runs final ↔
              OthersOff services (runs.foldl (macOs services).step world) final))) ∧
      (AllSteps Windows.backend.step Windows.backend.Succeeds registry (events ++ [last]) →
        (Windows.backend.Refines registry events last ↔
          Windows.Fits (events.foldl Windows.backend.step registry) last)) := by
  refine ⟨Linux.refines gnome events last, ?_, ?_⟩
  · intro all
    obtain ⟨before, succeeds⟩ := (macOs services).succeeds_last all
    have refines : (macOs services).Refines world runs final ↔
        MacOsFits services (runs.foldl (macOs services).step world) final := by
      rw [Backend.Refines, List.foldl_append, forall_prop_of_true all]
      exact macOs_shows_iff succeeds
    refine ⟨refines, ?_⟩
    intro fresh exits
    obtain ⟨exits, exit⟩ := List.forall_mem_append.mp exits
    obtain ⟨full, covered⟩ := kept_of_succeed fresh before exits
    rw [refines]
    exact macOsFits_iff_othersOff full covered succeeds (exit final List.mem_cons_self)
  · intro all
    obtain ⟨-, succeeds⟩ := Windows.backend.succeeds_last all
    rw [Backend.Refines, List.foldl_append, forall_prop_of_true all]
    exact Windows.shows_last_iff succeeds

def emptyGnome : Linux.Gnome where
  autoconfigUrl := ""
  mode := .none
  host := ""
  port := ""

def emptyRegistry : Windows.Registry where
  autoConfigUrl := none
  proxyEnable := none
  proxyServer := none

def proxyCall {ω : Type} : SystemCall × List ω :=
  (.setProxy "http://127.0.0.1:25445", [])

def pacCall {ω : Type} : SystemCall × List ω :=
  (.setPac "http://127.0.0.1/pac", [])

theorem backends_iff_pacRestore :
    Linux.backend.Refines emptyGnome [pacCall] (.restore, []) ∧
      ((macOs twoServices).Refines untouchedWorld [pacCall] (.restore, []) ↔
        MacOsFits twoServices ((macOs twoServices).step untouchedWorld pacCall) (.restore, [])) ∧
      ((macOs twoServices).Refines untouchedWorld [pacCall] (.restore, []) ↔
        OthersOff twoServices ((macOs twoServices).step untouchedWorld pacCall) (.restore, [])) ∧
      (Windows.backend.Refines emptyRegistry [pacCall] (.restore, []) ↔
        Windows.Fits (Windows.backend.step emptyRegistry pacCall) (.restore, [])) := by
  obtain ⟨linux, mac, windows⟩ := backends_iff emptyGnome twoServices untouchedWorld emptyRegistry
    [pacCall] (.restore, []) [pacCall] (.restore, [])
  obtain ⟨reached, untouched⟩ := mac ⟨rfl, rfl, trivial⟩
  refine ⟨linux, reached, untouched fresh_untouchedWorld ?_, windows ⟨rfl, rfl, trivial⟩⟩
  intro event there
  obtain rfl | rfl : event = pacCall ∨ event = (.restore, []) := by simpa using there
  · exact List.not_mem_nil
  · exact List.not_mem_nil

/-- On Windows the proxy stays enabled beside the script, and on macOS a call that gets
no services listed sets nothing. -/
theorem proxy_stays_enabled :
    ¬ Windows.backend.Refines emptyRegistry [proxyCall] pacCall ∧
      ¬ (macOs twoServices).Refines untouchedWorld [] (.setPac "http://127.0.0.1/pac", [.nonZero]) := by
  constructor
  · intro refines
    have shown : Windows.Registry.effective _ = _ := refines ⟨rfl, rfl, trivial⟩
    cases congrArg Effective.manual shown
  · intro refines
    have shown := refines ⟨rfl, trivial⟩ "Wi-Fi" List.mem_cons_self
    cases congrArg Effective.autoConfig shown

end CovertConnect.SysProxy
