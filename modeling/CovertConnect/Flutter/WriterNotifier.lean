import CovertConnect.Data.Trace
import Mathlib.Algebra.Group.Nat.Defs
import Mathlib.Logic.Function.Basic

namespace CovertConnect.Flutter

open CovertConnect.Data

/-! # Loggers by their ids

A registration reads the counter, stores the callback behind the lock and counts
on, in three steps; other calls may come between them. -/

/-- Whose callback it is stands for the callback. -/
structure Callback (ι : Type) where
  id : Nat
  callback : ι

/-- What a call does next, or what it has returned. -/
inductive LoggerCall where
  | register
  | loaded (id : Nat)
  | pushed (id : Nat)
  | registered (id : Nat)
  | unregister (id : Nat)
  | unregistered (answer : Except String Unit)

/-- The counter, the callbacks, the calls, and how often the counter was bumped. -/
structure WriterNotifier (ι : Type) where
  nextId : Nat
  callbacks : List (Callback ι)
  calls : ι → LoggerCall
  bumps : Nat

namespace WriterNotifier

variable {ι : Type} [DecidableEq ι]

def become (this : WriterNotifier ι) (idx : ι) (call : LoggerCall) : WriterNotifier ι :=
  { this with calls := Function.update this.calls idx call }

/-- The next atomic operation of a call, or what it does under the lock. -/
def step (this : WriterNotifier ι) (idx : ι) : WriterNotifier ι :=
  match this.calls idx with
  | .register => this.become idx (.loaded this.nextId)
  | .loaded id =>
      become { this with callbacks := this.callbacks ++ [⟨id, idx⟩] } idx (.pushed id)
  | .pushed id =>
      become { this with nextId := (this.nextId + 1) % 2 ^ 64, bumps := this.bumps + 1 } idx
        (.registered id)
  | .unregister id =>
      match this.callbacks.findIdx? (·.id = id) with
      | some pos =>
          become { this with callbacks := this.callbacks.eraseIdx pos } idx (.unregistered (.ok ()))
      | none => this.become idx (.unregistered (.error "not found"))
  | .registered _ | .unregistered _ => this

end WriterNotifier

/-- The id that a registration has read, and returns. -/
def LoggerCall.id? : LoggerCall → Option Nat
  | .loaded id | .pushed id | .registered id => some id
  | _ => none

/-- Between the read of the counter and its bump. -/
def LoggerCall.InFlight (call : LoggerCall) : Prop :=
  ∃ id, call = .loaded id ∨ call = .pushed id

def LoggerCall.Over (call : LoggerCall) : Prop :=
  (∃ id, call = .registered id) ∨ ∃ answer, call = .unregistered answer

namespace WriterNotifier

variable {ι : Type} {notifier : WriterNotifier ι}

/-- The ids of registrations that have returned. -/
def Distinct (notifier : WriterNotifier ι) : Prop :=
  ∀ idx other id, notifier.calls idx = .registered id → notifier.calls other = .registered id → idx = other

/-- When a call removes something, it is the one callback whose registration
returns the id, and nothing else. -/
def Removes [DecidableEq ι] (notifier : WriterNotifier ι) (idx : ι) : Prop :=
  ∀ id, notifier.calls idx = .unregister id →
    (notifier.step idx).calls idx = .unregistered (.ok ()) →
    ∃ front callback back, notifier.callbacks = front ++ callback :: back ∧
      (notifier.step idx).callbacks = front ++ back ∧
      (notifier.calls callback.callback).id? = some id ∧
      ∀ other, (notifier.calls other).id? = some id → other = callback.callback

/-- The counter is read when no other registration is under way, and before it has
been bumped all its way round. -/
def Fits (notifier : WriterNotifier ι) (idx : ι) : Prop :=
  notifier.calls idx = .register → (∀ other, ¬ (notifier.calls other).InFlight) ∧ notifier.bumps < 2 ^ 64

structure Initial (notifier : WriterNotifier ι) : Prop where
  nextId : notifier.nextId = 0
  callbacks : notifier.callbacks = []
  bumps : notifier.bumps = 0
  calls : ∀ idx, notifier.calls idx = .register ∨ ∃ id, notifier.calls idx = .unregister id

/-- Registrations one after the other. -/
structure Kept (notifier : WriterNotifier ι) : Prop where
  counter : notifier.nextId = notifier.bumps % 2 ^ 64
  bound : notifier.bumps ≤ 2 ^ 64
  inFlight : ∀ {idx id}, notifier.calls idx = .loaded id ∨ notifier.calls idx = .pushed id →
    id = notifier.bumps ∧ notifier.bumps < 2 ^ 64
  single : ∀ {idx other}, (notifier.calls idx).InFlight → (notifier.calls other).InFlight → idx = other
  earlier : ∀ {idx id}, notifier.calls idx = .registered id → id < notifier.bumps
  distinct : notifier.Distinct
  all : ∀ {id}, id < notifier.bumps → ∃ idx, notifier.calls idx = .registered id
  stored : ∀ {callback}, callback ∈ notifier.callbacks →
    notifier.calls callback.callback = .pushed callback.id ∨
      notifier.calls callback.callback = .registered callback.id

/-- One id has one registration. -/
theorem Kept.unique (kept : notifier.Kept) {idx other : ι} {id : Nat}
    (here : (notifier.calls idx).id? = some id) (there : (notifier.calls other).id? = some id) :
    idx = other := by
  have cases' : ∀ {idx}, (notifier.calls idx).id? = some id →
      (notifier.calls idx).InFlight ∧ id = notifier.bumps ∨ notifier.calls idx = .registered id := by
    intro idx known
    cases call : notifier.calls idx with
    | loaded id' =>
        rw [call] at known
        cases known
        exact .inl ⟨⟨id, .inl rfl⟩, (kept.inFlight (.inl call)).1⟩
    | pushed id' =>
        rw [call] at known
        cases known
        exact .inl ⟨⟨id, .inr rfl⟩, (kept.inFlight (.inr call)).1⟩
    | registered id' =>
        rw [call] at known
        cases known
        exact .inr rfl
    | register | unregister _ | unregistered _ =>
        rw [call] at known
        cases known
  rcases cases' here with ⟨flies, last⟩ | returned <;> rcases cases' there with ⟨flies', last'⟩ | returned'
  · exact kept.single flies flies'
  · exact absurd (kept.earlier returned') (by omega)
  · exact absurd (kept.earlier returned) (by omega)
  · exact kept.distinct idx other id returned returned'

theorem kept_of_initial (initial : notifier.Initial) : notifier.Kept := by
  have early : ∀ {idx id}, notifier.calls idx ≠ .loaded id ∧ notifier.calls idx ≠ .pushed id ∧
      notifier.calls idx ≠ .registered id := by
    intro idx id
    rcases initial.calls idx with call | ⟨id', call⟩ <;> rw [call] <;> exact ⟨nofun, nofun, nofun⟩
  exact {
    counter := by rw [initial.nextId, initial.bumps, Nat.zero_mod]
    bound := by rw [initial.bumps]; exact Nat.zero_le _
    inFlight := fun flies => absurd flies (not_or.mpr ⟨early.1, early.2.1⟩)
    single := fun ⟨_, flies⟩ => absurd flies (not_or.mpr ⟨early.1, early.2.1⟩)
    earlier := fun returned => absurd returned early.2.2
    distinct := fun _ _ _ returned => absurd returned early.2.2
    all := by rw [initial.bumps]; nofun
    stored := by rw [initial.callbacks]; nofun }

variable [DecidableEq ι] {idx : ι}

theorem become_here {call : LoggerCall} : (notifier.become idx call).calls idx = call :=
  Function.update_self ..

theorem become_other {call : LoggerCall} {other : ι} (apart : other ≠ idx) :
    (notifier.become idx call).calls other = notifier.calls other :=
  Function.update_of_ne apart ..

/-- A registration that has returned before a step is not the one that goes on. -/
theorem Kept.all_other (kept : notifier.Kept) {call : LoggerCall}
    (going : ∀ id, notifier.calls idx ≠ .registered id) {id : Nat} (earlier : id < notifier.bumps) :
    ∃ other, (notifier.become idx call).calls other = .registered id := by
  obtain ⟨other, returned⟩ := kept.all earlier
  have apart : other ≠ idx := fun here => going id (here ▸ returned)
  exact ⟨other, (become_other apart).trans returned⟩

/-- The call that goes on has not returned an id. -/
theorem Kept.returned_other (kept : notifier.Kept) {call : LoggerCall}
    (open' : ∀ id, call ≠ .registered id) :
    (∀ {other id}, (notifier.become idx call).calls other = .registered id → id < notifier.bumps) ∧
      (notifier.become idx call).Distinct := by
  have before : ∀ {other id}, (notifier.become idx call).calls other = .registered id →
      notifier.calls other = .registered id := by
    intro other id returned
    by_cases here : other = idx
    · rw [here, become_here] at returned
      exact absurd returned (open' id)
    · rwa [become_other here] at returned
  exact ⟨fun returned => kept.earlier (before returned), fun other other' id returned returned' =>
    kept.distinct other other' id (before returned) (before returned')⟩

/-- A call that is under way behind a step goes on, or was under way before. -/
theorem inFlight_become {call : LoggerCall} {other : ι}
    (flies : ((notifier.become idx call).calls other).InFlight) :
    other = idx ∧ call.InFlight ∨ other ≠ idx ∧ (notifier.calls other).InFlight := by
  by_cases here : other = idx
  · rw [here, become_here] at flies
    exact .inl ⟨here, flies⟩
  · rw [become_other here] at flies
    exact .inr ⟨here, flies⟩

/-- The stored callbacks are those of other calls. -/
theorem Kept.stored_other (kept : notifier.Kept) {call : LoggerCall}
    (notYet : ∀ id, notifier.calls idx ≠ .pushed id ∧ notifier.calls idx ≠ .registered id)
    {callback : Callback ι} (member : callback ∈ notifier.callbacks) :
    (notifier.become idx call).calls callback.callback = .pushed callback.id ∨
      (notifier.become idx call).calls callback.callback = .registered callback.id := by
  have known := kept.stored member
  have apart : callback.callback ≠ idx := by
    intro here
    rw [here] at known
    rcases known with pushed | registered
    · exact (notYet callback.id).1 pushed
    · exact (notYet callback.id).2 registered
  rwa [become_other apart]

theorem kept_load (kept : notifier.Kept) (call : notifier.calls idx = .register)
    (noOther : ∀ other, ¬ (notifier.calls other).InFlight) (room : notifier.bumps < 2 ^ 64) :
    (notifier.become idx (.loaded notifier.nextId)).Kept := by
  have first : notifier.nextId = notifier.bumps := by rw [kept.counter, Nat.mod_eq_of_lt room]
  have alone : ∀ other, ((notifier.become idx (.loaded notifier.nextId)).calls other).InFlight →
      other = idx := by
    intro other flies
    rcases inFlight_become flies with ⟨here, -⟩ | ⟨-, before⟩
    · exact here
    · exact absurd before (noOther other)
  have earlier := @Kept.returned_other _ _ _ idx kept (.loaded notifier.nextId) nofun
  refine {
    counter := kept.counter
    bound := kept.bound
    inFlight := ?_
    single := fun here there => (alone _ here).trans (alone _ there).symm
    earlier := earlier.1
    distinct := earlier.2
    all := kept.all_other fun id => by rw [call]; nofun
    stored := kept.stored_other fun id => by rw [call]; exact ⟨nofun, nofun⟩ }
  intro other id flies
  obtain rfl := alone other ⟨id, flies⟩
  rw [become_here] at flies
  rcases flies with loaded | pushed
  · cases loaded
    exact ⟨first, room⟩
  · cases pushed

theorem kept_push (kept : notifier.Kept) {id : Nat} (call : notifier.calls idx = .loaded id) :
    Kept (become { notifier with callbacks := notifier.callbacks ++ [⟨id, idx⟩] } idx
      (.pushed id)) := by
  have alone : ∀ other, ((notifier.become idx (.pushed id)).calls other).InFlight → other = idx := by
    intro other flies
    rcases inFlight_become flies with ⟨here, -⟩ | ⟨-, before⟩
    · exact here
    · exact kept.single before ⟨id, .inl call⟩
  have earlier := @Kept.returned_other _ _ _ idx kept (.pushed id) nofun
  refine {
    counter := kept.counter
    bound := kept.bound
    inFlight := ?inFlight
    single := fun here there => (alone _ here).trans (alone _ there).symm
    earlier := earlier.1
    distinct := earlier.2
    all := kept.all_other fun id => by rw [call]; nofun
    stored := ?stored }
  case inFlight =>
    intro other id' flies
    obtain rfl := alone other ⟨id', flies⟩
    have now : LoggerCall.pushed id = .loaded id' ∨ LoggerCall.pushed id = .pushed id' := by
      simpa only [become_here] using flies
    rcases now with loaded | pushed
    · cases loaded
    · cases pushed
      exact kept.inFlight (.inl call)
  case stored =>
    intro callback member
    rcases List.mem_append.mp member with stored | new
    · exact kept.stored_other (fun id => by rw [call]; exact ⟨nofun, nofun⟩) stored
    · rw [List.mem_singleton.mp new]
      exact .inl become_here

theorem kept_bump (kept : notifier.Kept) {id : Nat} (call : notifier.calls idx = .pushed id) :
    Kept (become
      { notifier with nextId := (notifier.nextId + 1) % 2 ^ 64, bumps := notifier.bumps + 1 } idx
      (.registered id)) := by
  obtain ⟨rfl, room⟩ := kept.inFlight (.inr call)
  have none' : ∀ other, ¬ ((notifier.become idx (.registered notifier.bumps)).calls other).InFlight := by
    intro other flies
    rcases inFlight_become flies with ⟨-, id, loaded | pushed⟩ | ⟨apart, before⟩
    · cases loaded
    · cases pushed
    · exact apart (kept.single before ⟨notifier.bumps, .inr call⟩)
  have returned : ∀ {other id},
      (notifier.become idx (.registered notifier.bumps)).calls other = .registered id →
        other = idx ∧ id = notifier.bumps ∨ notifier.calls other = .registered id := by
    intro other id returned
    by_cases here : other = idx
    · rw [here, become_here] at returned
      cases returned
      exact .inl ⟨here, rfl⟩
    · rw [become_other here] at returned
      exact .inr returned
  refine {
    counter := ?counter
    bound := room
    inFlight := fun flies => absurd ⟨_, flies⟩ (none' _)
    single := fun flies => absurd flies (none' _)
    earlier := ?earlier
    distinct := ?distinct
    all := ?all
    stored := ?stored }
  case counter =>
    show (notifier.nextId + 1) % 2 ^ 64 = (notifier.bumps + 1) % 2 ^ 64
    rw [kept.counter, Nat.mod_add_mod]
  case earlier =>
    intro other id known
    rcases returned known with ⟨-, last⟩ | before
    · rw [last]
      exact Nat.lt_succ_self _
    · exact Nat.lt_succ_of_lt (kept.earlier before)
  case distinct =>
    intro other other' id known known'
    rcases returned known with ⟨here, last⟩ | before <;>
      rcases returned known' with ⟨here', last'⟩ | before'
    · rw [here, here']
    · exact absurd (kept.earlier before') (by omega)
    · exact absurd (kept.earlier before) (by omega)
    · exact kept.distinct other other' id before before'
  case all =>
    intro id earlier
    rcases Nat.lt_succ_iff_lt_or_eq.mp earlier with before | last
    · exact kept.all_other (fun id => by rw [call]; nofun) before
    · rw [last]
      exact ⟨idx, become_here⟩
  case stored =>
    intro callback member
    have known := kept.stored member
    by_cases here : callback.callback = idx
    · rw [here, call] at known
      rcases known with known | known
      · rw [here, ← LoggerCall.pushed.inj known]
        exact .inr become_here
      · cases known
    · rw [become_other here]
      exact known

theorem kept_unregister (kept : notifier.Kept) {id : Nat}
    (call : notifier.calls idx = .unregister id) {left : List (Callback ι)}
    (fewer : left ⊆ notifier.callbacks) (answer : Except String Unit) :
    Kept (become { notifier with callbacks := left } idx (.unregistered answer)) := by
  have before : ∀ {other}, ((notifier.become idx (.unregistered answer)).calls other).InFlight →
      other ≠ idx ∧ (notifier.calls other).InFlight := by
    intro other flies
    rcases inFlight_become flies with ⟨-, id, loaded | pushed⟩ | flew
    · cases loaded
    · cases pushed
    · exact flew
  have earlier := @Kept.returned_other _ _ _ idx kept (.unregistered answer) nofun
  refine {
    counter := kept.counter
    bound := kept.bound
    inFlight := ?_
    single := fun here there => kept.single (before here).2 (before there).2
    earlier := earlier.1
    distinct := earlier.2
    all := kept.all_other fun id => by rw [call]; nofun
    stored := fun member =>
      kept.stored_other (fun id => by rw [call]; exact ⟨nofun, nofun⟩) (fewer member) }
  intro other id' flies
  rw [become_other (before ⟨id', flies⟩).1] at flies
  exact kept.inFlight flies

theorem kept_step (idx : ι) (kept : notifier.Kept) (fits : notifier.Fits idx) :
    (notifier.step idx).Kept := by
  rw [step]
  match call : notifier.calls idx with
  | .register => exact kept_load kept call (fits call).1 (fits call).2
  | .loaded id => exact kept_push kept call
  | .pushed id => exact kept_bump kept call
  | .unregister id =>
      simp only
      split
      · exact kept_unregister kept call (List.eraseIdx_subset ..) _
      · exact kept_unregister kept call (List.Subset.refl _) _
  | .registered _ => exact kept
  | .unregistered _ => exact kept

/-- What is removed is the callback of the registration that has the id. -/
theorem removes_of_kept (idx : ι) (kept : notifier.Kept) : notifier.Removes idx := by
  intro id call removed
  rw [step, call] at removed ⊢
  simp only at removed ⊢
  cases found : notifier.callbacks.findIdx? (·.id = id) with
  | none =>
      rw [found] at removed
      simp only [become_here] at removed
      cases removed
  | some pos =>
      obtain ⟨inside, has, -⟩ := List.findIdx?_eq_some_iff_getElem.mp found
      have stored := kept.stored (List.getElem_mem inside)
      have same : notifier.callbacks[pos].id = id := of_decide_eq_true has
      have known : (notifier.calls notifier.callbacks[pos].callback).id? = some id := by
        rcases stored with stored | stored <;> rw [stored, same] <;> rfl
      refine ⟨notifier.callbacks.take pos, notifier.callbacks[pos],
        notifier.callbacks.drop (pos + 1), ?_, ?_, known, fun other there => kept.unique there known⟩
      · rw [List.getElem_cons_drop, List.take_append_drop]
      · exact List.eraseIdx_eq_take_drop_succ ..

/-- A registration keeps its id. -/
theorem id_step {other : ι} {id : Nat} (known : (notifier.calls other).id? = some id) (idx : ι) :
    ((notifier.step idx).calls other).id? = some id := by
  rw [step]
  by_cases here : other = idx
  · subst here
    cases call : notifier.calls other with
    | loaded id' =>
        rw [call] at known
        exact (congrArg LoggerCall.id? become_here).trans known
    | pushed id' =>
        rw [call] at known
        exact (congrArg LoggerCall.id? become_here).trans known
    | registered id' =>
        rw [call] at known
        exact (congrArg LoggerCall.id? call).trans known
    | register | unregister _ | unregistered _ =>
        rw [call] at known
        cases known
  · have stays : (notifier.step idx).calls other = notifier.calls other := by
      rw [step]
      split
      · exact become_other here
      · exact become_other here
      · exact become_other here
      · split <;> exact become_other here
      · rfl
      · rfl
    exact (congrArg LoggerCall.id? stays).trans known

theorem id_run {other : ι} {id : Nat} (known : (notifier.calls other).id? = some id)
    (events : List ι) : ((events.foldl step notifier).calls other).id? = some id := by
  induction events generalizing notifier with
  | nil => exact known
  | cons idx events ih => exact ih (id_step known idx)

omit [DecidableEq ι] in
/-- A counter that is read out of turn shows an id that is taken. -/
theorem Kept.taken (kept : notifier.Kept) (misses : ¬ notifier.Fits idx) :
    notifier.calls idx = .register ∧ ∃ other, (notifier.calls other).id? = some notifier.nextId := by
  obtain ⟨call, misses⟩ := Classical.not_imp.mp misses
  refine ⟨call, ?_⟩
  by_cases room : notifier.bumps < 2 ^ 64
  · have first : notifier.nextId = notifier.bumps := by rw [kept.counter, Nat.mod_eq_of_lt room]
    have flies : ∃ other, (notifier.calls other).InFlight := by
      by_contra nobody
      exact misses ⟨not_exists.mp nobody, room⟩
    obtain ⟨other, id, loaded | pushed⟩ := flies
    · have last := (kept.inFlight (.inl loaded)).1
      exact ⟨other, by rw [loaded, first, last]; rfl⟩
    · have last := (kept.inFlight (.inr pushed)).1
      exact ⟨other, by rw [pushed, first, last]; rfl⟩
  · have full : notifier.bumps = 2 ^ 64 := Nat.le_antisymm kept.bound (Nat.not_lt.mp room)
    have again : notifier.nextId = 0 := by rw [kept.counter, full, Nat.mod_self]
    obtain ⟨other, returned⟩ := kept.all (show 0 < notifier.bumps by omega)
    exact ⟨other, by rw [returned, again]; rfl⟩

/-- In a run whose ids are distinct at the end, the counter is read in turn. -/
theorem fits_of_distinct (kept : notifier.Kept) {events : List ι}
    (over' : ∀ idx, ((events.foldl step notifier).calls idx).Over)
    (distinct : (events.foldl step notifier).Distinct) : AllSteps step Fits notifier events := by
  induction events generalizing notifier with
  | nil => trivial
  | cons idx events ih =>
      by_cases fits : notifier.Fits idx
      · exact ⟨fits, ih (kept_step idx kept fits) over' distinct⟩
      · obtain ⟨call, other, taken⟩ := kept.taken fits
        have here : ((notifier.step idx).calls idx).id? = some notifier.nextId := by
          rw [step, call]
          exact congrArg LoggerCall.id? become_here
        have returned : ∀ {one}, ((notifier.step idx).calls one).id? = some notifier.nextId →
            (events.foldl step (notifier.step idx)).calls one = .registered notifier.nextId := by
          intro one known
          have kept' := id_run known events
          rcases over' one with ⟨id, registered⟩ | ⟨answer, unregistered⟩
          · rw [List.foldl_cons] at registered
            rw [registered] at kept' ⊢
            rw [LoggerCall.id?, Option.some_inj] at kept'
            rw [kept']
          · rw [List.foldl_cons] at unregistered
            rw [unregistered] at kept'
            cases kept'
        have same := distinct idx other notifier.nextId (returned here) (returned (id_step taken idx))
        rw [← same, call] at taken
        cases taken

/-- Ids are distinct and remove their own callbacks while the counter is read in
turn, and in a run that comes to its end only then. -/
theorem ids_distinct_iff (initial : notifier.Initial) (events : List ι) :
    (AllSteps step Fits notifier events →
        AllStates step Distinct notifier events ∧ AllSteps step Removes notifier events) ∧
      ((∀ idx, ((events.foldl step notifier).calls idx).Over) →
        (events.foldl step notifier).Distinct → AllSteps step Fits notifier events) := by
  have kept := kept_of_initial initial
  have keeps : ∀ (notifier : WriterNotifier ι) idx, Kept notifier → Fits notifier idx → Kept (step notifier idx) :=
    fun _ idx => kept_step idx
  constructor
  · intro fits
    exact ⟨allStates_of_allSteps keeps (fun _ kept => kept.distinct) kept fits,
      allSteps_of_allSteps keeps (fun _ idx kept _ => removes_of_kept idx kept) kept fits⟩
  · exact fits_of_distinct kept

def threeCalls : WriterNotifier (Fin 3) where
  nextId := 0
  callbacks := []
  calls idx := if idx = 2 then .unregister 0 else .register
  bumps := 0

theorem initial_threeCalls : threeCalls.Initial where
  nextId := rfl
  callbacks := rfl
  bumps := rfl
  calls idx := by
    by_cases last : idx = 2
    · exact .inr ⟨0, if_pos last⟩
    · exact .inl (if_neg last)

/-- Two registrations in turn, and then the first callback is removed by its id. -/
theorem ids_distinct_removed :
    AllStates step Distinct threeCalls [0, 0, 0, 1, 1, 1, 2] ∧
      AllSteps step Removes threeCalls [0, 0, 0, 1, 1, 1, 2] ∧
      ([0, 0, 0, 1, 1, 1, 2].foldl step threeCalls).callbacks = [⟨1, 1⟩] := by
  have first : threeCalls.Fits 0 := by
    intro _
    refine ⟨?_, by decide⟩
    intro other flies
    obtain ⟨id, flies⟩ := flies
    match other with
    | 0 | 1 | 2 => rcases flies with flies | flies <;> cases flies
  have second : (((threeCalls.step 0).step 0).step 0).Fits 1 := by
    intro _
    refine ⟨?_, by decide⟩
    intro other flies
    obtain ⟨id, flies⟩ := flies
    match other with
    | 0 | 1 | 2 => rcases flies with flies | flies <;> cases flies
  obtain ⟨distinct, removes⟩ := (ids_distinct_iff initial_threeCalls [0, 0, 0, 1, 1, 1, 2]).1
    ⟨first, nofun, nofun, second, nofun, nofun, nofun, trivial⟩
  exact ⟨distinct, removes, rfl⟩

def twoLoggers : WriterNotifier (Fin 2) where
  nextId := 0
  callbacks := []
  calls _ := .register
  bumps := 0

/-- Two registrations that read the counter one right after the other. -/
theorem same_id_twice : ¬ AllStates step Distinct twoLoggers [0, 1, 0, 1, 0, 1] := by
  intro all
  have distinct := all.2.2.2.2.2.2
  exact absurd (distinct 0 1 0 rfl rfl) (by decide)

end WriterNotifier

end CovertConnect.Flutter
