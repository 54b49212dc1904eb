import CovertConnect.Client.LazyInit
import CovertConnect.Client.ProxyService
import CovertConnect.Data.Trace

namespace CovertConnect.Client

open CovertConnect.Data CovertConnect.Crypto

/-! # Refreshes of the PAC text that overlap

`set_domain` and `remove_domain` of the service change the lists, one lock after
the other, and then build the PAC text again: the domains are read under one
lock and the text is stored under another. -/

inductive DomainCall where
  | setDomain (domain serverHost : String)
  | removeDomain (domain : String)

def DomainCall.edit : DomainCall → EditCall
  | .setDomain domain serverHost => .setItem .domain domain serverHost
  | .removeDomain domain => .removeItem .domain domain

def DomainCall.service : DomainCall → ServiceCall
  | .setDomain domain serverHost => .setDomain domain serverHost
  | .removeDomain domain => .removeDomain domain

/-- What a call does at its next lock. -/
inductive RefreshStage where
  | called (call : DomainCall)
  | editing (pending : Pending)
  /-- `reset_proxy` reads the state of the proxy. -/
  | resetting
  /-- `update_content` reads the domains. -/
  | reading
  /-- The text is built from the domains that were read. -/
  | storing (text : List Char)
  | settingProxy
  | returned (answer : Except Error Unit)

section Stages

variable {S : Type} [SystemProxy S] [Hashes]

/-- `set_domain(..).await?` in front of `reset_proxy`. -/
def Turn.refresh (turn : Turn S) : RefreshStage × Session S :=
  match turn.next with
  | .waits pending => (.editing pending, turn.session)
  | .returns (.ok ()) => (.resetting, turn.session)
  | .returns (.error error) => (.returned (.error error), turn.session)

/-- The text of the domains and the port. -/
def Session.pacText (session : Session S) : List Char :=
  buildPac session.proxy.pacService.domains session.proxy.pacService.proxyPort

def Session.storePac (text : List Char) : Session S → Session S :=
  Session.update fun proxy =>
    { proxy with pacService := { proxy.pacService with pacContent := some text } }

/-- Up to the end of the next lock. -/
def RefreshStage.advance (lookup : String → Except IoError (List SocketAddr)) :
    RefreshStage → Session S → RefreshStage × Session S
  | .called call, session => (call.edit.begin session).refresh
  | .editing pending, session => (pending.resume lookup session).refresh
  | .resetting, session =>
      (if session.proxy.proxyState = .pac then .reading else .returned (.ok ()), session)
  | .reading, session => (.storing session.pacText, session)
  | .storing text, session => (.settingProxy, session.storePac text)
  | .settingProxy, session =>
      match Session.setProxyPac session with
      | (.ok (), session) => (.returned (.ok ()), session)
      | (.err error, session) => (.returned (.error error), session)
      | (.panic reason, session) => (.returned (.error (.anyhow reason)), session)
  | .returned answer, session => (.returned answer, session)

def outcome : Except Error Unit → Outcome Error Unit
  | .ok () => .ok ()
  | .error error => .err error

/-- How a call goes on when no other call takes a lock. -/
inductive Finishes (lookup : String → Except IoError (List SocketAddr)) :
    RefreshStage × Session S → Outcome Error Unit × Session S → Prop
  | returned (answer : Except Error Unit) (session : Session S) :
      Finishes lookup (.returned answer, session) (outcome answer, session)
  | advance {stage : RefreshStage} {session : Session S} {result : Outcome Error Unit × Session S} :
      Finishes lookup (stage.advance lookup session) result →
        Finishes lookup (stage, session) result

section Alone

variable {lookup : String → Except IoError (List SocketAddr)}

/-- The system answers, and the proxy stays as it is. -/
theorem advance_settingProxy (lookup : String → Except IoError (List SocketAddr))
    (session : Session S) :
    ∃ answer, RefreshStage.settingProxy.advance lookup session =
        (.returned answer, (Session.setProxyPac session).2) ∧
      outcome answer = (Session.setProxyPac session).1 ∧
      (Session.setProxyPac session).2.proxy = session.proxy := by
  have proxy : (Session.setProxyPac session).2.proxy = session.proxy :=
    Session.setProxyStateInt_keeps .pac session
  have answers : (Session.setProxyPac session).1 = .ok () ∨
      ∃ error, (Session.setProxyPac session).1 = .err error :=
    setProxyStateInt_answer .pac session
  rw [RefreshStage.advance]
  rcases known : Session.setProxyPac session with ⟨_ | _ | _, after⟩
  · exact ⟨.ok (), rfl, rfl, known ▸ proxy⟩
  · exact ⟨.error _, rfl, rfl, known ▸ proxy⟩
  · simp [known] at answers

theorem finishes_reset (session : Session S) :
    Finishes lookup (.resetting, session) (Session.resetProxy session) := by
  apply Finishes.advance
  rw [RefreshStage.advance]
  by_cases pac : session.proxy.proxyState = .pac
  · rw [if_pos pac, Session.resetProxy_pac pac]
    apply Finishes.advance
    apply Finishes.advance
    apply Finishes.advance
    obtain ⟨answer, advanced, same, _⟩ := advance_settingProxy lookup
      (session.storePac session.pacText)
    have ended := @Finishes.returned S _ _ lookup answer
      (Session.setProxyPac (session.storePac session.pacText)).2
    rw [same, ← advanced] at ended
    exact ended
  · rw [if_neg pac, Session.resetProxy_other pac]
    exact Finishes.returned (.ok ()) session

theorem finishes_goOn {turn : Turn S} {result : Outcome Error Unit × Session S}
    (later : Finishes lookup (turn.goOn lookup).refresh result) :
    Finishes lookup turn.refresh result := by
  cases known : turn.next with
  | waits pending =>
      rw [Turn.goOn, known] at later
      rw [Turn.refresh, known]
      exact Finishes.advance later
  | returns answer =>
      rw [Turn.goOn, known] at later
      exact later

theorem finishes_ended {turn : Turn S} {call : Exec (Session S) Error Unit} {session : Session S}
    (ended : turn.ended = some (call session)) :
    Finishes lookup turn.refresh
      ((do call; Session.resetProxy : Exec (Session S) Error Unit) session) := by
  cases known : turn.next with
  | waits pending => simp [Turn.ended, known] at ended
  | returns answer =>
      cases answer with
      | ok done =>
          simp only [Turn.ended, known, Option.some.injEq] at ended
          rw [Turn.refresh, known, Exec.bind_ok ended.symm]
          exact finishes_reset turn.session
      | error error =>
          simp only [Turn.ended, known, Option.some.injEq] at ended
          rw [Turn.refresh, known, Exec.bind_err ended.symm]
          exact Finishes.returned (.error error) turn.session

/-- The call does what the service's call does. -/
theorem finishes_called (call : DomainCall) (session : Session S) :
    Finishes lookup (.called call, session) (call.service.run session) := by
  have ended := turns_run lookup call.edit session
  have whole : call.service.run session =
      (do call.edit.run; Session.resetProxy : Exec (Session S) Error Unit) session := by
    cases call <;> rfl
  rw [whole]
  apply Finishes.advance
  apply finishes_goOn
  apply finishes_goOn
  exact finishes_ended ended

end Alone

/-- The turns of a domain call. -/
def Pending.OnDomains : Pending → Prop
  | .assign kind _ _ _ | .addDirect kind _ | .clear kind _ => kind = .domain
  | _ => False

/-- What the turns that edit do besides. -/
structure Turn.Edits (turn : Turn S) (session : Session S) : Prop where
  proxyState : turn.session.proxy.proxyState = session.proxy.proxyState
  waits : ∀ pending, turn.next = .waits pending → pending.OnDomains
  refused : ∀ error, turn.next = .returns (.error error) → turn.session = session

omit [SystemProxy S] [Hashes] in
theorem begin_edits (call : DomainCall) (session : Session S) :
    (call.edit.begin session).Edits session := by
  cases call with
  | setDomain domain serverHost =>
      simp only [DomainCall.edit, EditCall.begin]
      split
      · split
        · exact ⟨rfl, by simp [Turn.eraseDirect, Pending.OnDomains], by simp [Turn.eraseDirect]⟩
        · exact ⟨rfl, by simp [Pending.OnDomains], by simp⟩
      · split <;> exact ⟨rfl, by simp [Pending.OnDomains], by simp⟩
  | removeDomain domain =>
      simp only [DomainCall.edit, EditCall.begin]
      split
      · exact ⟨rfl, by simp [Turn.eraseDirect, Pending.OnDomains], by simp [Turn.eraseDirect]⟩
      · exact ⟨rfl, by simp [Turn.refused], fun _ _ => rfl⟩

theorem resume_edits (lookup : String → Except IoError (List SocketAddr)) {pending : Pending}
    (mine : pending.OnDomains) (session : Session S) :
    (pending.resume lookup session).Edits session := by
  cases pending with
  | assign kind item serverHost removed =>
      simp only [Pending.resume]
      split
      · exact ⟨rfl, by simp [Turn.onServers], by simp [Turn.onServers]⟩
      · exact ⟨rfl, by simp [Turn.refused], fun _ _ => rfl⟩
  | addDirect kind item =>
      obtain rfl : kind = .domain := mine
      exact ⟨rfl, by simp [Pending.resume, Pending.OnDomains], by simp [Pending.resume]⟩
  | clear kind item =>
      exact ⟨rfl, by simp [Pending.resume, Turn.onServers],
        by simp [Pending.resume, Turn.onServers]⟩
  | turnOff => cases mine
  | lookUp host cloned => cases mine
  | writeBack host cloned config => cases mine

end Stages

structure Refreshing (S : Type) where
  session : Session S
  calls : List RefreshStage

namespace Refreshing

variable {S : Type}

def Fresh (session : Session S) : Prop :=
  session.proxy.pacService.pacContent = some session.pacText

/-- The call is still going to store the text of the domains as they are. -/
def Covers (session : Session S) : RefreshStage → Prop
  | .called _ | .editing _ | .resetting | .reading => True
  | .storing text => text = session.pacText
  | .settingProxy | .returned _ => False

def OthersCover (this : Refreshing S) (idx : Nat) : Prop :=
  ∃ pos stage, pos ≠ idx ∧ this.calls[pos]? = some stage ∧ Covers this.session stage

variable [SystemProxy S] [Hashes] (lookup : String → Except IoError (List SocketAddr))

/-- The call at this place takes its next lock. -/
def step (this : Refreshing S) (idx : Nat) : Refreshing S :=
  match this.calls[idx]? with
  | some stage =>
      let (next, session) := stage.advance lookup this.session
      { session, calls := this.calls.set idx next }
  | none => this

/-- A text that is stored is the text of the domains as they are, or another
call is still going to store that; a call that is refused leaves such a text or
such a call. -/
def Fits (this : Refreshing S) (idx : Nat) : Prop :=
  match this.calls[idx]? with
  | some (.storing text) => text = this.session.pacText ∨ this.OthersCover idx
  | some (.called call) =>
      (∃ error, (call.edit.begin this.session).next = .returns (.error error)) →
        Fresh this.session ∨ this.OthersCover idx
  | some (.editing pending) =>
      (∃ error, (pending.resume lookup this.session).next = .returns (.error error)) →
        Fresh this.session ∨ this.OthersCover idx
  | _ => True

/-- Several calls, and none has begun. -/
structure Starts (this : Refreshing S) : Prop where
  pac : this.session.proxy.proxyState = .pac
  several : this.calls ≠ []
  called : ∀ stage ∈ this.calls, ∃ call, stage = .called call

def Returned (this : Refreshing S) : Prop :=
  ∀ stage ∈ this.calls, ∃ answer, stage = .returned answer

/-- The domain calls stay domain calls, and the state stays. -/
structure Kept (this : Refreshing S) : Prop where
  pac : this.session.proxy.proxyState = .pac
  domains : ∀ pending, .editing pending ∈ this.calls → pending.OnDomains

/-- The text that is stored or a call on its way is up to date. -/
def Good (this : Refreshing S) : Prop :=
  Fresh this.session ∨ ∃ stage ∈ this.calls, Covers this.session stage

omit [SystemProxy S] [Hashes] in
theorem good_iff {this : Refreshing S} {idx : Nat} {stage : RefreshStage}
    (here : this.calls[idx]? = some stage) :
    this.Good ↔ Covers this.session stage ∨ Fresh this.session ∨ this.OthersCover idx := by
  rw [Good]
  constructor
  · intro good
    rcases good with fresh | ⟨other, listed, covers⟩
    · exact .inr (.inl fresh)
    · obtain ⟨pos, at_⟩ := List.mem_iff_getElem?.mp listed
      by_cases same : pos = idx
      · subst same
        rw [here] at at_
        cases at_
        exact .inl covers
      · exact .inr (.inr ⟨pos, other, same, at_, covers⟩)
  · intro given
    rcases given with covers | fresh | ⟨pos, other, _, at_, covers⟩
    · exact .inr ⟨stage, List.mem_of_getElem? here, covers⟩
    · exact .inl fresh
    · exact .inr ⟨other, List.mem_of_getElem? at_, covers⟩

omit [SystemProxy S] [Hashes] in
/-- What becomes of the others depends on the domains and on the port alone. -/
theorem good_set_iff {this : Refreshing S} {idx : Nat} {stage next : RefreshStage}
    (here : this.calls[idx]? = some stage) {session : Session S}
    (same : session.pacText = this.session.pacText) :
    (⟨session, this.calls.set idx next⟩ : Refreshing S).Good ↔
      Covers session next ∨ Fresh session ∨ this.OthersCover idx := by
  have inside : idx < this.calls.length := (List.getElem?_eq_some_iff.mp here).1
  have others : (⟨session, this.calls.set idx next⟩ : Refreshing S).OthersCover idx ↔
      this.OthersCover idx := by
    have covers : ∀ stage, Covers session stage ↔ Covers this.session stage := by
      intro stage
      cases stage <;> simp [Covers, same]
    apply exists_congr
    intro pos
    apply exists_congr
    intro other
    apply and_congr_right
    intro differs
    rw [List.getElem?_set_ne (Ne.symm differs), covers other]
  rw [good_iff (List.getElem?_set_self inside), others]

omit [SystemProxy S] [Hashes] in
/-- A turn that edits goes on, or its call is refused. -/
theorem refresh_cases {turn : Turn S} {session : Session S} (edits : turn.Edits session) :
    (∃ error, turn.next = .returns (.error error) ∧
        turn.refresh = (.returned (.error error), session)) ∨
      (¬ ∃ error, turn.next = .returns (.error error)) ∧
        ∃ stage, turn.refresh = (stage, turn.session) ∧ Covers turn.session stage ∧
          ∀ pending, stage = .editing pending → pending.OnDomains := by
  rw [Turn.refresh]
  cases known : turn.next with
  | waits pending =>
      right
      constructor
      · simp
      · exists .editing pending
        have next : ∀ other, RefreshStage.editing pending = .editing other → other.OnDomains := by
          intro other same
          cases same
          exact edits.waits pending known
        exact ⟨rfl, trivial, next⟩
  | returns answer =>
      cases answer with
      | ok done => exact .inr ⟨by simp, _, rfl, trivial, by simp⟩
      | error error => exact .inl ⟨error, rfl, by simp [edits.refused error known]⟩

theorem step_eq {this : Refreshing S} {idx : Nat} {stage next : RefreshStage} {session : Session S}
    (here : this.calls[idx]? = some stage)
    (advanced : stage.advance lookup this.session = (next, session)) :
    this.step lookup idx = ⟨session, this.calls.set idx next⟩ := by
  rw [step, here]
  simp only [advanced]

theorem step_set {calls : List RefreshStage} {idx : Nat} (inside : idx < calls.length)
    (stage : RefreshStage) (session : Session S) :
    (⟨session, calls.set idx stage⟩ : Refreshing S).step lookup idx =
      ⟨(stage.advance lookup session).2, calls.set idx (stage.advance lookup session).1⟩ := by
  have advanced : stage.advance lookup session =
      ((stage.advance lookup session).1, (stage.advance lookup session).2) := rfl
  rw [step_eq lookup (List.getElem?_set_self inside) advanced, List.set_set]

/-- An edit is good unless the call is refused and leaves an old text to nobody. -/
theorem edit_good_iff {this : Refreshing S} {idx : Nat} {stage : RefreshStage} {turn : Turn S}
    (here : this.calls[idx]? = some stage) (edits : turn.Edits this.session)
    (advanced : stage.advance lookup this.session = turn.refresh) :
    (this.step lookup idx).Good ↔
      ((∃ error, turn.next = .returns (.error error)) →
        Fresh this.session ∨ this.OthersCover idx) := by
  rcases refresh_cases edits with ⟨error, refused, next⟩ | ⟨taken, stage', next, covers, _⟩
  · rw [step_eq lookup here (advanced.trans next), good_set_iff here rfl]
    simp [Covers, refused]
  · rw [step_eq lookup here (advanced.trans next)]
    have inside : idx < this.calls.length := (List.getElem?_eq_some_iff.mp here).1
    have good := @good_iff S ⟨turn.session, this.calls.set idx stage'⟩ idx stage'
      (List.getElem?_set_self inside)
    exact iff_of_true (good.mpr (.inl covers)) fun refused => absurd refused taken

theorem step_good_iff {this : Refreshing S} (idx : Nat) (kept : this.Kept) :
    (this.step lookup idx).Good ↔ this.Good ∧ this.Fits lookup idx := by
  cases here : this.calls[idx]? with
  | none =>
      simp only [step, Fits, here, and_true]
  | some stage =>
      rw [good_iff here, Fits, here]
      cases stage with
      | called call =>
          rw [edit_good_iff lookup here (begin_edits call this.session) rfl]
          simp [Covers]
      | editing pending =>
          have mine := kept.domains pending (List.mem_of_getElem? here)
          rw [edit_good_iff lookup here (resume_edits lookup mine this.session) rfl]
          simp [Covers]
      | resetting =>
          rw [step_eq lookup here rfl, good_set_iff here rfl, kept.pac]
          simp [Covers]
      | reading =>
          rw [step_eq lookup here rfl, good_set_iff here rfl]
          simp [Covers]
      | storing text =>
          have same : (this.session.storePac text).pacText = this.session.pacText := rfl
          have stored : Fresh (this.session.storePac text) ↔ text = this.session.pacText := by
            rw [Fresh, same]
            exact Option.some_inj
          rw [step_eq lookup here rfl, good_set_iff here same, stored]
          simp only [Covers, false_or]
          constructor
          · intro good
            exact ⟨good.imp id .inr, good⟩
          · exact And.right
      | settingProxy =>
          obtain ⟨answer, advanced, _, proxy⟩ := advance_settingProxy lookup this.session
          have same : (Session.setProxyPac this.session).2.pacText = this.session.pacText := by
            rw [Session.pacText, proxy, ← Session.pacText]
          rw [step_eq lookup here advanced, good_set_iff here same, Fresh, same, proxy, ← Fresh]
          simp [Covers]
      | returned answer =>
          rw [step_eq lookup here rfl, good_set_iff here rfl]
          simp [Covers]

theorem edit_keeps {stage : RefreshStage} {session : Session S} {turn : Turn S}
    (edits : turn.Edits session) (advanced : stage.advance lookup session = turn.refresh) :
    (stage.advance lookup session).2.proxy.proxyState = session.proxy.proxyState ∧
      ∀ pending, (stage.advance lookup session).1 = .editing pending → pending.OnDomains := by
  rw [advanced]
  rcases refresh_cases edits with ⟨error, _, next⟩ | ⟨_, stage', next, _, mine⟩
  · rw [next]
    simp
  · rw [next]
    exact ⟨edits.proxyState, mine⟩

theorem advance_keeps {stage : RefreshStage} {session : Session S}
    (mine : ∀ pending, stage = .editing pending → pending.OnDomains) :
    (stage.advance lookup session).2.proxy.proxyState = session.proxy.proxyState ∧
      ∀ pending, (stage.advance lookup session).1 = .editing pending → pending.OnDomains := by
  cases stage with
  | called call => exact edit_keeps lookup (begin_edits call session) rfl
  | editing pending => exact edit_keeps lookup (resume_edits lookup (mine pending rfl) session) rfl
  | resetting =>
      simp only [RefreshStage.advance]
      split <;> simp
  | settingProxy =>
      obtain ⟨answer, advanced, _, proxy⟩ := advance_settingProxy lookup session
      simp [advanced, proxy]
  | reading | storing text | returned answer => exact ⟨rfl, by simp [RefreshStage.advance]⟩

theorem step_kept {this : Refreshing S} (idx : Nat) (kept : this.Kept) :
    (this.step lookup idx).Kept := by
  cases here : this.calls[idx]? with
  | none =>
      rw [step, here]
      exact kept
  | some stage =>
      have listed := List.mem_of_getElem? here
      obtain ⟨pac, mine⟩ := @advance_keeps S _ _ lookup stage this.session fun pending same =>
        kept.domains pending (same ▸ listed)
      rw [step_eq lookup here rfl]
      constructor
      · exact pac.trans kept.pac
      · intro pending found
        rcases List.mem_or_eq_of_mem_set found with old | same
        · exact kept.domains pending old
        · exact mine pending same.symm

omit [SystemProxy S] [Hashes] in
theorem good_of_starts {start : Refreshing S} (starts : start.Starts) : start.Good ∧ start.Kept := by
  constructor
  · obtain ⟨stage, listed⟩ := List.exists_mem_of_ne_nil _ starts.several
    obtain ⟨call, rfl⟩ := starts.called stage listed
    exact .inr ⟨_, listed, trivial⟩
  · constructor
    · exact starts.pac
    · intro pending listed
      obtain ⟨call, same⟩ := starts.called _ listed
      cases same

omit [SystemProxy S] [Hashes] in
theorem good_iff_fresh {this : Refreshing S} (returned : this.Returned) :
    this.Good ↔ Fresh this.session := by
  rw [Good, or_iff_left_iff_imp]
  intro found
  obtain ⟨stage, listed, covers⟩ := found
  obtain ⟨answer, rfl⟩ := returned stage listed
  cases covers

/-- When all calls have returned, the text is that of the domains just when each
step of the run fits. -/
theorem refreshes_converge_iff {start : Refreshing S} (starts : start.Starts) (events : List Nat)
    (returned : (events.foldl (step lookup) start).Returned) :
    Fresh (events.foldl (step lookup) start).session ↔
      AllSteps (step lookup) (Fits lookup) start events := by
  obtain ⟨good, kept⟩ := good_of_starts starts
  rw [← good_iff_fresh returned,
    foldl_good_iff (fun _ idx kept => step_kept lookup idx kept)
      (fun _ idx kept => step_good_iff lookup idx kept) kept]
  exact and_iff_right good

def directSession (text : Option (List Char)) (domains : List String) : Session Bool where
  proxy :=
    { Proxy.new 25444 .pac with
      pacService := { pacContent := text, domains, proxyPort := 25444 } }
  system := true

section Direct

variable {text : Option (List Char)} {domains : List String} {calls : List RefreshStage} {idx : Nat}

/-- The call adds its domain and reads the domains. -/
theorem reads_added {domain : String} (absent : domain ∉ domains)
    (here : calls[idx]? = some (.called (.setDomain domain ""))) :
    [idx, idx, idx, idx, idx].foldl (step lookup) ⟨directSession text domains, calls⟩ =
      ⟨directSession text (domains ++ [domain]),
        calls.set idx (.storing (buildPac (domains ++ [domain]) 25444))⟩ := by
  have inside : idx < calls.length := (List.getElem?_eq_some_iff.mp here).1
  have begun : (RefreshStage.called (.setDomain domain "")).advance lookup
      (directSession text domains) =
        (.editing (.addDirect .domain domain), directSession text domains) := by
    have other : domain ∉ ItemKind.direct .domain (directSession text domains).proxy := absent
    simp [RefreshStage.advance, DomainCall.edit, EditCall.begin, other, Turn.refresh]
  rw [List.foldl_cons, step_eq lookup here begun]
  simp only [List.foldl_cons, List.foldl_nil, step_set lookup inside]
  rfl

theorem stores_text {built : List Char} (here : calls[idx]? = some (.storing built)) :
    [idx, idx].foldl (step lookup) ⟨directSession text domains, calls⟩ =
      ⟨directSession (some built) domains, calls.set idx (.returned (.ok ()))⟩ := by
  have inside : idx < calls.length := (List.getElem?_eq_some_iff.mp here).1
  rw [List.foldl_cons, step_eq lookup here rfl]
  simp only [List.foldl_cons, List.foldl_nil, step_set lookup inside]
  rfl

end Direct

/-- Two calls that are to set a domain each. -/
def twoCalls : Refreshing Bool :=
  ⟨directSession none [], [.called (.setDomain "a" ""), .called (.setDomain "b" "")]⟩

omit [Hashes] in
theorem starts_twoCalls : twoCalls.Starts :=
  ⟨rfl, by simp [twoCalls], by simp [twoCalls]⟩

/-- Each has read the domains before either stores a text. -/
theorem both_read :
    ([0, 0, 0, 0, 0] ++ [1, 1, 1, 1, 1]).foldl (step lookup) twoCalls =
      ⟨directSession none ["a", "b"],
        [.storing (buildPac ["a"] 25444), .storing (buildPac ["a", "b"] 25444)]⟩ := by
  have first : [0, 0, 0, 0, 0].foldl (step lookup) twoCalls =
      ⟨directSession none ["a"], [.storing (buildPac ["a"] 25444), .called (.setDomain "b" "")]⟩ :=
    reads_added _ (by simp) rfl
  rw [List.foldl_append, first]
  exact reads_added _ (by simp) rfl

omit [Hashes] [SystemProxy S] in
/-- The call that has read the domains first stores its text first. -/
theorem refreshes_converge_two :
    let _ := Hashes.folding
    AllSteps (step Concurrent.noLookup) (Fits Concurrent.noLookup) twoCalls
      ((([0, 0, 0, 0, 0] ++ [1, 1, 1, 1, 1]) ++ [0, 0]) ++ [1, 1]) := by
  intro _
  have older : [0, 0].foldl (step Concurrent.noLookup) ⟨directSession none ["a", "b"],
        [.storing (buildPac ["a"] 25444), .storing (buildPac ["a", "b"] 25444)]⟩ =
      ⟨directSession (some (buildPac ["a"] 25444)) ["a", "b"],
        [.returned (.ok ()), .storing (buildPac ["a", "b"] 25444)]⟩ :=
    stores_text _ rfl
  have newer : [1, 1].foldl (step Concurrent.noLookup)
        ⟨directSession (some (buildPac ["a"] 25444)) ["a", "b"],
          [.returned (.ok ()), .storing (buildPac ["a", "b"] 25444)]⟩ =
      ⟨directSession (some (buildPac ["a", "b"] 25444)) ["a", "b"],
        [.returned (.ok ()), .returned (.ok ())]⟩ :=
    stores_text _ rfl
  have ran : ((([0, 0, 0, 0, 0] ++ [1, 1, 1, 1, 1]) ++ [0, 0]) ++ [1, 1]).foldl
        (step Concurrent.noLookup) twoCalls =
      ⟨directSession (some (buildPac ["a", "b"] 25444)) ["a", "b"],
        [.returned (.ok ()), .returned (.ok ())]⟩ := by
    rw [List.foldl_append, List.foldl_append, both_read, older, newer]
  have returned : Returned (((([0, 0, 0, 0, 0] ++ [1, 1, 1, 1, 1]) ++ [0, 0]) ++ [1, 1]).foldl
      (step Concurrent.noLookup) twoCalls) := by
    rw [ran]
    simp [Returned]
  apply (refreshes_converge_iff Concurrent.noLookup starts_twoCalls _ returned).mp
  rw [ran]
  rfl

/-- The first call reads the domains and is overtaken by the second. -/
def overtaken : List Nat :=
  (([0, 0, 0, 0, 0] ++ [1, 1, 1, 1, 1]) ++ [1, 1]) ++ [0, 0]

omit [Hashes] in
theorem old_text_differs : buildPac ["a"] 25444 ≠ buildPac ["a", "b"] 25444 := by
  have notPort : 'b' ∉ proxyText 25444 := by decide
  exact buildPac_ne (by decide) (by decide) notPort notPort (by decide)

omit [Hashes] in
/-- Both calls succeed, and the text lacks the second domain. -/
theorem old_text_stays :
    let _ := Hashes.folding
    let start : Refreshing Bool :=
      ⟨directSession none [], [.called (.setDomain "a" ""), .called (.setDomain "b" "")]⟩
    start.Starts ∧
      overtaken.foldl (step Concurrent.noLookup) start =
        ⟨directSession (some (buildPac ["a"] 25444)) ["a", "b"],
          [.returned (.ok ()), .returned (.ok ())]⟩ ∧
      ¬ Fresh (directSession (some (buildPac ["a"] 25444)) ["a", "b"]) := by
  intro _ start
  have newer : [1, 1].foldl (step Concurrent.noLookup) ⟨directSession none ["a", "b"],
        [.storing (buildPac ["a"] 25444), .storing (buildPac ["a", "b"] 25444)]⟩ =
      ⟨directSession (some (buildPac ["a", "b"] 25444)) ["a", "b"],
        [.storing (buildPac ["a"] 25444), .returned (.ok ())]⟩ :=
    stores_text _ rfl
  have older : [0, 0].foldl (step Concurrent.noLookup)
        ⟨directSession (some (buildPac ["a", "b"] 25444)) ["a", "b"],
          [.storing (buildPac ["a"] 25444), .returned (.ok ())]⟩ =
      ⟨directSession (some (buildPac ["a"] 25444)) ["a", "b"],
        [.returned (.ok ()), .returned (.ok ())]⟩ :=
    stores_text _ rfl
  refine ⟨starts_twoCalls, ?_, fun fresh => old_text_differs (Option.some.inj fresh)⟩
  change overtaken.foldl (step Concurrent.noLookup) twoCalls = _
  rw [overtaken, List.foldl_append, List.foldl_append, both_read, newer, older]

end Refreshing

end CovertConnect.Client
