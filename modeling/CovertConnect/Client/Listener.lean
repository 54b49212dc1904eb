import CovertConnect.Client.Atomicity

namespace CovertConnect.Client

open CovertConnect.Data

/-! # The listener of the proxy

`serve` binds a listener, and binds another one whenever `set_proxy_port` has
sent it a restart message.  A call and the loop interleave: the call stores the
port before it sends, and the loop takes the message, puts a new sender into
the channel, reads the address and binds, one after the other. -/

/-- What the loop does next. -/
inductive ServePhase where
  | arm
  | read
  | bind (port : UInt16)
  | select
  | ended
deriving DecidableEq, Repr

/-- `captured` is the address that `serve` read before its loop, `bound` the
one of the live listener, and `underway` counts the calls that have stored
their port and not sent yet. -/
structure Listening where
  port : UInt16
  restart : Restart
  phase : ServePhase
  captured : Option UInt16
  bound : Option UInt16
  underway : Nat
deriving DecidableEq, Repr

/-- `reset` is the answer of `reset_proxy` at the end of a call. -/
inductive ListeningEvent where
  | store (port : UInt16)
  | signal (reset : Except Error Unit)
  | arm
  | read
  | bind (answer : Except IoError Unit)
  | takeRestart
  | acceptError (answer : Except IoError Unit)

namespace Listening

/-- When `serve` starts. -/
def begun (port : UInt16) : Listening where
  port := port
  restart := .absent
  phase := .arm
  captured := none
  bound := none
  underway := 0

/-- `serve` returns: the listener and the receiver are dropped. -/
def returned (this : Listening) : Listening :=
  { this with
    phase := .ended
    bound := none
    restart := match this.restart with
      | .waiting => .gone
      | _ => .absent }

/-- A new listener replaces the old one, unless the bind fails. -/
def listenOn (this : Listening) (address : Option UInt16) :
    Except IoError Unit → Listening
  | .ok () => { this with bound := address, phase := .select }
  | .error _ => this.returned

/-- The sender is taken and used. -/
def signalled (this : Listening) : Listening :=
  { this with
    underway := this.underway - 1
    restart := match this.restart with
      | .waiting => .sent
      | .gone => .absent
      | other => other }

/-- An event that is not due changes nothing. -/
def step (this : Listening) : ListeningEvent → Listening
  | .store port => { this with port, underway := this.underway + 1 }
  | .signal _ => if 0 < this.underway then this.signalled else this
  | .arm => if this.phase = .arm then { this with restart := .waiting, phase := .read } else this
  | .read =>
      if this.phase = .read then
        { this with
          phase := .bind this.port
          captured := this.captured.or (some this.port) }
      else this
  | .bind answer =>
      match this.phase with
      | .bind port => this.listenOn (some port) answer
      | _ => this
  | .takeRestart =>
      if this.phase = .select ∧ this.restart = .sent then
        { this with restart := .absent, phase := .arm }
      else this
  | .acceptError answer =>
      if this.phase = .select then
        ({ this with bound := none } : Listening).listenOn this.captured answer
      else this

def passOn : Except Error Unit → Outcome Error Unit
  | .ok () => .ok ()
  | .error error => .err error

/-- How the call that sends here ends. -/
def answer (this : Listening) : ListeningEvent → Option (Outcome Error Unit)
  | .signal reset =>
      if 0 < this.underway then
        some (match this.restart with
          | .waiting => passOn reset
          | .gone => .panic "called `Result::unwrap()` on an `Err` value: ()"
          | _ => .err (.anyhow "restart channel not initialized"))
      else none
  | _ => none

/-- The two steps of a call do to the port and to the channel what the whole
call does, and answer the same. -/
theorem step_call {S : Type} [SystemProxy S] (this : Listening) (session : Session S)
    (port : UInt16) (reset : Except Error Unit)
    (channel : session.proxy.restart = this.restart)
    (resets : (Session.resetProxy (session.withPort port).sent).1 = passOn reset) :
    let stored := this.step (.store port)
    let after := stored.step (.signal reset)
    let (outcome, session') := Session.setProxyPort port session
    stored.answer (.signal reset) = some outcome ∧
      session'.proxy.pacService.proxyPort = after.port ∧
      session'.proxy.restart = after.restart := by
  have due : 0 < (this.step (.store port)).underway := Nat.succ_pos this.underway
  have stored : (this.step (.store port)).restart = this.restart := rfl
  have after : (this.step (.store port)).step (.signal reset) =
      ({ this with port, underway := this.underway + 1 } : Listening).signalled := by
    rw [step, step, if_pos (Nat.succ_pos this.underway)]
  dsimp only
  rw [after, answer, if_pos due, stored, setProxyPort_eq]
  cases state : this.restart with
  | waiting =>
      have kept : ∀ session' : Session S,
          (Session.resetProxy session').2.proxy.pacService.proxyPort =
              session'.proxy.pacService.proxyPort ∧
            (Session.resetProxy session').2.proxy.restart = session'.proxy.restart := by
        intro session'
        rw [Session.resetProxy_proxy]
        split <;> exact ⟨rfl, rfl⟩
      rw [Exec.bind_ok (sendRestart_waiting (session.withPort port) (channel.trans state))]
      obtain ⟨samePort, sameChannel⟩ := kept (session.withPort port).sent
      rw [samePort, sameChannel, resets]
      exact ⟨rfl, rfl, rfl⟩
  | absent =>
      rw [Exec.bind_err (sendRestart_missing (session.withPort port) (.inl (channel.trans state)))]
      exact ⟨rfl, rfl, channel.trans state⟩
  | sent =>
      rw [Exec.bind_err (sendRestart_missing (session.withPort port) (.inr (channel.trans state)))]
      exact ⟨rfl, rfl, channel.trans state⟩
  | gone =>
      rw [Exec.bind_apply, Session.sendRestart]
      simp [signalled, channel, state, Session.withPort, PacFileService.setNewPort]

/-- A message is in the channel, or a call is about to send it. -/
def SignalPending (this : Listening) : Prop :=
  this.restart = .sent ∨ 0 < this.underway

/-- A loop that waits, with no restart to come, listens on the configured
port. -/
def Follows (this : Listening) : Prop :=
  this.phase = .select → ¬ this.SignalPending → this.bound = some this.port

/-- A failed `accept` that makes the loop bind the configured port. -/
def RebindsCurrent (this : Listening) : ListeningEvent → Prop
  | .acceptError _ =>
      this.phase = .select → ¬ this.SignalPending → this.captured = some this.port
  | _ => True

def Binds : ListeningEvent → Prop
  | .bind answer | .acceptError answer => answer = .ok ()
  | _ => True

/-- The address that the loop is about to bind is the configured one, or a
message comes. -/
def Sound (this : Listening) : Prop :=
  match this.phase with
  | .arm => this.restart = .absent
  | .read | .select => this.restart = .waiting ∨ this.restart = .sent
  | .bind port =>
      (this.restart = .waiting ∨ this.restart = .sent) ∧
        (¬ this.SignalPending → port = this.port)
  | .ended => False

theorem Sound.signalled {this : Listening} (sound : this.Sound) : this.signalled.Sound := by
  unfold Sound at sound ⊢
  cases phase : this.phase with
  | arm =>
      simp only [phase] at sound
      simp [Listening.signalled, phase, sound]
  | read | select =>
      simp only [phase] at sound
      rcases sound with waiting | sent
      · simp [Listening.signalled, phase, waiting]
      · simp [Listening.signalled, phase, sent]
  | bind port =>
      simp only [phase] at sound
      obtain ⟨waiting | sent, _⟩ := sound
      · simp [Listening.signalled, phase, waiting, SignalPending]
      · simp [Listening.signalled, phase, sent, SignalPending]
  | ended =>
      simp only [phase] at sound

theorem step_sound {this : Listening} (event : ListeningEvent) (sound : this.Sound)
    (binds : Binds event) : (this.step event).Sound := by
  cases event with
  | store port =>
      unfold Sound at sound ⊢
      cases phase : this.phase with
      | bind address =>
          simp only [phase] at sound
          simp only [step, phase]
          exact ⟨sound.1, fun silent => absurd (.inr (Nat.succ_pos _)) silent⟩
      | arm | read | select =>
          simp only [phase] at sound
          simp only [step, phase]
          exact sound
      | ended => simp only [phase] at sound
  | signal reset =>
      rw [step]
      split
      · exact sound.signalled
      · exact sound
  | arm =>
      rw [step]
      split
      · exact .inl rfl
      · exact sound
  | read =>
      rw [step]
      split
      · rename_i phase
        simp only [Sound, phase] at sound
        exact ⟨sound, fun _ => rfl⟩
      · exact sound
  | bind answer =>
      cases (show answer = .ok () from binds)
      rw [step]
      split
      · rename_i port phase
        simp only [Sound, phase] at sound
        exact sound.1
      · exact sound
  | takeRestart =>
      rw [step]
      split
      · rfl
      · exact sound
  | acceptError answer =>
      cases (show answer = .ok () from binds)
      rw [step]
      split
      · rename_i phase
        simp only [Sound, phase] at sound
        exact sound
      · exact sound

theorem step_follows_iff {this : Listening} (event : ListeningEvent) (sound : this.Sound)
    (follows : this.Follows) (binds : Binds event) :
    (this.step event).Follows ↔ this.RebindsCurrent event := by
  cases event with
  | store port =>
      refine iff_of_true ?_ trivial
      intro _ silent
      exact absurd (.inr (Nat.succ_pos _)) silent
  | signal reset =>
      refine iff_of_true ?_ trivial
      rw [step]
      split
      · intro phase silent
        have phase : this.phase = .select := phase
        simp only [Sound, phase] at sound
        -- Whatever the channel was, the message is in it now.
        exfalso
        apply silent
        left
        rcases sound with waiting | sent
        · simp [signalled, waiting]
        · simp [signalled, sent]
      · exact follows
  | arm =>
      refine iff_of_true ?_ trivial
      rw [step]
      split
      · intro phase
        cases phase
      · exact follows
  | read =>
      refine iff_of_true ?_ trivial
      rw [step]
      split
      · intro phase
        cases phase
      · exact follows
  | bind answer =>
      refine iff_of_true ?_ trivial
      cases (show answer = .ok () from binds)
      rw [step]
      split
      · rename_i port phase
        simp only [Sound, phase] at sound
        intro _ silent
        exact congrArg some (sound.2 silent)
      · exact follows
  | takeRestart =>
      refine iff_of_true ?_ trivial
      rw [step]
      split
      · intro phase
        cases phase
      · exact follows
  | acceptError answer =>
      cases (show answer = .ok () from binds)
      by_cases phase : this.phase = .select
      · simp only [step, RebindsCurrent, phase, forall_const]
        exact ⟨fun bound silent => bound rfl silent, fun bound _ silent => bound silent⟩
      · simp only [step, if_neg phase, RebindsCurrent]
        exact iff_of_true follows fun selecting => absurd selecting phase

theorem allSteps_of_forall {allowed : ListeningEvent → Prop} (this : Listening)
    {events : List ListeningEvent} (all : ∀ event ∈ events, allowed event) :
    AllSteps step (fun _ event => allowed event) this events := by
  induction events generalizing this with
  | nil => exact trivial
  | cons event events ih =>
      exact ⟨all event List.mem_cons_self,
        ih _ fun later member => all later (List.mem_cons_of_mem _ member)⟩

/-- While every bind succeeds, a loop that waits always listens on the
configured port just when no failed `accept` brings an old one back. -/
theorem run_follows_iff (port : UInt16) (events : List ListeningEvent)
    (binds : ∀ event ∈ events, Binds event) :
    AllStates step Follows (begun port) events ↔
      AllSteps step RebindsCurrent (begun port) events := by
  apply allStates_iff Sound (fun _ event => Binds event)
  · exact fun _ event sound bindsNow => step_sound event sound bindsNow
  · exact fun _ event sound follows bindsNow => step_follows_iff event sound follows bindsNow
  · rfl
  · intro phase
    cases phase
  · exact allSteps_of_forall _ binds

/-- The loop binds the port and waits. -/
def start : List ListeningEvent :=
  [.arm, .read, .bind (.ok ())]

/-- A call of `set_proxy_port` that nothing comes between, and the restart. -/
def moveTo (port : UInt16) : List ListeningEvent :=
  [.store port, .signal (.ok ()), .takeRestart, .arm, .read, .bind (.ok ())]

theorem run_follows_moved :
    AllStates step Follows (begun 1) (start ++ .acceptError (.ok ()) :: moveTo 2) := by
  refine (run_follows_iff 1 _ (by simp [start, moveTo, Binds])).mpr ?_
  simp [start, moveTo, AllSteps, RebindsCurrent, step, begun, listenOn]

def movedAndBack : List ListeningEvent :=
  start ++ moveTo 2 ++ [.acceptError (.ok ())]

/-- A failed `accept` after a change of the port: the loop goes back to the
address it read when it started. -/
theorem acceptError_old_port :
    (∀ event ∈ movedAndBack, Binds event) ∧
      movedAndBack.foldl step (begun 1) =
        { port := 2, restart := .waiting, phase := .select, captured := some 1,
          bound := some 1, underway := 0 } ∧
      ¬ AllStates step Follows (begun 1) movedAndBack := by
  have binds : ∀ event ∈ movedAndBack, Binds event := by
    simp [movedAndBack, start, moveTo, Binds]
  refine ⟨binds, rfl, ?_⟩
  rw [run_follows_iff 1 _ binds]
  simp [movedAndBack, start, moveTo, AllSteps, RebindsCurrent, SignalPending, step, signalled,
    begun, listenOn]

/-- An address is in use just when the loop itself listens on it. -/
def Permitted (this : Listening) : ListeningEvent → Prop
  | .bind answer => ∀ port, this.phase = .bind port → (answer = .ok () ↔ this.bound ≠ some port)
  | .acceptError answer => answer = .ok ()
  | _ => True

def Running (this : Listening) : Prop :=
  this.phase ≠ .ended

def Answered (this : Listening) (event : ListeningEvent) : Prop :=
  ∀ outcome, this.answer event = some outcome → outcome = .ok ()

/-- A sender is there for the call that sends, and the port to bind is not the
one in use. -/
def Harmless (this : Listening) : ListeningEvent → Prop
  | .signal reset => 0 < this.underway → this.restart = .waiting ∧ reset = .ok ()
  | .bind _ => ∀ port, this.phase = .bind port → this.bound ≠ some port
  | _ => True

theorem listenOn_running {this : Listening} {address : Option UInt16} {answer : Except IoError Unit} :
    (this.listenOn address answer).Running ↔ answer = .ok () := by
  cases answer with
  | ok _ => exact iff_of_true (by simp [listenOn, Running]) rfl
  | error error => simp [listenOn, returned, Running]

theorem passOn_ok {reset : Except Error Unit} : passOn reset = .ok () ↔ reset = .ok () := by
  cases reset <;> simp [passOn]

theorem signal_answered_iff {this : Listening} (reset : Except Error Unit) :
    this.Answered (.signal reset) ↔ this.Harmless (.signal reset) := by
  by_cases due : 0 < this.underway
  · cases channel : this.restart <;>
      simp [Answered, Harmless, answer, due, channel, passOn_ok]
  · simp [Answered, Harmless, answer, due]

theorem step_harmless_iff {this : Listening} (event : ListeningEvent) (running : this.Running)
    (permitted : this.Permitted event) :
    (this.step event).Running ∧ this.Answered event ↔ this.Harmless event := by
  have silent : ∀ {event}, this.answer event = none → this.Answered event := by
    intro event none outcome some
    rw [none] at some
    cases some
  cases event with
  | store port => exact iff_of_true ⟨running, silent rfl⟩ trivial
  | signal reset =>
      have stays : (this.step (.signal reset)).Running := by
        rw [step]
        split
        · exact running
        · exact running
      rw [signal_answered_iff, and_iff_right stays]
  | arm =>
      refine iff_of_true ⟨?_, silent rfl⟩ trivial
      rw [step]
      split
      · simp [Running]
      · exact running
  | read =>
      refine iff_of_true ⟨?_, silent rfl⟩ trivial
      rw [step]
      split
      · simp [Running]
      · exact running
  | bind answer =>
      rw [and_iff_left (silent rfl), step]
      cases phase : this.phase with
      | bind port =>
          simp only [listenOn_running, permitted port phase, Harmless, phase,
            ServePhase.bind.injEq, forall_eq']
      | arm | read | select | ended => simp [Harmless, phase, running]
  | takeRestart =>
      refine iff_of_true ⟨?_, silent rfl⟩ trivial
      rw [step]
      split
      · simp [Running]
      · exact running
  | acceptError answer =>
      refine iff_of_true ⟨?_, silent rfl⟩ trivial
      rw [step]
      split
      · exact listenOn_running.mpr permitted
      · exact running

/-- From the moment the loop waits, it keeps running and every call succeeds
just when each call finds a sender and never makes the loop bind the port that
it listens on. -/
theorem run_harmless_iff (port : UInt16) {events : List ListeningEvent}
    (permitted : AllSteps step Permitted (start.foldl step (begun port)) events) :
    AllStates step Running (start.foldl step (begun port)) events ∧
        AllSteps step Answered (start.foldl step (begun port)) events ↔
      AllSteps step Harmless (start.foldl step (begun port)) events := by
  apply allStates_and_allSteps_iff (fun _ => True) Permitted Answered
  · exact fun _ _ _ _ => trivial
  · exact fun _ event _ running permittedNow => step_harmless_iff event running permittedNow
  · trivial
  · intro ended
    cases ended
  · exact permitted

theorem run_harmless_moved :
    AllStates step Running (start.foldl step (begun 1)) (moveTo 2 ++ moveTo 1) := by
  refine ((run_harmless_iff 1 ?_).mpr ?_).1
  · simp [start, moveTo, AllSteps, Permitted, step, signalled, begun, listenOn]
  · simp [start, moveTo, AllSteps, Harmless, step, signalled, begun, listenOn]

/-- A call for the port in use ends the loop, and the next call panics; a second
call before the loop has put in a new sender fails. -/
theorem setProxyPort_kills :
    let samePort : List ListeningEvent :=
      [.store 1, .signal (.ok ()), .takeRestart, .arm, .read, .bind (.error (.other 98))]
    let twice : List ListeningEvent := [.store 2, .signal (.ok ()), .store 3]
    let listening := start.foldl step (begun 1)
    AllSteps step Permitted listening samePort ∧
      (samePort.foldl step listening).phase = .ended ∧
      ((samePort.foldl step listening).step (.store 2)).answer (.signal (.ok ())) =
        some (.panic "called `Result::unwrap()` on an `Err` value: ()") ∧
      AllSteps step Permitted listening twice ∧
      (twice.foldl step listening).answer (.signal (.ok ())) =
        some (.err (.anyhow "restart channel not initialized")) ∧
      ¬ (AllStates step Running listening samePort ∧ AllSteps step Answered listening samePort) := by
  refine ⟨?_, rfl, rfl, ?_, rfl, ?_⟩
  · simp [start, AllSteps, Permitted, step, signalled, begun, listenOn]
  · simp [AllSteps, Permitted]
  · intro given
    obtain ⟨running, _⟩ := given
    simp [start, AllStates, Running, step, signalled, begun, listenOn, returned] at running

end Listening

end CovertConnect.Client
