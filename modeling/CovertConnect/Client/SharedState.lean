import CovertConnect.Client.Health
import Mathlib.Algebra.GroupWithZero.Nat

namespace CovertConnect.Client

open CovertConnect.Data CovertConnect.Crypto
open MonitorStream

/-! # Tunnels that share a server

Every tunnel to a server has a reference to the one state of that server and
counts in it, in whatever order their calls come. -/

/-- A tunnel behind its header, and whether `process_tunnel` is done with it. -/
structure Lane (S : Type) where
  ledger : Ledger S
  ended : Bool

/-- The tunnels to one server. -/
structure Shared (S : Type) where
  state : ServerState
  lanes : List (Lane S)

inductive SharedEvent (S : Type) where
  | opened (stream : S)
  | call (index : Nat) (call : Call S)
  /-- `copy_bidirectional` has returned. -/
  | ended (index : Nat)

/-- A ledger whose stream counts in this state. -/
def MonitorStream.Ledger.within {S : Type} (this : Ledger S) (state : ServerState) : Ledger S :=
  { this with stream := { this.stream with state := state } }

namespace Lane

variable {S : Type} [AsyncRead S] [AsyncWrite S]

/-- A call of the tunnel, which counts in the shared state. -/
def call (lane : Lane S) (state : ServerState) (call : Call S) : Lane S :=
  { lane with ledger := (lane.ledger.within state).step call }

/-- What is counted at the end of a tunnel. -/
def finish (lane : Lane S) (state : ServerState) : ServerState :=
  if lane.ledger.stream.isSuccess then state
  else { state with errCount := state.errCount + 1 }

/-- The server has returned something. -/
def succeeded (lane : Lane S) : Nat := if lane.ledger.reads = [] then 0 else 1

/-- The tunnel is done, and the server has returned nothing. -/
def failed (lane : Lane S) : Nat := if lane.ended ∧ lane.ledger.reads = [] then 1 else 0

def sent (lane : Lane S) : Nat := lane.ledger.writes.sum

def received (lane : Lane S) : Nat := lane.ledger.reads.sum

end Lane

namespace Shared

variable {S : Type}

def start (state : ServerState) : Shared S where
  state := state
  lanes := []

variable [AsyncRead S] [AsyncWrite S]

def step (this : Shared S) : SharedEvent S → Shared S
  | .opened stream =>
      { this with lanes := this.lanes ++ [⟨.opened (fromStream stream this.state), false⟩] }
  | .call index call =>
      match this.lanes[index]? with
      | some lane =>
          if lane.ended then this
          else
            { state := (lane.call this.state call).ledger.stream.state
              lanes := this.lanes.set index (lane.call this.state call) }
      | none => this
  | .ended index =>
      match this.lanes[index]? with
      | some lane =>
          if lane.ended then this
          else
            { state := lane.finish this.state
              lanes := this.lanes.set index { lane with ended := true } }
      | none => this

/-- What one step does: nothing, or something to one tunnel. -/
theorem step_cases (this : Shared S) (event : SharedEvent S) :
    (∃ stream, event = .opened stream ∧ this.step event =
      { this with lanes := this.lanes ++ [⟨.opened (fromStream stream this.state), false⟩] }) ∨
    (∃ index call lane, event = .call index call ∧ this.lanes[index]? = some lane ∧
      lane.ended = false ∧ this.step event =
        { state := (lane.call this.state call).ledger.stream.state
          lanes := this.lanes.set index (lane.call this.state call) }) ∨
    (∃ index lane, event = .ended index ∧ this.lanes[index]? = some lane ∧ lane.ended = false ∧
      this.step event =
        { state := lane.finish this.state
          lanes := this.lanes.set index { lane with ended := true } }) ∨
    (this.step event = this ∧ ¬ ∃ index call lane, event = .call index call ∧
      this.lanes[index]? = some lane ∧ lane.ended = false) := by
  cases event with
  | opened stream => exact .inl ⟨stream, rfl, rfl⟩
  | call index call =>
      cases found : this.lanes[index]? with
      | none => exact .inr (.inr (.inr ⟨by simp only [step, found], by simp [found]⟩))
      | some lane =>
          cases ended : lane.ended with
          | true =>
              exact .inr (.inr (.inr ⟨by simp only [step, found, ended, if_true], by simp [found, ended]⟩))
          | false =>
              refine .inr (.inl ⟨index, call, lane, rfl, found, ended, ?_⟩)
              simp only [step, found, ended, Bool.false_eq_true, if_false]
  | ended index =>
      cases found : this.lanes[index]? with
      | none => exact .inr (.inr (.inr ⟨by simp only [step, found], by simp⟩))
      | some lane =>
          cases ended : lane.ended with
          | true =>
              exact .inr (.inr (.inr ⟨by simp only [step, found, ended, if_true], by simp⟩))
          | false =>
              refine .inr (.inr (.inl ⟨index, lane, rfl, found, ended, ?_⟩))
              simp only [step, found, ended, Bool.false_eq_true, if_false]

omit [AsyncRead S] [AsyncWrite S]

def total (count : Lane S → Nat) (lanes : List (Lane S)) : Nat := (lanes.map count).sum

theorem total_set (count : Lane S → Nat) {lanes : List (Lane S)} {index : Nat} {old : Lane S}
    (found : lanes[index]? = some old) (new : Lane S) :
    total count (lanes.set index new) + count old = total count lanes + count new := by
  induction lanes generalizing index with
  | nil => cases found
  | cons lane lanes ih =>
      cases index with
      | zero =>
          obtain rfl : lane = old := Option.some.inj found
          simp only [total, List.set_cons_zero, List.map_cons, List.sum_cons]
          omega
      | succ index =>
          have rest := ih (show lanes[index]? = some old from found)
          simp only [total, List.set_cons_succ, List.map_cons, List.sum_cons] at rest ⊢
          omega

theorem total_opened (count : Lane S → Nat) (lanes : List (Lane S)) (new : Lane S) :
    total count (lanes ++ [new]) = total count lanes + count new := by
  simp [total]

/-- A counter that has grown by as much as the sum is as far on as it. -/
theorem counter_set_iff (count : Lane S → Nat) {lanes : List (Lane S)} {index : Nat}
    {old new : Lane S} {first before after : UInt64} (found : lanes[index]? = some old)
    (was : before = first + UInt64.ofNat (total count lanes)) :
    after = first + UInt64.ofNat (total count (lanes.set index new)) ↔
      after + UInt64.ofNat (count old) = before + UInt64.ofNat (count new) := by
  have moved : before + UInt64.ofNat (count new) =
      first + UInt64.ofNat (total count (lanes.set index new)) + UInt64.ofNat (count old) := by
    rw [was, UInt64.add_assoc, UInt64.add_assoc, ← UInt64.ofNat_add, ← UInt64.ofNat_add,
      total_set count found new]
  rw [moved, UInt64.add_left_inj]

end Shared

namespace Lane

variable {S : Type}

/-- The stream knows whether a read has succeeded. -/
def Sound (lane : Lane S) : Prop :=
  lane.ledger.stream.success = !lane.ledger.reads.isEmpty

theorem succeeded_eq {lane : Lane S} (sound : lane.Sound) :
    lane.succeeded = if lane.ledger.stream.success then 1 else 0 := by
  rw [succeeded, sound]
  cases lane.ledger.reads <;> rfl

/-- A call moves every counter by what it adds to the tunnel.  What it fills up
it counts once too often. -/
structure Counted (lane next : Lane S) (state after : ServerState) (fillsUp : Prop) : Prop where
  succes : after.succesCount + UInt64.ofNat lane.succeeded =
    state.succesCount + UInt64.ofNat next.succeeded
  err : after.errCount + UInt64.ofNat lane.failed = state.errCount + UInt64.ofNat next.failed
  sent : after.txTotal + UInt64.ofNat lane.sent = state.txTotal + UInt64.ofNat next.sent
  received : after.rxTotal + UInt64.ofNat lane.received =
    state.rxTotal + UInt64.ofNat next.received ↔ ¬ fillsUp
  sound : next.Sound

variable [AsyncRead S] [AsyncWrite S]

theorem call_counted {lane : Lane S} (state : ServerState) (sound : lane.Sound)
    (running : lane.ended = false) (call : Call S) :
    Counted lane (lane.call state call) state (lane.call state call).ledger.stream.state
      (lane.ledger.FillsUp call) := by
  have unfailed : ∀ ledger : Ledger S, failed { lane with ledger } = 0 := by
    intro ledger
    simp [failed, running]
  let ledger := lane.ledger.within state
  change Counted lane { lane with ledger := ledger.step call } state (ledger.step call).stream.state _
  cases call with
  | turn _ | flush | shutdown =>
      exact ⟨rfl, rfl, rfl, iff_of_true rfl not_false, sound⟩
  | write buf =>
      rcases ledger.stream.pollWrite_spec buf with ⟨count, answer, after⟩ | ⟨other, after⟩
      · simp only [Ledger.step, after, answer, sizeWritten]
        refine ⟨rfl, rfl, ?_, iff_of_true rfl not_false, sound⟩
        change state.txTotal + UInt64.ofNat count + UInt64.ofNat lane.ledger.writes.sum =
          state.txTotal + UInt64.ofNat (lane.ledger.writes ++ [count]).sum
        rw [List.sum_append, List.sum_singleton, UInt64.ofNat_add]
        ac_rfl
      · simp only [Ledger.step, after, sizeWritten_nil other, List.append_nil]
        exact ⟨rfl, rfl, rfl, iff_of_true rfl not_false, sound⟩
  | read buf =>
      rcases ledger.stream.pollRead_spec buf with ⟨bytes, answer, after⟩ | ⟨other, after⟩
      · have fits : buf.filled.length < 2 ^ 63 :=
          Nat.lt_of_le_of_lt (Nat.le_add_right _ _) buf.fits
        simp only [Ledger.step, after, answer, sizeRead]
        refine ⟨?_, ?_, rfl, ?_, ?_⟩
        · have returned : succeeded { lane with
              ledger := { ledger with reads := ledger.reads ++ [bytes.length] } } = 1 :=
            if_neg (by simp)
          change (if lane.ledger.stream.success then state.succesCount else state.succesCount + 1) +
            UInt64.ofNat lane.succeeded = state.succesCount + UInt64.ofNat _
          rw [succeeded_eq sound]
          refine Eq.trans ?_ (congrArg (state.succesCount + UInt64.ofNat ·) returned.symm)
          by_cases already : lane.ledger.stream.success = true
          · rw [if_pos already, if_pos already]
          · rw [if_neg already, if_neg already]
            exact UInt64.add_zero _
        · exact congrArg (state.errCount + UInt64.ofNat ·) ((unfailed _).trans (unfailed _).symm)
        · change state.rxTotal + UInt64.ofNat (buf.filled.length + bytes.length) +
              UInt64.ofNat lane.ledger.reads.sum =
            state.rxTotal + UInt64.ofNat (lane.ledger.reads ++ [bytes.length]).sum ↔ _
          rw [List.sum_append, List.sum_singleton, UInt64.add_assoc,
            UInt64.add_comm (UInt64.ofNat (buf.filled.length + bytes.length)), ← UInt64.add_assoc,
            MonitorStream.Ledger.counted_iff _ _ _ fits, List.length_eq_zero_iff]
          exact ⟨fun empty fills => fills.1 empty,
            fun none => Classical.not_not.mp fun some => none ⟨some, bytes, answer⟩⟩
        · simp [Sound]
      · simp only [Ledger.step, after, sizeRead_nil other, List.append_nil]
        refine ⟨rfl, rfl, rfl, iff_of_true rfl ?_, sound⟩
        intro fills
        obtain ⟨_, bytes, answer⟩ := fills
        exact other bytes answer

omit [AsyncRead S] [AsyncWrite S] in
/-- The end of a tunnel counts a failure where there was no success. -/
theorem finish_counted {lane : Lane S} (state : ServerState) (sound : lane.Sound)
    (running : lane.ended = false) :
    Counted lane { lane with ended := true } state (lane.finish state) False := by
  have before : lane.failed = 0 := by simp [failed, running]
  unfold finish
  cases reads : lane.ledger.reads with
  | nil =>
      have unsuccessful : lane.ledger.stream.isSuccess = false := by
        rw [isSuccess, sound, reads]
        rfl
      rw [unsuccessful]
      refine ⟨rfl, ?_, rfl, iff_of_true rfl not_false, sound⟩
      rw [before]
      simp [failed, reads]
  | cons size sizes =>
      have successful : lane.ledger.stream.isSuccess = true := by
        rw [isSuccess, sound, reads]
        rfl
      rw [successful]
      refine ⟨rfl, ?_, rfl, iff_of_true rfl not_false, sound⟩
      rw [before]
      simp [failed, reads]

end Lane

namespace Shared

variable {S : Type} [AsyncRead S] [AsyncWrite S]

def Sound (this : Shared S) : Prop := ∀ lane ∈ this.lanes, lane.Sound

/-- Everything but the received bytes is counted once. -/
structure Counts (first : ServerState) (this : Shared S) : Prop where
  succes : this.state.succesCount =
    first.succesCount + UInt64.ofNat (total Lane.succeeded this.lanes)
  err : this.state.errCount = first.errCount + UInt64.ofNat (total Lane.failed this.lanes)
  sent : this.state.txTotal = first.txTotal + UInt64.ofNat (total Lane.sent this.lanes)

def ReceivedExact (first : ServerState) (this : Shared S) : Prop :=
  this.state.rxTotal = first.rxTotal + UInt64.ofNat (total Lane.received this.lanes)

/-- A tunnel is about to fill up a buffer that is not empty. -/
def FillsUp (this : Shared S) : SharedEvent S → Prop
  | .call index call =>
      ∃ lane, this.lanes[index]? = some lane ∧ lane.ended = false ∧ lane.ledger.FillsUp call
  | _ => False

omit [AsyncRead S] [AsyncWrite S] in
/-- What a change of one tunnel does to all the counters. -/
theorem changed_lane {first : ServerState} {this : Shared S} {index : Nat} {lane next : Lane S}
    {after : ServerState} {fillsUp : Prop} (found : this.lanes[index]? = some lane)
    (sound : this.Sound) (counts : this.Counts first)
    (counted : lane.Counted next this.state after fillsUp) :
    (Shared.mk after (this.lanes.set index next)).Sound ∧
      (Shared.mk after (this.lanes.set index next)).Counts first ∧
      (this.ReceivedExact first →
        ((Shared.mk after (this.lanes.set index next)).ReceivedExact first ↔ ¬ fillsUp)) := by
  refine ⟨?_, ⟨?_, ?_, ?_⟩, ?_⟩
  · intro other there
    rcases List.mem_or_eq_of_mem_set there with old | rfl
    · exact sound other old
    · exact counted.sound
  · exact (counter_set_iff _ found counts.succes).mpr counted.succes
  · exact (counter_set_iff _ found counts.err).mpr counted.err
  · exact (counter_set_iff _ found counts.sent).mpr counted.sent
  · intro exactly
    exact (counter_set_iff _ found exactly).trans counted.received

theorem step_counts {first : ServerState} {this : Shared S} (sound : this.Sound)
    (counts : this.Counts first) (event : SharedEvent S) :
    (this.step event).Sound ∧ (this.step event).Counts first ∧
      (this.ReceivedExact first →
        ((this.step event).ReceivedExact first ↔ ¬ this.FillsUp event)) := by
  rcases this.step_cases event with ⟨stream, rfl, moved⟩ |
    ⟨index, call, lane, rfl, found, running, moved⟩ | ⟨index, lane, rfl, found, running, moved⟩ |
    ⟨moved, idle⟩
  · rw [moved]
    refine ⟨?_, ⟨?_, ?_, ?_⟩, fun exactly => iff_of_true ?_ not_false⟩
    · intro lane there
      rcases List.mem_append.mp there with old | new
      · exact sound lane old
      · rw [List.mem_singleton.mp new]
        rfl
    · rw [total_opened]
      exact counts.succes
    · rw [total_opened]
      exact counts.err
    · rw [total_opened]
      exact counts.sent
    · rw [ReceivedExact, total_opened]
      exact exactly
  · rw [moved]
    have here := sound lane (List.mem_of_getElem? found)
    obtain ⟨sound', counts', received⟩ :=
      changed_lane found sound counts (Lane.call_counted this.state here running call)
    refine ⟨sound', counts', fun exactly => (received exactly).trans (not_congr ?_)⟩
    constructor
    · exact fun fills => ⟨lane, found, running, fills⟩
    · intro fills
      obtain ⟨other, there, _, fills⟩ := fills
      rw [found] at there
      rw [Option.some.inj there]
      exact fills
  · rw [moved]
    have here := sound lane (List.mem_of_getElem? found)
    exact changed_lane found sound counts (Lane.finish_counted this.state here running)
  · rw [moved]
    refine ⟨sound, counts, fun exactly => iff_of_true exactly ?_⟩
    intro fills
    cases event with
    | opened _ | ended _ => exact fills
    | call index call =>
        obtain ⟨lane, found, running, _⟩ := fills
        exact idle ⟨index, call, lane, rfl, found, running⟩

omit [AsyncRead S] [AsyncWrite S] in
/-- Every tunnel that is done is counted on one side. -/
theorem settled_once (lanes : List (Lane S)) (done : ∀ lane ∈ lanes, lane.ended = true) :
    total Lane.succeeded lanes + total Lane.failed lanes = lanes.length := by
  induction lanes with
  | nil => rfl
  | cons lane lanes ih =>
      have rest := ih fun other there => done other (List.mem_cons_of_mem _ there)
      have here : lane.succeeded + lane.failed = 1 := by
        rw [Lane.succeeded, Lane.failed, done lane List.mem_cons_self]
        by_cases none : lane.ledger.reads = [] <;> simp [none]
      simp only [total, List.map_cons, List.sum_cons, List.length_cons] at rest ⊢
      omega

/-- However the calls of the tunnels to one server are mixed, its state counts
each of them once: a success where the server has returned something, an error
where a tunnel is done and it has not, and all that was sent.  The bytes
received are right all the time just when no tunnel fills up a buffer that is
not empty. -/
theorem run_counts (first : ServerState) (events : List (SharedEvent S)) :
    AllStates step (Counts first) (start first) events ∧
      AllStates step (fun this => (∀ lane ∈ this.lanes, lane.ended = true) →
        this.state.succesCount + this.state.errCount = first.succesCount + first.errCount +
          UInt64.ofNat this.lanes.length) (start first) events ∧
      (AllStates step (ReceivedExact first) (start first) events ↔
        AllSteps step (fun this event => ¬ this.FillsUp event) (start first) events) := by
  have sound : (start first : Shared S).Sound := by
    intro lane there
    cases there
  have counts : (start first : Shared S).Counts first := by
    constructor <;> simp [start, total]
  have keeps : ∀ (this : Shared S) (event : SharedEvent S), this.Sound ∧ this.Counts first → True →
      (this.step event).Sound ∧ (this.step event).Counts first := by
    intro this event kept _
    obtain ⟨sound', counts', _⟩ := step_counts kept.1 kept.2 event
    exact ⟨sound', counts'⟩
  have always : AllSteps step (fun (_ : Shared S) (_ : SharedEvent S) => True) (start first) events :=
    allSteps_true
  refine ⟨allStates_of_allSteps keeps (fun _ kept => kept.2) ⟨sound, counts⟩ always,
    allStates_of_allSteps keeps ?_ ⟨sound, counts⟩ always, ?_⟩
  · intro this kept done
    rw [kept.2.succes, kept.2.err, ← settled_once this.lanes done, UInt64.ofNat_add]
    ac_rfl
  · refine allStates_iff _ _ keeps ?_ ⟨sound, counts⟩ ?_ always
    · intro this event kept exactly _
      exact (step_counts kept.1 kept.2 event).2.2 exactly
    · simp [ReceivedExact, start, total]

end Shared

end CovertConnect.Client
