import CovertConnect.Data.AsyncIo

namespace CovertConnect.Data

/-! A socket with a clock.

The peer acts at times of its own; a wait ends with the bytes that it is for,
with the end of the connection, or when its time is up. -/

inductive Ending where
  | closed
  | failed (error : IoError)
deriving DecidableEq, Repr

inductive PeerAct where
  | sends (bytes : Bytes)
  | ends (ending : Ending)
deriving DecidableEq, Repr

/-- Each act comes so many milliseconds after the act before. -/
abbrev Schedule := List (Nat × PeerAct)

/-- `arrived` can be read, and the peer acts by the schedule until it has
ended the connection. -/
structure Timed where
  now : Nat
  arrived : Bytes
  ended : Option Ending
  coming : Schedule
  outgoing : Bytes
deriving DecidableEq, Repr

namespace Timed

/-- What there is at the end of a wait, and how long it took. -/
structure Waited where
  elapsed : Nat
  arrived : Bytes
  ended : Option Ending
  coming : Schedule
deriving DecidableEq, Repr

/-- A wait for `size` bytes, and of at most `limit` milliseconds. -/
def wait (size : Nat) : (limit : Nat) → (arrived : Bytes) → Schedule → Waited
  | limit, arrived, [] =>
      if size ≤ arrived.length then ⟨0, arrived, none, []⟩ else ⟨limit, arrived, none, []⟩
  | limit, arrived, (delay, act) :: later =>
      if size ≤ arrived.length then ⟨0, arrived, none, (delay, act) :: later⟩
      else if limit < delay then ⟨limit, arrived, none, (delay - limit, act) :: later⟩
      else
        match act with
        | .ends ending => ⟨delay, arrived, some ending, []⟩
        | .sends bytes =>
            let rest := wait size (limit - delay) (arrived ++ bytes) later
            { rest with elapsed := delay + rest.elapsed }

def await (this : Timed) (size limit : Nat) : Timed :=
  match this.ended with
  | some _ => this
  | none =>
      let waited := wait size limit this.arrived this.coming
      { this with
        now := this.now + waited.elapsed
        arrived := waited.arrived
        ended := waited.ended
        coming := waited.coming }

/-- A wait without a limit goes on for as long as the peer acts. -/
def patience (this : Timed) : Nat := (this.coming.map Prod.fst).sum

/-- What a read finds where it does not wait. -/
def take (this : Timed) (room : Nat) : Except IoError Bytes × Timed :=
  if this.arrived ≠ [] ∨ room = 0 then
    (.ok (this.arrived.take room), { this with arrived := this.arrived.drop room })
  else
    match this.ended with
    | some (.failed error) => (.error error, this)
    | some .closed => (.ok [], this)
    | none => (.error .wouldBlock, this)

def read (this : Timed) (room : Nat) : Except IoError Bytes × Timed :=
  let this := this.await 1 this.patience
  match this.ended with
  | some _ => this.take room
  | none => (.ok (this.arrived.take room), { this with arrived := this.arrived.drop room })

def readExact (this : Timed) (size : Nat) : Except IoError Bytes × Timed :=
  let this := this.await size this.patience
  if size ≤ this.arrived.length then
    (.ok (this.arrived.take size), { this with arrived := this.arrived.drop size })
  else
    match this.ended with
    | some (.failed error) => (.error error, { this with arrived := [] })
    | _ => (.error .unexpectedEof, { this with arrived := [] })

/-- What has arrived in time is dropped. -/
def readTimeout (this : Timed) (size limit : Nat) : Timed :=
  let this := this.await size limit
  { this with arrived := this.arrived.drop size }

def write (this : Timed) (bytes : Bytes) : Timed :=
  { this with outgoing := this.outgoing ++ bytes }

theorem take_fits (this after : Timed) (room : Nat) (bytes : Bytes)
    (taken : this.take room = (.ok bytes, after)) : bytes.length ≤ room := by
  rw [take] at taken
  split at taken
  · cases taken
    rw [List.length_take]
    exact Nat.min_le_left _ _
  split at taken
  · cases taken
  · cases taken
    exact Nat.zero_le _
  · cases taken

theorem read_fits (this after : Timed) (room : Nat) (bytes : Bytes)
    (taken : this.read room = (.ok bytes, after)) : bytes.length ≤ room := by
  simp only [read] at taken
  split at taken
  · exact take_fits _ _ _ _ taken
  · cases taken
    rw [List.length_take]
    exact Nat.min_le_left _ _

theorem readExact_fits (this after : Timed) (size : Nat) (bytes : Bytes)
    (taken : this.readExact size = (.ok bytes, after)) : bytes.length = size := by
  simp only [readExact] at taken
  split at taken
  · rename_i enough
    cases taken
    exact List.length_take_of_le enough
  split at taken
  · cases taken
  · cases taken

theorem wait_nothing (limit : Nat) (arrived : Bytes) (coming : Schedule) :
    wait 0 limit arrived coming = ⟨0, arrived, none, coming⟩ := by
  cases coming with
  | nil => rfl
  | cons first later => rfl

/-- A wait for no bytes is over at once. -/
theorem readTimeout_nothing (this : Timed) (limit : Nat) : this.readTimeout 0 limit = this := by
  obtain ⟨now, arrived, ended, coming, outgoing⟩ := this
  cases ended with
  | some ending => rfl
  | none => simp only [readTimeout, await, wait_nothing, Nat.add_zero, List.drop_zero]

instance : Socket Timed where
  pollRead this room :=
    match this.take room with
    | (.error .wouldBlock, this) => (.pending, this.await 1 this.patience)
    | (answer, this) => (.ready answer, this)
  pollRead_fits this room bytes after poll := by
    split at poll
    · cases poll
    · rename_i answer _ _ taken
      cases poll
      exact take_fits _ _ _ _ taken
  pollWrite this bytes := (.ready (.ok bytes.length), this.write bytes)
  pollFlush this := (.ready (.ok ()), this)
  pollShutdown this := (.ready (.ok ()), this)
  pollWrite_fits _ _ _ _ poll := by
    cases poll
    exact Nat.le_refl _
  read := read
  tryRead := take
  readExact := readExact
  readTimeout := readTimeout
  writeAll this bytes := (.ok (), this.write bytes)
  flush this := (.ok (), this)
  read_fits this room bytes after := read_fits this after room bytes
  tryRead_fits this room bytes after := take_fits this after room bytes
  readExact_fits this size bytes after := readExact_fits this after size bytes
  readTimeout_empty := readTimeout_nothing

/-- The bytes that come within `elapsed` milliseconds. -/
def receivedIn : (elapsed : Nat) → Schedule → Nat
  | elapsed, (delay, .sends bytes) :: later =>
      if delay ≤ elapsed then bytes.length + receivedIn (elapsed - delay) later else 0
  | _, _ => 0

/-- Whether the peer ends the connection within `elapsed` milliseconds. -/
def endsIn : (elapsed : Nat) → Schedule → Bool
  | _, [] => false
  | elapsed, (delay, .ends _) :: _ => decide (delay ≤ elapsed)
  | elapsed, (delay, .sends _) :: later => decide (delay ≤ elapsed) && endsIn (elapsed - delay) later

/-- A wait for `size` more bytes may be over after `elapsed` milliseconds: they
have come, the connection has ended, or the time is up. -/
def DueIn (size limit elapsed : Nat) (coming : Schedule) : Prop :=
  size ≤ receivedIn elapsed coming ∨ endsIn elapsed coming = true ∨ limit ≤ elapsed

instance (size limit elapsed : Nat) (coming : Schedule) :
    Decidable (DueIn size limit elapsed coming) :=
  inferInstanceAs (Decidable (_ ∨ _ ∨ _))

/-- The same of a socket, where some have come and the end may have, too. -/
def Due (this : Timed) (size limit elapsed : Nat) : Prop :=
  this.ended.isSome = true ∨ DueIn (size - this.arrived.length) limit elapsed this.coming

instance (this : Timed) (size limit elapsed : Nat) : Decidable (this.Due size limit elapsed) :=
  inferInstanceAs (Decidable (_ ∨ _))

/-- Whichever comes first. -/
def FirstDue (this : Timed) (size limit elapsed : Nat) : Prop :=
  this.Due size limit elapsed ∧ ∀ earlier < elapsed, ¬ this.Due size limit earlier

instance (this : Timed) (size limit elapsed : Nat) : Decidable (this.FirstDue size limit elapsed) :=
  inferInstanceAs (Decidable (_ ∧ _))

theorem wait_dueIn (size limit : Nat) (arrived : Bytes) (coming : Schedule) :
    DueIn (size - arrived.length) limit (wait size limit arrived coming).elapsed coming ∧
      ∀ earlier < (wait size limit arrived coming).elapsed,
        ¬ DueIn (size - arrived.length) limit earlier coming := by
  induction coming generalizing limit arrived with
  | nil =>
      rw [wait]
      by_cases enough : size ≤ arrived.length
      · rw [if_pos enough]
        exact ⟨.inl (by omega), fun _ before => absurd before (Nat.not_lt_zero _)⟩
      · rw [if_neg enough]
        refine ⟨.inr (.inr (Nat.le_refl _)), fun earlier before due => ?_⟩
        simp only [DueIn, receivedIn, endsIn, Bool.false_eq_true, false_or] at due
        dsimp only at before
        omega
  | cons first later ih =>
      obtain ⟨delay, act⟩ := first
      -- before the first act nothing is due but the end of the time
      have quiet : ∀ earlier < delay, ¬ size ≤ arrived.length → earlier < limit →
          ¬ DueIn (size - arrived.length) limit earlier ((delay, act) :: later) := by
        intro earlier before few inTime due
        cases act with
        | sends bytes =>
            simp only [DueIn, receivedIn, endsIn, if_neg (Nat.not_le_of_lt before),
              decide_eq_false (Nat.not_le_of_lt before), Bool.false_and, Bool.false_eq_true,
              false_or] at due
            omega
        | ends ending =>
            simp only [DueIn, receivedIn, endsIn, decide_eq_false (Nat.not_le_of_lt before),
              Bool.false_eq_true, false_or] at due
            omega
      rw [wait.eq_def]
      dsimp only
      by_cases enough : size ≤ arrived.length
      · rw [if_pos enough]
        exact ⟨.inl (by omega), fun _ before => absurd before (Nat.not_lt_zero _)⟩
      rw [if_neg enough]
      by_cases late : limit < delay
      · rw [if_pos late]
        exact ⟨.inr (.inr (Nat.le_refl _)),
          fun earlier before => quiet earlier (before.trans late) enough before⟩
      rw [if_neg late]
      cases act with
      | ends ending =>
          refine ⟨.inr (.inl (decide_eq_true (Nat.le_refl _))), fun earlier before => ?_⟩
          dsimp only at before
          exact quiet earlier before enough (by omega)
      | sends bytes =>
          obtain ⟨due, notBefore⟩ := ih (limit - delay) (arrived ++ bytes)
          have shifted : ∀ elapsed, DueIn (size - arrived.length) limit (delay + elapsed)
              ((delay, .sends bytes) :: later) ↔
                DueIn (size - (arrived ++ bytes).length) (limit - delay) elapsed later := by
            intro elapsed
            have bytesLeft : size - arrived.length ≤ bytes.length + receivedIn elapsed later ↔
                size - (arrived.length + bytes.length) ≤ receivedIn elapsed later := by omega
            have timeLeft : limit ≤ delay + elapsed ↔ limit - delay ≤ elapsed := by omega
            simp only [DueIn, receivedIn, endsIn, if_pos (Nat.le_add_right _ _),
              decide_eq_true (Nat.le_add_right _ _), Bool.true_and, Nat.add_sub_cancel_left,
              List.length_append, bytesLeft, timeLeft]
          refine ⟨(shifted _).mpr due, fun earlier before => ?_⟩
          dsimp only at before
          by_cases first : earlier < delay
          · exact quiet earlier first enough (by omega)
          · have later' : earlier = delay + (earlier - delay) := by omega
            rw [later', shifted]
            exact notBefore _ (by omega)

/-- A timed read is over at the first moment that it may be. -/
theorem readTimeout_firstDue (this : Timed) (size limit : Nat) :
    this.FirstDue size limit ((this.readTimeout size limit).now - this.now) := by
  obtain ⟨now, arrived, ended, coming, outgoing⟩ := this
  cases ended with
  | some ending =>
      have elapsed : ((⟨now, arrived, some ending, coming, outgoing⟩ : Timed).readTimeout size
          limit).now - now = 0 := Nat.sub_self _
      dsimp only
      rw [elapsed]
      exact ⟨.inl rfl, fun _ before => absurd before (Nat.not_lt_zero _)⟩
  | none =>
      have elapsed : ((⟨now, arrived, none, coming, outgoing⟩ : Timed).readTimeout size
          limit).now - now = (wait size limit arrived coming).elapsed := Nat.add_sub_cancel_left ..
      obtain ⟨due, notBefore⟩ := wait_dueIn size limit arrived coming
      dsimp only
      rw [elapsed]
      refine ⟨.inr due, fun earlier before first => ?_⟩
      rcases first with ended | first
      · cases ended
      · exact notBefore earlier before first

end Timed

end CovertConnect.Data
