import CovertConnect.Data.AsyncIo

namespace CovertConnect.Data

/-! A socket whose peer's bytes arrive in segments.

A read waits for bytes and takes what is there; a socket that was drained by it
is taken for unreadable until more bytes arrive. -/

/-- `arrived` can be read, and `ready` is what the event loop knows of that.
Before each call the next entry of `arriving` comes in, which may be nothing. -/
structure Segmented where
  arrived : Bytes
  ready : Bool
  arriving : List Bytes
  outgoing : Bytes
deriving DecidableEq, Repr

namespace Segmented

/-- Everything that has not been read yet. -/
def unread (this : Segmented) : Bytes := this.arrived ++ this.arriving.flatten

/-- A wait for the first bytes: what is there then, and what comes later. -/
def settle : Bytes → List Bytes → Bytes × List Bytes
  | arrived, [] => (arrived, [])
  | arrived, segment :: later =>
      if arrived ++ segment = [] then settle [] later else (arrived ++ segment, later)

/-- A wait for `size` bytes. -/
def gather (size : Nat) : Bytes → List Bytes → Bytes × List Bytes
  | arrived, [] => (arrived, [])
  | arrived, segment :: later =>
      if size ≤ arrived.length then (arrived, segment :: later)
      else gather size (arrived ++ segment) later

/-- What a waiting read finds. -/
def settled (this : Segmented) : Bytes × List Bytes := settle this.arrived this.arriving

/-- The peer closes after its last bytes, and later than any call that does not
wait. -/
def read (this : Segmented) (room : Nat) : Except IoError Bytes × Segmented :=
  let (arrived, arriving) := this.settled
  (.ok (arrived.take room),
    { this with
      arrived := arrived.drop room
      ready := decide (room ≤ arrived.length)
      arriving })

/-- The next segment comes in. -/
def arrive (this : Segmented) : Segmented :=
  { this with
    arrived := this.arrived ++ this.arriving.headD []
    ready := this.ready || this.arriving.headD [] ≠ []
    arriving := this.arriving.tail }

/-- An empty slice is `Ok(0)` whatever there is to read, as its documentation has it;
on Linux it would block on an open socket that has been read empty. -/
def tryRead (this : Segmented) (room : Nat) : Except IoError Bytes × Segmented :=
  let this := this.arrive
  if this.ready = false then (.error .wouldBlock, this)
  else if this.arrived = [] ∧ room ≠ 0 then (.error .wouldBlock, { this with ready := false })
  else (.ok (this.arrived.take room), { this with arrived := this.arrived.drop room })

def readExact (this : Segmented) (size : Nat) : Except IoError Bytes × Segmented :=
  let (arrived, arriving) := gather size this.arrived this.arriving
  if size ≤ arrived.length then
    (.ok (arrived.take size), { this with arrived := arrived.drop size, arriving })
  else (.error .unexpectedEof, { this with arrived := [], arriving })

/-- What arrives in time is dropped. -/
def readTimeout (this : Segmented) (size : Nat) : Segmented :=
  { this with arrived := this.arrived.drop size }

def write (this : Segmented) (bytes : Bytes) : Segmented :=
  { this with outgoing := this.outgoing ++ bytes }

theorem read_fits (this after : Segmented) (room : Nat) (bytes : Bytes)
    (taken : this.read room = (.ok bytes, after)) : bytes.length ≤ room := by
  cases taken
  rw [List.length_take]
  exact Nat.min_le_left _ _

theorem tryRead_fits (this after : Segmented) (room : Nat) (bytes : Bytes)
    (taken : this.tryRead room = (.ok bytes, after)) : bytes.length ≤ room := by
  simp only [tryRead] at taken
  split at taken
  · cases taken
  split at taken
  · cases taken
  · cases taken
    rw [List.length_take]
    exact Nat.min_le_left _ _

theorem readExact_fits (this after : Segmented) (size : Nat) (bytes : Bytes)
    (taken : this.readExact size = (.ok bytes, after)) : bytes.length = size := by
  simp only [readExact] at taken
  split at taken
  · rename_i enough
    cases taken
    rw [List.length_take]
    exact Nat.min_eq_left enough
  · cases taken

instance : Socket Segmented where
  pollRead this room := (.ready (this.read room).1, (this.read room).2)
  pollRead_fits this room bytes after poll := by
    cases poll
    exact read_fits this _ room _ rfl
  pollWrite this bytes := (.ready (.ok bytes.length), this.write bytes)
  pollFlush this := (.ready (.ok ()), this)
  pollShutdown this := (.ready (.ok ()), this)
  pollWrite_fits _ _ _ _ poll := by
    cases poll
    exact Nat.le_refl _
  read := read
  tryRead := tryRead
  readExact := readExact
  readTimeout this size _ := this.readTimeout size
  writeAll this bytes := (.ok (), this.write bytes)
  flush this := (.ok (), this)
  read_fits this room bytes after := read_fits this after room bytes
  tryRead_fits this room bytes after := tryRead_fits this after room bytes
  readExact_fits this size bytes after := readExact_fits this after size bytes
  readTimeout_empty _ _ := rfl

/-- A socket where everything has arrived. -/
def whole (bytes : Bytes) : Segmented := ⟨bytes, true, [], []⟩

/-- What has arrived when the first read returns. -/
def first (this : Segmented) : Bytes := this.settled.1

/-- What has arrived when the next call is made, with what the read took. -/
def second (this : Segmented) : Bytes := this.settled.1 ++ this.settled.2.headD []

@[simp] theorem whole_unread (bytes : Bytes) : (whole bytes).unread = bytes := List.append_nil _

@[simp] theorem whole_first (bytes : Bytes) : (whole bytes).first = bytes := rfl

@[simp] theorem whole_second (bytes : Bytes) : (whole bytes).second = bytes := List.append_nil _

theorem settle_unread (arrived : Bytes) (arriving : List Bytes) :
    (settle arrived arriving).1 ++ (settle arrived arriving).2.flatten =
      arrived ++ arriving.flatten := by
  induction arriving generalizing arrived with
  | nil => rfl
  | cons segment later ih =>
      rw [settle]
      split
      · rename_i nothing
        rw [ih, List.flatten_cons, ← List.append_assoc, nothing]
      · rw [List.flatten_cons, List.append_assoc]

/-- A wait ends with bytes, unless the peer sends no more. -/
theorem settle_filled (arrived : Bytes) (arriving : List Bytes)
    (nothing : (settle arrived arriving).1 = []) : arrived ++ arriving.flatten = [] := by
  induction arriving generalizing arrived with
  | nil => exact (List.append_nil _).trans nothing
  | cons segment later ih =>
      rw [settle] at nothing
      split at nothing
      · rename_i both
        rw [List.flatten_cons, ← List.append_assoc, both]
        exact ih _ nothing
      · contradiction

theorem gather_unread (size : Nat) (arrived : Bytes) (arriving : List Bytes) :
    (gather size arrived arriving).1 ++ (gather size arrived arriving).2.flatten =
      arrived ++ arriving.flatten := by
  induction arriving generalizing arrived with
  | nil => rfl
  | cons segment later ih =>
      rw [gather]
      split
      · rfl
      · rw [ih, List.flatten_cons, List.append_assoc]

/-- A wait for bytes that come ends with them. -/
theorem gather_enough {size : Nat} {arrived : Bytes} {arriving : List Bytes}
    (come : size ≤ (arrived ++ arriving.flatten).length) :
    size ≤ (gather size arrived arriving).1.length := by
  induction arriving generalizing arrived with
  | nil => exact come.trans_eq (congrArg List.length (List.append_nil arrived))
  | cons segment later ih =>
      rw [gather]
      split
      · assumption
      · rw [List.flatten_cons, ← List.append_assoc] at come
        exact ih come

theorem settled_unread (this : Segmented) :
    this.settled.1 ++ this.settled.2.flatten = this.unread :=
  settle_unread _ _

/-- What has arrived is the front of what there is. -/
theorem first_append (this : Segmented) : this.unread = this.first ++ this.settled.2.flatten :=
  this.settled_unread.symm

theorem headD_append_tail (segments : List Bytes) :
    segments.headD [] ++ segments.tail.flatten = segments.flatten := by
  cases segments with
  | nil => rfl
  | cons segment later => rfl

theorem second_append (this : Segmented) : this.unread = this.second ++ this.settled.2.tail.flatten := by
  rw [second, List.append_assoc, headD_append_tail, settled_unread]

theorem first_le_second (this : Segmented) : this.first.length ≤ this.second.length := by
  rw [second, List.length_append]
  exact Nat.le_add_right _ _

theorem second_le_unread (this : Segmented) : this.second.length ≤ this.unread.length := by
  rw [second_append, List.length_append]
  exact Nat.le_add_right _ _

/-- A read that gets all it asks for leaves the socket readable. -/
theorem read_full {this : Segmented} {room : Nat} (enough : room ≤ this.first.length) :
    ∃ after, this.read room = (.ok (this.unread.take room), after) ∧
      after.arrive.ready = true ∧ after.arrive.arrived = this.second.drop room ∧
      after.arrive.unread = this.unread.drop room := by
  have taken : this.first.take room = this.unread.take room := by
    rw [this.first_append, List.take_append_of_le_length enough]
  refine ⟨⟨this.first.drop room, decide (room ≤ this.first.length), this.settled.2, this.outgoing⟩,
    ?_, ?_, ?_, ?_⟩
  · rw [← taken]
    rfl
  · simp [arrive, enough]
  · exact (List.drop_append_of_le_length enough).symm
  · have dropped : this.unread.drop room =
        this.first.drop room ++ (this.settled.2.headD [] ++ this.settled.2.tail.flatten) := by
      rw [headD_append_tail, this.first_append, List.drop_append_of_le_length enough]
    rw [dropped]
    exact List.append_assoc _ _ _

theorem read_there (unread sent : Bytes) (room : Nat) :
    read ⟨unread, true, [], sent⟩ room =
      (.ok (unread.take room), ⟨unread.drop room, decide (room ≤ unread.length), [], sent⟩) := rfl

/-- A socket that was drained answers no call that does not wait, not even one
for no bytes. -/
theorem tryRead_drained (sent : Bytes) (room : Nat) :
    tryRead ⟨[], false, [], sent⟩ room = (.error .wouldBlock, ⟨[], false, [], sent⟩) := rfl

/-- Bytes that are there are taken without a wait. -/
theorem tryRead_there (sent : Bytes) {unread : Bytes} {room : Nat} (inside : room ≤ unread.length) :
    tryRead ⟨unread, true, [], sent⟩ room =
      (.ok (unread.take room), ⟨unread.drop room, true, [], sent⟩) := by
  have same : arrive ⟨unread, true, [], sent⟩ = ⟨unread, true, [], sent⟩ := by
    simp [arrive]
  have some' : ¬ (unread = [] ∧ room ≠ 0) := by
    intro nothing
    rw [nothing.1] at inside
    exact nothing.2 (Nat.le_zero.mp inside)
  rw [tryRead, same]
  dsimp only
  rw [if_neg (by decide), if_neg some']

/-- A call that does not wait, where the socket is known to be readable. -/
theorem tryRead_eq {this : Segmented} {room : Nat} (ready : this.arrive.ready = true) :
    (∃ after, this.tryRead room = (.ok (this.arrive.arrived.take room), after) ∧
        after.unread = this.arrive.unread.drop (this.arrive.arrived.take room).length) ∨
      (this.arrive.arrived = [] ∧ room ≠ 0 ∧ ∃ after, this.tryRead room = (.error .wouldBlock, after)) := by
  simp only [tryRead]
  rw [if_neg (by simp [ready])]
  by_cases nothing : this.arrive.arrived = [] ∧ room ≠ 0
  · rw [if_pos nothing]
    exact .inr ⟨nothing.1, nothing.2, _, rfl⟩
  · rw [if_neg nothing]
    refine .inl ⟨_, rfl, ?_⟩
    rw [List.length_take]
    simp only [unread]
    by_cases inside : room ≤ this.arrive.arrived.length
    · rw [Nat.min_eq_left inside, List.drop_append_of_le_length inside]
    · have outside := Nat.le_of_not_le inside
      rw [Nat.min_eq_right outside, List.drop_eq_nil_of_le outside, List.drop_left, List.nil_append]

end Segmented

end CovertConnect.Data
