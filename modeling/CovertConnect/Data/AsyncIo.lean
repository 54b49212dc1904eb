import CovertConnect.Data.Exec

namespace CovertConnect.Data

/-! Polled byte streams.

The instances are the peers of the modelled code: a stream type says what each
poll returns and which stream is left.  What the I/O contract promises of every
implementation (a read fits its buffer, a write accepts a prefix) is a field of
the class, so that no instance can break it. -/

inductive Poll (α : Type) where
  | pending
  | ready (value : α)
deriving DecidableEq, Repr

inductive IoError where
  | unexpectedEof
  | invalidData (message : String)
  | wouldBlock
  | other (code : Nat)
deriving DecidableEq, Repr

/-- A call is pending, has failed or has answered. -/
@[elab_as_elim]
theorem Poll.threeWays {α : Type} {motive : Poll (Except IoError α) → Prop} (pending : motive .pending)
    (error : ∀ error, motive (.ready (.error error))) (ok : ∀ value, motive (.ready (.ok value)))
    (poll : Poll (Except IoError α)) : motive poll := by
  cases poll with
  | pending => exact pending
  | ready answer =>
      cases answer with
      | error failure => exact error failure
      | ok value => exact ok value

/-- A read returns the bytes put into a buffer with `room` bytes left; no bytes
for a buffer that has room is the end of the stream. -/
class AsyncRead (S : Type) where
  pollRead : S → (room : Nat) → Poll (Except IoError Bytes) × S
  pollRead_fits : ∀ stream room bytes after,
    pollRead stream room = (.ready (.ok bytes), after) → bytes.length ≤ room

class AsyncWrite (S : Type) where
  pollWrite : S → Bytes → Poll (Except IoError Nat) × S
  pollFlush : S → Poll (Except IoError Unit) × S
  pollShutdown : S → Poll (Except IoError Unit) × S
  pollWrite_fits : ∀ stream bytes count after,
    pollWrite stream bytes = (.ready (.ok count), after) → count ≤ bytes.length

/-- Bytes in memory: read from the front like a slice, written at the end like
a vector, and always ready. -/
instance : AsyncRead Bytes where
  pollRead stream room := (.ready (.ok (stream.take room)), stream.drop room)
  pollRead_fits stream room bytes after poll := by
    simp only [Prod.mk.injEq, Poll.ready.injEq, Except.ok.injEq] at poll
    rw [← poll.1, List.length_take]
    exact Nat.min_le_left _ _

instance : AsyncWrite Bytes where
  pollWrite stream bytes := (.ready (.ok bytes.length), stream ++ bytes)
  pollFlush stream := (.ready (.ok ()), stream)
  pollShutdown stream := (.ready (.ok ()), stream)
  pollWrite_fits stream bytes count after poll := by
    simp only [Prod.mk.injEq, Poll.ready.injEq, Except.ok.injEq] at poll
    exact Nat.le_of_eq poll.1.symm

/-- A connected socket with the awaited calls of the protocol code.  `tryRead`
does not wait; `readTimeout` waits for `size` bytes or `millis` and drops what
it read. -/
class Socket (S : Type) extends AsyncRead S, AsyncWrite S where
  read : S → (room : Nat) → Except IoError Bytes × S
  tryRead : S → (room : Nat) → Except IoError Bytes × S
  readExact : S → (size : Nat) → Except IoError Bytes × S
  readTimeout : S → (size millis : Nat) → S
  writeAll : S → Bytes → Except IoError Unit × S
  flush : S → Except IoError Unit × S
  read_fits : ∀ stream room bytes after,
    read stream room = (.ok bytes, after) → bytes.length ≤ room
  tryRead_fits : ∀ stream room bytes after,
    tryRead stream room = (.ok bytes, after) → bytes.length ≤ room
  readExact_fits : ∀ stream size bytes after,
    readExact stream size = (.ok bytes, after) → bytes.length = size
  readTimeout_empty : ∀ stream millis, readTimeout stream 0 millis = stream

/-- A socket whose peer has sent everything and closed. -/
structure Loaded where
  incoming : Bytes
  outgoing : Bytes
deriving DecidableEq, Repr

namespace Loaded

def read (this : Loaded) (room : Nat) : Except IoError Bytes × Loaded :=
  (.ok (this.incoming.take room), { this with incoming := this.incoming.drop room })

def readExact (this : Loaded) (size : Nat) : Except IoError Bytes × Loaded :=
  if size ≤ this.incoming.length then this.read size
  else (.error .unexpectedEof, { this with incoming := [] })

def write (this : Loaded) (bytes : Bytes) : Loaded :=
  { this with outgoing := this.outgoing ++ bytes }

theorem read_fits (this after : Loaded) (room : Nat) (bytes : Bytes)
    (taken : this.read room = (.ok bytes, after)) : bytes.length ≤ room := by
  cases taken
  rw [List.length_take]
  exact Nat.min_le_left _ _

instance : Socket Loaded where
  pollRead this room := (.ready (this.read room).1, (this.read room).2)
  pollRead_fits this room bytes after poll := by
    cases poll
    rw [List.length_take]
    exact Nat.min_le_left _ _
  pollWrite this bytes := (.ready (.ok bytes.length), this.write bytes)
  pollFlush this := (.ready (.ok ()), this)
  pollShutdown this := (.ready (.ok ()), this)
  pollWrite_fits _ _ _ _ poll := by
    cases poll
    exact Nat.le_refl _
  read := read
  tryRead := read
  readExact := readExact
  readTimeout this size _ := (this.read size).2
  writeAll this bytes := (.ok (), this.write bytes)
  flush this := (.ok (), this)
  read_fits this room bytes after := read_fits this after room bytes
  tryRead_fits this room bytes after := read_fits this after room bytes
  readExact_fits this size bytes after taken := by
    rw [readExact] at taken
    split at taken
    · rename_i enough
      cases taken
      rw [List.length_take]
      exact Nat.min_eq_left enough
    · cases taken
  readTimeout_empty _ _ := rfl

end Loaded

/-- A random generator.  Sampling is only asked for on non-empty ranges, and
the model of a caller panics before it asks for an empty one. -/
class Rng (R : Type) where
  genRange : R → (low high : Nat) → Nat × R
  fillBytes : R → (count : Nat) → Bytes × R
  genRange_bounds : ∀ rng low high, low < high →
    low ≤ (genRange rng low high).1 ∧ (genRange rng low high).1 < high
  fillBytes_length : ∀ rng count, (fillBytes rng count).1.length = count

/-- The generator that always draws the least value. -/
instance : Rng Unit where
  genRange rng low _ := (low, rng)
  fillBytes rng count := (List.replicate count 0, rng)
  genRange_bounds _ _ _ below := ⟨Nat.le_refl _, below⟩
  fillBytes_length _ _ := List.length_replicate

/-- The generator that draws its seed wherever that is in the range. -/
instance : Rng Nat where
  genRange rng low high := (if low ≤ rng ∧ rng < high then rng else low, rng)
  fillBytes rng count := (List.replicate count rng.toUInt8, rng)
  genRange_bounds rng low high below := by
    dsimp only
    split
    · assumption
    · exact ⟨Nat.le_refl _, below⟩
  fillBytes_length _ _ := List.length_replicate

/-- `anyhow::Error`, as far as the modelled code builds or passes it on. -/
inductive Error where
  | anyhow (message : String)
  | io (error : IoError)
deriving DecidableEq, Repr

section Traffic

variable {S : Type}

/-- `Reads before bytes after`: some polls lead from `before` to `after` and
return `bytes` in all. -/
inductive Reads [AsyncRead S] : S → Bytes → S → Prop where
  | done {stream} : Reads stream [] stream
  | pending {stream next after room bytes} :
      AsyncRead.pollRead stream room = (.pending, next) →
      Reads next bytes after → Reads stream bytes after
  | failed {stream next after room error bytes} :
      AsyncRead.pollRead stream room = (.ready (.error error), next) →
      Reads next bytes after → Reads stream bytes after
  | chunk {stream next after room chunk bytes} :
      AsyncRead.pollRead stream room = (.ready (.ok chunk), next) →
      Reads next bytes after → Reads stream (chunk ++ bytes) after

/-- The last answer was that a read with room found the end of the stream. -/
def AtEnd [AsyncRead S] (stream : S) : Prop :=
  ∃ before room, 0 < room ∧ AsyncRead.pollRead before room = (.ready (.ok []), stream)

/-- `Writes before bytes after`: some polls lead from `before` to `after` and
accept `bytes` in all. -/
inductive Writes [AsyncWrite S] : S → Bytes → S → Prop where
  | done {stream} : Writes stream [] stream
  | pending {stream next after offered bytes} :
      AsyncWrite.pollWrite stream offered = (.pending, next) →
      Writes next bytes after → Writes stream bytes after
  | failed {stream next after offered error bytes} :
      AsyncWrite.pollWrite stream offered = (.ready (.error error), next) →
      Writes next bytes after → Writes stream bytes after
  | accept {stream next after offered count bytes} :
      AsyncWrite.pollWrite stream offered = (.ready (.ok count), next) →
      Writes next bytes after → Writes stream (offered.take count ++ bytes) after

theorem Writes.trans [AsyncWrite S] {first second third : S} {front back : Bytes}
    (left : Writes first front second) (right : Writes second back third) :
    Writes first (front ++ back) third := by
  induction left with
  | done => exact right
  | pending poll _ ih => exact .pending poll (ih right)
  | failed poll _ ih => exact .failed poll (ih right)
  | accept poll _ ih =>
      rw [List.append_assoc]
      exact .accept poll (ih right)

theorem Reads.trans [AsyncRead S] {first second third : S} {front back : Bytes}
    (left : Reads first front second) (right : Reads second back third) :
    Reads first (front ++ back) third := by
  induction left with
  | done => exact right
  | pending poll _ ih => exact .pending poll (ih right)
  | failed poll _ ih => exact .failed poll (ih right)
  | chunk poll _ ih =>
      rw [List.append_assoc]
      exact .chunk poll (ih right)

end Traffic

end CovertConnect.Data
