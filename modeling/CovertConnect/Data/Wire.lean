import CovertConnect.Data.AsyncIo

namespace CovertConnect.Data

/-! One end of a connection that stays open.

Bytes that have arrived can be read in chunks of any size and at any time, and
any number of bytes is accepted; a script says how slow the end is. -/

inductive Readiness where
  | pending
  /-- One byte and up to `further` more. -/
  | ready (further : Nat)
deriving DecidableEq, Repr

/-- An end that has no more script is not ready. -/
structure Wire where
  incoming : Bytes
  outgoing : Bytes
  reads : List Readiness
  writes : List Readiness
  closing : Poll (Except IoError Unit)

namespace Wire

def empty : Wire where
  incoming := []
  outgoing := []
  reads := []
  writes := []
  closing := .pending

def pollRead (this : Wire) (room : Nat) : Poll (Except IoError Bytes) × Wire :=
  match this.reads with
  | [] => (.pending, this)
  | .pending :: reads => (.pending, { this with reads })
  | .ready further :: reads =>
      if this.incoming = [] ∧ 0 < room then (.pending, { this with reads })
      else
        (.ready (.ok (this.incoming.take (min (further + 1) room))),
          { this with incoming := this.incoming.drop (min (further + 1) room), reads })

def pollWrite (this : Wire) (bytes : Bytes) : Poll (Except IoError Nat) × Wire :=
  match this.writes with
  | [] => (.pending, this)
  | .pending :: writes => (.pending, { this with writes })
  | .ready further :: writes =>
      (.ready (.ok (min (further + 1) bytes.length)),
        { this with outgoing := this.outgoing ++ bytes.take (min (further + 1) bytes.length), writes })

instance : AsyncRead Wire where
  pollRead := pollRead
  pollRead_fits := by
    intro stream room bytes after poll
    unfold pollRead at poll
    split at poll
    · cases poll
    · cases poll
    · split at poll
      · cases poll
      · cases poll
        rw [List.length_take]
        omega

instance : AsyncWrite Wire where
  pollWrite := pollWrite
  pollFlush stream := (stream.closing, stream)
  pollShutdown stream := (stream.closing, stream)
  pollWrite_fits := by
    intro stream bytes count after poll
    unfold pollWrite at poll
    split at poll
    · cases poll
    · cases poll
    · cases poll
      exact Nat.min_le_right _ _

/-- The end of the stream is never reported, and neither is an error. -/
theorem pollRead_open {wire after : Wire} {room : Nat} {answer : Except IoError Bytes}
    (poll : AsyncRead.pollRead wire room = (.ready answer, after)) :
    ∃ bytes, answer = .ok bytes ∧ (0 < room → bytes ≠ []) := by
  change pollRead wire room = _ at poll
  unfold pollRead at poll
  split at poll
  · cases poll
  · cases poll
  · split at poll
    · cases poll
    · rename_i further reads _ some
      cases poll
      refine ⟨_, rfl, fun roomy nothing => some ⟨?_, roomy⟩⟩
      have width := congrArg List.length nothing
      rw [List.length_take, List.length_nil] at width
      exact List.length_eq_zero_iff.mp (by omega)

theorem pollWrite_open {wire after : Wire} {bytes : Bytes} {answer : Except IoError Nat}
    (poll : AsyncWrite.pollWrite wire bytes = (.ready answer, after)) :
    ∃ count, answer = .ok count ∧ (bytes ≠ [] → 0 < count) := by
  change pollWrite wire bytes = _ at poll
  unfold pollWrite at poll
  split at poll
  · cases poll
  · cases poll
  · cases poll
    refine ⟨_, rfl, fun some => ?_⟩
    have positive := List.length_pos_iff.mpr some
    omega

theorem incoming_of_reads {before after : Wire} {bytes : Bytes} (reads : Reads before bytes after) :
    before.incoming = bytes ++ after.incoming := by
  induction reads with
  | done => rfl
  | pending poll _ ih =>
      change pollRead _ _ = _ at poll
      unfold pollRead at poll
      split at poll
      · cases poll
        exact ih
      · cases poll
        exact ih
      · split at poll <;> cases poll
        exact ih
  | failed poll _ _ =>
      obtain ⟨_, impossible, _⟩ := pollRead_open poll
      cases impossible
  | chunk poll _ ih =>
      change pollRead _ _ = _ at poll
      unfold pollRead at poll
      split at poll
      · cases poll
      · cases poll
      · split at poll <;> cases poll
        rw [List.append_assoc, ← ih, List.take_append_drop]

theorem outgoing_of_reads {before after : Wire} {bytes : Bytes} (reads : Reads before bytes after) :
    after.outgoing = before.outgoing := by
  have poll : ∀ {wire after : Wire} {room answer},
      AsyncRead.pollRead wire room = (answer, after) → after.outgoing = wire.outgoing := by
    intro wire after room answer poll
    change pollRead _ _ = _ at poll
    unfold pollRead at poll
    split at poll
    · cases poll
      rfl
    · cases poll
      rfl
    · split at poll <;> cases poll <;> rfl
  induction reads with
  | done => rfl
  | pending first _ ih => rw [ih, poll first]
  | failed first _ ih => rw [ih, poll first]
  | chunk first _ ih => rw [ih, poll first]

theorem outgoing_of_writes {before after : Wire} {bytes : Bytes}
    (writes : Writes before bytes after) : after.outgoing = before.outgoing ++ bytes := by
  induction writes with
  | done => exact (List.append_nil _).symm
  | pending poll _ ih =>
      change pollWrite _ _ = _ at poll
      unfold pollWrite at poll
      split at poll <;> cases poll
      · exact ih
      · exact ih
  | failed poll _ _ =>
      obtain ⟨_, impossible, _⟩ := pollWrite_open poll
      cases impossible
  | accept poll _ ih =>
      change pollWrite _ _ = _ at poll
      unfold pollWrite at poll
      split at poll <;> cases poll
      rw [ih, List.append_assoc]

theorem incoming_of_writes {before after : Wire} {bytes : Bytes}
    (writes : Writes before bytes after) : after.incoming = before.incoming := by
  have poll : ∀ {wire after : Wire} {offered answer},
      AsyncWrite.pollWrite wire offered = (answer, after) → after.incoming = wire.incoming := by
    intro wire after offered answer poll
    change pollWrite _ _ = _ at poll
    unfold pollWrite at poll
    split at poll <;> cases poll <;> rfl
  induction writes with
  | done => rfl
  | pending first _ ih => rw [ih, poll first]
  | failed first _ ih => rw [ih, poll first]
  | accept first _ ih => rw [ih, poll first]

end Wire

end CovertConnect.Data
