import CovertConnect.Data.Timed
import CovertConnect.Server.Tunnel

namespace CovertConnect.Server

open CovertConnect.Data CovertConnect.Data.Exec
open CovertConnect.Crypto CovertConnect.Crypto.Connection

/-! # How long a refused connection is held -/

section Cooldown

variable {R : Type} [Rng R] {cooldown : PaddingRange}

/-- The connection is held until `maxRead` bytes have come, the peer has ended
it or `maxTimeMs` milliseconds are over, and no longer. -/
def HeldFor (before after : Timed) (maxRead maxTimeMs : Nat) : Prop :=
  before.FirstDue maxRead maxTimeMs (after.now - before.now)

instance (before after : Timed) (maxRead maxTimeMs : Nat) :
    Decidable (HeldFor before after maxRead maxTimeMs) :=
  inferInstanceAs (Decidable (before.FirstDue ..))

/-- A read into a buffer of the drawn length is held. -/
theorem readTimeout_heldFor (stream : Timed) (maxRead maxTimeMs : Nat) :
    HeldFor stream (Socket.readTimeout stream maxRead maxTimeMs) maxRead maxTimeMs :=
  stream.readTimeout_firstDue maxRead maxTimeMs

theorem terminateSlowly_ok (filled : cooldown.start.toNat < cooldown.stop.toNat)
    (connection : Connection Timed R) :
    let readDraw := Rng.genRange connection.rng 0 0x10000
    let timeDraw := Rng.genRange readDraw.2 cooldown.start.toNat cooldown.stop.toNat
    terminateSlowly cooldown connection = (.ok (), { connection with
      rng := timeDraw.2
      history := connection.history ++ [.terminated readDraw.1 timeDraw.1] }) := by
  intro readDraw timeDraw
  rw [terminateSlowly, bind_ok (genRange_ok (by decide)), bind_ok (genRange_ok filled)]
  have still : Socket.readTimeout connection.stream 0 timeDraw.1 = connection.stream :=
    Socket.readTimeout_empty _ _
  change (Outcome.ok (), ({
    stream := Socket.readTimeout connection.stream 0 timeDraw.1
    rng := timeDraw.2
    history := connection.history ++ [.terminated readDraw.1 timeDraw.1] } :
      Connection Timed R)) = _
  rw [still]

/-- The read is into a buffer of no length, where one of the drawn length would
hold the connection: it is held where there is nothing to wait for. -/
theorem terminateSlowly_heldFor_iff (filled : cooldown.start.toNat < cooldown.stop.toNat)
    (connection : Connection Timed R) :
    ∃ maxRead maxTimeMs after, maxRead < 0x10000 ∧ cooldown.start.toNat ≤ maxTimeMs ∧
      maxTimeMs < cooldown.stop.toNat ∧
      terminateSlowly cooldown connection = (.ok (), after) ∧
      after.history = connection.history ++ [.terminated maxRead maxTimeMs] ∧
      HeldFor connection.stream (Socket.readTimeout connection.stream maxRead maxTimeMs) maxRead
        maxTimeMs ∧
      (HeldFor connection.stream after.stream maxRead maxTimeMs ↔
        connection.stream.Due maxRead maxTimeMs 0) := by
  have readBounds := Rng.genRange_bounds connection.rng 0 0x10000 (by decide)
  have timeBounds := Rng.genRange_bounds (Rng.genRange connection.rng 0 0x10000).2
    cooldown.start.toNat cooldown.stop.toNat filled
  refine ⟨_, _, _, readBounds.2, timeBounds.1, timeBounds.2, terminateSlowly_ok filled connection,
    rfl, readTimeout_heldFor _ _ _, ?_⟩
  rw [HeldFor, Nat.sub_self]
  exact and_iff_left fun earlier before => absurd before (Nat.not_lt_zero _)

end Cooldown

def silent : Connection Timed Nat := ⟨⟨0, [], none, [], []⟩, 100, []⟩

/-- The draws are 100 bytes and 100 milliseconds, and no time passes. -/
theorem terminateSlowly_silent :
    (terminateSlowly ⟨50, 777⟩ silent).2.history = [.terminated 100 100] ∧
      (terminateSlowly ⟨50, 777⟩ silent).2.stream.now = silent.stream.now ∧
      ¬ HeldFor silent.stream (terminateSlowly ⟨50, 777⟩ silent).2.stream 100 100 := by
  decide +kernel

def gone : Connection Timed Nat := ⟨⟨0, [], some .closed, [], []⟩, 100, []⟩

theorem terminateSlowly_gone : ∃ maxRead maxTimeMs,
    HeldFor gone.stream (terminateSlowly ⟨50, 777⟩ gone).2.stream maxRead maxTimeMs := by
  obtain ⟨maxRead, maxTimeMs, after, _, _, _, run, _, _, held⟩ :=
    terminateSlowly_heldFor_iff (show (⟨50, 777⟩ : PaddingRange).start.toNat <
      (⟨50, 777⟩ : PaddingRange).stop.toNat by decide) gone
  rw [run]
  exact ⟨maxRead, maxTimeMs, held.mpr (.inl rfl)⟩

end CovertConnect.Server
