import Mathlib.Data.List.Chain
import Mathlib.Data.List.Infix

namespace CovertConnect.Data

/-! # Pipes in a row

A stage that passes on what it took, in order, holds the rest.  Stages that feed
one another lose nothing and change no order, however many there are and
whenever each of them moves. -/

/-- One stage.  Nothing that was taken is lost or out of order. -/
structure Pipe (α : Type) where
  taken : List α
  passed : List α
  held : List α
  whole : taken = passed ++ held

namespace Pipe

variable {α : Type}

def empty : Pipe α where
  taken := []
  passed := []
  held := []
  whole := rfl

def take (this : Pipe α) (more : List α) : Pipe α where
  taken := this.taken ++ more
  passed := this.passed
  held := this.held ++ more
  whole := by rw [this.whole, List.append_assoc]

/-- Pass on up to `count` elements. -/
def pass (this : Pipe α) (count : Nat) : Pipe α where
  taken := this.taken
  passed := this.passed ++ this.held.take count
  held := this.held.drop count
  whole := by rw [this.whole, List.append_assoc, List.take_append_drop]

@[simp] theorem empty_taken : (empty : Pipe α).taken = [] := rfl

@[simp] theorem empty_passed : (empty : Pipe α).passed = [] := rfl

@[simp] theorem take_taken (this : Pipe α) (more : List α) :
    (this.take more).taken = this.taken ++ more := rfl

@[simp] theorem take_passed (this : Pipe α) (more : List α) :
    (this.take more).passed = this.passed := rfl

@[simp] theorem pass_taken (this : Pipe α) (count : Nat) :
    (this.pass count).taken = this.taken := rfl

@[simp] theorem pass_passed (this : Pipe α) (count : Nat) :
    (this.pass count).passed = this.passed ++ this.held.take count := rfl

/-- The second stage takes just what the first one passes on. -/
def Feeds (front back : Pipe α) : Prop :=
  back.taken = front.passed

/-- What is still inside a row of stages, the oldest elements first. -/
def inside (stages : List (Pipe α)) : List α :=
  (stages.reverse.map held).flatten

@[simp] theorem inside_cons (stage : Pipe α) (stages : List (Pipe α)) :
    inside (stage :: stages) = inside stages ++ stage.held := by
  simp [inside]

/-- A row of stages that feed one another is one stage. -/
theorem row_whole {first last : Pipe α} {stages : List (Pipe α)}
    (row : List.IsChain Feeds (first :: stages))
    (ends : (first :: stages).getLast? = some last) :
    first.taken = last.passed ++ inside (first :: stages) := by
  induction stages generalizing first with
  | nil =>
      obtain rfl : first = last := Option.some.inj ends
      rw [first.whole]
      simp [inside]
  | cons second stages ih =>
      obtain ⟨feeds, rest⟩ := List.isChain_cons_cons.mp row
      have ends' : (second :: stages).getLast? = some last := by
        rwa [List.getLast?_cons_cons] at ends
      rw [inside_cons, first.whole, ← feeds, ih rest ends', List.append_assoc]

/-- What comes out is a prefix of what went in. -/
theorem row_prefix {first last : Pipe α} {stages : List (Pipe α)}
    (row : List.IsChain Feeds (first :: stages))
    (ends : (first :: stages).getLast? = some last) : last.passed <+: first.taken :=
  ⟨_, (row_whole row ends).symm⟩

/-- All of it comes out when no stage holds anything. -/
theorem row_all {first last : Pipe α} {stages : List (Pipe α)}
    (row : List.IsChain Feeds (first :: stages))
    (ends : (first :: stages).getLast? = some last)
    (drained : ∀ stage ∈ first :: stages, stage.held = []) : last.passed = first.taken := by
  have nothing : inside (first :: stages) = [] := by
    simp only [inside, List.flatten_eq_nil_iff, List.mem_map, List.mem_reverse]
    intro held inRow
    obtain ⟨stage, there, rfl⟩ := inRow
    exact drained stage there
  rw [row_whole row ends, nothing, List.append_nil]

end Pipe

end CovertConnect.Data
