import CovertConnect.Data.Trace

namespace CovertConnect.SysProxy

open CovertConnect.Data

/-! # The proxy settings of a system

What the `SystemProxy` of each system is called with, and what the system then
does with requests. -/

inductive SystemCall where
  | setPac (autoConfigUrl : String)
  | setProxy (address : String)
  | restore

inductive Error where
  | anyhow (text : String)
  /-- The system refuses, or its command could not be run. -/
  | failed (details : String)
deriving DecidableEq, Repr

abbrev Run (σ α : Type) : Type := ExceptT Error (StateM σ) α

section Run

variable {σ α β : Type} {first : Run σ α} {next : α → Run σ β} {state after : σ}

theorem Run.bind_ok {value : α} (done : first state = (.ok value, after)) :
    (first >>= next) state = next value after := by
  simp only [bind, ExceptT.bind, ExceptT.mk, StateT.bind]
  rw [done]
  rfl

theorem Run.bind_error {error : Error} (failed : first state = (.error error, after)) :
    (first >>= next) state = (.error error, after) := by
  simp only [bind, ExceptT.bind, ExceptT.mk, StateT.bind]
  rw [failed]
  rfl

/-- A sequence that succeeds has a first part that succeeds. -/
theorem Run.of_bind_ok {value : β} (done : (first >>= next) state = (.ok value, after)) :
    ∃ middle between, first state = (.ok middle, between) ∧ next middle between = (.ok value, after) := by
  rcases known : first state with ⟨middle | middle, between⟩
  · rw [Run.bind_error known] at done
    cases done
  · rw [Run.bind_ok known] at done
    exact ⟨middle, between, rfl, done⟩

end Run

/-- A system, and whether the next operations on it succeed; those behind the list
do. -/
structure Tried (σ : Type) where
  system : σ
  outcomes : List Bool

/-- An operation that changes the system, if it succeeds. -/
def operate {σ : Type} (details : String) (change : σ → σ) : Run (Tried σ) Unit := fun this =>
  match this.outcomes with
  | [] => (.ok (), { this with system := change this.system })
  | true :: outcomes => (.ok (), { system := change this.system, outcomes })
  | false :: outcomes => (.error (.failed details), { this with outcomes })

theorem operate_ok {σ : Type} {details : String} {change : σ → σ} {this after : Tried σ} {value : Unit}
    (done : operate details change this = (.ok value, after)) :
    after.system = change this.system ∧ after.outcomes = this.outcomes.tail ∧
      this.outcomes.head? ≠ some false := by
  obtain ⟨system, outcomes⟩ := this
  match outcomes with
  | [] =>
      cases done
      exact ⟨rfl, rfl, nofun⟩
  | true :: outcomes =>
      cases done
      exact ⟨rfl, rfl, nofun⟩
  | false :: outcomes => cases done

/-- The address from its end on: the port, the domain and something in front. -/
def addressParts (address : String) : Except Error (String × String) :=
  match (address.toList.splitOnP fun char => char = '/' ∨ char = ':').reverse.map String.ofList with
  | [] => .error (.anyhow "set_proxy: no port")
  | [_] => .error (.anyhow "set_proxy: no host")
  | [_, _] => .error (.anyhow "set_proxy: invalid address")
  | port :: domain :: _ :: _ => .ok (domain, port)

/-- Where requests go: the url of a script, the address of a proxy, or both. -/
structure Effective (α : Type) where
  autoConfig : Option String
  manual : Option α
deriving DecidableEq, Repr

/-- A system whose operations have outcomes, the settings it shows, and how it writes
an address. -/
structure Backend (σ ω α : Type) where
  run : SystemCall → (outcomes : List ω) → σ → Except Error Unit × σ
  Shows : σ → Effective α → Prop
  address : String → Option α

namespace Backend

variable {σ ω α : Type} (backend : Backend σ ω α)

/-- The setting that a call asks for, whatever was set before. -/
def specified : SystemCall → Effective α
  | .setPac autoConfigUrl => ⟨some autoConfigUrl, none⟩
  | .setProxy address => ⟨none, backend.address address⟩
  | .restore => ⟨none, none⟩

def step (state : σ) (event : SystemCall × List ω) : σ :=
  (backend.run event.1 event.2 state).2

def Succeeds (state : σ) (event : SystemCall × List ω) : Prop :=
  (backend.run event.1 event.2 state).1 = .ok ()

/-- After calls that succeed, the setting is the one that the last call asks for. -/
def Refines (state : σ) (events : List (SystemCall × List ω)) (last : SystemCall × List ω) : Prop :=
  AllSteps backend.step backend.Succeeds state (events ++ [last]) →
    backend.Shows ((events ++ [last]).foldl backend.step state) (backend.specified last.1)

/-- A run of calls that succeed, and its last one. -/
theorem succeeds_last {state : σ} {events : List (SystemCall × List ω)} {last : SystemCall × List ω}
    (all : AllSteps backend.step backend.Succeeds state (events ++ [last])) :
    AllSteps backend.step backend.Succeeds state events ∧
      backend.Succeeds (events.foldl backend.step state) last := by
  induction events generalizing state with
  | nil => exact ⟨trivial, all.1⟩
  | cons event events ih =>
      obtain ⟨rest, ends⟩ := ih all.2
      exact ⟨⟨all.1, rest⟩, ends⟩

end Backend

end CovertConnect.SysProxy
