import CovertConnect.SysProxy.Calls

namespace CovertConnect.SysProxy.Linux

open CovertConnect.SysProxy

/-! # The proxy settings of GNOME

A mode says which of the settings counts. -/

inductive Mode where
  | none
  | manual
  | auto
deriving DecidableEq, Repr

/-- The keys of `org.gnome.system.proxy` and of its `.http`. -/
structure Gnome where
  autoconfigUrl : String
  mode : Mode
  host : String
  port : String

def setPac (autoConfigUrl : String) : Run (Tried Gnome) Unit := do
  operate "proxy set autoconfig-url" fun gnome => { gnome with autoconfigUrl := autoConfigUrl }
  operate "proxy set mode auto" fun gnome => { gnome with mode := .auto }

def setProxy (address : String) : Run (Tried Gnome) Unit := do
  let (host, port) ← (addressParts address : Except Error (String × String))
  operate "proxy set host" fun gnome => { gnome with host }
  operate "proxy set por" fun gnome => { gnome with port }
  operate "proxy set mode" fun gnome => { gnome with mode := .manual }

def restore : Run (Tried Gnome) Unit :=
  operate "proxy set mode none" fun gnome => { gnome with mode := .none }

def run : SystemCall → Run (Tried Gnome) Unit
  | .setPac autoConfigUrl => setPac autoConfigUrl
  | .setProxy address => setProxy address
  | .restore => restore

def Gnome.effective (gnome : Gnome) : Effective (String × String) :=
  match gnome.mode with
  | .none => ⟨none, none⟩
  | .manual => ⟨none, some (gnome.host, gnome.port)⟩
  | .auto => ⟨some gnome.autoconfigUrl, none⟩

def backend : Backend Gnome Bool (String × String) where
  run call outcomes gnome :=
    ((run call ⟨gnome, outcomes⟩).1, (run call ⟨gnome, outcomes⟩).2.system)
  Shows gnome effective := gnome.effective = effective
  address address := (addressParts address).toOption

section Ok

variable {this after : Tried Gnome} {value : Unit}

theorem setPac_ok {autoConfigUrl : String}
    (done : setPac autoConfigUrl this = (.ok value, after)) :
    after.system = { this.system with autoconfigUrl := autoConfigUrl, mode := .auto } := by
  obtain ⟨_, between, first, done⟩ := Run.of_bind_ok done
  rw [(operate_ok done).1, (operate_ok first).1]

theorem setProxy_ok {address : String} (done : setProxy address this = (.ok value, after)) :
    ∃ host port, addressParts address = .ok (host, port) ∧
      after.system = { this.system with host, port, mode := .manual } := by
  obtain ⟨⟨host, port⟩, middle, known, done⟩ := Run.of_bind_ok done
  cases parts : addressParts address with
  | error error =>
      rw [parts] at known
      cases known
  | ok both =>
      rw [parts] at known
      cases known
      obtain ⟨_, between, hosted, done⟩ := Run.of_bind_ok done
      obtain ⟨_, between', ported, done⟩ := Run.of_bind_ok done
      refine ⟨host, port, rfl, ?_⟩
      rw [(operate_ok done).1, (operate_ok ported).1, (operate_ok hosted).1]

theorem restore_ok (done : restore this = (.ok value, after)) :
    after.system = { this.system with mode := .none } := by
  rw [restore] at done
  exact (operate_ok done).1

end Ok

/-- The mode that the last call stores makes the earlier ones invisible. -/
theorem refines (gnome : Gnome) (events : List (SystemCall × List Bool))
    (last : SystemCall × List Bool) : backend.Refines gnome events last := by
  intro all
  obtain ⟨-, succeeds⟩ := backend.succeeds_last all
  rw [List.foldl_append]
  obtain ⟨call, outcomes⟩ := last
  show Gnome.effective (run call ⟨events.foldl backend.step gnome, outcomes⟩).2.system =
    backend.specified call
  have done : run call ⟨events.foldl backend.step gnome, outcomes⟩ =
      (.ok (), (run call ⟨events.foldl backend.step gnome, outcomes⟩).2) :=
    Prod.ext succeeds rfl
  cases call with
  | setPac autoConfigUrl => rw [setPac_ok done]; rfl
  | setProxy address =>
      obtain ⟨host, port, parts, after⟩ := setProxy_ok done
      rw [after]
      show _ = Effective.mk none (addressParts address).toOption
      rw [parts]
      rfl
  | restore => rw [restore_ok done]; rfl

end CovertConnect.SysProxy.Linux
