import CovertConnect.SysProxy.Calls

namespace CovertConnect.SysProxy.Windows

open CovertConnect.Data CovertConnect.SysProxy

/-! # The proxy settings of Windows

The script and the proxy are values of their own in the registry, and both may
be in effect. -/

/-- The values of `Internet Settings`, as far as there are any. -/
structure Registry where
  autoConfigUrl : Option String
  proxyEnable : Option UInt32
  proxyServer : Option String

inductive IoErrorKind where
  | notFound
  | other
deriving DecidableEq, Repr

def openInternetSettings : Run (Tried Registry) Unit :=
  operate "open" id

/-- `delete_value(AUTO_CONFIG_URL)`. -/
def deleteAutoConfigUrl : StateM (Tried Registry) (Except IoErrorKind Unit) := fun this =>
  if this.outcomes.head? = some false then
    (.error .other, { this with outcomes := this.outcomes.tail })
  else
    match this.system.autoConfigUrl with
    | none => (.error .notFound, { this with outcomes := this.outcomes.tail })
    | some _ =>
        (.ok (),
          { system := { this.system with autoConfigUrl := none }, outcomes := this.outcomes.tail })

def setPac (autoConfigUrl : String) : Run (Tried Registry) Unit := do
  openInternetSettings
  operate "set" fun registry => { registry with autoConfigUrl := some autoConfigUrl }

def setProxy (address : String) : Run (Tried Registry) Unit := do
  openInternetSettings
  -- The result is dropped.
  let _ ← deleteAutoConfigUrl
  operate "set" fun registry => { registry with proxyEnable := some 1 }
  operate "set" fun registry => { registry with proxyServer := some address }

def restore : Run (Tried Registry) Unit := do
  openInternetSettings
  match ← deleteAutoConfigUrl with
  | .error .notFound => pure ()
  | .error .other => throw (.failed "delete")
  | .ok () => pure ()
  operate "set" fun registry => { registry with proxyEnable := some 0 }

def run : SystemCall → Run (Tried Registry) Unit
  | .setPac autoConfigUrl => setPac autoConfigUrl
  | .setProxy address => setProxy address
  | .restore => restore

def Registry.enabled (registry : Registry) : Bool :=
  match registry.proxyEnable with
  | some flag => flag ≠ 0
  | none => false

def Registry.effective (registry : Registry) : Effective String where
  autoConfig := registry.autoConfigUrl
  manual := if registry.enabled then some (registry.proxyServer.getD "") else none

def backend : Backend Registry Bool String where
  run call outcomes registry :=
    ((run call ⟨registry, outcomes⟩).1, (run call ⟨registry, outcomes⟩).2.system)
  Shows registry effective := registry.effective = effective
  address := some

section Ok

variable {this after : Tried Registry} {value : Unit}

theorem openInternetSettings_ok (done : openInternetSettings this = (.ok value, after)) :
    after.system = this.system ∧ after.outcomes = this.outcomes.tail := by
  have opened := operate_ok done
  exact ⟨opened.1, opened.2.1⟩

/-- The value is gone, unless its deletion fails for another reason than that it
is not there. -/
theorem deleteAutoConfigUrl_eq (this : Tried Registry) :
    (deleteAutoConfigUrl this).2.outcomes = this.outcomes.tail ∧
      (deleteAutoConfigUrl this).2.system =
        (if this.outcomes.head? = some false then this.system
          else { this.system with autoConfigUrl := none }) ∧
      ((deleteAutoConfigUrl this).1 = .error .other ↔ this.outcomes.head? = some false) := by
  obtain ⟨⟨autoConfigUrl, proxyEnable, proxyServer⟩, outcomes⟩ := this
  rw [deleteAutoConfigUrl]
  split
  · rename_i refused
    simp [refused]
  · rename_i accepted
    cases autoConfigUrl <;> simp [accepted]

theorem setPac_ok {autoConfigUrl : String}
    (done : setPac autoConfigUrl this = (.ok value, after)) :
    after.system = { this.system with autoConfigUrl := some autoConfigUrl } := by
  obtain ⟨_, between, opened, done⟩ := Run.of_bind_ok done
  rw [(operate_ok done).1, (openInternetSettings_ok opened).1]

theorem setProxy_ok {address : String} (done : setProxy address this = (.ok value, after)) :
    after.system =
      { autoConfigUrl :=
          if this.outcomes.tail.head? = some false then this.system.autoConfigUrl else none
        proxyEnable := some 1
        proxyServer := some address } := by
  obtain ⟨_, between, opened, done⟩ := Run.of_bind_ok done
  obtain ⟨opened, left⟩ := openInternetSettings_ok opened
  obtain ⟨_, deleted, deletes, done⟩ := Run.of_bind_ok done
  obtain ⟨_, enabled, enables, done⟩ := Run.of_bind_ok done
  have dropped : deleted = (deleteAutoConfigUrl between).2 := by
    cases deletes
    rfl
  rw [(operate_ok done).1, (operate_ok enables).1, dropped, (deleteAutoConfigUrl_eq between).2.1,
    opened, left]
  split <;> rfl

theorem restore_ok (done : restore this = (.ok value, after)) :
    after.system = { this.system with autoConfigUrl := none, proxyEnable := some 0 } := by
  obtain ⟨_, between, opened, done⟩ := Run.of_bind_ok done
  obtain ⟨opened, left⟩ := openInternetSettings_ok opened
  obtain ⟨result, deleted, deletes, done⟩ := Run.of_bind_ok done
  obtain ⟨rfl, rfl⟩ : (deleteAutoConfigUrl between).1 = result ∧
      (deleteAutoConfigUrl between).2 = deleted := by
    cases deletes
    exact ⟨rfl, rfl⟩
  obtain ⟨accepted, done⟩ : between.outcomes.head? ≠ some false ∧
      operate "set" (fun registry : Registry => { registry with proxyEnable := some 0 })
        (deleteAutoConfigUrl between).2 = (.ok value, after) := by
    have other := (deleteAutoConfigUrl_eq between).2.2
    match result : (deleteAutoConfigUrl between).1 with
    | .error .notFound =>
        rw [result] at done other
        exact ⟨fun refused => (by cases other.mpr refused), done⟩
    | .error .other =>
        rw [result] at done
        cases done
    | .ok () =>
        rw [result] at done other
        exact ⟨fun refused => (by cases other.mpr refused), done⟩
  rw [(operate_ok done).1, (deleteAutoConfigUrl_eq between).2.1, if_neg accepted, opened]

end Ok

/-- What the last call leaves alone does not show: `set_pac` meets no proxy that is
enabled, and `set_proxy` deletes the url if there is one. -/
def Fits (registry : Registry) (last : SystemCall × List Bool) : Prop :=
  match last.1 with
  | .setPac _ => registry.enabled = false
  | .setProxy _ => registry.autoConfigUrl = none ∨ last.2.tail.head? ≠ some false
  | .restore => True

theorem shows_last_iff {registry : Registry} {last : SystemCall × List Bool}
    (succeeds : backend.Succeeds registry last) :
    (backend.step registry last).effective = backend.specified last.1 ↔ Fits registry last := by
  obtain ⟨call, outcomes⟩ := last
  have done : run call ⟨registry, outcomes⟩ = (.ok (), (run call ⟨registry, outcomes⟩).2) :=
    Prod.ext succeeds rfl
  show (run call ⟨registry, outcomes⟩).2.system.effective = _ ↔ _
  cases call with
  | setPac autoConfigUrl =>
      rw [setPac_ok done]
      show Effective.mk (some autoConfigUrl) (if registry.enabled then _ else _) =
        ⟨some autoConfigUrl, none⟩ ↔ registry.enabled = false
      cases registry.enabled <;> simp
  | setProxy address =>
      rw [setProxy_ok done]
      show Effective.mk _ (some address) = ⟨none, some address⟩ ↔ _
      rw [Effective.mk.injEq, and_iff_left rfl]
      show (if outcomes.tail.head? = some false then registry.autoConfigUrl else none) = none ↔
        registry.autoConfigUrl = none ∨ outcomes.tail.head? ≠ some false
      split
      · rename_i refused
        exact ⟨.inl, fun either => either.resolve_right fun accepted => accepted refused⟩
      · rename_i accepted
        exact iff_of_true rfl (.inr accepted)
  | restore =>
      rw [restore_ok done]
      exact iff_of_true rfl trivial

end CovertConnect.SysProxy.Windows
