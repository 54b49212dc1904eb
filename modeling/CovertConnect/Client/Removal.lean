import CovertConnect.Client.ProxyService

namespace CovertConnect.Client

open CovertConnect.Data

/-! # Removing an item

A removal takes one entry out of the direct list and one out of the list of
each server, and gives up where the direct list has none. -/

namespace ItemKind

/-- The item is in the direct list or in the list of a server. -/
def Listed (kind : ItemKind) (item : String) (proxy : Proxy) : Prop :=
  item ∈ kind.direct proxy ∨ ∃ srv ∈ proxy.servers, item ∈ kind.listed srv.config

/-- `remove_domain` and `remove_app` take an item away wherever it is, and
change nothing where it is not. -/
def Removes (kind : ItemKind) (item : String) (proxy : Proxy) : Prop :=
  (kind.Listed item proxy →
    (Proxy.removeItem kind item proxy).1 = .ok () ∧
      ¬ kind.Listed item (Proxy.removeItem kind item proxy).2) ∧
  (¬ kind.Listed item proxy → (Proxy.removeItem kind item proxy).2 = proxy)

/-- An item that is listed is in the direct list once, and in the list of no
server twice. -/
def Removable (kind : ItemKind) (item : String) (proxy : Proxy) : Prop :=
  kind.Listed item proxy →
    (kind.direct proxy).count item = 1 ∧
      ∀ srv ∈ proxy.servers, (kind.listed srv.config).count item ≤ 1

variable {kind : ItemKind} {item : String} {proxy : Proxy}

theorem not_mem_erase_iff {items : List String} :
    item ∉ items.erase item ↔ items.count item ≤ 1 := by
  rw [← List.count_eq_zero, List.count_erase_self]
  omega

/-- What is left after one entry of each list is gone. -/
theorem not_listed_erased :
    ¬ kind.Listed item (proxy.rerouted kind ((kind.direct proxy).erase item)
        (proxy.servers.map (Server.mapItems kind (Option.map (List.erase · item))))) ↔
      (kind.direct proxy).count item ≤ 1 ∧
        ∀ srv ∈ proxy.servers, (kind.listed srv.config).count item ≤ 1 := by
  rw [Listed, not_or, Proxy.direct_rerouted, Proxy.rerouted_servers, not_mem_erase_iff]
  refine and_congr_right fun _ => ?_
  have erased : ∀ srv : Server, item ∉ kind.listed
        (srv.mapItems kind (Option.map (List.erase · item))).config ↔
      (kind.listed srv.config).count item ≤ 1 := by
    intro srv
    rw [listed_mapItems, getD_map_erase]
    exact not_mem_erase_iff
  constructor
  · intro gone srv there
    exact (erased srv).mp fun left => gone ⟨_, List.mem_map_of_mem there, left⟩
  · intro once given
    obtain ⟨after, there, left⟩ := given
    obtain ⟨srv, before, rfl⟩ := List.mem_map.mp there
    exact (erased srv).mpr (once srv before) left

theorem removes_iff (kind : ItemKind) (item : String) (proxy : Proxy) :
    kind.Removes item proxy ↔ kind.Removable item proxy := by
  by_cases direct : item ∈ kind.direct proxy
  · have listed : kind.Listed item proxy := .inl direct
    have present := List.one_le_count_iff.mpr direct
    rw [Removes, Removable, Proxy.removeItem_present direct, not_listed_erased]
    constructor
    · intro removes _
      obtain ⟨_, once, servers⟩ := removes.1 listed
      exact ⟨Nat.le_antisymm once present, servers⟩
    · intro removable
      obtain ⟨once, servers⟩ := removable listed
      exact ⟨fun _ => ⟨rfl, Nat.le_of_eq once, servers⟩, fun missing => absurd listed missing⟩
  · rw [Removes, Removable, Proxy.removeItem_missing direct]
    constructor
    · intro removes listed
      have answer := (removes.1 listed).1
      cases answer
    · intro removable
      refine ⟨fun listed => ?_, fun _ => rfl⟩
      have once := (removable listed).1
      rw [List.count_eq_zero.mpr direct] at once
      exact absurd once (by decide)

end ItemKind

namespace Service

variable {S : Type} [SystemProxy S]

/-- Whatever the service was started from and has done since, an item is
removed just when it is kept where a removal looks for it. -/
theorem removeItem_removes_iff (cfg : ProxyConfig) (system : S) (events : List ServiceEvent) :
    AllStates after
      (fun service => ∀ (kind : ItemKind) (item : String),
        kind.Removes item service.session.proxy ↔ kind.Removable item service.session.proxy)
      (started cfg system) events :=
  allStates_of_forall fun _ kind item => ItemKind.removes_iff kind item _

/-- A domain that is given to a server cannot be removed. -/
theorem removeDomain_assigned :
    ¬ AllStates after
      (fun service => ∀ (kind : ItemKind) (item : String),
        kind.Removes item service.session.proxy)
      (started (oneServer .off) true) [.serve (.ok ()), .call (.setDomain "x.org" "first")] := by
  intro given
  obtain ⟨_, _, removes⟩ := given
  generalize stateIs : after (after (started (oneServer .off) true) (.serve (.ok ())))
    (.call (.setDomain "x.org" "first")) = state at removes
  have listed : ItemKind.Listed .domain "x.org" state.session.proxy := by
    rw [← stateIs]
    exact .inr ⟨_, List.mem_cons_self, by decide⟩
  have refused : (Proxy.removeItem .domain "x.org" state.session.proxy).1 =
      .err (.anyhow "domain not found") := by
    rw [← stateIs]
    decide
  have answer := ((removes .domain "x.org").1 listed).1
  rw [refused] at answer
  cases answer

end Service

end CovertConnect.Client
