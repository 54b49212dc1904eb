import CovertConnect.Client.Proxy
import CovertConnect.Data.Trace
import Mathlib.Algebra.Order.BigOperators.Group.List

namespace CovertConnect.Client

open CovertConnect.Data

/-! # Where a domain or an app is routed

The place of an item is spread over the direct list and one list a server. -/

namespace ItemKind

def listed (kind : ItemKind) (config : ServerConfig) : List String :=
  (kind.assigned config).getD []

@[simp] theorem direct_withDirect (kind : ItemKind) (items : List String) (proxy : Proxy) :
    kind.direct (kind.withDirect items proxy) = items := by
  cases kind <;> rfl

@[simp] theorem withDirect_servers (kind : ItemKind) (items : List String) (proxy : Proxy) :
    (kind.withDirect items proxy).servers = proxy.servers := by
  cases kind <;> rfl

@[simp] theorem withDirect_direct (kind : ItemKind) (proxy : Proxy) :
    kind.withDirect (kind.direct proxy) proxy = proxy := by
  cases kind <;> rfl

@[simp] theorem direct_servers (kind : ItemKind) (proxy : Proxy) (servers : List Server) :
    kind.direct { proxy with servers } = kind.direct proxy := by
  cases kind <;> rfl

@[simp] theorem listed_mapItems (kind : ItemKind)
    (update : Option (List String) → Option (List String)) (srv : Server) :
    kind.listed (srv.mapItems kind update).config = (update (kind.assigned srv.config)).getD [] := by
  cases kind <;> rfl

theorem listed_mapItems_other {kind other : ItemKind} (differ : other ≠ kind)
    (update : Option (List String) → Option (List String)) (srv : Server) :
    other.listed (srv.mapItems kind update).config = other.listed srv.config := by
  cases kind <;> cases other <;> first | rfl | exact absurd rfl differ

/-- In how many entries of the servers' lists the item is. -/
def inServers (kind : ItemKind) (item : String) (servers : List Server) : Nat :=
  (servers.map fun srv => (kind.listed srv.config).count item).sum

/-- In how many entries of all lists the item is. -/
def places (kind : ItemKind) (item : String) (proxy : Proxy) : Nat :=
  (kind.direct proxy).count item + kind.inServers item proxy.servers

theorem inServers_append (kind : ItemKind) (item : String) (front back : List Server) :
    kind.inServers item (front ++ back) = kind.inServers item front + kind.inServers item back := by
  simp [inServers]

theorem inServers_cons (kind : ItemKind) (item : String) (srv : Server) (back : List Server) :
    kind.inServers item (srv :: back) =
      (kind.listed srv.config).count item + kind.inServers item back := by
  simp [inServers]

theorem inServers_eq_zero {kind : ItemKind} {item : String} {servers : List Server} :
    kind.inServers item servers = 0 ↔ ∀ srv ∈ servers, item ∉ kind.listed srv.config := by
  simp [inServers, List.sum_eq_zero_iff_forall_eq_nat, List.count_eq_zero]

end ItemKind

/-- Each domain and each app is in at most one place. -/
def OnePlace (proxy : Proxy) : Prop :=
  ∀ kind : ItemKind, ∀ item, kind.places item proxy ≤ 1

/-- The item goes where the host says, and nowhere else. -/
def AssignedOnly (kind : ItemKind) (item host : String) (proxy : Proxy) : Prop :=
  if host = "" then
    item ∈ kind.direct proxy ∧ ∀ srv ∈ proxy.servers, item ∉ kind.listed srv.config
  else
    item ∉ kind.direct proxy ∧ ∃ pos, proxy.position host = some pos ∧
      ∀ idx srv, proxy.servers[idx]? = some srv → (item ∈ kind.listed srv.config ↔ idx = pos)

/-- No list of another server than the first one of that host has the item. -/
def NotElsewhere (kind : ItemKind) (item host : String) (proxy : Proxy) : Prop :=
  host ≠ "" → ∀ pos, proxy.position host = some pos →
    ∀ idx srv, idx ≠ pos → proxy.servers[idx]? = some srv → item ∉ kind.listed srv.config

namespace Proxy

/-- The proxy with other lists of one kind. -/
def rerouted (kind : ItemKind) (direct : List String) (servers : List Server) (proxy : Proxy) :
    Proxy :=
  { kind.withDirect direct proxy with servers }

theorem withDirect_eq_rerouted (kind : ItemKind) (direct : List String) (proxy : Proxy) :
    kind.withDirect direct proxy = proxy.rerouted kind direct proxy.servers := by
  cases kind <;> rfl

@[simp] theorem rerouted_servers (kind : ItemKind) (direct : List String)
    (servers : List Server) (proxy : Proxy) :
    (proxy.rerouted kind direct servers).servers = servers := rfl

@[simp] theorem direct_rerouted (kind : ItemKind) (direct : List String)
    (servers : List Server) (proxy : Proxy) :
    kind.direct (proxy.rerouted kind direct servers) = direct := by
  cases kind <;> rfl

theorem direct_rerouted_other {kind other : ItemKind} (differ : other ≠ kind)
    (direct : List String) (servers : List Server) (proxy : Proxy) :
    other.direct (proxy.rerouted kind direct servers) = other.direct proxy := by
  cases kind <;> cases other <;> first | rfl | exact absurd rfl differ

theorem removeDirect_present {kind : ItemKind} {item : String} {proxy : Proxy}
    (present : item ∈ kind.direct proxy) :
    removeDirect kind item proxy =
      (.ok (), kind.withDirect ((kind.direct proxy).erase item) proxy) := by
  rw [removeDirect, if_pos present]

theorem removeDirect_missing {kind : ItemKind} {item : String} {proxy : Proxy}
    (missing : item ∉ kind.direct proxy) :
    removeDirect kind item proxy = (.err (.anyhow kind.notFound), proxy) := by
  rw [removeDirect, if_neg missing]

/-- The direct list loses the item whether or not the removal reports it. -/
theorem attempt_removeDirect (kind : ItemKind) (item : String) (proxy : Proxy) :
    ∃ answer, (removeDirect kind item).attempt proxy =
      (.ok answer, kind.withDirect ((kind.direct proxy).erase item) proxy) := by
  by_cases present : item ∈ kind.direct proxy
  · exact ⟨.ok (), by rw [Exec.attempt_apply, removeDirect_present present]⟩
  · refine ⟨.error (.anyhow kind.notFound), ?_⟩
    rw [Exec.attempt_apply, removeDirect_missing present, List.erase_of_not_mem present,
      ItemKind.withDirect_direct]

theorem position_withDirect (kind : ItemKind) (items : List String) (proxy : Proxy)
    (host : String) : (kind.withDirect items proxy).position host = proxy.position host := by
  simp [position]

theorem setItem_known {kind : ItemKind} {item host : String} {proxy : Proxy} {pos : Nat}
    (named : host ≠ "") (known : proxy.position host = some pos) :
    setItem kind item host proxy =
      (.ok (), proxy.rerouted kind ((kind.direct proxy).erase item)
        (proxy.servers.modify pos (Server.mapItems kind (addItem item)))) := by
  obtain ⟨answer, removed⟩ := attempt_removeDirect kind item proxy
  rw [setItem, if_pos named, Exec.bind_ok removed, Exec.bind_ok (Exec.get_apply _),
    position_withDirect, known]
  simp [rerouted]

theorem setItem_unknown {kind : ItemKind} {item host : String} {proxy : Proxy}
    (named : host ≠ "") (unknown : proxy.position host = none) :
    setItem kind item host proxy =
      (.err (.anyhow "host not found"),
        proxy.rerouted kind ((kind.direct proxy).erase item) proxy.servers) := by
  obtain ⟨answer, removed⟩ := attempt_removeDirect kind item proxy
  rw [setItem, if_pos named, Exec.bind_ok removed, Exec.bind_ok (Exec.get_apply _),
    position_withDirect, unknown, withDirect_eq_rerouted]
  rfl

theorem setItem_direct (kind : ItemKind) (item : String) (proxy : Proxy) :
    setItem kind item "" proxy =
      (.ok (), proxy.rerouted kind
        (if item ∈ kind.direct proxy then kind.direct proxy else kind.direct proxy ++ [item])
        (proxy.servers.map (Server.mapItems kind (Option.map (List.erase · item))))) := by
  rw [setItem, if_neg (fun named => named rfl), Exec.bind_ok (Exec.get_apply _)]
  by_cases present : item ∈ kind.direct proxy
  · simp [present, removeFromServers, rerouted]
  · simp only [present, not_false_eq_true, if_true, if_false]
    rw [Exec.bind_ok (Exec.modify_apply _ _)]
    simp [removeFromServers, rerouted]

theorem removeItem_present {kind : ItemKind} {item : String} {proxy : Proxy}
    (present : item ∈ kind.direct proxy) :
    removeItem kind item proxy =
      (.ok (), proxy.rerouted kind ((kind.direct proxy).erase item)
        (proxy.servers.map (Server.mapItems kind (Option.map (List.erase · item))))) := by
  rw [removeItem, Exec.bind_ok (removeDirect_present present)]
  simp [removeFromServers, rerouted]

theorem removeItem_missing {kind : ItemKind} {item : String} {proxy : Proxy}
    (missing : item ∉ kind.direct proxy) :
    removeItem kind item proxy = (.err (.anyhow kind.notFound), proxy) :=
  Exec.bind_err (removeDirect_missing missing) _

end Proxy

/-- A host stands for the first server that has it. -/
theorem Proxy.position_eq_some {proxy : Proxy} {host : String} {pos : Nat} :
    proxy.position host = some pos ↔
      ∃ front srv back, proxy.servers = front ++ srv :: back ∧ front.length = pos ∧
        srv.config.host = host ∧ ∀ srv ∈ front, srv.config.host ≠ host := by
  rw [Proxy.position, List.findIdx?_eq_some_iff_getElem]
  constructor
  · intro given
    obtain ⟨inside, found, before⟩ := given
    refine ⟨proxy.servers.take pos, proxy.servers[pos], proxy.servers.drop (pos + 1), ?_, ?_, ?_, ?_⟩
    · rw [List.getElem_cons_drop, List.take_append_drop]
    · simp only [List.length_take]
      omega
    · exact of_decide_eq_true found
    · intro srv inFront
      obtain ⟨idx, within, rfl⟩ := List.mem_take_iff_getElem.mp inFront
      exact fun same => before idx (by omega) (decide_eq_true same)
  · intro given
    obtain ⟨front, srv, back, split, rfl, here, before⟩ := given
    refine ⟨by simp [split], by simp [split, here], ?_⟩
    intro idx earlier
    simp only [split, List.getElem_append_left earlier, decide_eq_true_eq]
    exact before _ (List.getElem_mem _)

namespace ItemKind

variable {kind : ItemKind} {item : String}

theorem count_addItem (item : String) (items : Option (List String)) :
    ((addItem item items).getD []).count item = max 1 ((items.getD []).count item) := by
  rcases items with _ | items
  · simp [addItem]
  · by_cases present : item ∈ items
    · simp only [addItem, present, if_true, Option.getD_some]
      have := List.one_le_count_iff.mpr present
      omega
    · simp only [addItem, present, if_false, Option.getD_some]
      rw [(List.perm_insertionSort _ _).count_eq, List.count_append,
        List.count_eq_zero.mpr present]
      simp

theorem count_addItem_other {other : String} (differ : other ≠ item)
    (items : Option (List String)) :
    ((addItem item items).getD []).count other = (items.getD []).count other := by
  rcases items with _ | items
  · simp [addItem, Ne.symm differ]
  · by_cases present : item ∈ items
    · simp [addItem, present]
    · simp only [addItem, present, if_false, Option.getD_some]
      rw [(List.perm_insertionSort _ _).count_eq, List.count_append]
      simp [Ne.symm differ]

theorem getD_map_erase (item : String) (items : Option (List String)) :
    (items.map (List.erase · item)).getD [] = (items.getD []).erase item := by
  cases items <;> rfl

theorem inServers_erase_le (other : ItemKind) (item' : String) (servers : List Server) :
    other.inServers item' (servers.map (Server.mapItems kind (Option.map (List.erase · item)))) ≤
      other.inServers item' servers := by
  rw [inServers, List.map_map, inServers]
  refine List.sum_le_sum fun srv _ => ?_
  by_cases same : other = kind
  · subst same
    rw [Function.comp_apply, listed_mapItems, getD_map_erase]
    exact List.erase_sublist.count_le _
  · rw [Function.comp_apply, listed_mapItems_other same]

/-- One entry is erased from each list, so an item that is nowhere twice goes. -/
theorem inServers_erase {servers : List Server} (once : kind.inServers item servers ≤ 1) :
    kind.inServers item (servers.map (Server.mapItems kind (Option.map (List.erase · item)))) =
      0 := by
  rw [inServers_eq_zero]
  intro srv there
  obtain ⟨before, inServers, rfl⟩ := List.mem_map.mp there
  obtain ⟨front, back, rfl⟩ := List.append_of_mem inServers
  rw [inServers_append, inServers_cons] at once
  rw [listed_mapItems, getD_map_erase, ← List.count_eq_zero, List.count_erase_self]
  change (kind.listed before.config).count item - 1 = 0
  omega

/-- The list of one server is changed at one place. -/
theorem modify_split {front : List Server} (srv : Server) (back : List Server)
    (update : Server → Server) :
    (front ++ srv :: back).modify front.length update = front ++ update srv :: back := by
  rw [List.modify_eq_take_cons_drop (by simp)]
  simp

end ItemKind

section Step

open Proxy

variable {kind : ItemKind} {item host : String} {proxy : Proxy}

theorem onePlace_rerouted {direct : List String} {servers : List Server} (one : OnePlace proxy)
    (others : ∀ other item', other ≠ kind ∨ item' ≠ item →
      other.inServers item' servers ≤ other.inServers item' proxy.servers)
    (directOthers : ∀ item', item' ≠ item → direct.count item' ≤ (kind.direct proxy).count item') :
    OnePlace (proxy.rerouted kind direct servers) ↔
      direct.count item + kind.inServers item servers ≤ 1 := by
  constructor
  · intro after
    simpa [ItemKind.places] using after kind item
  · intro here other item'
    have before := one other item'
    simp only [ItemKind.places, Proxy.rerouted_servers] at before ⊢
    by_cases sameKind : other = kind
    · subst sameKind
      rw [Proxy.direct_rerouted]
      by_cases sameItem : item' = item
      · subst sameItem
        exact here
      · have := others other item' (.inr sameItem)
        have := directOthers item' sameItem
        omega
    · rw [Proxy.direct_rerouted_other sameKind]
      have := others other item' (.inl sameKind)
      omega

theorem count_erase_other (items : List String) {item' : String} (differ : item' ≠ item) :
    (items.erase item).count item' ≤ items.count item' :=
  Nat.le_of_eq (List.count_erase_of_ne differ)

theorem setItem_unknown_onePlace (one : OnePlace proxy) :
    OnePlace (proxy.rerouted kind ((kind.direct proxy).erase item) proxy.servers) := by
  rw [onePlace_rerouted one (fun _ _ _ => Nat.le_refl _)
    fun item' differ => count_erase_other _ differ]
  have before := one kind item
  have := (List.erase_sublist (a := item) (l := kind.direct proxy)).count_le item
  simp only [ItemKind.places] at before
  omega

/-- The state that both removals from the servers leave. -/
theorem erased_onePlace {direct : List String} (one : OnePlace proxy)
    (single : direct.count item ≤ 1)
    (directOthers : ∀ item', item' ≠ item → direct.count item' ≤ (kind.direct proxy).count item') :
    OnePlace (proxy.rerouted kind direct
      (proxy.servers.map (Server.mapItems kind (Option.map (List.erase · item))))) := by
  rw [onePlace_rerouted one (fun other item' _ => ItemKind.inServers_erase_le other item' _)
    directOthers]
  have before := one kind item
  simp only [ItemKind.places] at before
  rw [ItemKind.inServers_erase (by omega)]
  exact single

theorem setItem_direct_onePlace (kind : ItemKind) (item : String) (one : OnePlace proxy) :
    OnePlace (setItem kind item "" proxy).2 ∧
      AssignedOnly kind item "" (setItem kind item "" proxy).2 := by
  have before := one kind item
  simp only [ItemKind.places] at before
  rw [setItem_direct]
  constructor
  · refine erased_onePlace one ?_ ?_
    · split
      · omega
      · rename_i missing
        rw [List.count_append, List.count_eq_zero.mpr missing]
        simp
    · intro item' differ
      split
      · exact Nat.le_refl _
      · rw [List.count_append]
        simp [Ne.symm differ]
  · rw [AssignedOnly, if_pos rfl, direct_rerouted, rerouted_servers, ← ItemKind.inServers_eq_zero]
    refine ⟨?_, ItemKind.inServers_erase (by omega)⟩
    split
    · assumption
    · simp

theorem removeItem_onePlace (kind : ItemKind) (item : String) (one : OnePlace proxy) :
    OnePlace (removeItem kind item proxy).2 := by
  by_cases present : item ∈ kind.direct proxy
  · rw [removeItem_present present]
    refine erased_onePlace one ?_ fun item' differ => count_erase_other _ differ
    have before := one kind item
    simp only [ItemKind.places] at before
    rw [List.count_erase_self]
    omega
  · rw [removeItem_missing present]
    exact one

/-- An item moved to a server is in one place only if no other server had it. -/
theorem setItem_known_onePlace {front back : List Server} {srv : Server} (one : OnePlace proxy)
    (split : proxy.servers = front ++ srv :: back) :
    OnePlace (proxy.rerouted kind ((kind.direct proxy).erase item)
        (front ++ srv.mapItems kind (addItem item) :: back)) ↔
      kind.inServers item front = 0 ∧ kind.inServers item back = 0 := by
  have before := one kind item
  simp only [ItemKind.places, split, ItemKind.inServers_append, ItemKind.inServers_cons] at before
  rw [onePlace_rerouted one ?_ fun item' differ => count_erase_other _ differ]
  · rw [ItemKind.inServers_append, ItemKind.inServers_cons, ItemKind.listed_mapItems,
      ItemKind.count_addItem, List.count_erase_self]
    change _ + (_ + (max 1 ((kind.listed srv.config).count item) + _)) ≤ 1 ↔ _
    omega
  · intro other item' differs
    simp only [split, ItemKind.inServers_append, ItemKind.inServers_cons]
    have same : (other.listed (srv.mapItems kind (addItem item)).config).count item' =
        (other.listed srv.config).count item' := by
      by_cases sameKind : other = kind
      · subst sameKind
        have differ := differs.resolve_left fun differ => differ rfl
        rw [ItemKind.listed_mapItems, ItemKind.count_addItem_other differ]
        rfl
      · rw [ItemKind.listed_mapItems_other sameKind]
    omega

theorem mem_addItem (item : String) (items : Option (List String)) :
    item ∈ (addItem item items).getD [] := by
  rw [← List.one_le_count_iff, ItemKind.count_addItem]
  omega

theorem setItem_known_assigned {front back : List Server} {srv : Server} (one : OnePlace proxy)
    (named : host ≠ "") (here : srv.config.host = host)
    (before : ∀ srv ∈ front, srv.config.host ≠ host)
    (noFront : kind.inServers item front = 0) (noBack : kind.inServers item back = 0) :
    AssignedOnly kind item host (proxy.rerouted kind ((kind.direct proxy).erase item)
      (front ++ srv.mapItems kind (addItem item) :: back)) := by
  have single := one kind item
  simp only [ItemKind.places] at single
  rw [ItemKind.inServers_eq_zero] at noFront noBack
  rw [AssignedOnly, if_neg named]
  refine ⟨?_, front.length, ?_, ?_⟩
  · rw [direct_rerouted, ← List.count_eq_zero, List.count_erase_self]
    omega
  · refine position_eq_some.mpr ⟨front, _, back, rfl, rfl, ?_, before⟩
    cases kind <;> exact here
  · intro idx found there
    rw [rerouted_servers] at there
    rcases Nat.lt_trichotomy idx front.length with earlier | rfl | later
    · rw [List.getElem?_append_left earlier] at there
      refine iff_of_false (noFront found (List.mem_of_getElem? there)) (by omega)
    · rw [List.getElem?_append_right (Nat.le_refl _), Nat.sub_self, List.getElem?_cons_zero,
        Option.some.injEq] at there
      subst there
      rw [ItemKind.listed_mapItems]
      exact iff_of_true (mem_addItem item _) rfl
    · obtain ⟨rest, rfl⟩ := Nat.exists_eq_add_of_lt later
      rw [List.getElem?_append_right (by omega)] at there
      have : front.length + rest + 1 - front.length = rest + 1 := by omega
      rw [this, List.getElem?_cons_succ] at there
      refine iff_of_false (noBack found (List.mem_of_getElem? there)) (by omega)

theorem notElsewhere_split {front back : List Server} {srv : Server} (named : host ≠ "")
    (split : proxy.servers = front ++ srv :: back)
    (known : proxy.position host = some front.length) :
    NotElsewhere kind item host proxy ↔
      kind.inServers item front = 0 ∧ kind.inServers item back = 0 := by
  simp only [ItemKind.inServers_eq_zero]
  constructor
  · intro nowhere
    have nowhere := nowhere named front.length known
    constructor
    · intro srv' there
      obtain ⟨idx, within, rfl⟩ := List.getElem_of_mem there
      refine nowhere idx _ (by omega) ?_
      rw [split, List.getElem?_append_left within, List.getElem?_eq_getElem within]
    · intro srv' there
      obtain ⟨idx, within, rfl⟩ := List.getElem_of_mem there
      refine nowhere (front.length + (idx + 1)) _ (by omega) ?_
      rw [split, List.getElem?_append_right (by omega), Nat.add_sub_cancel_left,
        List.getElem?_cons_succ, List.getElem?_eq_getElem within]
  · intro given _ pos found idx srv' differ there
    obtain ⟨noFront, noBack⟩ := given
    rw [known, Option.some.injEq] at found
    subst found
    rw [split] at there
    rcases Nat.lt_or_gt_of_ne differ with earlier | later
    · rw [List.getElem?_append_left earlier] at there
      exact noFront srv' (List.mem_of_getElem? there)
    · obtain ⟨rest, rfl⟩ := Nat.exists_eq_add_of_lt later
      have : front.length + rest + 1 - front.length = rest + 1 := by omega
      rw [List.getElem?_append_right (by omega), this, List.getElem?_cons_succ] at there
      exact noBack srv' (List.mem_of_getElem? there)

/-- What one call makes of a state in which each item has one place. -/
theorem setItem_onePlace_iff (kind : ItemKind) (item host : String) (one : OnePlace proxy) :
    (OnePlace (setItem kind item host proxy).2 ∧
      ((setItem kind item host proxy).1 = .ok () →
        AssignedOnly kind item host (setItem kind item host proxy).2)) ↔
      NotElsewhere kind item host proxy := by
  by_cases named : host = ""
  · subst named
    obtain ⟨onePlace, assigned⟩ := setItem_direct_onePlace kind item one
    exact iff_of_true ⟨onePlace, fun _ => assigned⟩ fun named => absurd rfl named
  cases found : proxy.position host with
  | none =>
      rw [setItem_unknown named found]
      refine iff_of_true ⟨setItem_unknown_onePlace one, fun answer => ?_⟩ ?_
      · simp at answer
      · intro _ pos known
        simp [found] at known
  | some pos =>
      obtain ⟨front, srv, back, split, rfl, here, before⟩ := position_eq_some.mp found
      rw [setItem_known named found, split, ItemKind.modify_split,
        setItem_known_onePlace one split, notElsewhere_split named split found]
      constructor
      · exact fun both => both.1
      · intro given
        obtain ⟨noFront, noBack⟩ := given
        exact ⟨⟨noFront, noBack⟩, fun _ =>
          setItem_known_assigned one named here before noFront noBack⟩

end Step

inductive RoutingCall where
  | setDomain (domain serverHost : String)
  | removeDomain (domain : String)
  | setApp (app serverHost : String)
  | removeApp (app : String)
deriving DecidableEq, Repr

namespace RoutingCall

def run : RoutingCall → Exec Proxy Error Unit
  | .setDomain domain serverHost => Proxy.setDomain domain serverHost
  | .removeDomain domain => Proxy.removeDomain domain
  | .setApp app serverHost => Proxy.setApp app serverHost
  | .removeApp app => Proxy.removeApp app

def after (proxy : Proxy) (call : RoutingCall) : Proxy :=
  (call.run proxy).2

/-- A set that succeeds puts its item in the place it names, and only there. -/
def Assigns (proxy : Proxy) (call : RoutingCall) : Prop :=
  (call.run proxy).1 = .ok () →
    match call with
    | .setDomain domain serverHost => AssignedOnly .domain domain serverHost (after proxy call)
    | .setApp app serverHost => AssignedOnly .app app serverHost (after proxy call)
    | .removeDomain _ | .removeApp _ => True

/-- A set names a server while no other server has the item. -/
def MovesNoItem (proxy : Proxy) : RoutingCall → Prop
  | .setDomain domain serverHost => NotElsewhere .domain domain serverHost proxy
  | .setApp app serverHost => NotElsewhere .app app serverHost proxy
  | .removeDomain _ | .removeApp _ => True

theorem step_onePlace_iff {proxy : Proxy} (call : RoutingCall) (one : OnePlace proxy) :
    OnePlace (after proxy call) ∧ Assigns proxy call ↔ MovesNoItem proxy call := by
  cases call with
  | setDomain domain serverHost => exact setItem_onePlace_iff .domain domain serverHost one
  | setApp app serverHost => exact setItem_onePlace_iff .app app serverHost one
  | removeDomain domain =>
      exact iff_of_true ⟨removeItem_onePlace .domain domain one, fun _ => trivial⟩ trivial
  | removeApp app =>
      exact iff_of_true ⟨removeItem_onePlace .app app one, fun _ => trivial⟩ trivial

/-- Every item keeps one place, and each set that succeeds assigns its item,
just in the runs that never move an item from one server to another. -/
theorem run_onePlace_iff (proxy : Proxy) (calls : List RoutingCall) (one : OnePlace proxy) :
    AllStates after OnePlace proxy calls ∧ AllSteps after Assigns proxy calls ↔
      AllSteps after MovesNoItem proxy calls :=
  allStates_and_allSteps_iff (fun _ => True) (fun _ _ => True) Assigns
    (fun _ _ _ _ => trivial) (fun _ call _ one _ => step_onePlace_iff call one) trivial one
    allSteps_true

/-- A domain that is sent directly, and two servers. -/
def threePlaces : Proxy where
  servers := [idleServer "first" true, idleServer "second" true]
  apps := []
  pacService := { PacFileService.new 25444 with domains := ["example.org"] }
  proxyState := .off
  initialized := true
  restart := .waiting

theorem threePlaces_onePlace : OnePlace threePlaces := by
  intro kind item
  cases kind with
  | domain =>
      change ["example.org"].count item + 0 ≤ 1
      exact List.count_le_length
  | app => exact Nat.zero_le 1

theorem run_onePlace_moved :
    AllStates after OnePlace threePlaces
        [.setDomain "example.org" "first", .setDomain "example.org" "",
          .removeDomain "example.org"] ∧
      AllSteps after Assigns threePlaces
        [.setDomain "example.org" "first", .setDomain "example.org" "",
          .removeDomain "example.org"] := by
  refine (run_onePlace_iff threePlaces _ threePlaces_onePlace).mpr ⟨?_, ?_, trivial, trivial⟩
  · have split : threePlaces.servers = [] ++ idleServer "first" true :: [idleServer "second" true] :=
      rfl
    have known : threePlaces.position "first" = some ([] : List Server).length := by decide
    exact (notElsewhere_split (by decide) split known).mpr ⟨rfl, rfl⟩
  · exact fun named => absurd rfl named

/-- Moved from one server to another, the item is left in both lists. -/
theorem setDomain_two_servers :
    OnePlace threePlaces ∧
      (run (.setDomain "example.org" "first") threePlaces).1 = .ok () ∧
      ItemKind.domain.places "example.org"
        (after (after threePlaces (.setDomain "example.org" "first"))
          (.setDomain "example.org" "second")) = 2 :=
  ⟨threePlaces_onePlace, by decide, by decide⟩

end RoutingCall

end CovertConnect.Client
