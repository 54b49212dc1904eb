import CovertConnect.Client.ServerEdits
import Mathlib.Data.String.Basic

namespace CovertConnect.Client

open CovertConnect.Data CovertConnect.Crypto

/-! # Domains that are found

`select_server` searches the list of a server by halves, so that an entry out of
order may be missed. -/

theorem binarySearchLoop_sound {sorted : List String} {wanted : String} {turns size base : Nat}
    (found : binarySearchLoop sorted wanted turns size base = true) : wanted ∈ sorted := by
  induction turns generalizing size base with
  | zero => exact List.mem_of_getElem? (of_decide_eq_true found)
  | succ turns ih =>
      rw [binarySearchLoop] at found
      split at found
      · exact ih found
      · exact List.mem_of_getElem? (of_decide_eq_true found)

theorem sorted_getElem_le {sorted : List String} (ordered : sorted.Pairwise (· ≤ ·))
    {early late : Nat} (order : early ≤ late) (inside : late < sorted.length) :
    sorted[early] ≤ sorted[late] := by
  rcases Nat.lt_or_eq_of_le order with before | rfl
  · exact List.pairwise_iff_getElem.mp ordered early late (by omega) inside before
  · exact le_refl _

/-- An entry between `base` and `base + size` stays there until one is left. -/
theorem binarySearchLoop_complete {sorted : List String} (ordered : sorted.Pairwise (· ≤ ·))
    {wanted : String} {turns size base idx : Nat} (enough : size ≤ turns)
    (inside : base + size ≤ sorted.length) (here : sorted[idx]? = some wanted)
    (after : base ≤ idx) (before : idx < base + size) :
    binarySearchLoop sorted wanted turns size base = true := by
  induction turns generalizing size base idx with
  | zero => omega
  | succ turns ih =>
      obtain ⟨within, atIdx⟩ := List.getElem?_eq_some_iff.mp here
      rw [binarySearchLoop]
      split
      · rename_i several
        dsimp only
        generalize half : base + size / 2 = mid
        have middle : mid < sorted.length := by omega
        rw [List.getElem?_eq_getElem middle]
        dsimp only
        split
        · rename_i smaller
          -- everything from the middle on is greater
          have left : idx < mid := by
            refine Nat.lt_of_not_le fun right => ?_
            have order := sorted_getElem_le ordered right within
            rw [atIdx] at order
            exact absurd smaller (not_lt_of_ge order)
          exact ih (by omega) (by omega) here after (by omega)
        · rename_i notSmaller
          by_cases right : mid ≤ idx
          · exact ih (by omega) (by omega) here right (by omega)
          · -- the entry is in front of the middle and not less than it
            have order := sorted_getElem_le ordered (Nat.le_of_not_le right) middle
            rw [atIdx] at order
            have same : sorted[mid] = wanted := le_antisymm (le_of_not_gt notSmaller) order
            have there : sorted[mid]? = some wanted := by
              rw [List.getElem?_eq_getElem middle, same]
            exact ih (by omega) (by omega) there (Nat.le_refl _) (by omega)
      · have one : idx = base := by omega
        rw [← one]
        exact decide_eq_true here

theorem binarySearch_iff_mem {sorted : List String} (ordered : sorted.Pairwise (· ≤ ·))
    (wanted : String) : binarySearch sorted wanted = true ↔ wanted ∈ sorted := by
  constructor
  · exact binarySearchLoop_sound
  · intro there
    obtain ⟨idx, within, atIdx⟩ := List.getElem_of_mem there
    exact binarySearchLoop_complete ordered (Nat.le_refl _) (by omega)
      (List.getElem?_eq_some_iff.mpr ⟨within, atIdx⟩) (Nat.zero_le _) (by omega)

/-- A list in the order of the search, whose entries are all found. -/
structure Searchable (domains : List String) : Prop where
  sorted : domains.Pairwise (· ≤ ·)
  finds : ∀ domain, binarySearch domains domain = true ↔ domain ∈ domains

theorem searchable_iff {domains : List String} :
    Searchable domains ↔ domains.Pairwise (· ≤ ·) :=
  ⟨Searchable.sorted, fun sorted => ⟨sorted, binarySearch_iff_mem sorted⟩⟩

theorem insertionSort_searchable (domains : List String) :
    Searchable (domains.insertionSort (· ≤ ·)) :=
  searchable_iff.mpr (List.pairwise_insertionSort _ _)

theorem addItem_searchable {item : String} {domains : Option (List String)}
    (searchable : Searchable (domains.getD [])) : Searchable ((addItem item domains).getD []) := by
  cases domains with
  | none => exact searchable_iff.mpr (List.pairwise_singleton _ _)
  | some domains =>
      rw [addItem]
      split
      · exact searchable
      · exact insertionSort_searchable _

theorem erase_searchable (item : String) {domains : List String}
    (searchable : Searchable domains) : Searchable (domains.erase item) :=
  searchable_iff.mpr (searchable.sorted.sublist List.erase_sublist)

def ServerConfig.Searchable (config : ServerConfig) : Prop :=
  Client.Searchable (ItemKind.domain.listed config)

theorem ServerConfig.init_searchable [Hashes] {lookup : String → Except IoError (List SocketAddr)}
    {config initialized : ServerConfig} (found : config.init lookup = .ok initialized) :
    initialized.Searchable := by
  obtain ⟨connCfg, _, rfl⟩ := ServerConfig.init_inv found
  change Client.Searchable ((sortItems config.domains).getD [])
  cases config.domains with
  | none => exact searchable_iff.mpr List.Pairwise.nil
  | some domains => exact insertionSort_searchable domains

theorem mapItems_searchable (kind : ItemKind) {update : Option (List String) → Option (List String)}
    {srv : Server} (searchable : srv.config.Searchable)
    (keeps : ∀ domains : Option (List String), Searchable (domains.getD []) →
      Searchable ((update domains).getD [])) :
    (srv.mapItems kind update).config.Searchable := by
  rw [ServerConfig.Searchable]
  cases kind with
  | domain =>
      rw [ItemKind.listed_mapItems]
      exact keeps _ searchable
  | app =>
      rw [ItemKind.listed_mapItems_other (by decide)]
      exact searchable

/-- A configuration that could be looked up, or whose domains were sorted from
the beginning. -/
def ServerConfig.FoundOrSorted [Hashes] (lookup : String → Except IoError (List SocketAddr))
    (config : ServerConfig) : Prop :=
  (∃ initialized, config.intoClient.init lookup = .ok initialized) ∨
    (ItemKind.domain.listed config).Pairwise (· ≤ ·)

theorem ServerConfig.initOrKeep_searchable_iff [Hashes]
    (lookup : String → Except IoError (List SocketAddr)) (config : ServerConfig) :
    (config.intoClient.initOrKeep lookup).Searchable ↔ config.FoundOrSorted lookup := by
  rw [FoundOrSorted]
  cases looked : config.intoClient.init lookup with
  | ok initialized =>
      rw [initOrKeep_ok looked]
      exact iff_of_true (init_searchable looked) (.inl ⟨initialized, rfl⟩)
  | error error =>
      rw [initOrKeep_error looked, or_iff_right (by simp)]
      exact searchable_iff

def Edit.StoresSearchable : Edit → Prop
  | .push config | .replace _ config => config.Searchable
  | _ => True

def AllSearchable (servers : List Server) : Prop :=
  ∀ srv ∈ servers, srv.config.Searchable

theorem Edit.onList_searchable_iff {servers : List Server} {edit : Edit}
    (all : AllSearchable servers)
    (inside : ∀ pos config, edit = .replace pos config → pos < servers.length) :
    AllSearchable (edit.onList servers) ↔ edit.StoresSearchable := by
  cases edit with
  | eraseDirect kind item | addDirect kind item => exact iff_of_true all trivial
  | assign kind item pos =>
      refine iff_of_true ((forall_mem_modify all).mpr fun srv here => ?_) trivial
      exact mapItems_searchable kind (all srv (List.mem_of_getElem? here))
        fun _ => addItem_searchable
  | clear kind item =>
      refine iff_of_true ?_ trivial
      intro after there
      obtain ⟨srv, before, rfl⟩ := List.mem_map.mp there
      refine mapItems_searchable kind (all srv before) fun domains searchable => ?_
      rw [ItemKind.getD_map_erase]
      exact erase_searchable item searchable
  | enable pos value =>
      refine iff_of_true ((forall_mem_modify all).mpr fun srv here => ?_) trivial
      exact all srv (List.mem_of_getElem? here)
  | replace pos config =>
      have within := inside pos config rfl
      rw [AllSearchable, Edit.onList, forall_mem_modify all]
      constructor
      · intro stored
        exact stored _ (List.getElem?_eq_getElem within)
      · exact fun stored _ _ => stored
  | push config =>
      rw [AllSearchable, Edit.onList, List.forall_mem_append]
      exact (and_iff_right all).trans List.forall_mem_singleton
  | erase pos =>
      exact iff_of_true (fun srv there => all srv (List.mem_of_mem_eraseIdx there)) trivial

namespace Concurrent

variable {S : Type}

def DomainsFound (this : Concurrent S) : Prop :=
  AllSearchable this.servers

/-- What waits to be written back is in order. -/
def WritesSearchable (this : Concurrent S) : Prop :=
  ∀ host cloned config, .writeBack host cloned config ∈ this.pending → config.Searchable

variable [SystemProxy S] [Hashes]

/-- A configuration that is stored without having been looked up has its
domains in order. -/
def StoresOrdered (this : Concurrent S) : ServerEvent → Prop
  | .addServer config lookup => config.FoundOrSorted lookup
  | .updateServer origHost config lookup =>
      this.session.proxy.position origHost ≠ none → config.FoundOrSorted lookup
  | _ => True

theorem take_writesSearchable {this : Concurrent S} (event : ServerEvent)
    (writes : this.WritesSearchable) : (this.take event).WritesSearchable := by
  intro host cloned config member
  rcases step_writeBack member with old | ⟨lookup, found⟩
  · exact writes host cloned config old
  · exact ServerConfig.init_searchable found

theorem take_domainsFound_iff {this : Concurrent S} (event : ServerEvent)
    (writes : this.WritesSearchable) (found : this.DomainsFound) :
    (this.take event).DomainsFound ↔ this.StoresOrdered event := by
  have stores : AllSearchable (this.take event).servers ↔
      ∀ edit, this.serverEdit event = some edit → edit.StoresSearchable := by
    rw [take_servers]
    cases edit : this.serverEdit event with
    | none => exact iff_of_true found fun _ none => by cases none
    | some edit =>
        refine (Edit.onList_searchable_iff found ?_).trans (by simp)
        intro pos config same
        subst same
        exact serverEdit_inside edit
  refine stores.trans ?_
  cases event with
  | addServer config lookup =>
      rw [StoresOrdered, ← ServerConfig.initOrKeep_searchable_iff]
      simp [serverEdit, Edit.StoresSearchable]
  | updateServer origHost config lookup =>
      rw [StoresOrdered, ← ServerConfig.initOrKeep_searchable_iff]
      cases position : this.session.proxy.position origHost <;>
        simp [serverEdit, position, Edit.StoresSearchable]
  | deleteServer host | setEnabled host value =>
      refine iff_of_true ?_ trivial
      intro edit stored
      obtain ⟨_, _, rfl⟩ := Option.map_eq_some_iff.mp stored
      exact trivial
  | setItem | removeItem | ensure => exact iff_of_true (fun _ none => by cases none) trivial
  | resume idx lookup =>
      refine iff_of_true ?_ trivial
      intro edit stored
      obtain ⟨pending, waiting, stored⟩ := Option.bind_eq_some_iff.mp stored
      cases pending with
      | assign kind item serverHost removed =>
          obtain ⟨_, _, rfl⟩ := Option.map_eq_some_iff.mp stored
          exact trivial
      | writeBack host cloned config =>
          obtain ⟨_, _, rfl⟩ := Option.map_eq_some_iff.mp stored
          exact writes host cloned config (List.mem_of_getElem? waiting)
      | clear kind item =>
          cases stored
          exact trivial
      | addDirect | turnOff | lookUp => cases stored

/-- In every run, whatever the resolver answers and in whatever order the calls
take their turns, each domain of a server is found just when no configuration is
stored out of order. -/
theorem run_domainsFound_iff (cfg : ProxyConfig) (system : S) (events : List ServerEvent) :
    AllStates take DomainsFound (launched cfg system) events ↔
      AllSteps take StoresOrdered (launched cfg system) events := by
  refine allStates_iff WritesSearchable (fun _ _ => True)
    (fun _ event writes _ => take_writesSearchable event writes)
    (fun _ event writes found _ => take_domainsFound_iff event writes found) ?_ ?_ allSteps_true
  · intro host cloned config member
    cases member
  · intro srv member
    cases member

def unorderedServer : ServerConfig :=
  { (idleServer "first" true).config with domains := some ["b.org", "a.org"] }

omit [Hashes] in
/-- The resolver does not answer, and the domains stay as they were saved. -/
theorem addServer_unordered :
    ¬ @AllStates _ _ (@take Bool _ Hashes.folding) DomainsFound (launched (Service.oneServer .pac) true)
      [.addServer unorderedServer noLookup] := by
  let _ := Hashes.folding
  intro given
  obtain ⟨_, found⟩ := given
  have named : SocketAddr.fromStr "first" = none := by decide +kernel
  have kept : unorderedServer.intoClient.initOrKeep noLookup = unorderedServer :=
    ServerConfig.initOrKeep_failed named fun _ => rfl
  have stored : (⟨unorderedServer, ⟨0, 0, 0, 0⟩⟩ : Server) ∈
      ((launched (Service.oneServer .pac) true).take (.addServer unorderedServer noLookup)).servers := by
    rw [take_servers, serverEdit, kept]
    exact List.mem_cons_self
  have search := ((found _ stored).finds "b.org").mpr List.mem_cons_self
  exact absurd search (by decide)

end Concurrent

end CovertConnect.Client
