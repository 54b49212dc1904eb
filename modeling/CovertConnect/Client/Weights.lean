import CovertConnect.Client.SelectServer
import CovertConnect.Data.Panics
import Mathlib.Algebra.Field.Rat
import Mathlib.Algebra.Order.BigOperators.Group.List
import Mathlib.Algebra.Order.Ring.Rat
import Mathlib.Order.Interval.Finset.Nat

namespace CovertConnect.Client

open CovertConnect.Data

/-! # The weighted draw

A number is drawn below the average weight times the number of servers, and
the enabled servers are walked until their weights have reached it. -/

/-- The given weights are one or more on average; without any, one to a hundred
servers share a hundred. -/
def Drawable (servers : List Server) : Prop :=
  if 0 < (givenWeights servers).sum then
    (givenWeights servers).length ≤ (givenWeights servers).sum
  else 1 ≤ unweightedCount servers ∧ unweightedCount servers ≤ 100

instance (servers : List Server) : Decidable (Drawable servers) :=
  inferInstanceAs (Decidable (if 0 < (givenWeights servers).sum then _ ≤ _ else _ ∧ _))

theorem meanWeight_pos_iff {servers : List Server} :
    0 < meanWeight servers ↔ Drawable servers := by
  rw [meanWeight, Drawable]
  by_cases weighted : 0 < (givenWeights servers).sum
  · have some' : 0 < (givenWeights servers).length := by
      rw [List.length_pos_iff]
      intro none
      rw [none] at weighted
      exact Nat.lt_irrefl 0 weighted
    rw [if_pos weighted, if_pos weighted, Nat.div_pos_iff]
    exact and_iff_right some'
  · rw [if_neg weighted, if_neg weighted, Nat.div_pos_iff]
    exact Iff.rfl

/-- The choice is made by the process or by the domain. -/
def Routed (apps : List String) (servers : List Server) (targetHost processName : String) : Prop :=
  (processName ≠ "" ∧ apps.any (contains processName) = true) ∨
    (∃ srv ∈ servers, srv.servesProcess processName = true) ∨
    ∃ srv ∈ servers, srv.servesDomain (hostVariants targetHost) = true

instance (apps : List String) (servers : List Server) (targetHost processName : String) :
    Decidable (Routed apps servers targetHost processName) :=
  inferInstanceAs (Decidable (_ ∨ _ ∨ _))

section Choice

variable {R : Type} [Rng R] {apps : List String} {servers : List Server}
  {targetHost processName : String}

/-- A choice that is made before the draw. -/
theorem chooseServer_routed (rng : R) (some' : servers ≠ [])
    (routed : Routed apps servers targetHost processName) :
    ∃ chosen, (chooseServer apps servers targetHost processName rng).1 = .ok chosen := by
  have positive : ¬ servers.length = 0 := fun none => some' (List.eq_nil_of_length_eq_zero none)
  by_cases direct : processName ≠ "" ∧ apps.any (contains processName) = true
  · exact ⟨none, by rw [chooseServer, if_pos direct]; rfl⟩
  rw [chooseServer, if_neg direct, if_neg positive]
  cases byProcess : selectByProcess processName servers with
  | some srv => exact ⟨some srv, rfl⟩
  | none =>
      have noProcess : ¬ ∃ srv ∈ servers, srv.servesProcess processName = true := by
        intro named
        obtain ⟨srv, found⟩ := selectByProcess_named named
        rw [byProcess] at found
        cases found
      have domain := (routed.resolve_left direct).resolve_left noProcess
      obtain ⟨srv, byDomain⟩ := selectByDomain_named domain ⟨0, 0, 0⟩
      exact ⟨some srv, by simp only [byDomain]; rfl⟩

/-- Choosing ends in a panic just when there is nothing to draw from. -/
theorem chooseServer_returns_iff (rng : R) :
    (chooseServer apps servers targetHost processName).Returns rng ↔
      servers = [] ∨ Routed apps servers targetHost processName ∨ Drawable servers := by
  rw [Exec.Returns]
  by_cases nothing : servers = []
  · subst nothing
    refine iff_of_true ?_ (.inl rfl)
    rw [chooseServer]
    split <;> rfl
  rw [or_iff_right nothing]
  by_cases routed : Routed apps servers targetHost processName
  · obtain ⟨chosen, answer⟩ := chooseServer_routed rng nothing routed
    rw [answer]
    exact iff_of_true rfl (.inl routed)
  rw [or_iff_right routed, ← meanWeight_pos_iff]
  simp only [Routed, not_or] at routed
  rcases chooseServer_drawn rng nothing routed.1 routed.2.1 routed.2.2 with
    ⟨mean, reason, panics⟩ | ⟨mean, drawn⟩
  · rw [panics, mean]
    exact iff_of_false (fun none => by cases none) (Nat.lt_irrefl 0)
  · rw [drawn]
    exact iff_of_true rfl (Nat.pos_of_ne_zero mean)

theorem selectServer_outcome (rng : R) :
    (selectServer apps servers targetHost processName rng).1 =
      (chooseServer apps servers targetHost processName rng).1.map
        (Option.map SelectedServer.ofServer) := by
  rw [selectServer, Exec.bind_apply]
  rcases chooseServer apps servers targetHost processName rng with ⟨_ | _ | _, after⟩ <;> rfl

end Choice

/-- `select_server` returns, whatever the generator draws, just when it has no
server, is led to one by the process or the domain, or has weights to draw by. -/
theorem selectServer_returns_iff {R : Type} [Rng R] (apps : List String) (servers : List Server)
    (targetHost processName : String) (rng : R) :
    (selectServer apps servers targetHost processName).Returns rng ↔
      servers = [] ∨ Routed apps servers targetHost processName ∨ Drawable servers := by
  have same : (selectServer apps servers targetHost processName rng).1.panicReason =
      (chooseServer apps servers targetHost processName rng).1.panicReason := by
    rw [selectServer_outcome]
    cases (chooseServer apps servers targetHost processName rng).1 <;> rfl
  rw [Exec.Returns, same]
  exact chooseServer_returns_iff rng

/-- The only server is disabled. -/
theorem selectServer_panics :
    (selectServer [] [idleServer "first" false] "x.org:443" "" ()).1 =
      .panic "attempt to divide by zero" := by
  decide

/-- The weight of a server, with the average in place of a missing one. -/
def weightOf (servers : List Server) (srv : Server) : Nat :=
  (srv.config.weight.map UInt8.toNat).getD (meanWeight servers)

def totalWeight (servers : List Server) : Nat :=
  ((enabledServers servers).map (weightOf servers)).sum

def drawnRange (servers : List Server) : Nat :=
  meanWeight servers * servers.length

theorem meanWeight_le (servers : List Server) : meanWeight servers ≤ 255 := by
  rw [meanWeight]
  split
  · have each : ∀ weight ∈ givenWeights servers, weight ≤ 255 := by
      intro weight there
      obtain ⟨srv, _, given⟩ := List.mem_filterMap.mp there
      obtain ⟨byte, _, rfl⟩ := Option.map_eq_some_iff.mp given
      have := byte.toNat_lt
      omega
    have sum := List.sum_le_card_nsmul (givenWeights servers) 255 each
    exact Nat.div_le_of_le_mul sum
  · exact Nat.le_trans (Nat.div_le_self _ _) (by decide)

/-- The average fits into the byte it is cast to. -/
theorem effectiveWeight_mean (servers : List Server) :
    effectiveWeight (meanWeight servers) = weightOf servers := by
  funext srv
  rw [effectiveWeight, weightOf]
  cases srv.config.weight with
  | some weight => rfl
  | none =>
      have := meanWeight_le servers
      exact Nat.mod_eq_of_lt (by omega)

/-- The place of the server at which the walk ends. -/
def walk (weight : Server → Nat) (drawn : Nat) : List Server → (curWeight : Nat) → Option Nat
  | [], _ => none
  | srv :: servers, curWeight =>
      if !srv.config.enabled then (walk weight drawn servers curWeight).map (· + 1)
      else if drawn ≤ curWeight + weight srv then some 0
      else (walk weight drawn servers (curWeight + weight srv)).map (· + 1)

theorem selectByWeight_walk (average drawn : Nat) (servers : List Server) (curWeight : Nat) :
    selectByWeight average drawn servers curWeight =
      (walk (effectiveWeight average) drawn servers curWeight).bind (servers[·]?) := by
  have next : ∀ (srv : Server) (servers : List Server) (place : Option Nat),
      (place.map (· + 1)).bind ((srv :: servers)[·]?) = place.bind (servers[·]?) := by
    intro srv servers place
    cases place <;> rfl
  induction servers generalizing curWeight with
  | nil => rfl
  | cons srv servers ih =>
      rw [selectByWeight, walk]
      split
      · rw [next, ih]
      · split
        · rfl
        · rw [next, ih]

/-- The sum of the weights in front. -/
def weightBefore (weight : Server → Nat) (front : List Server) : Nat :=
  ((enabledServers front).map weight).sum

theorem enabledServers_cons (srv : Server) (servers : List Server) :
    enabledServers (srv :: servers) =
      if srv.config.enabled then srv :: enabledServers servers else enabledServers servers :=
  List.filter_cons

/-- The walk ends at a server whose weight takes it to the number drawn. -/
theorem walk_ends_iff {weight : Server → Nat} {drawn curWeight : Nat} {front back : List Server}
    {srv : Server} (enabled : srv.config.enabled = true) :
    walk weight drawn (front ++ srv :: back) curWeight = some front.length ↔
      drawn ≤ curWeight + weightBefore weight front + weight srv ∧
        (enabledServers front ≠ [] → curWeight + weightBefore weight front < drawn) := by
  have next : ∀ (place : Option Nat) (count : Nat),
      place.map (· + 1) = some (count + 1) ↔ place = some count := by
    intro place count
    cases place <;> simp
  induction front generalizing curWeight with
  | nil =>
      rw [List.nil_append, walk, enabled]
      simp [weightBefore, enabledServers]
  | cons first front ih =>
      rw [List.cons_append, walk, List.length_cons, weightBefore, enabledServers_cons]
      cases active : first.config.enabled with
      | false => exact (next _ _).trans ih
      | true =>
          simp only [Bool.not_true, Bool.false_eq_true, if_false, if_true, List.map_cons,
            List.sum_cons, ne_eq, reduceCtorEq, not_false_eq_true, forall_const]
          change _ ↔ drawn ≤ curWeight + (weight first + weightBefore weight front) + weight srv ∧
            curWeight + (weight first + weightBefore weight front) < drawn
          by_cases here : drawn ≤ curWeight + weight first
          · rw [if_pos here]
            refine iff_of_false (fun same => by cases same) ?_
            omega
          · have none : enabledServers front = [] → weightBefore weight front = 0 := by
              intro none
              rw [weightBefore, none]
              rfl
            rw [if_neg here, ← Nat.add_assoc]
            refine (next _ _).trans (ih.trans (and_congr_right fun _ => ?_))
            refine ⟨fun past => ?_, fun past _ => past⟩
            by_cases last : enabledServers front = []
            · have := none last
              omega
            · exact past last

theorem walk_inside {weight : Server → Nat} {drawn curWeight place : Nat} {servers : List Server}
    (ends : walk weight drawn servers curWeight = some place) :
    ∃ front srv back, servers = front ++ srv :: back ∧ front.length = place ∧
      srv.config.enabled = true := by
  induction servers generalizing curWeight place with
  | nil => cases ends
  | cons srv servers ih =>
      have later : ∀ curWeight, (walk weight drawn servers curWeight).map (· + 1) = some place →
          ∃ front found back, srv :: servers = front ++ found :: back ∧ front.length = place ∧
            found.config.enabled = true := by
        intro curWeight ends
        obtain ⟨before, earlier, rfl⟩ := Option.map_eq_some_iff.mp ends
        obtain ⟨front, found, back, rfl, rfl, enabled⟩ := ih earlier
        exact ⟨srv :: front, found, back, rfl, rfl, enabled⟩
      rw [walk] at ends
      split at ends
      · exact later _ ends
      · rename_i enabled
        split at ends
        · cases ends
          exact ⟨[], srv, servers, rfl, rfl, by simpa using enabled⟩
        · exact later _ ends

/-- The place of the server that a draw chooses. -/
def drawnPosition (servers : List Server) (drawn : Nat) : Nat :=
  (walk (weightOf servers) drawn servers 0).getD 0

/-- How many of the draws choose the server at a place. -/
def share (servers : List Server) (place : Nat) : Nat :=
  ((Finset.range (drawnRange servers)).filter fun drawn => drawnPosition servers drawn = place).card

/-- The number drawn decides which server is chosen, and of the numbers each
enabled server has as large a part as of the weights. -/
structure Proportional (apps : List String) (servers : List Server)
    (targetHost processName : String) : Prop where
  chosen : ∀ (R : Type) [Rng R] (rng : R),
    (selectServer apps servers targetHost processName rng).1 =
      .ok (servers[drawnPosition servers (Rng.genRange rng 0 (drawnRange servers)).1]?.map
        SelectedServer.ofServer)
  shares : ∀ place srv, servers[place]? = some srv → srv.config.enabled = true →
    (share servers place : ℚ) / drawnRange servers = weightOf servers srv / totalWeight servers

/-- All enabled servers but the first one have the weight zero; the first one
is the first of the list, or its weight shared among the enabled servers and
taken once for each server is not past it. -/
def FirstAlone (servers : List Server) : Prop :=
  ∃ front first back, servers = front ++ first :: back ∧ enabledServers front = [] ∧
    first.config.enabled = true ∧ (∀ srv ∈ enabledServers back, srv.config.weight = some 0) ∧
    (front = [] ∨ ∃ weight, first.config.weight = some weight ∧
      weight.toNat / (enabledServers servers).length * servers.length ≤ weight.toNat + 1)

theorem drawn_choice (servers : List Server) (drawn : Nat) :
    (selectByWeight (meanWeight servers) drawn servers 0).or servers.head? =
      servers[drawnPosition servers drawn]? := by
  rw [selectByWeight_walk, effectiveWeight_mean, drawnPosition]
  cases ends : walk (weightOf servers) drawn servers 0 with
  | none => exact List.head?_eq_getElem?
  | some place =>
      obtain ⟨front, srv, back, split, rfl, _⟩ := walk_inside ends
      have there : servers[front.length]? = some srv := by simp [split]
      simp [there]

theorem selectServer_drawn {R : Type} [Rng R] {apps : List String} {servers : List Server}
    {targetHost processName : String} (unrouted : ¬ Routed apps servers targetHost processName)
    (drawable : Drawable servers) (rng : R) :
    (selectServer apps servers targetHost processName rng).1 =
      .ok (servers[drawnPosition servers (Rng.genRange rng 0 (drawnRange servers)).1]?.map
        SelectedServer.ofServer) := by
  have mean := meanWeight_pos_iff.mpr drawable
  have some' : servers ≠ [] := by
    intro same
    subst same
    exact absurd drawable (by simp [Drawable, givenWeights, enabledServers, unweightedCount])
  simp only [Routed, not_or] at unrouted
  rcases chooseServer_drawn rng some' unrouted.1 unrouted.2.1 unrouted.2.2 with
    ⟨zero, _⟩ | ⟨_, drawn⟩
  · omega
  · rw [selectServer_outcome, drawn, drawn_choice]
    rfl

section Shares

variable {servers front back : List Server} {first srv : Server}

theorem drawnRange_pos (drawable : Drawable servers) : 0 < drawnRange servers := by
  have mean := meanWeight_pos_iff.mpr drawable
  refine Nat.mul_pos mean (List.length_pos_iff.mpr ?_)
  intro same
  subst same
  exact absurd mean (by decide)

theorem weightBefore_append (weight : Server → Nat) (front back : List Server) :
    weightBefore weight (front ++ back) = weightBefore weight front + weightBefore weight back := by
  rw [weightBefore, enabledServers, List.filter_append, List.map_append, List.sum_append]
  rfl

theorem weightBefore_cons (weight : Server → Nat) (enabled : srv.config.enabled = true) :
    weightBefore weight (srv :: back) = weight srv + weightBefore weight back := by
  rw [weightBefore, enabledServers_cons, if_pos enabled, List.map_cons, List.sum_cons]
  rfl

/-- Where the walk can end: the server's part of the range, unless it is the
first of the list, where every number past the weights falls to. -/
theorem drawnPosition_iff (split : servers = front ++ srv :: back)
    (enabled : srv.config.enabled = true) (later : front ≠ []) (drawn : Nat) :
    drawnPosition servers drawn = front.length ↔
      drawn ≤ weightBefore (weightOf servers) front + weightOf servers srv ∧
        (enabledServers front ≠ [] → weightBefore (weightOf servers) front < drawn) := by
  have ends : walk (weightOf servers) drawn (front ++ srv :: back) 0 = some front.length ↔
      drawn ≤ 0 + weightBefore (weightOf servers) front + weightOf servers srv ∧
        (enabledServers front ≠ [] → 0 + weightBefore (weightOf servers) front < drawn) :=
    walk_ends_iff enabled
  rw [← split, Nat.zero_add] at ends
  rw [← ends, drawnPosition]
  have inside : front.length ≠ 0 := fun none => later (List.eq_nil_of_length_eq_zero none)
  cases walk (weightOf servers) drawn servers 0 with
  | none => simpa using inside.symm
  | some place => simp

theorem weightBefore_nil {weight : Server → Nat} (none : enabledServers front = []) :
    weightBefore weight front = 0 := by
  rw [weightBefore, none]
  rfl

theorem drawnPosition_first (split : servers = front ++ first :: back)
    (none : enabledServers front = []) (enabled : first.config.enabled = true) {drawn : Nat}
    (within : drawn ≤ weightOf servers first) : drawnPosition servers drawn = front.length := by
  have ends : walk (weightOf servers) drawn (front ++ first :: back) 0 = some front.length := by
    refine (walk_ends_iff enabled).mpr ⟨?_, fun some' => absurd none some'⟩
    rw [weightBefore_nil none]
    omega
  rw [← split] at ends
  rw [drawnPosition, ends]
  rfl

theorem drawnPosition_past {drawn : Nat} (past : totalWeight servers < drawn) :
    drawnPosition servers drawn = 0 := by
  rw [drawnPosition]
  cases ends : walk (weightOf servers) drawn servers 0 with
  | none => rfl
  | some place =>
      obtain ⟨front, srv, back, split, rfl, enabled⟩ := walk_inside ends
      rw [split] at ends
      have within := ((walk_ends_iff enabled).mp ends).1
      have total : totalWeight servers = weightBefore (weightOf servers) front +
          (weightOf servers srv + weightBefore (weightOf servers) back) := by
        rw [← weightBefore_cons _ enabled, ← weightBefore_append, ← split]
        rfl
      rw [← split] at within
      omega

theorem share_first_ge (split : servers = front ++ first :: back)
    (none : enabledServers front = []) (enabled : first.config.enabled = true) :
    min (weightOf servers first + 1) (drawnRange servers) ≤ share servers front.length := by
  rw [share, ← Finset.card_range (min (weightOf servers first + 1) (drawnRange servers))]
  refine Finset.card_le_card fun drawn there => ?_
  have below := Finset.mem_range.mp there
  refine Finset.mem_filter.mpr ⟨Finset.mem_range.mpr (by omega), ?_⟩
  exact drawnPosition_first split none enabled (by omega)

theorem share_first_le (split : servers = front ++ first :: back)
    (enabled : first.config.enabled = true) (none : enabledServers front = []) (later : front ≠ []) :
    share servers front.length ≤ weightOf servers first + 1 := by
  rw [share, ← Finset.card_range (weightOf servers first + 1)]
  refine Finset.card_le_card fun drawn there => ?_
  have within := ((drawnPosition_iff split enabled later drawn).mp (Finset.mem_filter.mp there).2).1
  rw [weightBefore_nil none] at within
  exact Finset.mem_range.mpr (by omega)

theorem share_later_le (split : servers = front ++ srv :: back)
    (enabled : srv.config.enabled = true) (some' : enabledServers front ≠ []) :
    share servers front.length ≤ weightOf servers srv := by
  have later : front ≠ [] := by
    intro same
    subst same
    exact some' rfl
  have part : (Finset.Ioc (weightBefore (weightOf servers) front)
      (weightBefore (weightOf servers) front + weightOf servers srv)).card =
        weightOf servers srv := by
    rw [Nat.card_Ioc]
    omega
  rw [share, ← part]
  refine Finset.card_le_card fun drawn there => ?_
  have chosen := (drawnPosition_iff split enabled later drawn).mp (Finset.mem_filter.mp there).2
  exact Finset.mem_Ioc.mpr ⟨chosen.2 some', chosen.1⟩

/-- Equal parts, without the division. -/
theorem shares_iff (drawable : Drawable servers) (total : 0 < totalWeight servers) (place : Nat) :
    (share servers place : ℚ) / drawnRange servers = weightOf servers srv / totalWeight servers ↔
      share servers place * totalWeight servers = weightOf servers srv * drawnRange servers := by
  have range : (drawnRange servers : ℚ) ≠ 0 := Nat.cast_ne_zero.mpr (drawnRange_pos drawable).ne'
  have total : (totalWeight servers : ℚ) ≠ 0 := Nat.cast_ne_zero.mpr total.ne'
  rw [div_eq_div_iff range total]
  exact_mod_cast Iff.rfl

theorem totalWeight_pos (drawable : Drawable servers) : 0 < totalWeight servers := by
  by_contra none
  have zero : ∀ srv ∈ enabledServers servers, weightOf servers srv = 0 := by
    intro srv there
    have part : weightOf servers srv ≤ ((enabledServers servers).map (weightOf servers)).sum :=
      List.single_le_sum (by simp) _ (List.mem_map_of_mem there)
    rw [totalWeight] at none
    omega
  have given : givenWeights servers = (enabledServers servers).map fun _ => 0 := by
    rw [givenWeights, ← List.filterMap_eq_map]
    refine List.filterMap_congr fun srv there => ?_
    have weight := zero srv there
    rw [weightOf] at weight
    cases found : srv.config.weight.map UInt8.toNat with
    | none =>
        rw [found] at weight
        exact absurd (meanWeight_pos_iff.mpr drawable) (by simpa using weight.le)
    | some weight' =>
        rw [found] at weight
        exact congrArg some weight
  simp [Drawable, unweightedCount, given] at drawable

theorem totalWeight_split (split : servers = front ++ first :: back)
    (none : enabledServers front = []) (enabled : first.config.enabled = true) :
    totalWeight servers = weightOf servers first + weightBefore (weightOf servers) back := by
  rw [← weightBefore_cons _ enabled, ← Nat.zero_add (weightBefore _ (first :: back)),
    ← weightBefore_nil none, ← weightBefore_append, ← split]
  rfl

theorem weightBefore_eq_zero {weight : Server → Nat} :
    weightBefore weight back = 0 ↔ ∀ srv ∈ enabledServers back, weight srv = 0 := by
  simp [weightBefore, List.sum_eq_zero_iff_forall_eq_nat]

/-- Only a weight that is set can be zero. -/
theorem weightOf_eq_zero (drawable : Drawable servers) :
    weightOf servers srv = 0 ↔ srv.config.weight = some 0 := by
  have mean := meanWeight_pos_iff.mpr drawable
  rw [weightOf]
  cases srv.config.weight with
  | none => simpa using mean.ne'
  | some weight =>
      have same : weight.toNat = (0 : UInt8).toNat ↔ weight = 0 := UInt8.toNat_inj
      rw [Option.map_some, Option.getD_some, Option.some_inj, ← same]
      rfl

/-- The first server gets one number more than its weight, and no later one
gets more than its weight. -/
theorem others_weightless (drawable : Drawable servers) (split : servers = front ++ first :: back)
    (none : enabledServers front = []) (enabled : first.config.enabled = true)
    (shares : ∀ place srv, servers[place]? = some srv → srv.config.enabled = true →
      share servers place * totalWeight servers = weightOf servers srv * drawnRange servers) :
    weightBefore (weightOf servers) back = 0 := by
  have range := drawnRange_pos drawable
  have total := totalWeight_pos drawable
  have sum := totalWeight_split split none enabled
  have here := shares front.length first (by simp [split]) enabled
  have least := share_first_ge split none enabled
  refine weightBefore_eq_zero.mpr fun srv there => ?_
  obtain ⟨inBack, active⟩ := List.mem_filter.mp there
  obtain ⟨left, right, rfl⟩ := List.append_of_mem inBack
  have split' : servers = (front ++ first :: left) ++ srv :: right := by
    rw [split, List.append_assoc, List.cons_append]
  have before : enabledServers (front ++ first :: left) ≠ [] :=
    List.ne_nil_of_mem (List.mem_filter.mpr ⟨by simp, enabled⟩)
  have most := share_later_le split' active before
  have later := shares (front ++ first :: left).length srv (by rw [split']; simp) active
  rw [weightBefore_append, weightBefore_cons _ active] at sum
  by_contra positive
  have fits : drawnRange servers ≤ totalWeight servers := by
    have bound := Nat.mul_le_mul_right (totalWeight servers) most
    rw [later] at bound
    exact Nat.le_of_mul_le_mul_left bound (Nat.pos_of_ne_zero positive)
  have bound := Nat.mul_le_mul_right (totalWeight servers) least
  rw [here] at bound
  rcases Nat.le_total (weightOf servers first + 1) (drawnRange servers) with more | less
  · rw [Nat.min_eq_left more] at bound
    have := Nat.mul_le_mul_left (weightOf servers first) fits
    rw [Nat.add_mul] at bound
    omega
  · rw [Nat.min_eq_right less, Nat.mul_comm (weightOf servers first)] at bound
    have := Nat.le_of_mul_le_mul_left bound range
    omega

/-- Where the first server has all the weight, every number falls to it. -/
theorem share_alone (split : servers = front ++ first :: back)
    (none : enabledServers front = []) (enabled : first.config.enabled = true)
    (total : totalWeight servers = weightOf servers first)
    (last : front = [] ∨ drawnRange servers ≤ weightOf servers first + 1) (place : Nat) :
    share servers place = if place = front.length then drawnRange servers else 0 := by
  have chosen : ∀ drawn < drawnRange servers, drawnPosition servers drawn = front.length := by
    intro drawn below
    by_cases within : drawn ≤ weightOf servers first
    · exact drawnPosition_first split none enabled within
    · rcases last with head | narrow
      · rw [drawnPosition_past (by omega), head]
        rfl
      · omega
  rw [share]
  split_ifs with here
  · rw [Finset.filter_true_of_mem, Finset.card_range]
    intro drawn there
    rw [chosen drawn (Finset.mem_range.mp there), here]
  · rw [Finset.filter_false_of_mem, Finset.card_empty]
    intro drawn there
    rw [chosen drawn (Finset.mem_range.mp there)]
    exact Ne.symm here

/-- No number is past the first server, where another one is before it. -/
theorem fits_iff (drawable : Drawable servers) (split : servers = front ++ first :: back)
    (none : enabledServers front = []) (enabled : first.config.enabled = true)
    (others : ∀ srv ∈ enabledServers back, srv.config.weight = some 0) :
    (front = [] ∨ drawnRange servers ≤ weightOf servers first + 1) ↔
      (front = [] ∨ ∃ weight, first.config.weight = some weight ∧
        weight.toNat / (enabledServers servers).length * servers.length ≤ weight.toNat + 1) := by
  have active : enabledServers servers = first :: enabledServers back := by
    have cons : enabledServers (first :: back) = first :: enabledServers back := by
      rw [enabledServers_cons, if_pos enabled]
    rw [split, ← cons]
    exact (List.filter_append ..).trans (congrArg (· ++ enabledServers (first :: back)) none)
  have zeros : (enabledServers back).filterMap (fun srv => srv.config.weight.map UInt8.toNat) =
      (enabledServers back).map fun _ => 0 := by
    rw [← List.filterMap_eq_map]
    refine List.filterMap_congr fun srv there => ?_
    rw [others srv there]
    rfl
  cases weight : first.config.weight with
  | none =>
      -- the first server is the only one without a weight, and has all the hundred
      have given : givenWeights servers = (enabledServers back).map fun _ => 0 := by
        rw [givenWeights, active, List.filterMap_cons_none (by rw [weight]; rfl), zeros]
      have mean : meanWeight servers = 100 := by
        simp [meanWeight, unweightedCount, given, active]
      have here : weightOf servers first = 100 := by
        rw [weightOf, weight, mean]
        rfl
      refine or_congr_right' fun later => iff_of_false ?_ (by simp)
      have size := congrArg List.length split
      rw [List.length_append, List.length_cons] at size
      have := List.length_pos_iff.mpr later
      rw [drawnRange, mean, here]
      omega
  | some weight' =>
      have given : givenWeights servers =
          weight'.toNat :: (enabledServers back).map fun _ => 0 := by
        rw [givenWeights, active, List.filterMap_cons_some (by rw [weight]; rfl), zeros]
      have mean : meanWeight servers = weight'.toNat / (enabledServers servers).length := by
        have positive : 0 < weight'.toNat := by
          by_contra zero
          simp [Drawable, unweightedCount, given, active, Nat.eq_zero_of_not_pos zero] at drawable
        rw [meanWeight, given, if_pos (by simpa using positive), active]
        simp
      have here : weightOf servers first = weight'.toNat := by
        rw [weightOf, weight]
        rfl
      rw [drawnRange, mean, here]
      simp

/-- The parts are as large as the weights just when one server has it all. -/
theorem firstAlone_iff (drawable : Drawable servers) :
    (∀ place srv, servers[place]? = some srv → srv.config.enabled = true →
      share servers place * totalWeight servers = weightOf servers srv * drawnRange servers) ↔
      FirstAlone servers := by
  have total := totalWeight_pos drawable
  constructor
  · intro shares
    obtain ⟨front, first, back, split, none, enabled⟩ : ∃ front first back,
        servers = front ++ first :: back ∧ enabledServers front = [] ∧
          first.config.enabled = true := by
      cases active : enabledServers servers with
      | nil =>
          rw [totalWeight, active] at total
          exact absurd total (Nat.lt_irrefl 0)
      | cons first others =>
          obtain ⟨front, back, split, none, enabled, _⟩ := List.filter_eq_cons_iff.mp active
          exact ⟨front, first, back, split, List.filter_eq_nil_iff.mpr none, enabled⟩
    have others := others_weightless drawable split none enabled shares
    have zero : ∀ srv ∈ enabledServers back, srv.config.weight = some 0 := fun srv there =>
      (weightOf_eq_zero drawable).mp (weightBefore_eq_zero.mp others srv there)
    refine ⟨front, first, back, split, none, enabled, zero,
      (fits_iff drawable split none enabled zero).mp ?_⟩
    by_cases head : front = []
    · exact .inl head
    have sum := totalWeight_split split none enabled
    have here := shares front.length first (by simp [split]) enabled
    rw [others, Nat.add_zero] at sum
    rw [sum, Nat.mul_comm] at here
    have all := Nat.eq_of_mul_eq_mul_left (by omega) here
    exact .inr (all ▸ share_first_le split enabled none head)
  · intro given place srv there active
    obtain ⟨front, first, back, split, none, enabled, zero, last⟩ := given
    have others : ∀ srv ∈ enabledServers back, weightOf servers srv = 0 := fun srv there =>
      (weightOf_eq_zero drawable).mpr (zero srv there)
    have last := (fits_iff drawable split none enabled zero).mpr last
    have sum := totalWeight_split split none enabled
    rw [weightBefore_eq_zero.mpr others, Nat.add_zero] at sum
    rw [share_alone split none enabled sum last]
    split_ifs with here
    · subst here
      have same : first = srv := by
        rw [split, List.getElem?_append_right (Nat.le_refl _), Nat.sub_self] at there
        exact Option.some.inj there
      rw [sum, same, Nat.mul_comm]
    · have inBack : srv ∈ back := by
        rcases Nat.lt_or_ge place front.length with earlier | later
        · rw [split, List.getElem?_append_left earlier] at there
          have inFront : srv ∈ enabledServers front :=
            List.mem_filter.mpr ⟨List.mem_of_getElem? there, active⟩
          rw [none] at inFront
          cases inFront
        · obtain ⟨beyond, rfl⟩ : ∃ beyond, place = front.length + (beyond + 1) :=
            ⟨place - front.length - 1, by omega⟩
          rw [split, List.getElem?_append_right later, Nat.add_sub_cancel_left,
            List.getElem?_cons_succ] at there
          exact List.mem_of_getElem? there
      rw [others srv (List.mem_filter.mpr ⟨inBack, active⟩), Nat.zero_mul, Nat.zero_mul]

end Shares

/-- Without a match of the process or the domain, the draw is in proportion to
the weights just when the first enabled server has all the weight. -/
theorem proportional_iff {apps : List String} {servers : List Server}
    {targetHost processName : String} (unrouted : ¬ Routed apps servers targetHost processName)
    (drawable : Drawable servers) :
    Proportional apps servers targetHost processName ↔ FirstAlone servers := by
  have total := totalWeight_pos drawable
  rw [← firstAlone_iff drawable]
  constructor
  · intro proportional place srv there enabled
    exact (shares_iff drawable total place).mp (proportional.shares place srv there enabled)
  · intro shares
    refine ⟨fun R _ rng => selectServer_drawn unrouted drawable rng, ?_⟩
    intro place srv there enabled
    exact (shares_iff drawable total place).mpr (shares place srv there enabled)

theorem oneServer_proportional : Proportional [] [idleServer "first" true] "x.org:443" "" :=
  (proportional_iff (by decide) (by decide)).mpr
    ⟨[], idleServer "first" true, [], rfl, rfl, rfl, by simp [enabledServers], .inl rfl⟩

/-- Of two servers that share the draw, the first one gets 51 numbers of a
hundred. -/
theorem twoServers_unequal :
    ¬ Proportional [] [idleServer "first" true, idleServer "second" true] "x.org:443" "" := by
  intro proportional
  have half := proportional.shares 0 (idleServer "first" true) rfl rfl
  have uneven := (shares_iff (by decide) (by decide) 0).mp half
  exact absurd uneven (by decide)

end CovertConnect.Client
