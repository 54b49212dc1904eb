import CovertConnect.Client.Config
import Mathlib.Data.List.Infix

namespace CovertConnect.Client

open CovertConnect.Data

/-! # Choosing a server for a connection

The choice is made in three phases: by the name of the connecting process, by
the target's domain, and by a weighted draw. -/

/-- `str::contains` on strings. -/
def contains (text part : String) : Bool :=
  decide (part.toList <:+: text.toList)

/-- The loop of `slice::binary_search`, which halves `size` at every turn. -/
def binarySearchLoop (sorted : List String) (wanted : String) :
    (turns size base : Nat) → Bool
  | 0, _, base => sorted[base]? = some wanted
  | turns + 1, size, base =>
      if 1 < size then
        let mid := base + size / 2
        let base :=
          match sorted[mid]? with
          | some found => if wanted < found then base else mid
          | none => base
        binarySearchLoop sorted wanted turns (size - size / 2) base
      else sorted[base]? = some wanted

def binarySearch (sorted : List String) (wanted : String) : Bool :=
  binarySearchLoop sorted wanted sorted.length sorted.length 0

/-- Everything before the last `:`. -/
def stripPort (targetHost : List Char) : List Char :=
  if ':' ∈ targetHost then (targetHost.reverse.dropWhile (· ≠ ':')).tail.reverse
  else targetHost

/-- The loop over the labels of a domain, from the last one on. -/
def accumulateVariants : (labels : List (List Char)) → (accumulated : List Char) →
    List (List Char)
  | [], _ => []
  | label :: labels, accumulated =>
      let variant := label ++ '.' :: accumulated
      variant :: accumulateVariants labels variant

/-- The domain and its parents that have at least two labels. -/
def domainVariants (domain : List Char) : List (List Char) :=
  match (domain.splitOn '.').reverse with
  | [] => []
  | label :: labels => accumulateVariants labels label

structure Totals where
  totalWeight : Nat
  enabledCount : Nat
  unweightedCount : Nat
deriving DecidableEq, Repr

def Totals.add (totals : Totals) : Option UInt8 → Totals
  | some weight =>
      { totals with
        totalWeight := totals.totalWeight + weight.toNat
        enabledCount := totals.enabledCount + 1 }
  | none =>
      { totals with
        enabledCount := totals.enabledCount + 1
        unweightedCount := totals.unweightedCount + 1 }

def selectByProcess (processName : String) : List Server → Option Server
  | [] => none
  | srv :: servers =>
      if !srv.config.enabled then selectByProcess processName servers
      else if (srv.config.apps.getD []).any (contains processName) then some srv
      else selectByProcess processName servers

def selectByDomain (variants : List String) : List Server → Totals → Server ⊕ Totals
  | [], totals => .inr totals
  | srv :: servers, totals =>
      if !srv.config.enabled then selectByDomain variants servers totals
      else if variants.any (fun domain => srv.config.domains.any (binarySearch · domain)) then
        .inl srv
      else selectByDomain variants servers (totals.add srv.config.weight)

def averageWeight (totals : Totals) : Outcome Error Nat :=
  if 0 < totals.totalWeight then do
    let weighted ← .checkedSub totals.enabledCount totals.unweightedCount
    .checkedDiv totals.totalWeight weighted
  else .checkedDiv 100 totals.unweightedCount

/-- `weight.unwrap_or(avr_weight as u8)`. -/
def effectiveWeight (average : Nat) (srv : Server) : Nat :=
  (srv.config.weight.getD average.toUInt8).toNat

def selectByWeight (average drawn : Nat) : List Server → (curWeight : Nat) → Option Server
  | [], _ => none
  | srv :: servers, curWeight =>
      if !srv.config.enabled then selectByWeight average drawn servers curWeight
      else if drawn ≤ curWeight + effectiveWeight average srv then some srv
      else selectByWeight average drawn servers (curWeight + effectiveWeight average srv)

/-- `rng.gen_range(0..high)`. -/
def genBelow {R : Type} [Rng R] (high : Nat) : Exec R Error Nat := fun rng =>
  if 0 < high then
    let (drawn, rng) := Rng.genRange rng 0 high
    (.ok drawn, rng)
  else (.panic "cannot sample empty range", rng)

def hostVariants (targetHost : String) : List String :=
  (domainVariants (stripPort targetHost.toList)).map String.ofList

/-- `select_server` up to the conversion of the chosen entry. -/
def chooseServer {R : Type} [Rng R] (apps : List String) (servers : List Server)
    (targetHost processName : String) : Exec R Error (Option Server) :=
  if processName ≠ "" ∧ apps.any (contains processName) then pure none
  else if servers.length = 0 then .fail (.anyhow "no servers found")
  else
    match selectByProcess processName servers with
    | some srv => pure (some srv)
    | none =>
        match selectByDomain (hostVariants targetHost) servers ⟨0, 0, 0⟩ with
        | .inl srv => pure (some srv)
        | .inr totals => do
            let average ← .lift (averageWeight totals)
            let drawn ← genBelow (average * servers.length)
            match selectByWeight average drawn servers 0 with
            | some srv => pure (some srv)
            | none => pure servers.head?

def selectServer {R : Type} [Rng R] (apps : List String) (servers : List Server)
    (targetHost processName : String) : Exec R Error (Option SelectedServer) := do
  let chosen ← chooseServer apps servers targetHost processName
  pure (chosen.map SelectedServer.ofServer)

def Server.servesProcess (processName : String) (srv : Server) : Bool :=
  srv.config.enabled && (srv.config.apps.getD []).any (contains processName)

def Server.servesDomain (variants : List String) (srv : Server) : Bool :=
  srv.config.enabled &&
    variants.any fun domain => srv.config.domains.any (binarySearch · domain)

def enabledServers (servers : List Server) : List Server :=
  servers.filter (·.config.enabled)

def givenWeights (servers : List Server) : List Nat :=
  (enabledServers servers).filterMap fun srv => srv.config.weight.map UInt8.toNat

/-- How many of the enabled servers have no weight. -/
def unweightedCount (servers : List Server) : Nat :=
  (enabledServers servers).length - (givenWeights servers).length

/-- The weight that stands in for a missing one; zero where there is none. -/
def meanWeight (servers : List Server) : Nat :=
  if 0 < (givenWeights servers).sum then
    (givenWeights servers).sum / (givenWeights servers).length
  else 100 / unweightedCount servers

/-- What the scan for a domain has counted when it finds none. -/
def totals (servers : List Server) : Totals where
  totalWeight := (givenWeights servers).sum
  enabledCount := (enabledServers servers).length
  unweightedCount := unweightedCount servers

/-- The third phase: a draw, and the first entry where the draw is past all
enabled ones. -/
def drawServer {R : Type} [Rng R] (servers : List Server) : Exec R Error (Option Server) := do
  let average ← .lift (averageWeight (totals servers))
  let drawn ← genBelow (average * servers.length)
  match selectByWeight average drawn servers 0 with
  | some srv => pure (some srv)
  | none => pure servers.head?

/-- The part of the drawn range that belongs to enabled servers. -/
def coveredWeight (servers : List Server) : Nat :=
  ((enabledServers servers).map (effectiveWeight (meanWeight servers))).sum

theorem selectByProcess_some {processName : String} {servers : List Server} {srv : Server}
    (chosen : selectByProcess processName servers = some srv) : srv.config.enabled = true := by
  induction servers with
  | nil => cases chosen
  | cons first servers ih =>
      rw [selectByProcess] at chosen
      cases enabled : first.config.enabled with
      | false => exact ih (by simpa [enabled] using chosen)
      | true =>
          simp only [enabled, Bool.not_true, Bool.false_eq_true, if_false] at chosen
          split at chosen
          · cases chosen
            exact enabled
          · exact ih chosen

theorem selectByProcess_none {processName : String} {servers : List Server}
    (unnamed : ∀ srv ∈ servers, srv.servesProcess processName = false) :
    selectByProcess processName servers = none := by
  induction servers with
  | nil => rfl
  | cons first servers ih =>
      have rest := ih fun srv there => unnamed srv (List.mem_cons_of_mem _ there)
      have here := unnamed first List.mem_cons_self
      rw [selectByProcess, rest]
      cases enabled : first.config.enabled with
      | false => simp
      | true =>
          rw [Server.servesProcess, enabled, Bool.true_and] at here
          simp [here]

theorem selectByProcess_named {processName : String} {servers : List Server}
    (named : ∃ srv ∈ servers, srv.servesProcess processName = true) :
    ∃ srv, selectByProcess processName servers = some srv := by
  induction servers with
  | nil => simp at named
  | cons first servers ih =>
      rw [selectByProcess]
      by_cases here : first.servesProcess processName = true
      · rw [Server.servesProcess, Bool.and_eq_true] at here
        exact ⟨first, by simp [here.1, here.2]⟩
      · obtain ⟨srv, there, serves⟩ := named
        have later : srv ∈ servers := by
          rcases List.mem_cons.mp there with rfl | later
          · exact absurd serves here
          · exact later
        obtain ⟨found, rest⟩ := ih ⟨srv, later, serves⟩
        split
        · exact ⟨found, rest⟩
        · split
          · exact ⟨first, rfl⟩
          · exact ⟨found, rest⟩

theorem selectByDomain_inl {variants : List String} {servers : List Server} {totals : Totals}
    {srv : Server} (chosen : selectByDomain variants servers totals = .inl srv) :
    srv.config.enabled = true := by
  induction servers generalizing totals with
  | nil => cases chosen
  | cons first servers ih =>
      rw [selectByDomain] at chosen
      cases enabled : first.config.enabled with
      | false => exact ih (by simpa [enabled] using chosen)
      | true =>
          simp only [enabled, Bool.not_true, Bool.false_eq_true, if_false] at chosen
          split at chosen
          · cases chosen
            exact enabled
          · exact ih chosen

theorem selectByDomain_named {variants : List String} {servers : List Server}
    (named : ∃ srv ∈ servers, srv.servesDomain variants = true) (totals : Totals) :
    ∃ srv, selectByDomain variants servers totals = .inl srv := by
  induction servers generalizing totals with
  | nil => simp at named
  | cons first servers ih =>
      rw [selectByDomain]
      by_cases here : first.servesDomain variants = true
      · rw [Server.servesDomain, Bool.and_eq_true] at here
        exact ⟨first, by simp [here.1, here.2]⟩
      · obtain ⟨srv, there, serves⟩ := named
        have later : srv ∈ servers := by
          rcases List.mem_cons.mp there with rfl | later
          · exact absurd serves here
          · exact later
        split
        · exact ih ⟨srv, later, serves⟩ totals
        · split
          · exact ⟨first, rfl⟩
          · exact ih ⟨srv, later, serves⟩ _

/-- Without a match the scan has counted the enabled servers. -/
theorem selectByDomain_unnamed {variants : List String} {servers : List Server}
    (unnamed : ∀ srv ∈ servers, srv.servesDomain variants = false) (totals : Totals) :
    ∃ unweighted, selectByDomain variants servers totals =
        .inr ⟨totals.totalWeight + (givenWeights servers).sum,
          totals.enabledCount + (enabledServers servers).length,
          totals.unweightedCount + unweighted⟩ ∧
      (enabledServers servers).length = (givenWeights servers).length + unweighted := by
  induction servers generalizing totals with
  | nil => exact ⟨0, rfl, rfl⟩
  | cons first servers ih =>
      have rest := ih fun srv there => unnamed srv (List.mem_cons_of_mem _ there)
      have here := unnamed first List.mem_cons_self
      rw [selectByDomain]
      cases enabled : first.config.enabled with
      | false =>
          obtain ⟨unweighted, scan, count⟩ := rest totals
          refine ⟨unweighted, ?_, ?_⟩
          · simpa [enabledServers, givenWeights, enabled] using scan
          · simpa [enabledServers, givenWeights, enabled] using count
      | true =>
          rw [Server.servesDomain, enabled, Bool.true_and] at here
          simp only [Bool.not_true, Bool.false_eq_true, if_false, here]
          cases weight : first.config.weight with
          | some weight' =>
              obtain ⟨unweighted, scan, count⟩ := rest (totals.add (some weight'))
              refine ⟨unweighted, ?_, ?_⟩
              · rw [scan]
                simp [enabledServers, givenWeights, enabled, weight, Totals.add]
                omega
              · simp only [enabledServers, givenWeights, enabled, weight, List.filter_cons_of_pos,
                  List.filterMap_cons, Option.map_some, List.length_cons] at count ⊢
                omega
          | none =>
              obtain ⟨unweighted, scan, count⟩ := rest (totals.add none)
              refine ⟨unweighted + 1, ?_, ?_⟩
              · rw [scan]
                simp [enabledServers, givenWeights, enabled, weight, Totals.add]
                omega
              · simp only [enabledServers, givenWeights, enabled, weight, List.filter_cons_of_pos,
                  List.filterMap_cons, Option.map_none, List.length_cons] at count ⊢
                omega

theorem selectByDomain_totals {variants : List String} {servers : List Server}
    (unnamed : ∀ srv ∈ servers, srv.servesDomain variants = false) :
    selectByDomain variants servers ⟨0, 0, 0⟩ = .inr (totals servers) := by
  obtain ⟨unweighted, scan, counted⟩ := selectByDomain_unnamed unnamed ⟨0, 0, 0⟩
  have same : unweightedCount servers = unweighted := by
    rw [unweightedCount, counted, Nat.add_sub_cancel_left]
  rw [scan, totals, same, Nat.zero_add, Nat.zero_add, Nat.zero_add]

theorem given_le_enabled (servers : List Server) :
    (givenWeights servers).length ≤ (enabledServers servers).length :=
  List.length_filterMap_le _ _

theorem averageWeight_mean (servers : List Server) :
    averageWeight (totals servers) = .ok (meanWeight servers) ∨
      (∃ reason, averageWeight (totals servers) = .panic reason) ∧ meanWeight servers = 0 := by
  have counts := given_le_enabled servers
  have given : (enabledServers servers).length - unweightedCount servers =
      (givenWeights servers).length := by
    rw [unweightedCount]
    omega
  have ordered : unweightedCount servers ≤ (enabledServers servers).length :=
    Nat.sub_le _ _
  rw [averageWeight, meanWeight, totals]
  by_cases weighted : 0 < (givenWeights servers).sum
  · have some' : 0 < (givenWeights servers).length := by
      rw [List.length_pos_iff]
      intro none
      rw [none] at weighted
      exact Nat.lt_irrefl 0 weighted
    rw [if_pos weighted, if_pos weighted, Outcome.checkedSub_ok ordered, given]
    exact .inl (Outcome.checkedDiv_ok some')
  · rw [if_neg weighted, if_neg weighted]
    by_cases none : unweightedCount servers = 0
    · rw [none]
      exact .inr ⟨⟨_, rfl⟩, Nat.div_zero 100⟩
    · exact .inl (Outcome.checkedDiv_ok (Nat.pos_of_ne_zero none))

theorem selectByWeight_some {average drawn curWeight : Nat} {servers : List Server} {srv : Server}
    (chosen : selectByWeight average drawn servers curWeight = some srv) :
    srv.config.enabled = true := by
  induction servers generalizing curWeight with
  | nil => cases chosen
  | cons first servers ih =>
      rw [selectByWeight] at chosen
      cases enabled : first.config.enabled with
      | false => exact ih (by simpa [enabled] using chosen)
      | true =>
          simp only [enabled, Bool.not_true, Bool.false_eq_true, if_false] at chosen
          split at chosen
          · cases chosen
            exact enabled
          · exact ih chosen

/-- The draw is past every enabled server. -/
theorem selectByWeight_past {average drawn : Nat} {servers : List Server} {curWeight : Nat}
    (past : curWeight + ((enabledServers servers).map (effectiveWeight average)).sum < drawn) :
    selectByWeight average drawn servers curWeight = none := by
  induction servers generalizing curWeight with
  | nil => rfl
  | cons first servers ih =>
      rw [selectByWeight]
      cases enabled : first.config.enabled with
      | false =>
          simp only [Bool.not_false, if_true]
          apply ih
          simpa [enabledServers, enabled] using past
      | true =>
          have sum : curWeight + (effectiveWeight average first +
              ((enabledServers servers).map (effectiveWeight average)).sum) < drawn := by
            simpa [enabledServers, enabled] using past
          simp only [Bool.not_true, Bool.false_eq_true, if_false]
          rw [if_neg (by omega)]
          apply ih
          omega

theorem selectByWeight_within {average drawn curWeight : Nat} {servers : List Server}
    (some' : enabledServers servers ≠ [])
    (within : drawn ≤ curWeight + ((enabledServers servers).map (effectiveWeight average)).sum) :
    ∃ srv, selectByWeight average drawn servers curWeight = some srv := by
  induction servers generalizing curWeight with
  | nil => exact absurd rfl some'
  | cons first servers ih =>
      rw [selectByWeight]
      cases enabled : first.config.enabled with
      | false =>
          simp only [Bool.not_false, if_true]
          apply ih
          · simpa [enabledServers, enabled] using some'
          · simpa [enabledServers, enabled] using within
      | true =>
          have sum : drawn ≤ curWeight + (effectiveWeight average first +
              ((enabledServers servers).map (effectiveWeight average)).sum) := by
            simpa [enabledServers, enabled] using within
          simp only [Bool.not_true, Bool.false_eq_true, if_false]
          by_cases here : drawn ≤ curWeight + effectiveWeight average first
          · rw [if_pos here]
            exact ⟨first, rfl⟩
          · rw [if_neg here]
            apply ih
            · intro nothing
              rw [nothing] at sum
              simp only [List.map_nil, List.sum_nil] at sum
              omega
            · omega

/-- Where the fallback to the first entry is not taken, or does no harm. -/
def StaysEnabled {R : Type} [Rng R] (apps : List String) (servers : List Server)
    (targetHost processName : String) (rng : R) : Prop :=
  (∀ first, servers.head? = some first → first.config.enabled = true) ∨
    (processName ≠ "" ∧ apps.any (contains processName) = true) ∨
    (∃ srv ∈ servers, srv.servesProcess processName = true) ∨
    (∃ srv ∈ servers, srv.servesDomain (hostVariants targetHost) = true) ∨
    meanWeight servers = 0 ∨
    (Rng.genRange rng 0 (meanWeight servers * servers.length)).1 ≤ coveredWeight servers

section Disabled

variable {R : Type} [Rng R] {apps : List String} {servers : List Server}
  {targetHost processName : String} {rng : R}

/-- Without a match of the process or the domain, the server is drawn. -/
theorem chooseServer_draws (some' : servers ≠ [])
    (indirect : ¬ (processName ≠ "" ∧ apps.any (contains processName) = true))
    (noProcess : ¬ ∃ srv ∈ servers, srv.servesProcess processName = true)
    (noDomain : ¬ ∃ srv ∈ servers, srv.servesDomain (hostVariants targetHost) = true) :
    (chooseServer apps servers targetHost processName : Exec R Error (Option Server)) =
      drawServer servers := by
  have byProcess : selectByProcess processName servers = none :=
    selectByProcess_none fun srv there =>
      eq_false_of_ne_true fun serves => noProcess ⟨srv, there, serves⟩
  have byDomain : selectByDomain (hostVariants targetHost) servers ⟨0, 0, 0⟩ =
      .inr (totals servers) :=
    selectByDomain_totals fun srv there =>
      eq_false_of_ne_true fun serves => noDomain ⟨srv, there, serves⟩
  have positive : ¬ servers.length = 0 := fun none => some' (List.eq_nil_of_length_eq_zero none)
  rw [chooseServer, if_neg indirect, if_neg positive, byProcess]
  simp only [byDomain]
  rfl

/-- The third phase, with its fallback. -/
theorem chooseServer_drawn (rng : R) (some' : servers ≠ [])
    (indirect : ¬ (processName ≠ "" ∧ apps.any (contains processName) = true))
    (noProcess : ¬ ∃ srv ∈ servers, srv.servesProcess processName = true)
    (noDomain : ¬ ∃ srv ∈ servers, srv.servesDomain (hostVariants targetHost) = true) :
    (meanWeight servers = 0 ∧ ∃ reason,
      (chooseServer apps servers targetHost processName rng).1 = .panic reason) ∨
    (meanWeight servers ≠ 0 ∧
      (chooseServer apps servers targetHost processName rng).1 =
        .ok ((selectByWeight (meanWeight servers)
          (Rng.genRange rng 0 (meanWeight servers * servers.length)).1 servers 0).or
            servers.head?)) := by
  have positive := List.length_pos_iff.mpr some'
  rw [chooseServer_draws some' indirect noProcess noDomain, drawServer]
  rcases averageWeight_mean servers with average | ⟨⟨reason, average⟩, mean⟩
  · rw [average]
    by_cases mean : meanWeight servers = 0
    · refine .inl ⟨mean, "cannot sample empty range", ?_⟩
      simp only [Exec.bind_apply, Exec.lift_apply, genBelow, mean, Nat.zero_mul, Nat.lt_irrefl,
        if_false]
    · have range : 0 < meanWeight servers * servers.length :=
        Nat.mul_pos (Nat.pos_of_ne_zero mean) positive
      refine .inr ⟨mean, ?_⟩
      simp only [Exec.bind_apply, Exec.lift_apply, genBelow, if_pos range]
      cases selectByWeight (meanWeight servers)
        (Rng.genRange rng 0 (meanWeight servers * servers.length)).1 servers 0 <;> rfl
  · rw [average]
    exact .inl ⟨mean, reason, rfl⟩

/-- A connection stays away from disabled servers exactly if it does not come
to a fallback to a disabled first entry. -/
theorem chooseServer_enabled_iff :
    (∀ srv, (chooseServer apps servers targetHost processName rng).1 = .ok (some srv) →
      srv.config.enabled = true) ↔ StaysEnabled apps servers targetHost processName rng := by
  by_cases indirect : processName ≠ "" ∧ apps.any (contains processName) = true
  · refine iff_of_true ?_ (.inr (.inl indirect))
    intro srv chosen
    rw [chooseServer, if_pos indirect] at chosen
    simp at chosen
  by_cases nothing : servers = []
  · subst nothing
    refine iff_of_true ?_ (.inl (by simp))
    intro srv chosen
    rw [chooseServer, if_neg indirect, if_pos List.length_nil] at chosen
    simp at chosen
  have positive : ¬ servers.length = 0 := fun none => nothing (List.eq_nil_of_length_eq_zero none)
  by_cases noProcess : ∃ srv ∈ servers, srv.servesProcess processName = true
  · refine iff_of_true ?_ (.inr (.inr (.inl noProcess)))
    obtain ⟨found, byProcess⟩ := selectByProcess_named noProcess
    intro srv chosen
    rw [chooseServer, if_neg indirect, if_neg positive, byProcess] at chosen
    cases chosen
    exact selectByProcess_some byProcess
  by_cases noDomain : ∃ srv ∈ servers, srv.servesDomain (hostVariants targetHost) = true
  · refine iff_of_true ?_ (.inr (.inr (.inr (.inl noDomain))))
    obtain ⟨found, byDomain⟩ := selectByDomain_named noDomain ⟨0, 0, 0⟩
    have byProcess : selectByProcess processName servers = none :=
      selectByProcess_none fun srv there =>
        eq_false_of_ne_true fun serves => noProcess ⟨srv, there, serves⟩
    intro srv chosen
    rw [chooseServer, if_neg indirect, if_neg positive, byProcess] at chosen
    simp only [byDomain] at chosen
    cases chosen
    exact selectByDomain_inl byDomain
  rcases chooseServer_drawn rng nothing indirect noProcess noDomain with
    ⟨mean, reason, panics⟩ | ⟨mean, drawn⟩
  · refine iff_of_true ?_ (.inr (.inr (.inr (.inr (.inl mean)))))
    intro srv chosen
    rw [panics] at chosen
    cases chosen
  · have someEnabled : enabledServers servers ≠ [] := by
      intro none
      apply mean
      simp [meanWeight, unweightedCount, givenWeights, none]
    rw [drawn]
    by_cases within : (Rng.genRange rng 0 (meanWeight servers * servers.length)).1 ≤
        coveredWeight servers
    · refine iff_of_true ?_ (.inr (.inr (.inr (.inr (.inr within)))))
      have fromZero := Nat.le_trans within (Nat.le_of_eq (Nat.zero_add _).symm)
      obtain ⟨found, byWeight⟩ := selectByWeight_within someEnabled fromZero
      intro srv chosen
      rw [byWeight] at chosen
      cases chosen
      exact selectByWeight_some byWeight
    · have fromZero := Nat.lt_of_le_of_lt (Nat.le_of_eq (Nat.zero_add _)) (Nat.lt_of_not_le within)
      have byWeight := selectByWeight_past fromZero
      rw [byWeight, Option.none_or]
      constructor
      · intro keeps
        exact .inl fun first head => keeps first (by rw [head])
      · intro given
        rcases given with first | direct | process | domain | zero | within'
        · intro srv chosen
          exact first srv (by simpa using chosen)
        · exact absurd direct indirect
        · exact absurd process noProcess
        · exact absurd domain noDomain
        · exact absurd zero mean
        · exact absurd within' within

end Disabled

/-- One of two servers is disabled, and half of the drawn range is its. -/
theorem chooseServer_disabled :
    (chooseServer [] [idleServer "first" false, idleServer "second" true] "example.org:443" ""
      (150 : Nat)).1 = .ok (some (idleServer "first" false)) ∧
      (idleServer "first" false).config.enabled = false := by
  decide

end CovertConnect.Client
