import CovertConnect.Client.DomainLists
import CovertConnect.Client.SelectServer

namespace CovertConnect.Client

open CovertConnect.Data

/-! # Routing by the labels of a host

`select_server` looks a host up under its own name and under the names of the
domains it is in. -/

/-- What is in front of the last colon. -/
def HostPart (target host : List Char) : Prop :=
  (':' ∉ target ∧ host = target) ∨ ∃ port, ':' ∉ port ∧ target = host ++ ':' :: port

theorem dropWhile_colon {front back : List Char} (plain : ':' ∉ front) :
    (front ++ ':' :: back).dropWhile (· ≠ ':') = ':' :: back := by
  induction front with
  | nil => rfl
  | cons letter front ih =>
      rw [List.mem_cons, not_or] at plain
      rw [List.cons_append, List.dropWhile_cons_of_pos (by simpa using Ne.symm plain.1),
        ih plain.2]

theorem stripPort_append {host port : List Char} (plain : ':' ∉ port) :
    stripPort (host ++ ':' :: port) = host := by
  have backwards : (host ++ ':' :: port).reverse = port.reverse ++ ':' :: host.reverse := by simp
  rw [stripPort, if_pos (by simp), backwards, dropWhile_colon (by simpa using plain),
    List.tail_cons, List.reverse_reverse]

theorem hostPart_iff {target host : List Char} :
    HostPart target host ↔ stripPort target = host := by
  constructor
  · intro given
    rcases given with ⟨plain, rfl⟩ | ⟨port, plain, rfl⟩
    · rw [stripPort, if_neg plain]
    · exact stripPort_append plain
  · intro same
    subst same
    by_cases colon : ':' ∈ target
    · obtain ⟨port, host, backwards, plain⟩ :=
        List.eq_append_cons_of_mem (List.mem_reverse.mpr colon)
      have split : target = host.reverse ++ ':' :: port.reverse := by
        rw [← List.reverse_reverse target, backwards]
        simp
      have plain : ':' ∉ port.reverse := by simpa using plain
      rw [split, stripPort_append plain]
      exact .inr ⟨port.reverse, plain, rfl⟩
    · exact .inl ⟨colon, by rw [stripPort, if_neg colon]⟩

def addLabel (accumulated label : List Char) : List Char :=
  label ++ '.' :: accumulated

theorem mem_accumulateVariants {labels : List (List Char)} {accumulated variant : List Char} :
    variant ∈ accumulateVariants labels accumulated ↔
      ∃ front back, labels = front ++ back ∧ front ≠ [] ∧
        variant = front.foldl addLabel accumulated := by
  induction labels generalizing accumulated with
  | nil => simp [accumulateVariants]
  | cons label labels ih =>
      rw [accumulateVariants, List.mem_cons, ih]
      constructor
      · intro given
        rcases given with rfl | ⟨front, back, rfl, _, rfl⟩
        · exact ⟨[label], labels, rfl, by simp, rfl⟩
        · exact ⟨label :: front, back, rfl, by simp, rfl⟩
      · intro given
        obtain ⟨front, back, split, some', rfl⟩ := given
        cases front with
        | nil => exact absurd rfl some'
        | cons first front =>
            obtain ⟨rfl, rfl⟩ := List.cons.inj split
            cases front with
            | nil => exact .inl rfl
            | cons second front => exact .inr ⟨second :: front, back, rfl, by simp, rfl⟩

theorem foldl_addLabel {labels : List (List Char)} (some' : labels ≠ []) (accumulated : List Char) :
    ∃ dropped, labels.foldl addLabel accumulated = dropped ++ '.' :: accumulated := by
  induction labels generalizing accumulated with
  | nil => exact absurd rfl some'
  | cons label labels ih =>
      cases labels with
      | nil => exact ⟨label, rfl⟩
      | cons second labels =>
          obtain ⟨dropped, same⟩ := ih (by simp) (addLabel accumulated label)
          refine ⟨dropped ++ '.' :: label, ?_⟩
          rw [List.foldl_cons, same, addLabel]
          simp

theorem intercalate_last (front : List (List Char)) (label accumulated : List Char) :
    ['.'].intercalate (front ++ [label, accumulated]) =
      ['.'].intercalate (front ++ [addLabel accumulated label]) := by
  induction front with
  | nil =>
      rw [List.nil_append, List.nil_append, List.intercalate_cons_cons, List.intercalate_singleton,
        List.intercalate_singleton, addLabel]
      simp
  | cons first front ih =>
      rw [List.cons_append, List.cons_append, List.intercalate_cons_of_ne_nil (by simp), ih,
        List.intercalate_cons_of_ne_nil (by simp)]

theorem intercalate_labels (labels : List (List Char)) (label : List Char) :
    ['.'].intercalate (label :: labels).reverse = labels.foldl addLabel label := by
  induction labels generalizing label with
  | nil => exact List.intercalate_singleton
  | cons next labels ih =>
      have moved := intercalate_last labels.reverse next label
      rw [List.foldl_cons, ← ih, List.reverse_cons, List.reverse_cons, List.reverse_cons,
        List.append_assoc, ← moved]
      rfl

/-- A host is put together again from its labels. -/
theorem splitOn_labels (host : List Char) :
    ∃ label labels, (host.splitOn '.').reverse = label :: labels ∧
      labels.foldl addLabel label = host := by
  cases split : (host.splitOn '.').reverse with
  | nil => exact absurd (List.reverse_eq_nil_iff.mp split) (List.splitOn_ne_nil _ _)
  | cons label labels =>
      refine ⟨label, labels, rfl, ?_⟩
      rw [← intercalate_labels, ← split, List.reverse_reverse, List.intercalate_splitOn]

/-- The labels after the last dot but one. -/
theorem splitOn_several {host : List Char} (dotted : '.' ∈ host) {label : List Char}
    {labels : List (List Char)} (split : (host.splitOn '.').reverse = label :: labels) :
    labels ≠ [] := by
  obtain ⟨front, back, rfl⟩ := List.append_of_mem dotted
  intro same
  subst same
  have size := congrArg List.length split
  rw [List.splitOn_append_cons_self, List.length_reverse, List.length_append] at size
  have := List.length_pos_iff.mpr (List.splitOn_ne_nil '.' front)
  have := List.length_pos_iff.mpr (List.splitOn_ne_nil '.' back)
  simp only [List.length_cons, List.length_nil] at size
  omega

theorem mem_domainVariants {host variant : List Char} :
    variant ∈ domainVariants host ↔
      '.' ∈ variant ∧ (variant = host ∨ ∃ dropped, host = dropped ++ '.' :: variant) := by
  obtain ⟨label, labels, split, whole⟩ := splitOn_labels host
  rw [domainVariants, split]
  dsimp only
  rw [mem_accumulateVariants]
  constructor
  · intro given
    obtain ⟨front, back, rfl, some', rfl⟩ := given
    constructor
    · obtain ⟨dropped, same⟩ := foldl_addLabel some' label
      rw [same]
      simp
    · rw [List.foldl_append] at whole
      by_cases last : back = []
      · subst last
        exact .inl whole
      · obtain ⟨dropped, same⟩ := foldl_addLabel last (front.foldl addLabel label)
        exact .inr ⟨dropped, whole.symm.trans same⟩
  · intro given
    obtain ⟨dotted, rfl | ⟨dropped, rfl⟩⟩ := given
    · exact ⟨labels, [], by simp, splitOn_several dotted split, whole.symm⟩
    · obtain ⟨label', labels', split', whole'⟩ := splitOn_labels variant
      rw [List.splitOn_append_cons_self, List.reverse_append, split', List.cons_append] at split
      obtain ⟨rfl, rfl⟩ := List.cons.inj split
      exact ⟨labels', _, rfl, splitOn_several dotted split', whole'.symm⟩

/-- A domain the host is in: one that leading labels were dropped for, and that
has two labels or more. -/
def Parent (domain host : List Char) : Prop :=
  '.' ∈ domain ∧ ∃ dropped, host = dropped ++ '.' :: domain

/-- The server is enabled and has a domain that covers the target's host. -/
def Server.RoutesBy (covers : List Char → List Char → Prop) (targetHost : String) (srv : Server) :
    Prop :=
  srv.config.enabled = true ∧ ∃ domain ∈ srv.config.domains.getD [],
    ∃ host, HostPart targetHost.toList host ∧ covers domain.toList host

/-- The host itself, or a domain it is in. -/
def HostOrParent (domain host : List Char) : Prop :=
  domain = host ∨ Parent domain host

/-- The host itself if it has two labels or more, or a domain it is in. -/
def DottedHostOrParent (domain host : List Char) : Prop :=
  ('.' ∈ domain ∧ domain = host) ∨ Parent domain host

/-- The first server that has a domain of the host is selected; the server is
drawn when there is none. -/
structure SelectsBy (R : Type) [Rng R] (covers : List Char → List Char → Prop)
    (apps : List String) (servers : List Server) (targetHost processName : String) : Prop where
  first : ∀ front srv back, servers = front ++ srv :: back → srv.RoutesBy covers targetHost →
    (∀ other ∈ front, ¬ other.RoutesBy covers targetHost) →
      (selectServer apps servers targetHost processName : Exec R Error (Option SelectedServer)) =
        pure (some (.ofServer srv))
  draws : servers ≠ [] → (∀ srv ∈ servers, ¬ srv.RoutesBy covers targetHost) →
    (selectServer apps servers targetHost processName : Exec R Error (Option SelectedServer)) = do
      let chosen ← drawServer servers
      pure (chosen.map SelectedServer.ofServer)

theorem mem_hostVariants {targetHost domain : String} :
    domain ∈ hostVariants targetHost ↔
      ∃ host, HostPart targetHost.toList host ∧ DottedHostOrParent domain.toList host := by
  have variant : domain ∈ hostVariants targetHost ↔
      domain.toList ∈ domainVariants (stripPort targetHost.toList) := by
    rw [hostVariants, List.mem_map]
    constructor
    · intro given
      obtain ⟨letters, there, rfl⟩ := given
      simpa using there
    · exact fun there => ⟨domain.toList, there, by simp⟩
  rw [variant, mem_domainVariants, and_or_left]
  constructor
  · exact fun covered => ⟨_, hostPart_iff.mpr rfl, covered⟩
  · intro given
    obtain ⟨host, part, covered⟩ := given
    rw [hostPart_iff.mp part]
    exact covered

theorem servesDomain_iff {targetHost : String} {srv : Server}
    (sorted : ∀ domains, srv.config.domains = some domains → domains.Pairwise (· ≤ ·)) :
    srv.servesDomain (hostVariants targetHost) = true ↔
      srv.RoutesBy DottedHostOrParent targetHost := by
  rw [Server.servesDomain, Server.RoutesBy, Bool.and_eq_true, List.any_eq_true]
  refine and_congr_right fun _ => ?_
  have found : ∀ domain, srv.config.domains.any (binarySearch · domain) = true ↔
      domain ∈ srv.config.domains.getD [] := by
    intro domain
    cases given : srv.config.domains with
    | none => simp
    | some domains => exact binarySearch_iff_mem (sorted domains given) domain
  constructor
  · intro given
    obtain ⟨domain, variant, there⟩ := given
    exact ⟨domain, (found domain).mp there, mem_hostVariants.mp variant⟩
  · intro given
    obtain ⟨domain, there, covered⟩ := given
    exact ⟨domain, mem_hostVariants.mpr covered, (found domain).mpr there⟩

theorem selectByDomain_first {variants : List String} {front back : List Server} {srv : Server}
    (serves : srv.servesDomain variants = true)
    (none : ∀ other ∈ front, other.servesDomain variants = false) (totals : Totals) :
    selectByDomain variants (front ++ srv :: back) totals = .inl srv := by
  induction front generalizing totals with
  | nil =>
      rw [Server.servesDomain, Bool.and_eq_true] at serves
      simp [selectByDomain, serves.1, serves.2]
  | cons first front ih =>
      have rest := ih fun other there => none other (List.mem_cons_of_mem _ there)
      have here := none first List.mem_cons_self
      rw [List.cons_append, selectByDomain]
      cases enabled : first.config.enabled with
      | false => exact rest totals
      | true =>
          rw [Server.servesDomain, enabled, Bool.true_and] at here
          rw [here]
          exact rest _

/-- Where no app matches, the domains decide: a name of one label is looked up
nowhere, and every other one under itself and the domains it is in. -/
theorem selectServer_byDomain {R : Type} [Rng R] {apps : List String} {servers : List Server}
    {targetHost processName : String}
    (sorted : ∀ srv ∈ servers, ∀ domains, srv.config.domains = some domains →
      domains.Pairwise (· ≤ ·))
    (indirect : ¬ (processName ≠ "" ∧ apps.any (contains processName) = true))
    (noProcess : ¬ ∃ srv ∈ servers, srv.servesProcess processName = true) :
    SelectsBy R DottedHostOrParent apps servers targetHost processName where
  first := by
    intro front srv back split routes unrouted
    have serves := (servesDomain_iff (sorted srv (by rw [split]; simp))).mpr routes
    have others : ∀ other ∈ front, other.servesDomain (hostVariants targetHost) = false := by
      intro other there
      refine eq_false_of_ne_true fun serves => unrouted other there ?_
      exact (servesDomain_iff (sorted other (by rw [split]; simp [there]))).mp serves
    have byProcess : selectByProcess processName servers = none :=
      selectByProcess_none fun srv there =>
        eq_false_of_ne_true fun serves => noProcess ⟨srv, there, serves⟩
    have byDomain : selectByDomain (hostVariants targetHost) servers ⟨0, 0, 0⟩ = .inl srv := by
      rw [split]
      exact selectByDomain_first serves others _
    have positive : ¬ servers.length = 0 := by simp [split]
    rw [selectServer, chooseServer, if_neg indirect, if_neg positive, byProcess]
    simp only [byDomain]
    rfl
  draws := by
    intro some' unrouted
    have noDomain : ¬ ∃ srv ∈ servers, srv.servesDomain (hostVariants targetHost) = true := by
      intro given
      obtain ⟨srv, there, serves⟩ := given
      exact unrouted srv there ((servesDomain_iff (sorted srv there)).mp serves)
    rw [selectServer, chooseServer_draws some' indirect noProcess noDomain]

/-- A server with one domain. -/
def domainServer (domain : String) : Server :=
  { idleServer "second" true with
    config := { (idleServer "second" true).config with domains := some [domain] } }

theorem selectServer_byParent :
    SelectsBy Nat DottedHostOrParent [] [idleServer "first" true, domainServer "example.com"]
      "www.example.com:443" "" :=
  selectServer_byDomain (by simp [idleServer, domainServer]) (by decide) (by decide)

/-- The server with the very host of the target is not selected. -/
theorem selectServer_localhost :
    ¬ SelectsBy Nat HostOrParent [] [idleServer "first" true, domainServer "localhost"]
      "localhost:443" "" := by
  intro selects
  have covered : (domainServer "localhost").RoutesBy HostOrParent "localhost:443" :=
    ⟨rfl, "localhost", List.mem_singleton.mpr rfl, "localhost".toList,
      .inr ⟨"443".toList, by decide, by decide⟩, .inl rfl⟩
  have noDomain : ∀ other ∈ [idleServer "first" true],
      ¬ other.RoutesBy HostOrParent "localhost:443" := by
    intro other there
    rw [List.mem_singleton.mp there]
    intro given
    obtain ⟨_, domain, none, _⟩ := given
    cases none
  have second := selects.first _ _ [] rfl covered noDomain
  have drawn : (selectServer [] [idleServer "first" true, domainServer "localhost"] "localhost:443"
      "" (0 : Nat)).1 = .ok (some (.ofServer (idleServer "first" true))) := by
    decide
  rw [second] at drawn
  exact absurd drawn (by decide)

end CovertConnect.Client
