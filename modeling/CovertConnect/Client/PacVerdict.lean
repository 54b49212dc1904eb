import CovertConnect.Client.PacScript
import CovertConnect.Data.JavaScript.Rules
import CovertConnect.Data.Labels

namespace CovertConnect.Client.PacScript

open CovertConnect.Data CovertConnect.Data.JavaScript

/-! # The verdict of the PAC file

A browser calls `FindProxyForURL` with the functions that it gives to such a
script.  Those that the script gets an answer from are defined here. -/

def isPlainHostName : List Value → Value
  | [.text host] => .bool (unit '.' ∉ host)
  | _ => .undefined

/-- A star stands for any units, and a question mark for any one. -/
def globMatches : Text → Text → Bool
  | [], text => text.isEmpty
  | code :: pattern, text =>
      if code = unit '*' then
        (List.range (text.length + 1)).any fun count => globMatches pattern (text.drop count)
      else
        text.head?.any (fun first => code = unit '?' || code = first) &&
          globMatches pattern text.tail

def shExpMatch : List Value → Value
  | [.text text, .text pattern] => .bool (globMatches pattern text)
  | _ => .undefined

def otherNames : List String :=
  ["alert", "convert_addr", "dateRange", "dnsDomainIs", "dnsDomainLevels", "dnsResolve", "isInNet",
    "isResolvable", "localHostOrDomainIs", "myIpAddress", "timeRange", "weekdayRange"]

/-- What the name servers and the clock say is `others`. -/
def natives (others : String → List Value → Value) (name : String) : Option (List Value → Value) :=
  if name = "isPlainHostName" then some isPlainHostName
  else if name = "shExpMatch" then some shExpMatch
  else if name ∈ otherNames then some (others name)
  else none

theorem globMatches_literal {pattern : Text} (literal : unit '*' ∉ pattern ∧ unit '?' ∉ pattern)
    (text : Text) : globMatches pattern text = true ↔ text = pattern := by
  induction pattern generalizing text with
  | nil => simp [globMatches]
  | cons code pattern ih =>
      simp only [List.mem_cons, not_or] at literal
      rw [globMatches, if_neg (Ne.symm literal.1.1)]
      cases text with
      | nil => simp
      | cons first rest =>
          simp [ih ⟨literal.1.2, literal.2.2⟩, Ne.symm literal.2.1, @eq_comm _ code first]

theorem globMatches_star {pattern : Text} (literal : unit '*' ∉ pattern ∧ unit '?' ∉ pattern)
    (text : Text) :
    globMatches (unit '*' :: pattern) text = true ↔ ∃ front, text = front ++ pattern := by
  rw [globMatches, if_pos rfl, List.any_eq_true]
  constructor
  · intro found
    obtain ⟨count, _, found⟩ := found
    rw [globMatches_literal literal] at found
    exact ⟨text.take count, by rw [← found, List.take_append_drop]⟩
  · intro found
    obtain ⟨front, rfl⟩ := found
    exact ⟨front.length, by simp, by rw [List.drop_left, globMatches_literal literal]⟩

/-- The host has no dot, is local, or is a listed domain or below one. -/
def Direct (domains : List String) (host : Text) : Prop :=
  unit '.' ∉ host ∨ (∃ front, host = front ++ ascii ".local") ∨
    ∃ domain ∈ domains, host = hostText domain ∨ ∃ front, host = front ++ unit '.' :: hostText domain

def verdict (others : String → List Value → Value) (domains : List String) (port : UInt16)
    (fuel : Nat) (url host : Text) : Outcome Throw Value :=
  evaluate (natives others) fuel (buildPac domains port) "FindProxyForURL" [.text url, .text host]

def Returns (others : String → List Value → Value) (domains : List String) (port : UInt16)
    (url host : Text) (value : Value) : Prop :=
  ∃ enough, ∀ fuel, enough ≤ fuel → verdict others domains port fuel url host = .ok value

/-- One of the two spellings. -/
def IsDirect (value : Value) : Prop :=
  value = .text (ascii "DIRECT") ∨ value = .text (ascii "DIRECT;")

def Decides (others : String → List Value → Value) (domains : List String) (port : UInt16)
    (url host : Text) : Prop :=
  ∃ value, Returns others domains port url host value ∧
    (IsDirect value ↔ Direct domains host) ∧
    (¬ Direct domains host → value = .text (proxyVerdict port))

def digits : List (UInt16 × UInt16) :=
  [(unit '0', unit '9')]

def dots : List (UInt16 × UInt16) :=
  [(unit '.', unit '.')]

def quadPieces : List Piece :=
  [.start, .units digits 1 3, .units dots 1 1, .units digits 1 3, .units dots 1 1,
    .units digits 1 3, .units dots 1 1, .units digits 1 3, .stop]

theorem parse_quadPattern : parseRegex quadPattern = some quadPieces := by
  rfl

/-- One to three digits. -/
def Octet (text : Text) : Prop :=
  1 ≤ text.length ∧ text.length ≤ 3 ∧ ∀ code ∈ text, unit '0' ≤ code ∧ code ≤ unit '9'

def IsQuad (holds : Text → Prop) (host : Text) : Prop :=
  ∃ first second third fourth, holds first ∧ holds second ∧ holds third ∧ holds fourth ∧
    host = first ++ unit '.' :: (second ++ unit '.' :: (third ++ unit '.' :: fourth))

def octetValue (text : Text) : Nat :=
  text.foldl (fun value code => 10 * value + (code.toNat - 48)) 0

/-- Four numbers of a byte each. -/
def Ipv4Literal : Text → Prop :=
  IsQuad fun text => Octet text ∧ octetValue text ≤ 255

theorem inRanges_digits {code : UInt16} :
    inRanges digits code = true ↔ unit '0' ≤ code ∧ code ≤ unit '9' := by
  simp [inRanges, digits]

theorem matchesAt_dot {pieces : List Piece} {first : Bool} {text : Text} :
    matchesAt (.units dots 1 1 :: pieces) first text = true ↔
      ∃ rest, text = unit '.' :: rest ∧ matchesAt pieces false rest = true := by
  rw [matchesAt_units]
  constructor
  · intro found
    obtain ⟨front, back, rfl, enough, bound, inside, rest⟩ := found
    obtain ⟨code, rfl⟩ := List.length_eq_one_iff.mp (Nat.le_antisymm bound enough)
    have same : code = unit '.' := by
      have between := inside code (by simp)
      simp only [inRanges, dots, List.any_cons, List.any_nil, Bool.or_false, Bool.and_eq_true,
        decide_eq_true_iff] at between
      exact UInt16.le_antisymm between.2 between.1
    subst same
    exact ⟨back, rfl, by simpa using rest⟩
  · intro found
    obtain ⟨rest, rfl, found⟩ := found
    exact ⟨[unit '.'], rest, rfl, by simp, by simp, by simp [inRanges, dots], by simpa using found⟩

theorem matchesAt_octet {pieces : List Piece} {first : Bool} {text : Text} :
    matchesAt (.units digits 1 3 :: pieces) first text = true ↔
      ∃ front back, Octet front ∧ text = front ++ back ∧ matchesAt pieces false back = true := by
  rw [matchesAt_units]
  constructor
  · intro found
    obtain ⟨front, back, same, enough, bound, inside, rest⟩ := found
    have some : front.length ≠ 0 := by omega
    exact ⟨front, back, ⟨enough, bound, fun code found => inRanges_digits.mp (inside code found)⟩,
      same, by simpa [some] using rest⟩
  · intro found
    obtain ⟨front, back, ⟨enough, bound, inside⟩, same, rest⟩ := found
    have some : front.length ≠ 0 := by omega
    exact ⟨front, back, same, enough, bound,
      fun code found => inRanges_digits.mpr (inside code found), by simpa [some] using rest⟩

theorem test_quadPieces (host : Text) : test quadPieces host = true ↔ IsQuad Octet host := by
  rw [quadPieces, test_start]
  simp only [matchesAt_octet, matchesAt_dot, matchesAt_stop]
  constructor
  · intro found
    obtain ⟨first, _, one, rfl, _, rfl, second, _, two, rfl, _, rfl, third, _, three, rfl, _, rfl,
      fourth, _, four, rfl, rfl⟩ := found
    exact ⟨first, second, third, fourth, one, two, three, four, by rw [List.append_nil]⟩
  · intro found
    obtain ⟨first, second, third, fourth, one, two, three, four, rfl⟩ := found
    exact ⟨first, _, one, rfl, _, rfl, second, _, two, rfl, _, rfl, third, _, three, rfl, _, rfl,
      fourth, [], four, (List.append_nil _).symm, rfl⟩

section Run

variable {others : String → List Value → Value} {fuel : Nat} {scope : Scope} {host : Text}

theorem tests_quad (known : scope "host" = some (.text host)) :
    Evaluates (natives others) scope (invoke (.regex quadPattern) "test" [.name "host"])
      (.bool (test quadPieces host)) scope :=
  Evaluates.invoke (Evaluates.regex parse_quadPattern) (EvaluatesAll.single (Evaluates.name known))
    rfl

theorem quadCheck_passes (known : scope "host" = some (.text host))
    (named : ¬ IsQuad Octet host) :
    Executes (natives others) fuel scope quadCheck .normal scope := by
  apply Executes.conditional_false (tests_quad known)
  rw [truthy, ← Bool.not_eq_true, test_quadPieces]
  exact named

/-- The script asks for a function that no browser has. -/
theorem quadCheck_throws (known : scope "host" = some (.text host)) (free : scope "IsInNet" = none)
    (quad : IsQuad Octet host) :
    exec (natives others) fuel quadCheck scope = (.err (.referenceError "IsInNet"), scope) := by
  have yes : truthy (.bool (test quadPieces host)) = true := (test_quadPieces host).mpr quad
  have unknown : natives others "IsInNet" = none := by
    simp [natives, otherNames]
  have thrown : exec (natives others) fuel
      (.conditional (.binary .or (.binary .or
        (.binary .or (isInNet "10.0.0.0" "255.0.0.0") (isInNet "127.0.0.0" "255.0.0.0"))
        (isInNet "172.16.0.0" "255.240.0.0")) (isInNet "192.168.0.0" "255.255.0.0"))
        (answer "DIRECT")) scope = (.err (.referenceError "IsInNet"), scope) :=
    exec_condition_throws (eval_or_throws (eval_or_throws (eval_or_throws
      (eval_call_unknown free unknown))))
  exact exec_conditional_throws (tests_quad known) yes (execAll_throws thrown)

theorem answers (verdict : String) :
    Executes (natives others) fuel scope (answer verdict) (.returned (.text (ascii verdict)))
      scope :=
  Executes.block (ExecutesAll.single (Executes.returned (Evaluates.text _)))

/-- The host is in no domain, or in the local one. -/
def IsPlain (host : Text) : Prop :=
  unit '.' ∉ host ∨ ∃ front, host = front ++ ascii ".local"

theorem evaluates_plain (others : String → List Value → Value)
    (known : scope "host" = some (.text host))
    (free : scope "isPlainHostName" = none) (free' : scope "shExpMatch" = none) :
    ∃ value, Evaluates (natives others) scope
        (.binary .or (call "isPlainHostName" [.name "host"])
          (call "shExpMatch" [.name "host", .text (ascii "*.local")])) value scope ∧
      (truthy value = true ↔ IsPlain host) := by
  have argument : Evaluates (natives others) scope (.name "host") (.text host) scope :=
    Evaluates.name known
  have isPlain : natives others "isPlainHostName" = some isPlainHostName := rfl
  have shExp : natives others "shExpMatch" = some shExpMatch := rfl
  have plain : Evaluates (natives others) scope (call "isPlainHostName" [.name "host"])
      (.bool (unit '.' ∉ host)) scope :=
    Evaluates.call free isPlain (EvaluatesAll.single argument)
  have matched : Evaluates (natives others) scope
      (call "shExpMatch" [.name "host", .text (ascii "*.local")])
      (.bool (globMatches (ascii "*.local") host)) scope :=
    Evaluates.call free' shExp (EvaluatesAll.cons argument (EvaluatesAll.single (Evaluates.text _)))
  have ending : globMatches (ascii "*.local") host = true ↔
      ∃ front, host = front ++ ascii ".local" :=
    globMatches_star (by decide) host
  by_cases dotted : unit '.' ∈ host
  · exact ⟨_, Evaluates.or_false plain (by simp [truthy, dotted]) matched,
      by simp [truthy, ending, IsPlain, dotted]⟩
  · exact ⟨_, Evaluates.or_true plain (by simp [truthy, dotted]),
      by simp [truthy, IsPlain, dotted]⟩

theorem plainCheck_passes (known : scope "host" = some (.text host))
    (free : scope "isPlainHostName" = none) (free' : scope "shExpMatch" = none)
    (deep : ¬ IsPlain host) : Executes (natives others) fuel scope plainCheck .normal scope := by
  obtain ⟨value, tested, means⟩ := evaluates_plain others known free free'
  exact Executes.conditional_false tested (Bool.not_eq_true _ ▸ mt means.mp deep)

theorem plainCheck_answers (known : scope "host" = some (.text host))
    (free : scope "isPlainHostName" = none) (free' : scope "shExpMatch" = none)
    (plain : IsPlain host) :
    Executes (natives others) fuel scope plainCheck (.returned (.text (ascii "DIRECT"))) scope := by
  obtain ⟨value, tested, means⟩ := evaluates_plain others known free free'
  exact Executes.conditional_true tested (means.mpr plain) (answers "DIRECT")

def hostsValue (hosts : List String) : Value :=
  .array ((hosts.map hostText).map .text)

theorem evaluates_texts (others : String → List Value → Value) (scope : Scope) (texts : List Text) :
    EvaluatesAll (natives others) scope (texts.map .text) (texts.map .text) scope := by
  induction texts with
  | nil => exact EvaluatesAll.nil
  | cons text texts ih => exact EvaluatesAll.cons (Evaluates.text text) ih

theorem evaluates_buckets (buckets : List (List String)) :
    EvaluatesAll (natives others) scope (buckets.map hostsExpr) (buckets.map hostsValue) scope := by
  induction buckets with
  | nil => exact EvaluatesAll.nil
  | cons hosts buckets ih =>
      have texts : EvaluatesAll (natives others) scope (hosts.map fun host => .text (hostText host))
          ((hosts.map hostText).map .text) scope := by
        have each := evaluates_texts others scope (hosts.map hostText)
        rwa [List.map_map] at each
      exact EvaluatesAll.cons (Evaluates.array texts) ih

def searchCondition : Expr :=
  .binary .less (.name "i") (.member (.name "list") "length")

/-- The variables that a turn of the loop starts with. -/
structure Searching (buckets : List (List String)) (labels : List Text) (index : Nat)
    (scope : Scope) : Prop where
  list : scope "list" = some (.array (buckets.map hostsValue))
  parts : scope "parts" = some (.array (labels.map .text))
  index : scope "i" = some (.number index)

namespace Searching

variable {buckets : List (List String)} {labels : List Text} {index : Nat}

theorem assign {name : String} (searching : Searching buckets labels index scope) (value : Value)
    (other : name ≠ "list" ∧ name ≠ "parts" ∧ name ≠ "i") :
    Searching buckets labels index (scope.assign name value) where
  list := (Scope.assign_other (Ne.symm other.1) _ _).trans searching.list
  parts := (Scope.assign_other (Ne.symm other.2.1) _ _).trans searching.parts
  index := (Scope.assign_other (Ne.symm other.2.2) _ _).trans searching.index

theorem assign_partCount (searching : Searching buckets labels index scope) :
    Searching buckets labels index (scope.assign "part_count" (.number (index + 1))) :=
  searching.assign _ (by simp)

/-- The count of labels that the turn looks at. -/
theorem counts (searching : Searching buckets labels index scope) :
    Executes (natives others) fuel scope setPartCount .normal
      (scope.assign "part_count" (.number (index + 1))) :=
  Executes.expr (Evaluates.assign (Evaluates.binary (by simp) (Evaluates.name searching.index)
    (Evaluates.number 1) rfl))

theorem evaluates_length (searching : Searching buckets labels index scope) :
    Evaluates (natives others) scope (.member (.name "parts") "length") (.number labels.length)
      scope :=
  Evaluates.member (Evaluates.name searching.parts) (by simp [property])

theorem stops (searching : Searching buckets labels index scope)
    (counted : scope "part_count" = some (.number (index + 1))) :
    Evaluates (natives others) scope
      (.binary .greater (.name "part_count") (.member (.name "parts") "length"))
      (.bool (labels.length < index + 1)) scope := by
  apply Evaluates.binary (by simp) (Evaluates.name counted) searching.evaluates_length
  rw [apply]
  congr 3
  exact propext (by omega)

theorem setsPhost (searching : Searching buckets labels index scope)
    (counted : scope "part_count" = some (.number (index + 1))) (enough : index < labels.length) :
    Executes (natives others) fuel scope setPhost .normal
      (scope.assign "phost" (.text (lastLabels (unit '.') (index + 1) labels))) := by
  have start : Evaluates (natives others) scope
      (.binary .minus (.member (.name "parts") "length") (.name "part_count"))
      (.number (labels.length - (index + 1 : Nat))) scope :=
    Evaluates.binary (by simp) searching.evaluates_length (Evaluates.name counted) rfl
  have sliced := Evaluates.invoke (Evaluates.name searching.parts) (EvaluatesAll.single start)
    (method_slice enough)
  have separator : EvaluatesAll (natives others) scope [.text (ascii ".")] [.text [unit '.']]
      scope :=
    EvaluatesAll.single (Evaluates.text _)
  exact Executes.expr (Evaluates.assign (Evaluates.invoke sliced separator (method_join _ _)))

theorem finds (searching : Searching buckets labels index scope) {hosts : List String}
    (listed : buckets[index]? = some hosts) {wanted : Text}
    (known : scope "phost" = some (.text wanted)) :
    Evaluates (natives others) scope
      (.binary .notEqual (invoke (.index (.name "list") (.name "i")) "indexOf" [.name "phost"])
        (.negate (.number 1)))
      (.bool (indexOf ((hosts.map hostText).map .text) wanted ≠ -1)) scope := by
  have read : element (.array (buckets.map hostsValue)) (.number index) =
      .ok (hostsValue hosts) := by
    simp [element, listed]
  have bucket : Evaluates (natives others) scope (.index (.name "list") (.name "i"))
      (hostsValue hosts) scope :=
    Evaluates.index (Evaluates.name searching.list) (Evaluates.name searching.index) read
  have negative : Evaluates (natives others) scope (.negate (.number 1)) (.number (-1)) scope :=
    Evaluates.negate (Evaluates.number 1) rfl
  exact Evaluates.binary (by simp)
    (Evaluates.invoke bucket (EvaluatesAll.single (Evaluates.name known)) rfl) negative rfl

variable (others fuel)

theorem tests (searching : Searching buckets labels index scope) :
    Evaluates (natives others) scope searchCondition (.bool (index < buckets.length)) scope := by
  have length : Evaluates (natives others) scope (.member (.name "list") "length")
      (.number buckets.length) scope :=
    Evaluates.member (Evaluates.name searching.list) (by simp [property])
  apply Evaluates.binary (by simp) (Evaluates.name searching.index) length
  simp [apply]

/-- The host has too few labels for this list and all behind it. -/
theorem turn_stops (searching : Searching buckets labels index scope)
    (beyond : labels.length ≤ index) :
    ∃ after, Executes (natives others) fuel scope searchTurn .broken after := by
  have counted := searching.assign_partCount
  have stop : Executes (natives others) fuel (scope.assign "part_count" (.number (index + 1)))
      stopCheck .broken (scope.assign "part_count" (.number (index + 1))) :=
    Executes.conditional_true (counted.stops (Scope.assign_same ..))
      (by simp only [truthy, decide_eq_true_iff]; omega)
      (Executes.block (ExecutesAll.single Executes.broken))
  exact ⟨_, Executes.block (ExecutesAll.cons searching.counts (ExecutesAll.stop stop (by simp)))⟩

/-- What the turn does up to the last check. -/
theorem turn_looks (searching : Searching buckets labels index scope)
    (enough : index < labels.length) :
    ∃ ready, Searching buckets labels index ready ∧
      ready "phost" = some (.text (lastLabels (unit '.') (index + 1) labels)) ∧
      ∀ completion after, Executes (natives others) fuel ready foundCheck completion after →
        Executes (natives others) fuel scope searchTurn completion after := by
  have counted := searching.assign_partCount
  have known : scope.assign "part_count" (.number (index + 1)) "part_count" =
      some (.number (index + 1)) := Scope.assign_same ..
  have goesOn : Executes (natives others) fuel (scope.assign "part_count" (.number (index + 1)))
      stopCheck .normal (scope.assign "part_count" (.number (index + 1))) :=
    Executes.conditional_false (counted.stops known)
      (by simp only [truthy, decide_eq_false_iff_not]; omega)
  exact ⟨_, counted.assign _ (by simp), Scope.assign_same .., fun completion after found =>
    Executes.block (ExecutesAll.cons searching.counts (ExecutesAll.cons goesOn
      (ExecutesAll.cons (counted.setsPhost known enough) (ExecutesAll.single found))))⟩

theorem turn_finds (searching : Searching buckets labels index scope)
    (enough : index < labels.length) {hosts : List String} (listed : buckets[index]? = some hosts)
    (found : lastLabels (unit '.') (index + 1) labels ∈ hosts.map hostText) :
    ∃ after, Executes (natives others) fuel scope searchTurn
      (.returned (.text (ascii "DIRECT;"))) after := by
  obtain ⟨ready, still, known, run⟩ := searching.turn_looks others fuel enough
  have yes : truthy (.bool (indexOf ((hosts.map hostText).map .text)
      (lastLabels (unit '.') (index + 1) labels) ≠ -1)) = true :=
    decide_eq_true (indexOf_ne.mpr found)
  exact ⟨_, run _ _ (Executes.conditional_true (still.finds listed known) yes (answers "DIRECT;"))⟩

theorem turn_passes (searching : Searching buckets labels index scope)
    (enough : index < labels.length) {hosts : List String} (listed : buckets[index]? = some hosts)
    (absent : lastLabels (unit '.') (index + 1) labels ∉ hosts.map hostText) :
    ∃ after, Executes (natives others) fuel scope searchTurn .normal after ∧
      Searching buckets labels index after := by
  obtain ⟨ready, still, known, run⟩ := searching.turn_looks others fuel enough
  have no : truthy (.bool (indexOf ((hosts.map hostText).map .text)
      (lastLabels (unit '.') (index + 1) labels) ≠ -1)) = false :=
    decide_eq_false (mt indexOf_ne.mp absent)
  exact ⟨_, run _ _ (Executes.conditional_false (still.finds listed known) no), still⟩

theorem next (searching : Searching buckets labels index scope) :
    Searching buckets labels (index + 1) (scope.assign "i" (.number (index + 1))) where
  list := (Scope.assign_other (by simp) _ _).trans searching.list
  parts := (Scope.assign_other (by simp) _ _).trans searching.parts
  index := Scope.assign_same ..

end Searching

/-- Some list from the index on has the host's last labels. -/
def Found (buckets : List (List String)) (labels : List Text) (index : Nat) : Prop :=
  ∃ position hosts, index ≤ position ∧ buckets[position]? = some hosts ∧
    position < labels.length ∧ lastLabels (unit '.') (position + 1) labels ∈ hosts.map hostText

theorem not_found_past {buckets : List (List String)} {labels : List Text} {index : Nat}
    (past : buckets.length ≤ index ∨ labels.length ≤ index) : ¬ Found buckets labels index := by
  intro found
  obtain ⟨position, hosts, later, there, enough, _⟩ := found
  have inside := (List.getElem?_eq_some_iff.mp there).1
  omega

theorem found_step {buckets : List (List String)} {labels : List Text} {index : Nat}
    {hosts : List String} (listed : buckets[index]? = some hosts)
    (absent : lastLabels (unit '.') (index + 1) labels ∉ hosts.map hostText) :
    Found buckets labels index ↔ Found buckets labels (index + 1) := by
  constructor
  · intro found
    obtain ⟨position, others, later, there, enough, found⟩ := found
    have moved : index ≠ position := by
      intro same
      subst same
      rw [listed, Option.some.injEq] at there
      exact absent (there ▸ found)
    exact ⟨position, others, by omega, there, enough, found⟩
  · intro found
    obtain ⟨position, others, later, rest⟩ := found
    exact ⟨position, others, by omega, rest⟩

/-- What the script returns out of the loop. -/
def SearchEnds (found : Prop) (completion : Completion) : Prop :=
  (found → completion = .returned (.text (ascii "DIRECT;"))) ∧ (¬ found → completion = .normal)

/-- By induction on the turns that are left, which are more than the lists that
the loop has not looked at. -/
theorem loops_search (others : String → List Value → Value) (fuel : Nat)
    {buckets : List (List String)} {labels : List Text} {index turns : Nat}
    (enough : buckets.length - index < turns) (searching : Searching buckets labels index scope) :
    ∃ completion after,
      Loops (natives others) fuel turns scope searchCondition (.increment "i") searchTurn completion
        after ∧ SearchEnds (Found buckets labels index) completion := by
  induction turns generalizing index scope with
  | zero => omega
  | succ turns ih =>
      have tested := searching.tests others
      cases listed : buckets[index]? with
      | none =>
          have past : buckets.length ≤ index := List.getElem?_eq_none_iff.mp listed
          exact ⟨.normal, scope, Loops.done tested (by simp [truthy, past]),
            fun found => absurd found (not_found_past (.inl past)), fun _ => rfl⟩
      | some hosts =>
          have inside : index < buckets.length := (List.getElem?_eq_some_iff.mp listed).1
          have yes : truthy (.bool (index < buckets.length)) = true := by simp [truthy, inside]
          by_cases beyond : labels.length ≤ index
          · obtain ⟨after, run⟩ := searching.turn_stops others fuel beyond
            -- The lists behind this one are for more labels still.
            exact ⟨.normal, after, Loops.broken tested yes run,
              fun found => absurd found (not_found_past (.inr beyond)), fun _ => rfl⟩
          · have within : index < labels.length := Nat.lt_of_not_le beyond
            by_cases here : lastLabels (unit '.') (index + 1) labels ∈ hosts.map hostText
            · obtain ⟨after, run⟩ := searching.turn_finds others fuel within listed here
              exact ⟨_, after, Loops.returned tested yes run, fun _ => rfl,
                fun absent => absurd ⟨index, hosts, Nat.le_refl index, listed, within, here⟩ absent⟩
            · obtain ⟨next, run, still⟩ := searching.turn_passes others fuel within listed here
              obtain ⟨completion, after, rest, ends⟩ := ih (by omega) still.next
              rw [← found_step listed here] at ends
              exact ⟨completion, after,
                Loops.turn tested yes run (Evaluates.increment still.index) rest, ends⟩

theorem sets_list (domains : List String) :
    Executes (natives others) fuel scope (setList domains) .normal
      (scope.assign "list" (.array ((byDots domains).map hostsValue))) :=
  Executes.expr (Evaluates.assign (Evaluates.array (evaluates_buckets _)))

theorem sets_parts (known : scope "host" = some (.text host)) :
    Executes (natives others) fuel scope setParts .normal
      (scope.assign "parts" (.array ((host.splitOn (unit '.')).map .text))) :=
  Executes.expr (Evaluates.assign (Evaluates.invoke (Evaluates.name known)
    (EvaluatesAll.single (Evaluates.text _)) rfl))

theorem executes_search (others : String → List Value → Value) {buckets : List (List String)}
    {labels : List Text} (enough : buckets.length < fuel)
    (list : scope "list" = some (.array (buckets.map hostsValue)))
    (parts : scope "parts" = some (.array (labels.map .text))) :
    ∃ completion after, Executes (natives others) fuel scope search completion after ∧
      SearchEnds (Found buckets labels 0) completion := by
  have searching : Searching buckets labels 0 (scope.assign "i" (.number 0)) := {
    list := (Scope.assign_other (by simp) _ _).trans list
    parts := (Scope.assign_other (by simp) _ _).trans parts
    index := Scope.assign_same .. }
  obtain ⟨completion, after, run, ends⟩ := loops_search others fuel (by omega) searching
  exact ⟨completion, _, Executes.forLet (Evaluates.number 0) run, ends⟩

end Run

/-- The scope that the function's body starts in. -/
def callScope (url host : Text) : Scope :=
  bindParameters ["url", "host"] [.text url, .text host]
    (Scope.assign "FindProxyForURL" (.declared "FindProxyForURL") fun _ => none)

def searchScope (domains : List String) (url host : Text) : Scope :=
  ((callScope url host).assign "list" (.array ((byDots domains).map hostsValue))).assign "parts"
    (.array ((host.splitOn (unit '.')).map .text))

theorem callScope_host (url host : Text) : callScope url host "host" = some (.text host) := by
  simp [callScope, bindParameters]

theorem callScope_free (url host : Text) {name : String}
    (other : name ≠ "url" ∧ name ≠ "host" ∧ name ≠ "FindProxyForURL") :
    callScope url host name = none := by
  simp [callScope, bindParameters, Scope.assign, other]

theorem verdict_eq {domains : List String} (literal : ∀ domain ∈ domains, IsLiteral domain)
    (others : String → List Value → Value) (port : UInt16) (fuel : Nat) (url host : Text) :
    verdict others domains port fuel url host =
      callFunction (natives others) fuel (findProxyForURL domains port) [.text url, .text host]
        (Scope.assign "FindProxyForURL" (.declared "FindProxyForURL") fun _ => none) :=
  evaluate_single (parse_buildPac literal port) _

/-- A dotted quad never gets a verdict. -/
theorem verdict_quad {domains : List String} (literal : ∀ domain ∈ domains, IsLiteral domain)
    (others : String → List Value → Value) (port : UInt16) (fuel : Nat) (url : Text) {host : Text}
    (quad : IsQuad Octet host) :
    verdict others domains port fuel url host = .err (.referenceError "IsInNet") := by
  rw [verdict_eq literal]
  exact callFunction_throws (execAll_throws
    (quadCheck_throws (callScope_host url host) (callScope_free url host (by simp)) quad))

theorem bytes_of_domainChar {char : Char} (lawful : domainChar char = true) : char.toNat < 128 := by
  simp only [domainChar, Bool.or_eq_true, decide_eq_true_iff] at lawful
  rcases lawful with ((lower | digit) | rfl) | rfl
  · have bounds : (char.val ≥ 'a'.val && char.val ≤ 'z'.val) = true := lower
    simp only [Bool.and_eq_true, decide_eq_true_iff] at bounds
    have bound : char.toNat ≤ 122 := bounds.2
    omega
  · simp only [Char.isDigit, Bool.and_eq_true, decide_eq_true_iff] at digit
    have bound : char.toNat ≤ 57 := digit.2
    omega
  · decide
  · decide

theorem utf16_domainChar {char : Char} (lawful : domainChar char = true) :
    utf16 char = [unit char] ∧ (unit char = unit '.' ↔ char = '.') := by
  have small := bytes_of_domainChar lawful
  constructor
  · rw [utf16, if_pos (by omega)]
  · constructor
    · intro units
      have values := congrArg UInt16.toNat units
      simp only [unit, Nat.toUInt16, UInt16.toNat_ofNat'] at values
      rw [Nat.mod_eq_of_lt (by omega)] at values
      exact Char.toNat_inj.mp values
    · intro same
      rw [same]

theorem count_hostText {domain : String} (lawful : IsDomain domain) :
    (hostText domain).count (unit '.') = domain.toList.count '.' := by
  rw [IsDomain] at lawful
  rw [hostText]
  generalize domain.toList = chars at lawful
  induction chars with
  | nil => rfl
  | cons char chars ih =>
      rw [List.forall_mem_cons] at lawful
      obtain ⟨single, dot⟩ := utf16_domainChar lawful.1
      rw [List.flatMap_cons, single, List.singleton_append, List.count_cons, ih lawful.2,
        List.count_cons]
      simp only [beq_iff_eq, dot]

theorem found_iff {domains : List String} (valid : ∀ domain ∈ domains, IsDomain domain)
    (host : Text) :
    Found (byDots domains) (host.splitOn (unit '.')) 0 ↔
      ∃ domain ∈ domains,
        host = hostText domain ∨ ∃ front, host = front ++ unit '.' :: hostText domain := by
  constructor
  · intro found
    obtain ⟨position, hosts, _, listed, enough, found⟩ := found
    obtain ⟨domain, inside, last⟩ := List.mem_map.mp found
    have bucket := getD_byDots domains position
    rw [List.getD_eq_getElem?_getD, listed, Option.getD_some] at bucket
    subst bucket
    obtain ⟨member, dots⟩ := List.mem_filter.mp inside
    have counted : (hostText domain).count (unit '.') = position :=
      (count_hostText (valid domain member)).trans (of_decide_eq_true dots)
    subst counted
    exact ⟨domain, member, lastLabels_eq_iff.mp ⟨enough, last.symm⟩⟩
  · intro listed
    obtain ⟨domain, member, ends⟩ := listed
    obtain ⟨enough, last⟩ := lastLabels_eq_iff.mpr ends
    have inside : domain ∈ (byDots domains).getD ((hostText domain).count (unit '.')) [] := by
      rw [getD_byDots, count_hostText (valid domain member)]
      exact List.mem_filter.mpr ⟨member, by simp⟩
    cases listed : (byDots domains)[(hostText domain).count (unit '.')]? with
    | none =>
        rw [List.getD_eq_getElem?_getD, listed] at inside
        cases inside
    | some hosts =>
        rw [List.getD_eq_getElem?_getD, listed, Option.getD_some] at inside
        have found : lastLabels (unit '.') ((hostText domain).count (unit '.') + 1)
            (host.splitOn (unit '.')) ∈ hosts.map hostText := by
          rw [last]
          exact List.mem_map_of_mem inside
        exact ⟨_, hosts, Nat.zero_le _, listed, enough, found⟩

section Named

variable {domains : List String} {others : String → List Value → Value} {port : UInt16} {fuel : Nat}
  {url host : Text}

theorem verdict_plain (literal : ∀ domain ∈ domains, IsLiteral domain) (named : ¬ IsQuad Octet host)
    (plain : IsPlain host) :
    verdict others domains port fuel url host = .ok (.text (ascii "DIRECT")) := by
  rw [verdict_eq literal]
  exact callFunction_returned (ExecutesAll.cons (quadCheck_passes (callScope_host url host) named)
    (ExecutesAll.stop (plainCheck_answers (callScope_host url host)
      (callScope_free url host (by simp)) (callScope_free url host (by simp)) plain) (by simp)))

/-- What is in front of the search leaves the list and the labels to it. -/
theorem reaches_search (named : ¬ IsQuad Octet host) (deep : ¬ IsPlain host) {rest : List Stmt}
    {completion : Completion} {after : Scope}
    (run : ExecutesAll (natives others) fuel (searchScope domains url host) rest completion after) :
    ExecutesAll (natives others) fuel (callScope url host)
      (quadCheck :: plainCheck :: setList domains :: setParts :: rest) completion after := by
  have known : (callScope url host).assign "list" (.array ((byDots domains).map hostsValue)) "host" =
      some (.text host) :=
    (Scope.assign_other (by simp) _ _).trans (callScope_host url host)
  exact ExecutesAll.cons (quadCheck_passes (callScope_host url host) named)
    (ExecutesAll.cons (plainCheck_passes (callScope_host url host)
      (callScope_free url host (by simp)) (callScope_free url host (by simp)) deep)
      (ExecutesAll.cons (sets_list domains) (ExecutesAll.cons (sets_parts known) run)))

theorem verdict_deep (literal : ∀ domain ∈ domains, IsLiteral domain) (named : ¬ IsQuad Octet host)
    (deep : ¬ IsPlain host) (enough : (byDots domains).length < fuel) :
    (Found (byDots domains) (host.splitOn (unit '.')) 0 →
      verdict others domains port fuel url host = .ok (.text (ascii "DIRECT;"))) ∧
    (¬ Found (byDots domains) (host.splitOn (unit '.')) 0 →
      verdict others domains port fuel url host = .ok (.text (proxyVerdict port))) := by
  have list : searchScope domains url host "list" =
      some (.array ((byDots domains).map hostsValue)) :=
    (Scope.assign_other (by simp) _ _).trans (Scope.assign_same ..)
  have parts : searchScope domains url host "parts" =
      some (.array ((host.splitOn (unit '.')).map .text)) := Scope.assign_same ..
  obtain ⟨completion, after, run, found, absent⟩ := executes_search others enough list parts
  rw [verdict_eq literal]
  constructor
  · intro listed
    rw [found listed] at run
    exact callFunction_returned (reaches_search named deep (ExecutesAll.stop run (by simp)))
  · intro unlisted
    rw [absent unlisted] at run
    exact callFunction_returned (reaches_search named deep
      (ExecutesAll.cons run (ExecutesAll.single (Executes.returned (Evaluates.text _)))))

end Named

theorem direct_iff {domains : List String} (valid : ∀ domain ∈ domains, IsDomain domain)
    (host : Text) :
    Direct domains host ↔ IsPlain host ∨ Found (byDots domains) (host.splitOn (unit '.')) 0 := by
  rw [found_iff valid, Direct, IsPlain, or_assoc]

theorem proxyVerdict_ne (port : UInt16) : ¬ IsDirect (.text (proxyVerdict port)) := by
  intro direct
  have first : (proxyVerdict port).head? = some (unit 'P') := rfl
  rcases direct with same | same <;>
  · rw [Value.text.inj same] at first
    exact absurd first (by decide)

theorem decides_named {domains : List String} (valid : ∀ domain ∈ domains, IsDomain domain)
    (others : String → List Value → Value) (port : UInt16) (url : Text) {host : Text}
    (named : ¬ IsQuad Octet host) : Decides others domains port url host := by
  have literal := literals_of_domains valid
  by_cases plain : IsPlain host
  · have direct : Direct domains host := (direct_iff valid host).mpr (.inl plain)
    exact ⟨.text (ascii "DIRECT"), ⟨0, fun _ _ => verdict_plain literal named plain⟩,
      iff_of_true (.inl rfl) direct, fun other => absurd direct other⟩
  · have run := fun fuel (enough : (byDots domains).length + 1 ≤ fuel) =>
      @verdict_deep domains others port fuel url host literal named plain enough
    by_cases found : Found (byDots domains) (host.splitOn (unit '.')) 0
    · have direct : Direct domains host := (direct_iff valid host).mpr (.inr found)
      exact ⟨.text (ascii "DIRECT;"), ⟨_, fun fuel enough => (run fuel enough).1 found⟩,
        iff_of_true (.inr rfl) direct, fun other => absurd direct other⟩
    · have other : ¬ Direct domains host := by
        rw [direct_iff valid, not_or]
        exact ⟨plain, found⟩
      exact ⟨.text (proxyVerdict port), ⟨_, fun fuel enough => (run fuel enough).2 found⟩,
        iff_of_false (proxyVerdict_ne port) other, fun _ => rfl⟩

theorem not_decides_quad {domains : List String} (valid : ∀ domain ∈ domains, IsDomain domain)
    (others : String → List Value → Value) (port : UInt16) (url : Text) {host : Text}
    (quad : IsQuad Octet host) : ¬ Decides others domains port url host := by
  intro decides
  obtain ⟨value, ⟨enough, returns⟩, _⟩ := decides
  have thrown := verdict_quad (literals_of_domains valid) others port enough url quad
  rw [returns enough (Nat.le_refl enough)] at thrown
  cases thrown

theorem isQuad_of_literal {host : Text} (literal : Ipv4Literal host) : IsQuad Octet host := by
  obtain ⟨first, second, third, fourth, one, two, three, four, same⟩ := literal
  exact ⟨first, second, third, fourth, one.1, two.1, three.1, four.1, same⟩

/-- A host that is no address gets its verdict just when it does not look like
an address with a number that is too large. -/
theorem decides_iff {domains : List String} (valid : ∀ domain ∈ domains, IsDomain domain)
    (others : String → List Value → Value) (port : UInt16) (url host : Text) :
    (¬ Ipv4Literal host → Decides others domains port url host) ↔
      (IsQuad Octet host → Ipv4Literal host) := by
  constructor
  · intro decides quad
    by_cases literal : Ipv4Literal host
    · exact literal
    · exact absurd (decides literal) (not_decides_quad valid others port url quad)
  · intro addressed named
    exact decides_named valid others port url (mt addressed named)

theorem decides_below :
    Decides (fun _ _ => .undefined) ["example.org", "a"] 25444 [] (ascii "www.example.org") := by
  have valid : ∀ domain ∈ ["example.org", "a"], IsDomain domain := by
    simp [IsDomain, domainChar]
  have named : ¬ IsQuad Octet (ascii "www.example.org") := by
    rw [← test_quadPieces]
    decide
  exact (decides_iff valid (fun _ _ => .undefined) 25444 [] (ascii "www.example.org")).mpr
    (fun quad => absurd quad named) (mt isQuad_of_literal named)

theorem octet_no_dot {text : Text} (octet : Octet text) : unit '.' ∉ text := by
  intro found
  have between := (octet.2.2 _ found).1
  exact absurd between (by decide)

/-- The four groups are what is between the dots. -/
theorem splitOn_quad {first second third fourth : Text} (one : Octet first) (two : Octet second)
    (three : Octet third) (four : Octet fourth) :
    (first ++ unit '.' :: (second ++ unit '.' :: (third ++ unit '.' :: fourth))).splitOn (unit '.') =
      [first, second, third, fourth] := by
  rw [List.splitOn_append_cons_self_of_not_mem (octet_no_dot one),
    List.splitOn_append_cons_self_of_not_mem (octet_no_dot two),
    List.splitOn_append_cons_self_of_not_mem (octet_no_dot three),
    List.splitOn_eq_singleton (octet_no_dot four)]

/-- No address has a number of 999, and the script has no verdict for this host. -/
theorem undecided_999 :
    ¬ Ipv4Literal (ascii "999.999.999.999") ∧
      ¬ Decides (fun _ _ => .undefined) ["example.org"] 25444 [] (ascii "999.999.999.999") := by
  constructor
  · intro literal
    obtain ⟨first, second, third, fourth, one, two, three, four, same⟩ := literal
    have groups := splitOn_quad one.1 two.1 three.1 four.1
    rw [← same, show (ascii "999.999.999.999").splitOn (unit '.') =
      [ascii "999", ascii "999", ascii "999", ascii "999"] from by decide] at groups
    have value := one.2
    rw [← (List.cons.inj groups).1] at value
    exact absurd value (by decide)
  · have valid : ∀ domain ∈ ["example.org"], IsDomain domain := by
      simp [IsDomain, domainChar]
    have quad : IsQuad Octet (ascii "999.999.999.999") := by
      rw [← test_quadPieces]
      decide
    exact not_decides_quad valid _ 25444 [] quad

end CovertConnect.Client.PacScript
