import CovertConnect.Client.Connect
import CovertConnect.Data.Labels
import CovertConnect.Data.Percent
import CovertConnect.Flutter.DartInt
import Mathlib.Data.List.TakeWhile

namespace CovertConnect.Flutter

open CovertConnect.Data

/-! # `Uri` of Dart

What `dart:core` does with the scheme, the host, the port and the query of a
URI.  User information, path and fragment are skipped; nothing here reads them. -/

/-- UTF-16. -/
def codeUnits (text : List Char) : Text :=
  text.flatMap fun char =>
    if char.toNat < 0x10000 then [unit char]
    else
      let offset := char.toNat - 0x10000
      [(0xD800 + offset / 0x400).toUInt16, (0xDC00 + offset % 0x400).toUInt16]

/-- The host is null in a URI without an authority. -/
structure Uri where
  scheme : List Char
  host : Option (List Char)
  port : Option Int
  query : Option (List Char)
deriving DecidableEq, Repr

namespace Uri

def isGeneralDelimiter (char : Char) : Bool :=
  char ∈ [':', '/', '?', '#', '[', ']', '@']

def isSubDelimiter (char : Char) : Bool :=
  char ∈ ['!', '$', '&', Char.ofNat 39, '(', ')', '*', '+', ',', ';', '=']

def isRegNameChar (char : Char) : Bool :=
  Percent.isUnreserved char || isSubDelimiter char

def isQueryChar (char : Char) : Bool :=
  isRegNameChar char || char ∈ [':', '@', '/', '?']

def isSchemeChar (char : Char) : Bool :=
  char.isAlphanum || char ∈ ['+', '-', '.']

def makeScheme (scheme : List Char) : Except DartError (List Char) :=
  if scheme.all isSchemeChar ∧ (scheme = [] ∨ scheme.head?.any Char.isAlpha) then
    .ok (scheme.map Char.toLower)
  else .error .formatException

def defaultPort (scheme : List Char) : Int :=
  if scheme = "http".toList then 80 else if scheme = "https".toList then 443 else 0

/-- The port of the scheme is not kept. -/
def makePort (scheme : List Char) (port : Option Int) : Option Int :=
  port.filter (· ≠ defaultPort scheme)

/-- An IPv6 address without its brackets; behind a percent sign, written as
itself or as an escape, comes the zone. -/
def makeIpv6 (cased : Char → Char) (text : List Char) : Except DartError (List Char) :=
  let address := text.takeWhile (· ≠ '%')
  let zone := text.drop (address.length + 1)
  let id := if ['2', '5'].isPrefixOf zone then zone.drop 2 else zone
  if (Client.readIpv6Addr address).map Prod.snd ≠ some [] ∨ id.any isGeneralDelimiter then
    .error .formatException
  else if text.length = address.length then .ok ('[' :: (address.map cased ++ [']']))
  else
    .ok ('[' :: (address.map cased ++
      ("%25".toList ++ Percent.normalize Percent.isUnreserved false id ++ [']'])))

def makeHost (host : List Char) : Except DartError (List Char) :=
  if host.head? = some '[' then
    if host.getLast? = some ']' then makeIpv6 Char.toLower host.tail.dropLast
    else .error .formatException
  else if ':' ∈ host then makeIpv6 id host
  else if host.any isGeneralDelimiter then .error .formatException
  else .ok (Percent.normalize isRegNameChar true host)

def encodeQueryComponent (component : String) : List Char :=
  Percent.encode (utf8Bytes component)

def decodeQueryComponent (component : List Char) : Except DartError String :=
  match Percent.decode component with
  | none => .error .argumentError
  | some bytes =>
      match fromUtf8 bytes with
      | none => .error .formatException
      | some text => .ok text

def writeParameter (key value : String) : List Char :=
  encodeQueryComponent key ++ if value ≠ "" then '=' :: encodeQueryComponent value else []

def makeQuery (queryParameters : List (String × String)) : List Char :=
  ['&'].intercalate (queryParameters.map fun parameter => writeParameter parameter.1 parameter.2)

/-- One element between two separators; those without a key are dropped. -/
def readParameter (element : List Char) : Except DartError (List (String × String)) := do
  let key := element.takeWhile (· ≠ '=')
  if key = [] then return []
  else return [(← decodeQueryComponent key, ← decodeQueryComponent (element.drop (key.length + 1)))]

/-- The later ones of two equal keys count. -/
def splitQueryString (query : List Char) : Except DartError (List (String × String)) := do
  return (← (query.splitOn '&').mapM readParameter).flatten.reverse

/-- The constructor, with the arguments that are used. -/
def make (scheme host : List Char) (port : Option Int) (queryParameters : List (String × String)) :
    Except DartError Uri := do
  let scheme ← makeScheme scheme
  let host ← makeHost host
  return { scheme, host := some host, port := makePort scheme port, query := some (makeQuery queryParameters) }

def toText (uri : Uri) : List Char :=
  (if uri.scheme = [] then [] else uri.scheme ++ [':']) ++
    (match uri.host with
      | some host =>
          '/' :: '/' :: host ++ (match uri.port with
            | some port => ':' :: (toString port).toList
            | none => [])
      | none => []) ++
    match uri.query with
    | some query => '?' :: query
    | none => []

/-- The host and the port of an authority. -/
def splitAuthority (authority : List Char) : List Char × List Char :=
  let location := (authority.reverse.takeWhile (· ≠ '@')).reverse
  let port := (location.reverse.takeWhile (· ∉ [':', ']'])).reverse
  let front := location.take (location.length - port.length)
  if front.getLast? = some ':' then (front.dropLast, port) else (location, [])

def readPort (scheme port : List Char) : Except DartError (Option Int) :=
  if port = [] then .ok none
  else
    match tryParseInt (codeUnits port) with
    | some port => .ok (makePort scheme (some port))
    | none => .error .formatException

def readQuery (text : List Char) : Option (List Char) :=
  match text with
  | '?' :: rest => some (Percent.normalize isQueryChar false (rest.takeWhile (· ≠ '#')))
  | _ => none

/-- What follows the scheme. -/
def parseHierarchy (scheme text : List Char) : Except DartError Uri :=
  match text with
  | '/' :: '/' :: text => do
      let authority := text.takeWhile (· ∉ ['/', '?', '#'])
      let (host, port) := splitAuthority authority
      let host ← makeHost host
      let port ← readPort scheme port
      let path := (text.drop authority.length).dropWhile (· ∉ ['?', '#'])
      return { scheme, host := some host, port, query := readQuery path }
  | text =>
      return { scheme, host := none, port := none, query := readQuery (text.dropWhile (· ∉ ['?', '#'])) }

def parse (text : List Char) : Except DartError Uri := do
  let front := text.takeWhile (· ∉ [':', '/', '?', '#'])
  if text[front.length]? = some ':' then
    if front = [] then throw .formatException
    else parseHierarchy (← makeScheme front) (text.drop (front.length + 1))
  else parseHierarchy [] text

/-- `host`: without the brackets. -/
def hostText (uri : Uri) : List Char :=
  let host := uri.host.getD []
  if host.head? = some '[' ∧ host[1]? ≠ some 'v' then host.tail.dropLast else host

def queryParameters (uri : Uri) : Except DartError (List (String × String)) :=
  splitQueryString (uri.query.getD [])

end Uri

theorem codeUnits_digits {digits : List Char} (all : ∀ char ∈ digits, char.isDigit = true) :
    codeUnits digits = digits.map unit ∧ (∀ code ∈ digits.map unit, Json.isDigit code = true) ∧
      Json.digitsValue (digits.map unit) = Nat.ofDigitChars 10 digits 0 := by
  have bounds : ∀ char ∈ digits, 48 ≤ char.toNat ∧ char.toNat ≤ 57 := by
    intro char there
    have digit := all char there
    simpa [Char.isDigit, UInt32.le_iff_toNat_le] using digit
  have small : ∀ char ∈ digits, (unit char).toNat = char.toNat := by
    intro char there
    have bound := bounds char there
    exact Nat.mod_eq_of_lt (by omega)
  refine ⟨?_, fun code there => ?_, ?_⟩
  · rw [codeUnits, List.map_eq_flatMap]
    refine List.flatMap_congr fun char there => if_pos ?_
    have bound := bounds char there
    omega
  · obtain ⟨char, inDigits, rfl⟩ := List.mem_map.mp there
    have bound := bounds char inDigits
    simp only [Json.isDigit, Bool.and_eq_true, decide_eq_true_eq, UInt16.le_iff_toNat_le,
      small char inDigits]
    exact bound
  · rw [Json.digitsValue, Nat.ofDigitChars_eq_foldl, List.foldl_map]
    refine List.foldl_ext _ _ _ fun value char there => ?_
    rw [small char there, Nat.mul_comm]
    rfl

/-- Digits that Dart reads as an integer. -/
theorem tryParseInt_codeUnits {text digits : List Char} (signs : text = digits ∨ text = '+' :: digits)
    (some' : digits ≠ []) (all : ∀ char ∈ digits, char.isDigit = true)
    (small : Nat.ofDigitChars 10 digits 0 < 2 ^ 63) :
    tryParseInt (codeUnits text) = some ↑(Nat.ofDigitChars 10 digits 0) := by
  obtain ⟨units, decimal, value⟩ := codeUnits_digits all
  have signed : codeUnits text = digits.map unit ∨ codeUnits text = unit '+' :: digits.map unit := by
    rcases signs with rfl | rfl
    · exact .inl units
    · exact .inr (congrArg (unit '+' :: ·) units)
  rw [tryParseInt_digits signed decimal, value, if_pos ⟨by simpa using some', small⟩]

theorem toString_natCast (value : Nat) :
    (toString (value : Int)).toList = Nat.toDigits 10 value := Nat.toList_repr

theorem isDigit_toDigits {value : Nat} {char : Char} (there : char ∈ Nat.toDigits 10 value) :
    char.isDigit = true :=
  Nat.isDigit_of_mem_toDigits (by decide) (by decide) there

namespace Uri

theorem decodeQueryComponent_encode (component : String) :
    decodeQueryComponent (encodeQueryComponent component) = .ok component := by
  rw [decodeQueryComponent, encodeQueryComponent, Percent.decode_encode]
  simp only [fromUtf8_utf8Bytes]

theorem encodeQueryComponent_ne_nil {component : String} (some' : component ≠ "") :
    encodeQueryComponent component ≠ [] := by
  intro empty
  have decoded := decodeQueryComponent_encode component
  rw [empty] at decoded
  exact some' (Except.ok.inj decoded).symm

theorem encodeQueryComponent_solid {component : String} {char : Char}
    (there : char ∈ encodeQueryComponent component) : char ∉ ['&', '=', '#'] := by
  have encoded := Percent.isEncoded_encode there
  exact not_mem_of_any (by decide) encoded

theorem readParameter_write {key value : String} (some' : key ≠ "") :
    readParameter (writeParameter key value) = .ok [(key, value)] := by
  have solid : ∀ char ∈ encodeQueryComponent key, decide (char ≠ '=') = true := by
    intro char there
    have apart := encodeQueryComponent_solid there
    simp at apart ⊢
    exact apart.2.1
  have keyText : (writeParameter key value).takeWhile (· ≠ '=') = encodeQueryComponent key := by
    rw [writeParameter, List.takeWhile_append_of_pos solid]
    split <;> simp
  have valueText : decodeQueryComponent
      ((writeParameter key value).drop ((encodeQueryComponent key).length + 1)) = .ok value := by
    rw [writeParameter, ← List.drop_drop, List.drop_left]
    by_cases empty : value ≠ ""
    · rw [if_pos empty, List.drop_one, List.tail_cons, decodeQueryComponent_encode]
    · rw [if_neg empty, not_not.mp empty]
      rfl
  rw [readParameter]
  simp only [keyText, if_neg (encodeQueryComponent_ne_nil some'), valueText,
    decodeQueryComponent_encode]
  rfl

/-- The parameters are read back, the last one first. -/
theorem splitQueryString_makeQuery {parameters : List (String × String)} (some' : parameters ≠ [])
    (keys : ∀ parameter ∈ parameters, parameter.1 ≠ "") :
    splitQueryString (makeQuery parameters) = .ok parameters.reverse := by
  have pieces : (makeQuery parameters).splitOn '&' =
      parameters.map fun parameter => writeParameter parameter.1 parameter.2 := by
    refine List.splitOn_intercalate '&' ?_ (by simpa using some')
    intro piece there separator
    obtain ⟨parameter, _, rfl⟩ := List.mem_map.mp there
    rw [writeParameter] at separator
    rcases List.mem_append.mp separator with inKey | inValue
    · exact encodeQueryComponent_solid inKey (by decide)
    · split at inValue
      · rcases List.mem_cons.mp inValue with same | inValue
        · exact absurd same (by decide)
        · exact encodeQueryComponent_solid inValue (by decide)
      · exact absurd inValue List.not_mem_nil
  have each : ∀ parameter ∈ parameters, ∀ result,
      (readParameter ∘ fun parameter => writeParameter parameter.1 parameter.2) parameter = .ok result ↔
        True ∧ result = [parameter] := by
    intro parameter there result
    rw [Function.comp_apply, readParameter_write (keys parameter there), Except.ok.injEq, true_and,
      eq_comm]
  rw [splitQueryString, pieces, List.mapM_map,
    (except_mapM_eq_ok each).mpr ⟨fun _ _ => trivial, rfl⟩]
  show Except.ok _ = _
  rw [← List.flatMap_def, List.flatMap_singleton']

/-- A query is made of components and of the two separators. -/
theorem makeQuery_induction {property : List Char → Prop} (nil : property [])
    (append : ∀ {front back}, property front → property back → property (front ++ back))
    (component : ∀ text, property (encodeQueryComponent text))
    (equals : property ['=']) (separator : property ['&']) (parameters : List (String × String)) :
    property (makeQuery parameters) := by
  have parameter : ∀ key value, property (writeParameter key value) := by
    intro key value
    refine append (component key) ?_
    split
    · exact append equals (component value)
    · exact nil
  rw [makeQuery]
  induction parameters with
  | nil => exact nil
  | cons first parameters ih =>
      cases parameters with
      | nil => simpa using parameter first.1 first.2
      | cons second parameters =>
          rw [List.map_cons, List.map_cons, List.intercalate_cons_cons]
          exact append (append (parameter _ _) separator) ih

theorem normal_makeQuery (parameters : List (String × String)) :
    Percent.Normal isQueryChar false (makeQuery parameters) := by
  have kept : ∀ char, Percent.isUnreserved char = true ∨ char = '+' → isQueryChar char = true := by
    intro char stands
    rcases stands with unreserved | rfl
    · simp [isQueryChar, isRegNameChar, unreserved]
    · decide
  exact makeQuery_induction .nil .append (fun _ => Percent.normal_encode kept _)
    (.cons (by decide) .nil) (.cons (by decide) .nil) parameters

theorem makeQuery_no_fragment (parameters : List (String × String)) : '#' ∉ makeQuery parameters :=
  @makeQuery_induction (fun text => '#' ∉ text) List.not_mem_nil
    (fun first second there => (List.mem_append.mp there).elim first second)
    (fun _ there => encodeQueryComponent_solid there (by decide)) (by decide) (by decide) parameters

/-- A component ends at the first character that does not belong to it. -/
theorem takeWhile_until {belongs : Char → Bool} {front rest : List Char} {stop : Char}
    (all : ∀ char ∈ front, belongs char = true) (ends : belongs stop = false) :
    (front ++ stop :: rest).takeWhile belongs = front := by
  rw [List.takeWhile_append_of_pos all, List.takeWhile_cons_of_neg (by simp [ends]), List.append_nil]

def portText : Option Nat → List Char
  | some port => ':' :: Nat.toDigits 10 port
  | none => []

theorem digits_solid {value : Nat} {char : Char} (there : char ∈ Nat.toDigits 10 value) :
    isGeneralDelimiter char = false :=
  decide_eq_false (not_mem_of_any (by decide) (isDigit_toDigits there))

/-- The only delimiter of an authority is the colon in front of the port. -/
theorem authority_solid {host : List Char} (solid : host.any isGeneralDelimiter = false)
    {port : Option Nat} {char : Char} (there : char ∈ host ++ portText port) :
    char = ':' ∨ isGeneralDelimiter char = false := by
  rcases List.mem_append.mp there with inHost | inPort
  · exact .inr (by simpa using List.any_eq_false.mp solid char inHost)
  · cases port with
    | none => exact absurd inPort List.not_mem_nil
    | some port => exact (List.mem_cons.mp inPort).imp id digits_solid

theorem splitAuthority_join {host : List Char} (solid : host.any isGeneralDelimiter = false)
    (port : Option Nat) :
    splitAuthority (host ++ portText port) = (host, (portText port).tail) := by
  have noUser : ∀ char ∈ (host ++ portText port).reverse, decide (char ≠ '@') = true := by
    intro char there
    rcases authority_solid solid (List.mem_reverse.mp there) with rfl | apart
    · rfl
    · exact decide_eq_true fun same => absurd (same ▸ apart) (by decide)
  have inside : ∀ char, isGeneralDelimiter char = false → decide (char ∉ [':', ']']) = true :=
    fun _ apart => decide_eq_true (not_mem_of_all (List.all_eq_true.mp (by decide)) apart)
  rw [splitAuthority, List.takeWhile_eq_self_iff.mpr noUser, List.reverse_reverse]
  cases port with
  | none =>
      have all : ∀ char ∈ host.reverse, decide (char ∉ [':', ']']) = true := fun char there =>
        inside char (by simpa using List.any_eq_false.mp solid char (List.mem_reverse.mp there))
      simp only [portText, List.append_nil, List.takeWhile_eq_self_iff.mpr all, List.reverse_reverse,
        Nat.sub_self, List.take_zero]
      rfl
  | some port =>
      have digits : ∀ char ∈ (Nat.toDigits 10 port).reverse, decide (char ∉ [':', ']']) = true :=
        fun char there => inside char (digits_solid (List.mem_reverse.mp there))
      have read : ((host ++ ':' :: Nat.toDigits 10 port).reverse.takeWhile (· ∉ [':', ']'])).reverse =
          Nat.toDigits 10 port := by
        rw [List.reverse_append, List.reverse_cons, List.append_assoc, List.singleton_append,
          takeWhile_until digits (by decide), List.reverse_reverse]
      have front : (host ++ ':' :: Nat.toDigits 10 port).take
          ((host ++ ':' :: Nat.toDigits 10 port).length - (Nat.toDigits 10 port).length) =
            host ++ [':'] := by
        have split : host ++ ':' :: Nat.toDigits 10 port = (host ++ [':']) ++ Nat.toDigits 10 port := by
          simp
        rw [split, List.length_append, Nat.add_sub_cancel, List.take_left]
      simp only [portText, read, front, List.getLast?_concat, if_pos, List.dropLast_concat]
      rfl

theorem makeScheme_solid {scheme : List Char} (made : makeScheme scheme = .ok scheme) {char : Char}
    (there : char ∈ scheme) : char ∉ [':', '/', '?', '#'] := by
  have all : scheme.all isSchemeChar = true := by
    by_contra other
    rw [makeScheme, if_neg fun valid => other valid.1] at made
    cases made
  have valid := List.all_eq_true.mp all char there
  exact not_mem_of_any (by decide) valid

/-- A URI with an authority and a query is read back from its text. -/
theorem parse_toText {scheme host query : List Char} {port : Option Nat}
    (schemed : makeScheme scheme = .ok scheme) (some' : scheme ≠ [])
    (hosted : makeHost host = .ok host) (solid : host.any isGeneralDelimiter = false)
    (ported : ∀ value, port = some value → value < 2 ^ 63 ∧ (value : Int) ≠ defaultPort scheme)
    (normal : Percent.Normal isQueryChar false query) (queried : '#' ∉ query) :
    parse (toText ⟨scheme, some host, port.map Nat.cast, some query⟩) =
      .ok ⟨scheme, some host, port.map Nat.cast, some query⟩ := by
  have written : toText ⟨scheme, some host, port.map Nat.cast, some query⟩ =
      scheme ++ ':' :: ('/' :: '/' :: (host ++ portText port ++ '?' :: query)) := by
    cases port with
    | none => simp [toText, some', portText]
    | some port =>
        simp only [toText, if_neg some', portText, Option.map_some, toString_natCast]
        simp
  have front := @takeWhile_until (· ∉ [':', '/', '?', '#']) scheme
    ('/' :: '/' :: (host ++ portText port ++ '?' :: query)) ':'
    (fun char there => by simpa using makeScheme_solid schemed there) (by decide)
  have authority := @takeWhile_until (· ∉ ['/', '?', '#']) (host ++ portText port) query '?'
    (fun char there => by
      rcases authority_solid solid there with rfl | apart
      · rfl
      · exact decide_eq_true (not_mem_of_all (List.all_eq_true.mp (by decide)) apart))
    (by decide)
  have portRead : readPort scheme (portText port).tail = .ok (port.map Nat.cast) := by
    cases port with
    | none => rfl
    | some port =>
        obtain ⟨small, other⟩ := ported port rfl
        have value : Nat.ofDigitChars 10 (Nat.toDigits 10 port) 0 = port := Nat.ofDigitChars_ten_toDigits
        have read := tryParseInt_codeUnits (.inl rfl) Nat.toDigits_ne_nil (fun _ there => isDigit_toDigits there)
          (value.symm ▸ small)
        rw [value] at read
        rw [portText, List.tail_cons, readPort, if_neg Nat.toDigits_ne_nil, read]
        simp [makePort, other]
  have queryRead : readQuery ('?' :: query) = some query := by
    have whole : query.takeWhile (· ≠ '#') = query :=
      List.takeWhile_eq_self_iff.mpr fun char there =>
        decide_eq_true fun same => queried (same ▸ there)
    rw [readQuery, whole, normal.normalize]
  have behind : (host ++ portText port ++ '?' :: query).drop (host ++ portText port).length =
      '?' :: query := List.drop_left
  rw [parse, written]
  simp only [front]
  rw [if_pos (by simp), if_neg some', schemed, ← List.drop_drop, List.drop_left]
  show parseHierarchy scheme ('/' :: '/' :: (host ++ portText port ++ '?' :: query)) = _
  rw [parseHierarchy]
  simp only [authority, splitAuthority_join solid, hosted, portRead, behind]
  show Except.ok _ = _
  rw [List.dropWhile_cons_of_neg (by decide), queryRead]

end Uri

end CovertConnect.Flutter
