import CovertConnect.Flutter.DartUri

namespace CovertConnect.Flutter

open CovertConnect.Data

/-! # Links that share a server

The host of a server, with its port if there is one, becomes the authority of a
link, and the key and the name become its query.  The strings come from the
service and are sequences of characters. -/

def kKeyParam : String := "k"
def kNameParam : String := "n"
def kScheme : String := "cc"

structure UriData where
  host : String
  key : String
  name : Option String
deriving DecidableEq, Repr

def tryParseUri (text : String) : Except DartError (Option UriData) := do
  let parsed ← Uri.parse text.toList
  if parsed.scheme ≠ kScheme.toList ∨ parsed.hostText = [] then return none
  else
    let parameters ← parsed.queryParameters
    match parameters.lookup kKeyParam with
    | none => return none
    | some key =>
        if key = "" then return none
        else
          let port := match parsed.port with
            | some port => ':' :: (toString port).toList
            | none => []
          return some {
            host := String.ofList (parsed.hostText ++ port)
            key
            name := parameters.lookup kNameParam }

def nameParam : Option String → List (String × String)
  | some name => if name ≠ "" then [(kNameParam, name)] else []
  | none => []

/-- The port of a host that is split at its colons. -/
def portOf : List (List Char) → Except DartError (Option Int)
  | _ :: port :: _ => (parseInt (codeUnits port)).map some
  | _ => .ok none

def createUri (host key : String) (name : Option String) : Except DartError String := do
  let parts := host.toList.splitOn ':'
  let port ← portOf parts
  let uri ← Uri.make kScheme.toList (parts.headD []) port ((kKeyParam, key) :: nameParam name)
  return String.ofList uri.toText

def isNameChar (char : Char) : Bool :=
  char.isLower || char.isDigit || char ∈ ['-', '.', '_']

/-- A socket address, or a lower-case name with or without a port. -/
inductive Accepted (host : String) : Prop where
  | socket (address : Client.SocketAddr) (parsed : Client.SocketAddr.fromStr host = some address)
  | name (some' : host.toList ≠ []) (all : ∀ char ∈ host.toList, isNameChar char = true)
  | named (name port : List Char) (value : UInt16) (split : host.toList = name ++ ':' :: port)
      (some' : name ≠ []) (all : ∀ char ∈ name, isNameChar char = true)
      (ported : Crypto.parseU16 port = .ok value)

/-- The link of the server is read back as the server; an empty name is none. -/
def RoundTrips (host key : String) (name : Option String) : Prop :=
  ∃ link, createUri host key name = .ok link ∧
    tryParseUri link = .ok (some ⟨host, key, name.filter (· ≠ "")⟩)

/-- The host is not in brackets, and its port is a positive number in its
shortest form. -/
structure Shareable (host : String) : Prop where
  plain : host.toList.head? ≠ some '['
  port : ∀ name port, host.toList = name ++ ':' :: port →
    ∃ value, 0 < value ∧ port = Nat.toDigits 10 value

/-- The digits of a port. -/
def PortDigits (text digits : List Char) : Prop :=
  (text = digits ∨ text = '+' :: digits) ∧ digits ≠ [] ∧ (∀ char ∈ digits, char.isDigit = true) ∧
    Nat.ofDigitChars 10 digits 0 ≤ 0xFFFF

theorem PortDigits.no_colon {text digits : List Char} (port : PortDigits text digits) : ':' ∉ text := by
  obtain ⟨rfl | rfl, _, decimal, _⟩ := port
  · exact not_mem_of_all decimal (by decide)
  · exact List.not_mem_cons_of_ne_of_not_mem (by decide) (not_mem_of_all decimal (by decide))

theorem PortDigits.digits_eq {value : Nat} {digits : List Char}
    (port : PortDigits (Nat.toDigits 10 value) digits) : digits = Nat.toDigits 10 value := by
  obtain ⟨same | plus, _⟩ := port
  · exact same.symm
  · exact absurd (isDigit_toDigits (plus ▸ List.mem_cons_self)) (by decide)

theorem digitsValue_inv {bound value result : Nat} {digits : List Char} (small : value ≤ bound)
    (read : Crypto.digitsValue bound value digits = .ok result) :
    (∀ char ∈ digits, char.isDigit = true) ∧ result = Nat.ofDigitChars 10 digits value ∧
      result ≤ bound := by
  induction digits generalizing value with
  | nil =>
      cases read
      exact ⟨by simp, rfl, small⟩
  | cons char digits ih =>
      rw [Crypto.digitsValue] at read
      by_cases digit : char.isDigit = true
      · rw [if_pos digit] at read
        by_cases large : bound < 10 * value + (char.toNat - '0'.toNat)
        · simp only [if_pos large] at read
          cases read
        · simp only [if_neg large] at read
          obtain ⟨all, same, inside⟩ := ih (Nat.not_lt.mp large) read
          rw [Nat.ofDigitChars_cons]
          exact ⟨List.forall_mem_cons.mpr ⟨digit, all⟩, same, inside⟩
      · rw [if_neg digit] at read
        cases read

theorem parseU16_inv {text : List Char} {value : UInt16}
    (read : Crypto.parseU16 text = .ok value) : ∃ digits, PortDigits text digits := by
  rw [Crypto.parseU16] at read
  by_cases empty : text = []
  · rw [if_pos empty] at read
    cases read
  · rw [if_neg empty] at read
    cases number : Crypto.digitsValue 0xFFFF 0 (Crypto.skipPlus text) with
    | error message =>
        rw [number] at read
        cases read
    | ok result =>
        obtain ⟨all, same, inside⟩ := digitsValue_inv (Nat.zero_le _) number
        refine ⟨_, ?_, ?_, all, same ▸ inside⟩
        · unfold Crypto.skipPlus
          split
          · exact .inr rfl
          · exact .inl rfl
        · unfold Crypto.skipPlus
          split
          · simp
          · exact empty

theorem isNameChar_bounds {char : Char} (inName : isNameChar char = true) :
    Percent.isUnreserved char = true ∧ char.toLower = char := by
  rw [isNameChar, Bool.or_eq_true, Bool.or_eq_true] at inName
  have notUpper : ¬('A'.val ≤ char.val ∧ char.val ≤ 'Z'.val) := by
    intro upper
    rcases inName with (lower | digit) | mark
    · have range : ('a'.val ≤ char.val && char.val ≤ 'z'.val) = true := lower
      rw [Bool.and_eq_true, decide_eq_true_eq, decide_eq_true_eq] at range
      exact absurd (UInt32.le_trans range.1 upper.2) (by decide)
    · simp only [Char.isDigit, Bool.and_eq_true, decide_eq_true_eq] at digit
      exact absurd (UInt32.le_trans upper.1 digit.2) (by decide)
    · simp only [List.mem_cons, List.not_mem_nil, or_false, decide_eq_true_eq] at mark
      rcases mark with rfl | rfl | rfl <;> exact absurd upper (by decide)
  refine ⟨?_, dif_neg notUpper⟩
  rcases inName with (lower | digit) | mark
  · have letter : (char.isUpper || char.isLower) = true := by rw [lower, Bool.or_true]
    have letter : char.isAlpha = true := letter
    simp [Percent.isUnreserved, Char.isAlphanum, letter]
  · simp [Percent.isUnreserved, Char.isAlphanum, digit]
  · simp only [List.mem_cons, List.not_mem_nil, or_false, decide_eq_true_eq] at mark
    rcases mark with rfl | rfl | rfl <;> decide

theorem makeHost_name {name : List Char} (all : ∀ char ∈ name, isNameChar char = true) :
    Uri.makeHost name = .ok name ∧ name.any Uri.isGeneralDelimiter = false := by
  have apart : ∀ char ∈ name, Uri.isGeneralDelimiter char = false := fun char there =>
    decide_eq_false (not_mem_of_any (by decide) (all char there))
  have solid : name.any Uri.isGeneralDelimiter = false := by
    rw [List.any_eq_false]
    exact fun char there => by simp [apart char there]
  have normal : Percent.Normal Uri.isRegNameChar true name := .kept fun char there => by
    obtain ⟨unreserved, lowered⟩ := isNameChar_bounds (all char there)
    exact ⟨by simp [Uri.isRegNameChar, unreserved], (Percent.isUnreserved_bounds unreserved).2.1,
      fun _ => lowered⟩
  have unbracketed : name.head? ≠ some '[' := fun bracket =>
    not_mem_of_all all (by decide) (List.mem_of_head? bracket)
  have uncolon : ':' ∉ name := not_mem_of_all all (by decide)
  rw [Uri.makeHost, if_neg unbracketed, if_neg uncolon, solid, if_neg (by decide), normal.normalize]
  exact ⟨rfl, rfl⟩

theorem parseInt_port {text digits : List Char} (port : PortDigits text digits) :
    parseInt (codeUnits text) = .ok ↑(Nat.ofDigitChars 10 digits 0) := by
  obtain ⟨signs, some', all, small⟩ := port
  rw [parseInt, tryParseInt_codeUnits signs some' all (by omega)]

/-- The port that the link shows. -/
def shownPort (value : Nat) : Option Nat :=
  if value = 0 then none else some value

theorem nameParam_eq (name : Option String) :
    nameParam name = ((name.filter (· ≠ "")).map (kNameParam, ·)).toList := by
  cases name with
  | none => rfl
  | some name =>
      rw [nameParam, Option.filter_some]
      by_cases empty : name = ""
      · simp [empty]
      · simp [empty]

/-- The parameters of the link. -/
def linkParameters (key : String) (name : Option String) : List (String × String) :=
  (kKeyParam, key) :: nameParam name

theorem linkParameters_keys (key : String) (name : Option String) :
    ∀ parameter ∈ linkParameters key name, parameter.1 ≠ "" := by
  intro parameter there
  rcases List.mem_cons.mp there with rfl | there
  · exact show kKeyParam ≠ "" by decide
  · rw [nameParam_eq] at there
    obtain ⟨_, _, rfl⟩ := Option.map_eq_some_iff.mp (Option.mem_toList.mp there)
    exact show kNameParam ≠ "" by decide

theorem linkParameters_lookup (key : String) (name : Option String) :
    (linkParameters key name).reverse.lookup kKeyParam = some key ∧
      (linkParameters key name).reverse.lookup kNameParam = name.filter (· ≠ "") := by
  rw [linkParameters, nameParam_eq]
  cases name.filter (· ≠ "") with
  | none => exact ⟨rfl, rfl⟩
  | some name => exact ⟨rfl, rfl⟩

def sharedLink (name : List Char) (port : Option Nat) (key : String) (caption : Option String) : Uri where
  scheme := kScheme.toList
  host := some name
  port := port.map Nat.cast
  query := some (Uri.makeQuery (linkParameters key caption))

/-- What the link of a plain host is read back as. -/
theorem tryParseUri_sharedLink {name : List Char} (some' : name ≠ [])
    (all : ∀ char ∈ name, isNameChar char = true) {port : Option Nat}
    (ported : ∀ value, port = some value → 0 < value ∧ value < 2 ^ 63) {key : String}
    (keyed : key ≠ "") (caption : Option String) :
    tryParseUri (String.ofList (sharedLink name port key caption).toText) =
      .ok (some ⟨String.ofList (name ++ Uri.portText port), key, caption.filter (· ≠ "")⟩) := by
  obtain ⟨hosted, solid⟩ := makeHost_name all
  have parsed : Uri.parse (sharedLink name port key caption).toText =
      .ok (sharedLink name port key caption) :=
    Uri.parse_toText rfl (by decide) hosted solid
      (fun value here => ⟨(ported value here).2, by
        have positive := (ported value here).1
        show (value : Int) ≠ 0
        omega⟩)
      (Uri.normal_makeQuery _) (Uri.makeQuery_no_fragment _)
  have unbracketed : name.head? ≠ some '[' := fun bracket =>
    not_mem_of_all all (by decide) (List.mem_of_head? bracket)
  have hostText : (sharedLink name port key caption).hostText = name :=
    if_neg fun bracket => unbracketed bracket.1
  have parameters : (sharedLink name port key caption).queryParameters =
      .ok (linkParameters key caption).reverse :=
    Uri.splitQueryString_makeQuery (by simp [linkParameters]) (linkParameters_keys key caption)
  obtain ⟨keyFound, nameFound⟩ := linkParameters_lookup key caption
  have portFound : (match (sharedLink name port key caption).port with
      | some port => ':' :: (toString port).toList
      | none => []) = Uri.portText port := by
    cases port with
    | none => rfl
    | some port => exact congrArg (':' :: ·) (toString_natCast port)
  rw [tryParseUri, String.toList_ofList, parsed, ok_bind, hostText, parameters, if_neg]
  · rw [ok_bind, keyFound]
    simp only [if_neg keyed]
    rw [portFound, nameFound]
    rfl
  · simp [sharedLink, some']

theorem make_link {name : List Char} (all : ∀ char ∈ name, isNameChar char = true)
    (port : Option Nat) (key : String) (caption : Option String) :
    Uri.make kScheme.toList name (port.map Nat.cast) (linkParameters key caption) =
      .ok (sharedLink name (port.bind shownPort) key caption) := by
  have kept : Uri.makePort kScheme.toList (port.map Nat.cast) =
      (port.bind shownPort).map Nat.cast := by
    cases port with
    | none => rfl
    | some value =>
        have default' : Uri.defaultPort kScheme.toList = 0 := rfl
        by_cases zero : value = 0
        · simp [Uri.makePort, shownPort, default', zero]
        · simp [Uri.makePort, shownPort, default', zero]
  have schemed : Uri.makeScheme kScheme.toList = .ok kScheme.toList := rfl
  rw [Uri.make, schemed, ok_bind, (makeHost_name all).1, ok_bind, kept]
  rfl

theorem createUri_name {host key : String} (caption : Option String)
    (all : ∀ char ∈ host.toList, isNameChar char = true) :
    createUri host key caption =
      .ok (String.ofList (sharedLink host.toList none key caption).toText) := by
  have uncolon : ':' ∉ host.toList := not_mem_of_all all (by decide)
  have made := make_link all none key caption
  rw [linkParameters, Option.map_none, Option.bind_none] at made
  rw [createUri, List.splitOn_eq_singleton uncolon]
  show (do return String.ofList (← Uri.make kScheme.toList host.toList none _).toText) = _
  rw [made]
  rfl

theorem createUri_named {host key : String} (caption : Option String) {name port digits : List Char}
    (split : host.toList = name ++ ':' :: port) (all : ∀ char ∈ name, isNameChar char = true)
    (ported : PortDigits port digits) :
    createUri host key caption =
      .ok (String.ofList
        (sharedLink name (shownPort (Nat.ofDigitChars 10 digits 0)) key caption).toText) := by
  have uncolon : ':' ∉ name := not_mem_of_all all (by decide)
  have made := make_link all (some (Nat.ofDigitChars 10 digits 0)) key caption
  rw [linkParameters, Option.map_some, Option.bind_some] at made
  rw [createUri, split, List.splitOn_append_cons_self_of_not_mem uncolon,
    List.splitOn_eq_singleton ported.no_colon, portOf, parseInt_port ported]
  show (do return String.ofList (← Uri.make kScheme.toList name (some _) _).toText) = _
  rw [made]
  rfl

/-- The link is made, and its host is the text that comes back. -/
theorem roundTrips_iff {host key : String} {caption : Option String} {name : List Char}
    {port : Option Nat} (created : createUri host key caption =
      .ok (String.ofList (sharedLink name port key caption).toText))
    (some' : name ≠ []) (all : ∀ char ∈ name, isNameChar char = true)
    (ported : ∀ value, port = some value → 0 < value ∧ value < 2 ^ 63) (keyed : key ≠ "") :
    RoundTrips host key caption ↔ host.toList = name ++ Uri.portText port := by
  have readBack := tryParseUri_sharedLink some' all ported keyed caption
  refine ⟨fun trips => ?_, fun same => ?_⟩
  · obtain ⟨link, made, parsed⟩ := trips
    cases created.symm.trans made
    rw [readBack] at parsed
    simp only [Except.ok.injEq, Option.some.injEq, UriData.mk.injEq, and_true] at parsed
    rw [← parsed, String.toList_ofList]
  · refine ⟨_, created, ?_⟩
    rw [readBack, ← same, String.ofList_toList]

theorem roundTrips_name {host key : String} {caption : Option String} (some' : host.toList ≠ [])
    (all : ∀ char ∈ host.toList, isNameChar char = true) (keyed : key ≠ "") :
    RoundTrips host key caption ↔ Shareable host := by
  have unsplit : ∀ name port, host.toList ≠ name ++ ':' :: port := fun name port split =>
    not_mem_of_all all (by decide) (show ':' ∈ host.toList by simp [split])
  have plain : host.toList.head? ≠ some '[' := fun bracket =>
    not_mem_of_all all (by decide) (List.mem_of_head? bracket)
  rw [roundTrips_iff (createUri_name caption all) some' all nofun keyed]
  exact iff_of_true (List.append_nil _).symm
    ⟨plain, fun name port split => absurd split (unsplit name port)⟩

theorem roundTrips_named {host key : String} {caption : Option String} {name port digits : List Char}
    (split : host.toList = name ++ ':' :: port) (some' : name ≠ [])
    (all : ∀ char ∈ name, isNameChar char = true) (ported : PortDigits port digits)
    (keyed : key ≠ "") : RoundTrips host key caption ↔ Shareable host := by
  have small := ported.2.2.2
  have plain : host.toList.head? ≠ some '[' := by
    rw [split, List.head?_append_of_ne_nil _ some']
    exact fun bracket => not_mem_of_all all (by decide) (List.mem_of_head? bracket)
  have shown : ∀ value, shownPort (Nat.ofDigitChars 10 digits 0) = some value →
      0 < value ∧ value < 2 ^ 63 := by
    intro value here
    rw [shownPort] at here
    split at here
    · cases here
    · cases here
      omega
  rw [roundTrips_iff (createUri_named caption split all ported) some' all shown keyed, split,
    List.append_cancel_left_eq]
  have uncolon : ':' ∉ name := not_mem_of_all all (by decide)
  refine ⟨fun same => ⟨plain, fun other behind split' => ?_⟩, fun shareable => ?_⟩
  · rw [shownPort] at same
    split at same
    · cases same
    · rename_i positive
      obtain ⟨_, _, rfl⟩ := (List.append_cons_inj_of_notMem uncolon ported.no_colon).mp
        (split.symm.trans split')
      exact ⟨_, Nat.pos_of_ne_zero positive, (List.cons.inj same).2⟩
  · obtain ⟨value, positive, rfl⟩ := shareable.port name port split
    obtain rfl := ported.digits_eq
    rw [Nat.ofDigitChars_ten_toDigits, shownPort, if_neg (Nat.ne_of_gt positive)]
    rfl

open CovertConnect.Client (toDigit readGivenChar readNumber readSeparator readOctet readIpv4Addr
  readGroups readIpv6Addr readSocketAddrV4 readSocketAddrV6 SocketAddr)

theorem readGivenChar_eq_some {wanted : Char} {text rest : List Char} :
    readGivenChar wanted text = some rest ↔ text = wanted :: rest := by
  cases text with
  | nil => simp [readGivenChar]
  | cons char text =>
      rw [readGivenChar, List.cons.injEq]
      by_cases same : char = wanted <;> simp [same]

theorem readNumber_inv {radix bound value : Nat} {maxDigits : Option Nat} {zeros : Bool}
    {text rest : List Char} (read : readNumber radix maxDigits zeros bound text = some (value, rest)) :
    ∃ digits, text = digits ++ rest ∧ digits ≠ [] ∧
      (∀ char ∈ digits, (toDigit radix char).isSome = true) ∧ value ≤ bound ∧
      value = digits.foldl (fun value char => value * radix + (toDigit radix char).getD 0) 0 := by
  obtain ⟨behind, split⟩ := List.takeWhile_prefix (l := text) (toDigit radix · |>.isSome)
  rw [readNumber] at read
  split at read
  · cases read
  rename_i some'
  split at read
  · cases read
  split at read
  · cases read
  split at read
  · cases read
  rename_i small
  cases read
  have rest := congrArg (List.drop (text.takeWhile (toDigit radix · |>.isSome)).length) split
  rw [List.drop_left] at rest
  exact ⟨_, by rw [← rest, split], some',
    fun _ there => @List.mem_takeWhile_imp _ (toDigit radix · |>.isSome) _ _ there,
    Nat.not_lt.mp small, rfl⟩

theorem toDigit_ten {char : Char} (digit : (toDigit 10 char).isSome = true) :
    char.isDigit = true ∧ toDigit 10 char = some (char.toNat - '0'.toNat) := by
  rw [toDigit] at digit ⊢
  by_cases decimal : '0' ≤ char ∧ char ≤ '9'
  · have bounds : 48 ≤ char.toNat ∧ char.toNat ≤ 57 := by
      simpa [Char.le_def, UInt32.le_iff_toNat_le] using decimal
    refine ⟨?_, ?_⟩
    · simpa [Char.isDigit, Char.le_def] using decimal
    · rw [if_pos decimal, Option.filter_some, if_pos]
      rw [decide_eq_true_eq]
      show char.toNat - 48 < 10
      omega
  · rw [if_neg decimal] at digit
    split at digit
    · simp at digit
    · split at digit
      · simp at digit
      · simp at digit

/-- What is read off is not empty and of such characters. -/
def ReadsOff {α : Type} (good : Char → Bool) (reader : List Char → Option (α × List Char)) : Prop :=
  ∀ {text value rest}, reader text = some (value, rest) →
    ∃ front, text = front ++ rest ∧ front ≠ [] ∧ ∀ char ∈ front, good char = true

theorem reads_octet : ReadsOff isNameChar readOctet := by
  intro text value rest read
  obtain ⟨⟨number, rest⟩, found, same⟩ := Option.map_eq_some_iff.mp read
  cases same
  obtain ⟨digits, split, some', all, _⟩ := readNumber_inv found
  exact ⟨digits, split, some', fun char there => by simp [isNameChar, (toDigit_ten (all char there)).1]⟩

theorem ReadsOff.separated {α : Type} {good : Char → Bool} {reader : List Char → Option (α × List Char)}
    (reads : ReadsOff good reader) {separator : Char} (separates : good separator = true) (first : Bool) :
    ReadsOff good (readSeparator separator first reader) := by
  intro text value rest read
  rw [readSeparator] at read
  cases first with
  | true => exact reads read
  | false =>
      obtain ⟨behind, separated, later⟩ := Option.bind_eq_some_iff.mp read
      obtain rfl := readGivenChar_eq_some.mp separated
      obtain ⟨front, rfl, some', all⟩ := reads later
      exact ⟨separator :: front, rfl, List.cons_ne_nil _ _,
        List.forall_mem_cons.mpr ⟨separates, all⟩⟩

theorem reads_ipv4 : ReadsOff isNameChar readIpv4Addr := by
  have octet : ∀ first, ReadsOff isNameChar (readSeparator '.' first readOctet) :=
    reads_octet.separated rfl
  intro text value rest read
  simp only [readIpv4Addr, Option.bind_eq_bind, Option.bind_eq_some_iff, Prod.exists] at read
  obtain ⟨_, _, first, _, _, second, _, _, third, _, _, fourth, same⟩ := read
  cases same
  obtain ⟨a, rfl, some', allA⟩ := octet _ first
  obtain ⟨b, rfl, _, allB⟩ := octet _ second
  obtain ⟨c, rfl, _, allC⟩ := octet _ third
  obtain ⟨d, rfl, _, allD⟩ := octet _ fourth
  refine ⟨a ++ (b ++ (c ++ d)), by simp, by simp [some'], fun char there => ?_⟩
  simp only [List.mem_append] at there
  rcases there with inside | inside | inside | inside
  · exact allA char inside
  · exact allB char inside
  · exact allC char inside
  · exact allD char inside

theorem readPort_inv {text : List Char} {port : UInt16} (read : Client.readPort text = some (port, [])) :
    ∃ digits, text = ':' :: digits ∧ PortDigits digits digits := by
  simp only [Client.readPort, Option.bind_eq_bind, Option.bind_eq_some_iff, Prod.exists] at read
  obtain ⟨behind, separated, number, rest, found, same⟩ := read
  cases same
  obtain rfl := readGivenChar_eq_some.mp separated
  obtain ⟨digits, split, some', all, small, value⟩ := readNumber_inv found
  rw [List.append_nil] at split
  subst split
  refine ⟨behind, rfl, .inl rfl, some', fun char there => (toDigit_ten (all char there)).1, ?_⟩
  have folded : number = Nat.ofDigitChars 10 behind 0 := by
    rw [value, Nat.ofDigitChars_eq_foldl]
    refine List.foldl_ext _ _ _ fun value char there => ?_
    rw [(toDigit_ten (all char there)).2, Option.getD_some, Nat.mul_comm]
  rw [← folded]
  exact small

theorem readSocketAddrV4_inv {text : List Char} {address : SocketAddr}
    (read : readSocketAddrV4 text = some (address, [])) :
    ∃ name port, text = name ++ ':' :: port ∧ name ≠ [] ∧
      (∀ char ∈ name, isNameChar char = true) ∧ PortDigits port port := by
  simp only [readSocketAddrV4, Option.bind_eq_bind, Option.bind_eq_some_iff, Prod.exists] at read
  obtain ⟨octets, behind, found, port, rest, ported, same⟩ := read
  cases same
  obtain ⟨name, rfl, some', all⟩ := reads_ipv4 found
  obtain ⟨digits, rfl, port⟩ := readPort_inv ported
  exact ⟨name, digits, rfl, some', all, port⟩

/-- What is read after a first group begins with a colon. -/
theorem readGroups_later {limit : Nat} {text rest : List Char} {groups : List UInt16} {embedded : Bool}
    (read : readGroups limit false text = (groups, embedded, rest)) :
    text.head? = some ':' ∨ (groups = [] ∧ rest = text) := by
  have separated : ∀ {α : Type} {reader : List Char → Option (α × List Char)} {result},
      readSeparator ':' false reader text = some result → text.head? = some ':' := by
    intro α reader result found
    obtain ⟨behind, colon, _⟩ := Option.bind_eq_some_iff.mp found
    rw [readGivenChar_eq_some.mp colon]
    rfl
  cases limit with
  | zero =>
      cases read
      exact .inr ⟨rfl, rfl⟩
  | succ limit =>
      rw [readGroups] at read
      split at read
      · rename_i found
        split at found
        · exact .inl (separated found)
        · cases found
      · split at read
        · rename_i found
          exact .inl (separated found)
        · cases read
          exact .inr ⟨rfl, rfl⟩

/-- Hexadecimal digits and a colon stand at the front of an IPv6 address. -/
theorem readIpv6Addr_inv {text rest : List Char} {segments : Vector UInt16 8}
    (read : readIpv6Addr text = some (segments, rest)) :
    ∃ digits behind, text = digits ++ ':' :: behind ∧
      ∀ char ∈ digits, (toDigit 16 char).isSome = true := by
  have elided : ∀ {front : List UInt16} {embedded : Bool} {later : List Char},
      readGroups 8 true text = (front, embedded, later) → front.length ≠ 8 →
        embedded = false ∧ later.head? = some ':' := by
    intro front embedded later groups short
    rw [readIpv6Addr, groups] at read
    simp only [if_neg short] at read
    cases embedded with
    | true => cases read
    | false =>
        obtain ⟨behind, colon, _⟩ := Option.bind_eq_some_iff.mp read
        rw [readGivenChar_eq_some.mp colon]
        exact ⟨rfl, rfl⟩
  have atColon : ∀ {digits later : List Char}, text = digits ++ later → later.head? = some ':' →
      (∀ char ∈ digits, (toDigit 16 char).isSome = true) →
      ∃ digits behind, text = digits ++ ':' :: behind ∧
        ∀ char ∈ digits, (toDigit 16 char).isSome = true := by
    intro digits later split colon all
    obtain ⟨behind, rfl⟩ := List.head?_eq_some_iff.mp colon
    exact ⟨digits, behind, split, all⟩
  rcases groups : readGroups 8 true text with ⟨front, embedded, later⟩
  have whole := groups
  rw [readGroups] at groups
  split at groups
  · -- an IPv4 address in front is two groups, and nothing follows them
    cases groups
    exact absurd (elided whole (by simp)).1 (by decide)
  · split at groups
    · rename_i found
      obtain ⟨digits, split, _, all, _⟩ := readNumber_inv found
      rcases more : readGroups 7 false _ with ⟨groups', embedded', later'⟩
      rw [more] at groups
      cases groups
      rcases readGroups_later more with colon | ⟨rfl, rfl⟩
      · exact atColon split colon all
      · exact atColon split (elided whole (by simp)).2 all
    · cases groups
      exact atColon (List.nil_append _).symm (elided whole (by simp)).2 (by simp)

/-- The text that an address is parsed from, without or with brackets. -/
theorem fromStr_inv {host : String} {address : SocketAddr}
    (parsed : SocketAddr.fromStr host = some address) :
    (∃ name port, host.toList = name ++ ':' :: port ∧ name ≠ [] ∧
      (∀ char ∈ name, isNameChar char = true) ∧ PortDigits port port) ∨
    ∃ digits behind, host.toList = '[' :: (digits ++ ':' :: behind) ∧
      ∀ char ∈ digits, (toDigit 16 char).isSome = true := by
  rw [SocketAddr.fromStr] at parsed
  split at parsed
  · rename_i read
    cases parsed
    rcases Option.or_eq_some_iff.mp read with plain | ⟨_, bracketed⟩
    · exact .inl (readSocketAddrV4_inv plain)
    · simp only [readSocketAddrV6, Option.bind_eq_bind, Option.bind_eq_some_iff, Prod.exists]
        at bracketed
      obtain ⟨behind, bracket, segments, rest, found, _⟩ := bracketed
      obtain ⟨digits, later, rfl, all⟩ := readIpv6Addr_inv found
      exact .inr ⟨digits, later, readGivenChar_eq_some.mp bracket, all⟩
  · cases parsed

theorem portOf_error {parts : List (List Char)} {error : DartError}
    (failed : portOf parts = .error error) : error = .formatException := by
  unfold portOf at failed
  split at failed
  · rw [parseInt] at failed
    split at failed
    · cases failed
    · cases failed
      rfl
  · cases failed

/-- The first piece of a bracketed address lacks the closing bracket. -/
theorem createUri_bracketed {host key : String} {name : Option String} {digits behind : List Char}
    (split : host.toList = '[' :: (digits ++ ':' :: behind))
    (all : ∀ char ∈ digits, (toDigit 16 char).isSome = true) :
    createUri host key name = .error .formatException := by
  have apart : ∀ mark, mark ≠ '[' → (toDigit 16 mark).isSome = false → mark ∉ '[' :: digits :=
    fun mark other fails => List.not_mem_cons_of_ne_of_not_mem other (not_mem_of_all all fails)
  have uncolon : ':' ∉ '[' :: digits := apart ':' (by decide) (by decide)
  have unclosed : ('[' :: digits).getLast? ≠ some ']' := fun closed =>
    apart ']' (by decide) (by decide) (List.mem_of_getLast? closed)
  have refused : Uri.makeHost ('[' :: digits) = .error .formatException := by
    rw [Uri.makeHost, if_pos List.head?_cons, if_neg unclosed]
  rw [createUri, split, ← List.cons_append, List.splitOn_append_cons_self_of_not_mem uncolon]
  cases ported : portOf (('[' :: digits) :: behind.splitOn ':') with
  | error error =>
      simp only [portOf_error ported]
      rfl
  | ok port =>
      simp only [List.headD_cons, Uri.make, refused]
      rfl

/-- A server that the client accepts comes back from its link exactly when its
host is shareable. -/
theorem roundTrips_iff_shareable {host key : String} (accepted : Accepted host) (keyed : key ≠ "")
    (name : Option String) : RoundTrips host key name ↔ Shareable host := by
  cases accepted with
  | name some' all => exact roundTrips_name some' all keyed
  | named name port value split some' all ported =>
      obtain ⟨digits, ported⟩ := parseU16_inv ported
      exact roundTrips_named split some' all ported keyed
  | socket address parsed =>
      rcases fromStr_inv parsed with ⟨name, port, split, some', all, ported⟩ | bracketed
      · exact roundTrips_named split some' all ported keyed
      · obtain ⟨digits, behind, split, all⟩ := bracketed
        refine iff_of_false ?_ fun shareable => shareable.plain (by rw [split]; rfl)
        intro trips
        obtain ⟨link, made, _⟩ := trips
        rw [createUri_bracketed split all] at made
        cases made

theorem roundTrips_vpn : RoundTrips "vpn.example.org:8443" "key" (some "name") := by
  have split : "vpn.example.org:8443".toList = "vpn.example.org".toList ++ ':' :: "8443".toList := rfl
  have accepted : Accepted "vpn.example.org:8443" :=
    .named "vpn.example.org".toList "8443".toList 8443 split (by decide)
      (List.all_eq_true.mp (by decide)) (by decide)
  refine (roundTrips_iff_shareable accepted (by decide) _).mpr ⟨by decide, fun name port split' => ?_⟩
  obtain ⟨_, _, rfl⟩ := (List.append_cons_inj_of_notMem (by decide) (by decide)).mp
    (split.symm.trans split')
  exact ⟨8443, by decide, by decide⟩

/-- The loopback address is cut at its first colon. -/
theorem loopback_throws :
    Accepted "[::1]:443" ∧ createUri "[::1]:443" "key" none = .error .formatException := by
  refine ⟨.socket { ip := .v6 #v[0, 0, 0, 0, 0, 0, 0, 1], port := 443 } (by decide +kernel), ?_⟩
  exact createUri_bracketed (show _ = '[' :: ([] ++ ':' :: ":1]:443".toList) from rfl) (by simp)

end CovertConnect.Flutter
