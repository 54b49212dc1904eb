import Mathlib.Data.Nat.Digits.Lemmas
import Mathlib.Data.List.Basic

namespace CovertConnect.Data

/-! JSON texts as sequences of UTF-16 code units.

A number that is an integer of 64 bits is read as one, any other number is kept
as its source text. -/

abbrev Text := List UInt16

def unit (char : Char) : UInt16 :=
  char.toNat.toUInt16

def ascii (text : String) : Text :=
  text.toList.map unit

inductive Json where
  | null
  | bool (value : Bool)
  | int (value : Int64)
  | double (source : Text)
  | str (value : Text)
  | arr (items : List Json)
  | obj (members : List (Text × Json))

namespace Json

def hexDigit (digit : Nat) : UInt16 :=
  (if digit < 10 then 48 + digit else 87 + digit).toUInt16

def isHighSurrogate (code : UInt16) : Bool :=
  0xD800 ≤ code && code < 0xDC00

def isLowSurrogate (code : UInt16) : Bool :=
  0xDC00 ≤ code && code < 0xE000

/-- The character after the backslash, for the control characters that have
a short form. -/
def shortEscape (code : UInt16) : Option Char :=
  if code = 8 then some 'b'
  else if code = 9 then some 't'
  else if code = 10 then some 'n'
  else if code = 12 then some 'f'
  else if code = 13 then some 'r'
  else none

/-- One code unit inside quotes; a surrogate without its partner is escaped. -/
def escape (before : Option UInt16) (code : UInt16) (after : Option UInt16) : Text :=
  if code < 32 then
    match shortEscape code with
    | some short => [unit '\\', unit short]
    | none =>
        [unit '\\', unit 'u', unit '0', unit '0',
          hexDigit (code.toNat / 16 % 16), hexDigit (code.toNat % 16)]
  else if code = unit '"' ∨ code = unit '\\' then [unit '\\', code]
  else if isHighSurrogate code && !after.any isLowSurrogate
      || isLowSurrogate code && !before.any isHighSurrogate then
    [unit '\\', unit 'u', unit 'd',
      hexDigit (code.toNat / 256 % 16), hexDigit (code.toNat / 16 % 16), hexDigit (code.toNat % 16)]
  else [code]

def escapeFrom (before : Option UInt16) : Text → Text
  | [] => []
  | code :: rest => escape before code rest.head? ++ escapeFrom (some code) rest

def quoted (text : Text) : Text :=
  unit '"' :: (escapeFrom none text ++ [unit '"'])

def decimal (value : Nat) : Text :=
  if value = 0 then [unit '0']
  else (Nat.digits 10 value).reverse.map fun digit => (48 + digit).toUInt16

def decimalInt (value : Int) : Text :=
  if value < 0 then unit '-' :: decimal value.natAbs else decimal value.natAbs

mutual

def encode : Json → Text
  | .null => ascii "null"
  | .bool true => ascii "true"
  | .bool false => ascii "false"
  | .int value => decimalInt value.toInt
  | .double source => source
  | .str value => quoted value
  | .arr items => unit '[' :: (encodeItems items ++ [unit ']'])
  | .obj members => unit '\x7b' :: (encodeMembers members ++ [unit '\x7d'])

def encodeItems : List Json → Text
  | [] => []
  | item :: items => encode item ++ encodeMoreItems items

def encodeMoreItems : List Json → Text
  | [] => []
  | item :: items => unit ',' :: (encode item ++ encodeMoreItems items)

def encodeMembers : List (Text × Json) → Text
  | [] => []
  | (key, value) :: members => quoted key ++ unit ':' :: (encode value ++ encodeMoreMembers members)

def encodeMoreMembers : List (Text × Json) → Text
  | [] => []
  | (key, value) :: members =>
      unit ',' :: (quoted key ++ unit ':' :: (encode value ++ encodeMoreMembers members))

end

def isSpace (code : UInt16) : Bool :=
  code = 32 || code = 9 || code = 10 || code = 13

def skipSpace (text : Text) : Text :=
  text.dropWhile isSpace

def hexValue (code : UInt16) : Option Nat :=
  if unit '0' ≤ code ∧ code ≤ unit '9' then some (code.toNat - 48)
  else if unit 'a' ≤ code ∧ code ≤ unit 'f' then some (code.toNat - 87)
  else if unit 'A' ≤ code ∧ code ≤ unit 'F' then some (code.toNat - 55)
  else none

def simpleEscape (code : UInt16) : Option UInt16 :=
  if code = unit 'b' then some 8
  else if code = unit 't' then some 9
  else if code = unit 'n' then some 10
  else if code = unit 'f' then some 12
  else if code = unit 'r' then some 13
  else if code = unit '"' ∨ code = unit '\\' ∨ code = unit '/' then some code
  else none

def hexUnit (first second third fourth : UInt16) : Option UInt16 := do
  let first ← hexValue first
  let second ← hexValue second
  let third ← hexValue third
  let fourth ← hexValue fourth
  return (first * 4096 + second * 256 + third * 16 + fourth).toUInt16

/-- The rest of a string after its opening quote. -/
def parseString : Text → Option (Text × Text)
  | [] => none
  | code :: rest =>
      if code = unit '"' then some ([], rest)
      else if code = unit '\\' then
        match rest with
        | [] => none
        | kind :: rest =>
            if kind = unit 'u' then
              match rest with
              | first :: second :: third :: fourth :: rest => do
                  let code ← hexUnit first second third fourth
                  let (text, rest) ← parseString rest
                  return (code :: text, rest)
              | _ => none
            else do
              let code ← simpleEscape kind
              let (text, rest) ← parseString rest
              return (code :: text, rest)
      else if code < 32 then none
      else do
        let (text, rest) ← parseString rest
        return (code :: text, rest)

def isDigit (code : UInt16) : Bool :=
  unit '0' ≤ code && code ≤ unit '9'

def digitsValue (digits : Text) : Nat :=
  digits.foldl (fun value code => value * 10 + (code.toNat - 48)) 0

def spanDigits (text : Text) : Text × Text :=
  (text.takeWhile isDigit, text.dropWhile isDigit)

/-- A sign and what follows it. -/
def takeSign (signs : List UInt16) : Text → Option UInt16 × Text
  | [] => (none, [])
  | code :: rest => if code ∈ signs then (some code, rest) else (none, code :: rest)

/-- What follows the fraction, if there is one. -/
def skipFraction : Text → Option Text
  | [] => some []
  | code :: rest =>
      if code = unit '.' then
        let (digits, rest) := spanDigits rest
        if digits = [] then none else some rest
      else some (code :: rest)

/-- What follows the exponent, if there is one. -/
def skipExponent : Text → Option Text
  | [] => some []
  | code :: rest =>
      if code = unit 'e' ∨ code = unit 'E' then
        let (digits, rest) := spanDigits (takeSign [unit '+', unit '-'] rest).2
        if digits = [] then none else some rest
      else some (code :: rest)

def parseNumber (text : Text) : Option (Json × Text) := do
  let (sign, body) := takeSign [unit '-'] text
  let (digits, rest) := spanDigits body
  if digits = [] ∨ (digits.head? = some (unit '0') ∧ digits.length ≠ 1) then none
  else
    let after ← (skipFraction rest).bind skipExponent
    let value : Int := if sign = some (unit '-') then -digitsValue digits else digitsValue digits
    if after.length = rest.length ∧ -2 ^ 63 ≤ value ∧ value < 2 ^ 63 then
      return (.int (Int64.ofInt value), after)
    else return (.double (text.take (text.length - after.length)), after)

def keyword (word : Text) (value : Json) (text : Text) : Option (Json × Text) :=
  if word.isPrefixOf text then some (value, text.drop word.length) else none

mutual

/-- The fuel bounds the steps; the length of the text is enough. -/
def parseValue : Nat → Text → Option (Json × Text)
  | 0, _ => none
  | fuel + 1, text =>
      match skipSpace text with
      | [] => none
      | code :: rest =>
          if code = unit '"' then do
            let (text, rest) ← parseString rest
            return (.str text, rest)
          else if code = unit '[' then
            if (skipSpace rest).head? = some (unit ']') then
              some (.arr [], (skipSpace rest).tail)
            else do
              let (items, rest) ← parseItems fuel rest
              return (.arr items, rest)
          else if code = unit '\x7b' then
            if (skipSpace rest).head? = some (unit '\x7d') then
              some (.obj [], (skipSpace rest).tail)
            else do
              let (members, rest) ← parseMembers fuel rest
              return (.obj members, rest)
          else if code = unit '-' ∨ isDigit code = true then parseNumber (code :: rest)
          else
            (keyword (ascii "null") .null (code :: rest)).or
              ((keyword (ascii "true") (.bool true) (code :: rest)).or
                (keyword (ascii "false") (.bool false) (code :: rest)))

def parseItems : Nat → Text → Option (List Json × Text)
  | 0, _ => none
  | fuel + 1, text => do
      let (value, rest) ← parseValue fuel text
      match skipSpace rest with
      | [] => none
      | code :: rest =>
          if code = unit ',' then do
            let (items, rest) ← parseItems fuel rest
            return (value :: items, rest)
          else if code = unit ']' then some ([value], rest)
          else none

def parseMembers : Nat → Text → Option (List (Text × Json) × Text)
  | 0, _ => none
  | fuel + 1, text =>
      match skipSpace text with
      | [] => none
      | code :: rest =>
          if code = unit '"' then do
            let (key, rest) ← parseString rest
            match skipSpace rest with
            | [] => none
            | code :: rest =>
                if code = unit ':' then do
                  let (value, rest) ← parseValue fuel rest
                  match skipSpace rest with
                  | [] => none
                  | code :: rest =>
                      if code = unit ',' then do
                        let (members, rest) ← parseMembers fuel rest
                        return ((key, value) :: members, rest)
                      else if code = unit '\x7d' then some ([(key, value)], rest)
                      else none
                else none
          else none

end

def decode (text : Text) : Option Json := do
  let (value, rest) ← parseValue (text.length + 1) text
  if skipSpace rest = [] then return value else none

/-- The value of a key; the last entry counts. -/
def lookup (key : Text) (members : List (Text × Json)) : Option Json :=
  (members.reverse.find? (·.1 = key)).map (·.2)

@[simp] theorem lookup_nil (key : Text) : lookup key [] = none := rfl

@[simp] theorem lookup_cons (key : Text) (member : Text × Json) (members : List (Text × Json)) :
    lookup key (member :: members) =
      (lookup key members).or (if member.1 = key then some member.2 else none) := by
  rw [lookup, lookup, List.reverse_cons, List.find?_append, Option.map_or]
  congr 1
  by_cases same : member.1 = key
  · simp [same]
  · simp [same]

theorem hexValue_hexDigit : ∀ digit < 16, hexValue (hexDigit digit) = some digit := by
  decide

theorem hexUnit_hexDigit {first second third fourth : Nat} (code : UInt16) (first' : first < 16)
    (second' : second < 16) (third' : third < 16) (fourth' : fourth < 16)
    (same : first * 4096 + second * 256 + third * 16 + fourth = code.toNat) :
    hexUnit (hexDigit first) (hexDigit second) (hexDigit third) (hexDigit fourth) = some code := by
  simp only [hexUnit, hexValue_hexDigit _ first', hexValue_hexDigit _ second',
    hexValue_hexDigit _ third', hexValue_hexDigit _ fourth', same, Option.bind_eq_bind,
    Option.bind_some, Option.pure_def]
  rw [Nat.toUInt16_eq, UInt16.ofNat_toNat]

theorem parseString_quote (rest : Text) : parseString (unit '"' :: rest) = some ([], rest) := by
  rw [parseString.eq_def]
  exact if_pos rfl

theorem parseString_simple {kind code : UInt16} (simple : simpleEscape kind = some code)
    (notUnicode : kind ≠ unit 'u') (rest : Text) :
    parseString (unit '\\' :: kind :: rest) =
      (parseString rest).map fun (text, rest) => (code :: text, rest) := by
  have notQuote : unit '\\' ≠ unit '"' := by decide
  rw [parseString.eq_def]
  simp only [if_neg notQuote, if_true, if_neg notUnicode, simple]
  cases parseString rest <;> rfl

theorem parseString_unicode {first second third fourth code : UInt16}
    (value : hexUnit first second third fourth = some code) (rest : Text) :
    parseString (unit '\\' :: unit 'u' :: first :: second :: third :: fourth :: rest) =
      (parseString rest).map fun (text, rest) => (code :: text, rest) := by
  have notQuote : unit '\\' ≠ unit '"' := by decide
  rw [parseString.eq_def]
  simp only [if_neg notQuote, if_true, value]
  cases parseString rest <;> rfl

theorem parseString_raw {code : UInt16} (printable : ¬ code < 32) (notQuote : code ≠ unit '"')
    (notBackslash : code ≠ unit '\\') (rest : Text) :
    parseString (code :: rest) =
      (parseString rest).map fun (text, rest) => (code :: text, rest) := by
  rw [parseString.eq_def]
  simp only [if_neg notQuote, if_neg notBackslash, if_neg printable]
  cases parseString rest <;> rfl

theorem shortEscape_some {code : UInt16} {short : Char} (found : shortEscape code = some short) :
    simpleEscape (unit short) = some code ∧ unit short ≠ unit 'u' := by
  unfold shortEscape at found
  split at found
  · cases found
    subst code
    decide
  split at found
  · cases found
    subst code
    decide
  split at found
  · cases found
    subst code
    decide
  split at found
  · cases found
    subst code
    decide
  split at found
  · cases found
    subst code
    decide
  · cases found

theorem parseString_escape (before : Option UInt16) (code : UInt16) (after : Option UInt16)
    (rest : Text) :
    parseString (escape before code after ++ rest) =
      (parseString rest).map fun (text, rest) => (code :: text, rest) := by
  unfold escape
  split
  · rename_i control
    have small : code.toNat < 32 := control
    split
    · rename_i short found
      obtain ⟨simple, notUnicode⟩ := shortEscape_some found
      exact parseString_simple simple notUnicode rest
    · have value : hexUnit (hexDigit 0) (hexDigit 0) (hexDigit (code.toNat / 16 % 16))
          (hexDigit (code.toNat % 16)) = some code := by
        apply hexUnit_hexDigit <;> omega
      exact parseString_unicode value rest
  split
  · rename_i printable special
    rcases special with rfl | rfl
    · exact parseString_simple (by decide) (by decide) rest
    · exact parseString_simple (by decide) (by decide) rest
  · rename_i printable plain
    split
    · rename_i lone
      have range : 0xD800 ≤ code.toNat ∧ code.toNat < 0xE000 := by
        simp only [isHighSurrogate, isLowSurrogate, Bool.or_eq_true, Bool.and_eq_true,
          decide_eq_true_eq] at lone
        rcases lone with ⟨⟨low, high⟩, _⟩ | ⟨⟨low, high⟩, _⟩
        · have low : 0xD800 ≤ code.toNat := low
          have high : code.toNat < 0xDC00 := high
          omega
        · have low : 0xDC00 ≤ code.toNat := low
          have high : code.toNat < 0xE000 := high
          omega
      have value : hexUnit (hexDigit 13) (hexDigit (code.toNat / 256 % 16))
          (hexDigit (code.toNat / 16 % 16)) (hexDigit (code.toNat % 16)) = some code := by
        apply hexUnit_hexDigit <;> omega
      exact parseString_unicode value rest
    · exact parseString_raw printable (fun quote => plain (.inl quote))
        (fun backslash => plain (.inr backslash)) rest

theorem parseString_escapeFrom (text rest : Text) (before : Option UInt16) :
    parseString (escapeFrom before text ++ unit '"' :: rest) = some (text, rest) := by
  induction text generalizing before with
  | nil => exact parseString_quote rest
  | cons code text ih =>
      rw [escapeFrom, List.append_assoc, parseString_escape, ih]
      rfl

/-- A number ends where no digit, point or exponent follows. -/
def Ends (rest : Text) : Prop :=
  ∀ code, rest.head? = some code →
    isDigit code = false ∧ code ≠ unit '.' ∧ code ≠ unit 'e' ∧ code ≠ unit 'E'

theorem ends_nil : Ends [] := by
  intro code head
  cases head

theorem ends_cons {code : UInt16} {rest : Text} (digit : isDigit code = false)
    (point : code ≠ unit '.') (lower : code ≠ unit 'e') (upper : code ≠ unit 'E') :
    Ends (code :: rest) := by
  intro code' head
  cases head
  exact ⟨digit, point, lower, upper⟩

theorem isDigit_digit : ∀ digit < 10, isDigit (48 + digit).toUInt16 = true := by
  decide

theorem toNat_digit : ∀ digit < 10, (48 + digit).toUInt16.toNat - 48 = digit := by
  decide

theorem decimal_ne_nil (value : Nat) : decimal value ≠ [] := by
  rw [decimal]
  split
  · exact List.cons_ne_nil _ _
  · rename_i positive
    simpa [Nat.digits_ne_nil_iff_ne_zero] using positive

theorem isDigit_decimal (value : Nat) : ∀ code ∈ decimal value, isDigit code = true := by
  intro code there
  rw [decimal] at there
  split at there
  · rw [List.mem_singleton.mp there]
    decide
  · obtain ⟨digit, inDigits, rfl⟩ := List.mem_map.mp there
    exact isDigit_digit digit (Nat.digits_lt_base (by omega) (List.mem_reverse.mp inDigits))

theorem digitsValue_decimal (value : Nat) : digitsValue (decimal value) = value := by
  rw [decimal]
  split
  · rename_i zero
    rw [zero]
    rfl
  · have folded : ∀ digits : List Nat, (∀ digit ∈ digits, digit < 10) →
        digitsValue (digits.reverse.map fun digit => (48 + digit).toUInt16) =
          Nat.ofDigits 10 digits := by
      intro digits small
      induction digits with
      | nil => rfl
      | cons digit digits ih =>
          have rest := ih fun digit there => small digit (List.mem_cons_of_mem _ there)
          rw [digitsValue] at rest ⊢
          rw [List.reverse_cons, List.map_append, List.foldl_append, rest, Nat.ofDigits_cons]
          simp only [List.map_cons, List.map_nil, List.foldl_cons, List.foldl_nil]
          rw [toNat_digit digit (small digit List.mem_cons_self)]
          rw [Nat.add_comm, Nat.mul_comm]
    rw [folded _ fun digit there => Nat.digits_lt_base (by omega) there, Nat.ofDigits_digits]

/-- Only zero itself starts with a zero. -/
theorem decimal_leading {value : Nat} (zero : (decimal value).head? = some (unit '0')) :
    (decimal value).length = 1 := by
  by_cases none : value = 0
  · rw [decimal, if_pos none]
    rfl
  · exfalso
    have some' := Nat.digits_ne_nil_iff_ne_zero (b := 10).mpr none
    have zeroDigit : ∀ digit < 10, (48 + digit).toUInt16 = unit '0' → digit = 0 := by decide
    rw [decimal, if_neg none, List.head?_map, List.head?_reverse,
      List.getLast?_eq_some_getLast some', Option.map_some, Option.some.injEq] at zero
    have small := Nat.digits_lt_base (b := 10) (by omega) (List.getLast_mem some')
    exact Nat.getLast_digit_ne_zero 10 none (zeroDigit _ small zero)

theorem spanDigits_decimal (value : Nat) {rest : Text} (ends : Ends rest) :
    spanDigits (decimal value ++ rest) = (decimal value, rest) := by
  have stops : rest.takeWhile isDigit = [] ∧ rest.dropWhile isDigit = rest := by
    cases rest with
    | nil => exact ⟨rfl, rfl⟩
    | cons code rest =>
        have digit := (ends code rfl).1
        simp [digit]
  rw [spanDigits, List.takeWhile_append_of_pos (isDigit_decimal value),
    List.dropWhile_append_of_pos (isDigit_decimal value), stops.1, stops.2, List.append_nil]

theorem skipFraction_ends {rest : Text} (ends : Ends rest) : skipFraction rest = some rest := by
  cases rest with
  | nil => rfl
  | cons code rest => exact if_neg (ends code rfl).2.1

theorem skipExponent_ends {rest : Text} (ends : Ends rest) : skipExponent rest = some rest := by
  cases rest with
  | nil => rfl
  | cons code rest =>
      refine if_neg fun exponent => ?_
      rcases exponent with lower | upper
      · exact (ends code rfl).2.2.1 lower
      · exact (ends code rfl).2.2.2 upper

theorem takeSign_decimalInt {signs : List UInt16} (minus : unit '-' ∈ signs)
    (noDigit : signs.all (! isDigit ·) = true) (value : Int) (rest : Text) :
    takeSign signs (decimalInt value ++ rest) =
      (if value < 0 then some (unit '-') else none, decimal value.natAbs ++ rest) := by
  rw [decimalInt]
  split
  · rw [List.cons_append, takeSign, if_pos minus]
  · cases digits : decimal value.natAbs with
    | nil => exact absurd digits (decimal_ne_nil _)
    | cons code more =>
        have digit : isDigit code = true :=
          isDigit_decimal value.natAbs code (by rw [digits]; exact List.mem_cons_self)
        have unsigned : code ∉ signs := by
          intro sign
          simpa [digit] using List.all_eq_true.mp noDigit code sign
        rw [List.cons_append, takeSign, if_neg unsigned]

/-- The sign and the digits give the integer back. -/
theorem signed_natAbs (value : Int) :
    (if (if value < 0 then some (unit '-') else none) = some (unit '-') then
      -(value.natAbs : Int) else (value.natAbs : Int)) = value := by
  by_cases negative : value < 0
  · rw [if_pos negative, if_pos rfl]
    omega
  · rw [if_neg negative, if_neg (by simp)]
    omega

theorem parseNumber_decimalInt (value : Int64) {rest : Text} (ends : Ends rest) :
    parseNumber (decimalInt value.toInt ++ rest) = some (.int value, rest) := by
  have leading : ¬ (decimal value.toInt.natAbs = [] ∨
      ((decimal value.toInt.natAbs).head? = some (unit '0') ∧
        (decimal value.toInt.natAbs).length ≠ 1)) := by
    intro given
    rcases given with none | ⟨zero, more⟩
    · exact decimal_ne_nil _ none
    · exact more (decimal_leading zero)
  have sign := takeSign_decimalInt (List.mem_singleton_self (unit '-')) (by decide) value.toInt rest
  have range := And.intro value.le_toInt value.toInt_lt
  simp only [parseNumber, sign, spanDigits_decimal _ ends, if_neg leading,
    skipFraction_ends ends, skipExponent_ends ends, digitsValue_decimal, signed_natAbs, Option.bind_some,
    Option.bind_eq_bind, Option.pure_def, range, and_self, if_true, Int64.ofInt_toInt]

mutual

/-- Every number in the value is an integer. -/
def Exact : Json → Prop
  | .double _ => False
  | .arr items => ExactItems items
  | .obj members => ExactMembers members
  | .null | .bool _ | .int _ | .str _ => True

def ExactItems : List Json → Prop
  | [] => True
  | item :: items => Exact item ∧ ExactItems items

def ExactMembers : List (Text × Json) → Prop
  | [] => True
  | (_, value) :: members => Exact value ∧ ExactMembers members

end

theorem exactItems_iff {items : List Json} : ExactItems items ↔ ∀ item ∈ items, Exact item := by
  induction items with
  | nil => simp [ExactItems]
  | cons item items ih => simp [ExactItems, ih]

theorem exactMembers_iff {members : List (Text × Json)} :
    ExactMembers members ↔ ∀ member ∈ members, Exact member.2 := by
  induction members with
  | nil => simp [ExactMembers]
  | cons member members ih => simp [ExactMembers, ih]

theorem skipSpace_cons {code : UInt16} (solid : isSpace code = false) (rest : Text) :
    skipSpace (code :: rest) = code :: rest := by
  simp [skipSpace, solid]

theorem decimalInt_head (value : Int) :
    ∃ code rest, decimalInt value = code :: rest ∧ (code = unit '-' ∨ isDigit code = true) := by
  rw [decimalInt]
  split
  · exact ⟨_, _, rfl, .inl rfl⟩
  · cases digits : decimal value.natAbs with
    | nil => exact absurd digits (decimal_ne_nil _)
    | cons code rest =>
        refine ⟨code, rest, rfl, .inr (isDigit_decimal value.natAbs code ?_)⟩
        rw [digits]
        exact List.mem_cons_self

theorem number_start {code : UInt16} (start : code = unit '-' ∨ isDigit code = true) :
    isSpace code = false ∧ code ≠ unit '"' ∧ code ≠ unit '[' ∧ code ≠ unit '\x7b' ∧
      code ≠ unit ']' := by
  refine ⟨?_, ?_, ?_, ?_, ?_⟩
  · refine Bool.eq_false_iff.mpr fun space => ?_
    simp only [isSpace, Bool.or_eq_true, decide_eq_true_eq] at space
    rcases space with ((rfl | rfl) | rfl) | rfl <;> revert start <;> decide
  all_goals
    intro same
    subst same
    revert start
    decide

/-- What a value begins with tells it from the end of a list. -/
theorem encode_head {value : Json} (exact : Exact value) :
    ∃ code rest, encode value = code :: rest ∧ isSpace code = false ∧ code ≠ unit ']' := by
  cases value with
  | null => exact ⟨_, _, rfl, by decide, by decide⟩
  | bool value => cases value <;> exact ⟨_, _, rfl, by decide, by decide⟩
  | str value => exact ⟨_, _, by rw [encode, quoted], by decide, by decide⟩
  | arr items => exact ⟨_, _, by rw [encode], by decide, by decide⟩
  | obj members => exact ⟨_, _, by rw [encode], by decide, by decide⟩
  | double source => exact absurd exact id
  | int value =>
      obtain ⟨code, rest, same, start⟩ := decimalInt_head value.toInt
      obtain ⟨solid, _, _, _, notEnd⟩ := number_start start
      exact ⟨code, rest, by rw [encode, same], solid, notEnd⟩

theorem ends_comma (rest : Text) : Ends (unit ',' :: rest) :=
  ends_cons (by decide) (by decide) (by decide) (by decide)

theorem ends_bracket (rest : Text) : Ends (unit ']' :: rest) :=
  ends_cons (by decide) (by decide) (by decide) (by decide)

theorem ends_brace (rest : Text) : Ends (unit '\x7d' :: rest) :=
  ends_cons (by decide) (by decide) (by decide) (by decide)

theorem encodeMoreItems_cons (item : Json) (items : List Json) :
    encodeMoreItems (item :: items) = unit ',' :: encodeItems (item :: items) := by
  rw [encodeMoreItems, encodeItems]

theorem encodeMoreMembers_cons (member : Text × Json) (members : List (Text × Json)) :
    encodeMoreMembers (member :: members) = unit ',' :: encodeMembers (member :: members) := by
  obtain ⟨key, value⟩ := member
  rw [encodeMoreMembers, encodeMembers]

mutual

theorem parseValue_encode : ∀ (value : Json), Exact value → ∀ (fuel : Nat) (rest : Text),
    (encode value).length ≤ fuel → Ends rest →
    parseValue fuel (encode value ++ rest) = some (value, rest)
  | .null, _, fuel, rest, enough, _ => by
      obtain ⟨fuel, rfl⟩ := Nat.exists_eq_add_of_le' (Nat.le_trans (by decide : 1 ≤ 4) enough)
      rfl
  | .bool true, _, fuel, rest, enough, _ => by
      obtain ⟨fuel, rfl⟩ := Nat.exists_eq_add_of_le' (Nat.le_trans (by decide : 1 ≤ 4) enough)
      rfl
  | .bool false, _, fuel, rest, enough, _ => by
      obtain ⟨fuel, rfl⟩ := Nat.exists_eq_add_of_le' (Nat.le_trans (by decide : 1 ≤ 5) enough)
      rfl
  | .int value, _, fuel, rest, enough, ends => by
      obtain ⟨code, more, same, start⟩ := decimalInt_head value.toInt
      have number := parseNumber_decimalInt value ends
      rw [encode] at enough ⊢
      rw [same] at enough number ⊢
      obtain ⟨fuel, rfl⟩ := Nat.exists_eq_add_of_le' (Nat.le_trans (Nat.le_add_left 1 _) enough)
      obtain ⟨solid, notQuote, notBracket, notBrace, _⟩ := number_start start
      rw [List.cons_append] at number ⊢
      simp only [parseValue, skipSpace_cons solid, if_neg notQuote, if_neg notBracket,
        if_neg notBrace, if_pos start, number]
  | .double _, exact, _, _, _, _ => absurd exact id
  | .str value, _, fuel, rest, enough, _ => by
      rw [encode, quoted] at enough ⊢
      obtain ⟨fuel, rfl⟩ := Nat.exists_eq_add_of_le' (Nat.le_trans (Nat.le_add_left 1 _) enough)
      have solid : isSpace (unit '"') = false := by decide
      simp only [List.cons_append, List.append_assoc, List.nil_append, parseValue,
        skipSpace_cons solid, if_true, parseString_escapeFrom value rest, Option.bind_eq_bind,
        Option.bind_some, Option.pure_def]
  | .arr items, exact, fuel, rest, enough, _ => by
      rw [encode] at enough ⊢
      obtain ⟨fuel, rfl⟩ := Nat.exists_eq_add_of_le' (Nat.le_trans (Nat.le_add_left 1 _) enough)
      simp only [List.length_cons, List.length_append, List.length_nil] at enough
      have solid : isSpace (unit '[') = false := by decide
      have notQuote : unit '[' ≠ unit '"' := by decide
      simp only [List.cons_append, List.append_assoc, List.nil_append, parseValue,
        skipSpace_cons solid, if_neg notQuote, if_true]
      cases items with
      | nil =>
          have solid : isSpace (unit ']') = false := by decide
          simp [encodeItems, skipSpace_cons solid]
      | cons item items =>
          obtain ⟨code, more, same, solid, notEnd⟩ := encode_head exact.1
          have first : encodeItems (item :: items) ++ unit ']' :: rest =
              code :: (more ++ encodeMoreItems items ++ unit ']' :: rest) := by
            rw [encodeItems, same]
            rfl
          have open' : (skipSpace (encodeItems (item :: items) ++ unit ']' :: rest)).head? ≠
              some (unit ']') := by
            rw [first, skipSpace_cons solid]
            exact fun closed => notEnd (Option.some.inj closed)
          rw [if_neg open', parseItems_encode (item :: items) exact (List.cons_ne_nil _ _) fuel rest
            (by omega)]
          rfl
  | .obj members, exact, fuel, rest, enough, _ => by
      rw [encode] at enough ⊢
      obtain ⟨fuel, rfl⟩ := Nat.exists_eq_add_of_le' (Nat.le_trans (Nat.le_add_left 1 _) enough)
      simp only [List.length_cons, List.length_append, List.length_nil] at enough
      have solid : isSpace (unit '\x7b') = false := by decide
      have notQuote : unit '\x7b' ≠ unit '"' := by decide
      have notBracket : unit '\x7b' ≠ unit '[' := by decide
      simp only [List.cons_append, List.append_assoc, List.nil_append, parseValue,
        skipSpace_cons solid, if_neg notQuote, if_neg notBracket, if_true]
      cases members with
      | nil =>
          have solid : isSpace (unit '\x7d') = false := by decide
          simp [encodeMembers, skipSpace_cons solid]
      | cons member members =>
          obtain ⟨key, value⟩ := member
          have solid : isSpace (unit '"') = false := by decide
          have open' : (skipSpace (encodeMembers ((key, value) :: members) ++
              unit '\x7d' :: rest)).head? ≠ some (unit '\x7d') := by
            rw [encodeMembers, quoted, List.cons_append, List.cons_append, skipSpace_cons solid]
            exact fun closed => absurd (Option.some.inj closed) (by decide)
          rw [if_neg open', parseMembers_encode ((key, value) :: members) exact
            (List.cons_ne_nil _ _) fuel rest (by omega)]
          rfl

theorem parseItems_encode : ∀ (items : List Json), ExactItems items → items ≠ [] →
    ∀ (fuel : Nat) (rest : Text), (encodeItems items).length + 1 ≤ fuel →
    parseItems fuel (encodeItems items ++ unit ']' :: rest) = some (items, rest)
  | [], _, some', _, _, _ => absurd rfl some'
  | item :: items, exact, _, fuel, rest, enough => by
      obtain ⟨fuel, rfl⟩ := Nat.exists_eq_add_of_le' (Nat.le_trans (Nat.le_add_left 1 _) enough)
      simp only [encodeItems, List.length_append] at enough
      have comma : isSpace (unit ',') = false := by decide
      have bracket : isSpace (unit ']') = false := by decide
      have notComma : unit ']' ≠ unit ',' := by decide
      rw [encodeItems, List.append_assoc, parseItems]
      cases items with
      | nil =>
          rw [encodeMoreItems, List.nil_append, parseValue_encode item exact.1 fuel _ (by omega)
            (ends_bracket rest)]
          simp only [Option.bind_eq_bind, Option.bind_some, skipSpace_cons bracket, if_neg notComma,
            if_true]
      | cons next items =>
          rw [encodeMoreItems_cons, List.length_cons] at enough
          rw [encodeMoreItems_cons, List.cons_append, parseValue_encode item exact.1 fuel _ (by omega)
            (ends_comma _)]
          simp only [Option.bind_eq_bind, Option.bind_some, skipSpace_cons comma, if_true]
          rw [parseItems_encode (next :: items) exact.2 (List.cons_ne_nil _ _) fuel rest (by omega)]
          rfl

theorem parseMembers_encode : ∀ (members : List (Text × Json)), ExactMembers members →
    members ≠ [] → ∀ (fuel : Nat) (rest : Text), (encodeMembers members).length + 1 ≤ fuel →
    parseMembers fuel (encodeMembers members ++ unit '\x7d' :: rest) = some (members, rest)
  | [], _, some', _, _, _ => absurd rfl some'
  | (key, value) :: members, exact, _, fuel, rest, enough => by
      obtain ⟨fuel, rfl⟩ := Nat.exists_eq_add_of_le' (Nat.le_trans (Nat.le_add_left 1 _) enough)
      simp only [encodeMembers, List.length_append, List.length_cons] at enough
      have quote : isSpace (unit '"') = false := by decide
      have colon : isSpace (unit ':') = false := by decide
      have comma : isSpace (unit ',') = false := by decide
      have brace : isSpace (unit '\x7d') = false := by decide
      have notComma : unit '\x7d' ≠ unit ',' := by decide
      rw [encodeMembers, quoted, List.cons_append, List.cons_append, List.append_assoc, parseMembers]
      simp only [skipSpace_cons quote, if_true, List.cons_append, List.append_assoc,
        List.nil_append, parseString_escapeFrom, Option.bind_eq_bind, Option.bind_some,
        skipSpace_cons colon]
      cases members with
      | nil =>
          rw [encodeMoreMembers, List.nil_append, parseValue_encode value exact.1 fuel _ (by omega)
            (ends_brace rest)]
          simp only [Option.bind_some, skipSpace_cons brace, if_neg notComma, if_true]
      | cons next members =>
          rw [encodeMoreMembers_cons, List.length_cons] at enough
          rw [encodeMoreMembers_cons, List.cons_append, parseValue_encode value exact.1 fuel _
            (by omega) (ends_comma _)]
          simp only [Option.bind_some, skipSpace_cons comma, if_true]
          rw [parseMembers_encode (next :: members) exact.2 (List.cons_ne_nil _ _) fuel rest
            (by omega)]
          rfl

end

/-- What is written is read back. -/
theorem decode_encode {value : Json} (exact : Exact value) : decode (encode value) = some value := by
  have parsed := parseValue_encode value exact ((encode value).length + 1) [] (by omega) ends_nil
  rw [List.append_nil] at parsed
  rw [decode, parsed]
  rfl

end Json

end CovertConnect.Data
