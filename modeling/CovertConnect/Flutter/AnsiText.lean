import CovertConnect.Data.Labels
import CovertConnect.Data.Matches
import CovertConnect.Flutter.DartInt
import Mathlib.Data.List.TakeWhile

namespace CovertConnect.Flutter

open CovertConnect.Data

/-! # The colours of a log message

`LogMessage` shows a message in spans: the colour escapes of a terminal change
the style of what follows and are not shown themselves. -/

inductive Brightness where
  | dark
  | light
deriving DecidableEq, Repr

/-- `darkened` has seven tenths of the lightness. -/
inductive Color where
  | black | red | green | blue | purple | cyan | white
  | grey | redAccent | lightGreenAccent | yellowAccent | lightBlueAccent | pinkAccent | cyanAccent
  | grey600
  | fromARGB (alpha red green blue : UInt8)
  | darkened (color : Color)
deriving DecidableEq, Repr

inductive FontWeight where
  | w300
  | bold
deriving DecidableEq, Repr

inductive FontStyle where
  | italic
deriving DecidableEq, Repr

inductive TextDecoration where
  | underline
  | lineThrough
deriving DecidableEq, Repr

structure TextStyle where
  fontFamily : Option String := none
  fontSize : Option Nat := none
  height : Option Nat := none
  fontWeight : Option FontWeight := none
  fontStyle : Option FontStyle := none
  decoration : Option TextDecoration := none
  color : Option Color := none
  backgroundColor : Option Color := none
deriving DecidableEq, Repr

/-- What is null in the changes stays as it was. -/
def TextStyle.copyWith (this changes : TextStyle) : TextStyle where
  fontFamily := changes.fontFamily.or this.fontFamily
  fontSize := changes.fontSize.or this.fontSize
  height := changes.height.or this.height
  fontWeight := changes.fontWeight.or this.fontWeight
  fontStyle := changes.fontStyle.or this.fontStyle
  decoration := changes.decoration.or this.decoration
  color := changes.color.or this.color
  backgroundColor := changes.backgroundColor.or this.backgroundColor

def thinTextStyle : TextStyle where
  fontFamily := some "Inter"
  fontSize := some 12
  height := some 1
  fontWeight := some .w300

structure TextSpan where
  text : Text
  style : TextStyle
deriving DecidableEq, Repr

def ansiReset : Int := 0
def ansiBold : Int := 1
def ansiFaint : Int := 2
def ansiItalic : Int := 3
def ansiUnderline : Int := 4
def ansiStrike : Int := 9
def ansiForegroundStart : Int := 30
def ansiForegroundEnd : Int := 37
def ansiForeground : Int := 38
def ansiDefaultForeground : Int := 39
def ansiBackgroundStart : Int := 40
def ansiBackgroundEnd : Int := 47
def ansiBackground : Int := 48
def ansiDefaultBackground : Int := 49
def ansiBrightForegroundStart : Int := 90
def ansiBrightForegroundEnd : Int := 97
def ansiBrightBackgroundStart : Int := 100
def ansiBrightBackgroundEnd : Int := 107
def ansiColorRGB : Int := 2
def ansiColorIndex : Int := 5

def updateBrightness (color : Color) : Brightness → Color
  | .dark => color
  | .light => .darkened color

/-- A list throws a `RangeError`, which is an `ArgumentError`. -/
def colorAt (colors : List Color) (index : Int) (brightness : Brightness) :
    Except DartError Color :=
  match (if 0 ≤ index then colors[index.toNat]? else none) with
  | some color => .ok (updateBrightness color brightness)
  | none => .error .argumentError

def basicColor : (index : Int) → Brightness → Except DartError Color :=
  colorAt [.black, .red, .green, .fromARGB 0xFF 0xFD 0xD8 0x35, .blue, .purple, .cyan, .white]

def brightColor : (index : Int) → Brightness → Except DartError Color :=
  colorAt [.grey, .redAccent, .lightGreenAccent, .yellowAccent, .lightBlueAccent, .pinkAccent,
    .cyanAccent, .white]

/-- A channel is its lowest eight bits. -/
def channel (value : Int) : UInt8 :=
  UInt8.ofNat (value % 256).toNat

/-- How many more codes an extended colour takes, and the colour; both are null
together. -/
def getColor (codes : List Int) (index : Nat) (brightness : Brightness) :
    Except DartError (Option (Nat × Color)) := do
  if index + 1 < codes.length then
    if index + 4 < codes.length ∧ codes.getD (index + 1) 0 = ansiColorRGB then
      let color := Color.fromARGB 255 (channel (codes.getD (index + 2) 0))
        (channel (codes.getD (index + 3) 0)) (channel (codes.getD (index + 4) 0))
      return some (4, updateBrightness color brightness)
    else if index + 2 < codes.length ∧ codes.getD (index + 1) 0 = ansiColorIndex then
      let color ← basicColor (codes.getD (index + 2) 0) brightness
      return some (2, updateBrightness color brightness)
    else return none
  else return none

/-- One turn of the loop over the codes: the new style, and how far `index`
moves besides the step to the next code. -/
def applyCode (codes : List Int) (brightness : Brightness) (index : Nat) (style : TextStyle) :
    Except DartError (TextStyle × Nat) := do
  let code := codes.getD index 0
  if code = ansiReset then return ({}, 0)
  else if code = ansiBold then return (style.copyWith { fontWeight := some .bold }, 0)
  else if code = ansiFaint then return (thinTextStyle.copyWith { color := some .grey600 }, 0)
  else if code = ansiItalic then return (style.copyWith { fontStyle := some .italic }, 0)
  else if code = ansiUnderline then return (style.copyWith { decoration := some .underline }, 0)
  else if code = ansiStrike then return (style.copyWith { decoration := some .lineThrough }, 0)
  else if ansiForegroundStart ≤ code ∧ code ≤ ansiForegroundEnd then
    let color ← basicColor (code - ansiForegroundStart) brightness
    return (style.copyWith { color := some color }, 0)
  else if code = ansiForeground then
    match ← getColor codes index brightness with
    | some (len, color) => return (style.copyWith { color := some color }, len)
    | none => return (style, 0)
  else if code = ansiDefaultForeground then return (style.copyWith { color := none }, 0)
  else if ansiBackgroundStart ≤ code ∧ code ≤ ansiBackgroundEnd then
    let color ← basicColor (code - ansiBackgroundStart) brightness
    return (style.copyWith { backgroundColor := some color }, 0)
  else if code = ansiBackground then
    match ← getColor codes index brightness with
    | some (len, color) => return (style.copyWith { backgroundColor := some color }, len)
    | none => return (style, 0)
  else if code = ansiDefaultBackground then
    return (style.copyWith { backgroundColor := none }, 0)
  else if ansiBrightForegroundStart ≤ code ∧ code ≤ ansiBrightForegroundEnd then
    let color ← brightColor (code - ansiBrightForegroundStart) brightness
    return (style.copyWith { color := some color }, 0)
  else if ansiBrightBackgroundStart ≤ code ∧ code ≤ ansiBrightBackgroundEnd then
    let color ← brightColor (code - ansiBrightBackgroundStart) brightness
    return (style.copyWith { backgroundColor := some color }, 0)
  else return (style, 0)

def applyCodes (codes : List Int) (brightness : Brightness) (index : Nat) (style : TextStyle) :
    Except DartError TextStyle :=
  if index < codes.length then do
    let (style, len) ← applyCode codes brightness index style
    applyCodes codes brightness (index + len + 1) style
  else .ok style
termination_by codes.length - index

def parseCodes (group : Text) : Except DartError (List Int) :=
  (group.splitOn (unit ';')).mapM parseInt

def isParameter (code : UInt16) : Bool :=
  Json.isDigit code || code = unit ';'

/-- `\\x1B\\[([0-9;]+)m` at the beginning of a text. -/
def regexColors : Text → Option (Nat × Text)
  | escape :: bracket :: rest =>
      let group := rest.takeWhile isParameter
      if escape = 0x1B ∧ bracket = unit '[' ∧ group ≠ [] ∧
          rest[group.length]? = some (unit 'm') then
        some (group.length + 3, group)
      else none
  | _ => none

def isLineTerminator (code : UInt16) : Bool :=
  code ∈ [0x0A, 0x0D, 0x2028, 0x2029]

def isDomainUnit (code : UInt16) : Bool :=
  (unit 'a' ≤ code && code ≤ unit 'z') || (unit 'A' ≤ code && code ≤ unit 'Z') ||
    Json.isDigit code || code = unit '.' || code = unit '-'

def lowerCase (code : UInt16) : UInt16 :=
  if unit 'A' ≤ code ∧ code ≤ unit 'Z' then code + 32 else code

def connectingWords : Text := ascii " connecting to "

/-- The pattern behind the path: the domain and the port. -/
def connectingTail (text : Text) : Option (Text × Text) :=
  let rest := text.drop connectingWords.length
  let domain := rest.takeWhile isDomainUnit
  let port := rest.drop (domain.length + 1)
  if (text.take connectingWords.length).map lowerCase = connectingWords ∧ domain ≠ [] ∧
      rest[domain.length]? = some (unit ':') ∧ port ≠ [] ∧ port.all Json.isDigit then
    some (domain, port)
  else none

/-- The shortest path that the rest of the pattern follows. -/
def connectingFrom (path : Text) : Text → Option (Text × Text × Text)
  | [] => none
  | code :: rest =>
      if isLineTerminator code then none
      else
        match connectingTail rest with
        | some (domain, port) => some (path ++ [code], domain, port)
        | none => connectingFrom (path ++ [code]) rest

/-- The groups of `connectingMessageRegex`. -/
def connectingMessage (text : Text) : Option (Text × Text × Text) :=
  connectingFrom [] text

def isPathDelimeter (code : UInt16) : Bool :=
  code = unit '\\' || code = unit '/'

/-- What follows the last delimiter. -/
def fileName (path : Text) : Text :=
  (path.reverse.takeWhile (!isPathDelimeter ·)).reverse

def addSpanEx (text : Text) (style : TextStyle) : List TextSpan :=
  match connectingMessage text with
  | none => [⟨text, style⟩]
  | some (path, domain, port) =>
      [⟨fileName path, thinTextStyle⟩, ⟨ascii " -> ", style⟩, ⟨domain, thinTextStyle⟩] ++
        if port ≠ ascii "443" then [⟨unit ':' :: port, thinTextStyle⟩] else []

def parseMatches (text : Text) (brightness : Brightness) :
    List (Match Text) → (lastIndex : Nat) → TextStyle → Except DartError (List TextSpan)
  | [], lastIndex, style =>
      return if lastIndex < text.length then addSpanEx (text.drop lastIndex) style else []
  | first :: matches', lastIndex, style => do
      let before := substring text lastIndex first.start
      let spans := if before ≠ [] then addSpanEx before style else []
      let codes ← parseCodes first.group
      let style ← applyCodes codes brightness 0 style
      return spans ++ (← parseMatches text brightness matches' first.stop style)

def parseAnsi (text : Text) (brightness : Brightness) : Except DartError (List TextSpan) :=
  parseMatches text brightness (allMatches regexColors text) 0 {}

def isExtended (code : Int) : Bool :=
  code = ansiForeground || code = ansiBackground

/-- The palette indexes that some codes ask for; `skip` codes belong to a colour
that is already read. -/
def indexedFrom : List Int → (skip : Nat) → List Int
  | [], _ => []
  | _ :: rest, skip + 1 => indexedFrom rest skip
  | code :: rest, 0 =>
      if isExtended code then
        if 4 ≤ rest.length ∧ rest.getD 0 0 = ansiColorRGB then indexedFrom rest 4
        else if 2 ≤ rest.length ∧ rest.getD 0 0 = ansiColorIndex then
          rest.getD 1 0 :: indexedFrom rest 2
        else indexedFrom rest 0
      else indexedFrom rest 0

variable {codes rest : List Int} {code : Int} {brightness : Brightness} {index skip : Nat}
  {style : TextStyle}

theorem colorAt_ok_iff {colors : List Color} {index : Int} :
    (∃ color, colorAt colors index brightness = .ok color) ↔
      0 ≤ index ∧ index < colors.length := by
  by_cases low : 0 ≤ index
  · by_cases high : index < colors.length
    · simp [colorAt, low, high]
    · simp [colorAt, low, high]
  · simp [colorAt, low]

theorem basicColor_ok_iff {index : Int} :
    (∃ color, basicColor index brightness = .ok color) ↔ 0 ≤ index ∧ index < 8 :=
  colorAt_ok_iff

/-- The codes from `index` on. -/
theorem getColor_eq (here : codes.drop index = code :: rest) :
    getColor codes index brightness =
      if 4 ≤ rest.length ∧ rest.getD 0 0 = ansiColorRGB then
        .ok (some (4, updateBrightness (.fromARGB 255 (channel (rest.getD 1 0))
          (channel (rest.getD 2 0)) (channel (rest.getD 3 0))) brightness))
      else if 2 ≤ rest.length ∧ rest.getD 0 0 = ansiColorIndex then
        (basicColor (rest.getD 1 0) brightness).map fun color =>
          some (2, updateBrightness color brightness)
      else .ok none := by
  have size := congrArg List.length here
  rw [List.length_drop, List.length_cons] at size
  have next : ∀ step, codes.getD (index + (step + 1)) 0 = rest.getD step 0 := by
    intro step
    rw [List.getD_eq_getElem?_getD, ← List.getElem?_drop, here, List.getElem?_cons_succ,
      List.getD_eq_getElem?_getD]
  rw [getColor, next 0, next 1, next 2, next 3]
  have rgb : index + 4 < codes.length ↔ 4 ≤ rest.length := by omega
  have indexed : index + 2 < codes.length ↔ 2 ≤ rest.length := by omega
  have any : index + 1 < codes.length ↔ 1 ≤ rest.length := by omega
  simp only [rgb, indexed, any]
  by_cases isRgb : 4 ≤ rest.length ∧ rest.getD 0 0 = ansiColorRGB
  · rw [if_pos (by omega), if_pos isRgb, if_pos isRgb]
    rfl
  · rw [if_neg isRgb, if_neg isRgb]
    by_cases isIndexed : 2 ≤ rest.length ∧ rest.getD 0 0 = ansiColorIndex
    · rw [if_pos (by omega), if_pos isIndexed, if_pos isIndexed]
      rfl
    · rw [if_neg isIndexed, if_neg isIndexed, ite_self]
      rfl

/-- The turn ends normally and takes no further code. -/
def Stays (turn : Except DartError (TextStyle × Nat)) : Prop :=
  ∃ after, turn = .ok (after, 0)

theorem Stays.ite {condition : Prop} [Decidable condition]
    {yes no : Except DartError (TextStyle × Nat)} (first : condition → Stays yes)
    (second : Stays no) : Stays (if condition then yes else no) := by
  split
  · exact first ‹_›
  · exact second

theorem Stays.within {palette : List Color} {first code : Int} (styled : Color → TextStyle)
    (size : palette.length = 8) (bounds : first ≤ code ∧ code ≤ first + 7) :
    Stays (do return (styled (← colorAt palette (code - first) brightness), 0)) := by
  obtain ⟨color, found⟩ := (@colorAt_ok_iff brightness palette (code - first)).mpr (by omega)
  exact ⟨styled color, by rw [found]; rfl⟩

/-- The other colours are in the palettes. -/
theorem applyCode_plain (plain : isExtended (codes.getD index 0) = false) :
    Stays (applyCode codes brightness index style) := by
  rw [applyCode]
  generalize codes.getD index 0 = code at plain ⊢
  simp only [isExtended, Bool.or_eq_false_iff, decide_eq_false_iff_not] at plain
  rw [if_neg plain.1, if_neg plain.2]
  iterate 6 refine .ite (fun _ => ⟨_, rfl⟩) ?_
  refine .ite (.within (fun color => style.copyWith { color := some color }) rfl) ?_
  refine .ite (fun _ => ⟨_, rfl⟩) ?_
  refine .ite (.within (fun color => style.copyWith { backgroundColor := some color }) rfl) ?_
  refine .ite (fun _ => ⟨_, rfl⟩) ?_
  refine .ite (.within (fun color => style.copyWith { color := some color }) rfl) ?_
  exact .ite (.within (fun color => style.copyWith { backgroundColor := some color }) rfl) ⟨_, rfl⟩

theorem applyCode_extended (extended : isExtended (codes.getD index 0) = true) :
    ∃ styled : Color → TextStyle, applyCode codes brightness index style =
      (getColor codes index brightness).map fun found =>
        found.elim (style, 0) fun (len, color) => (styled color, len) := by
  have mapped : ∀ styled : Color → TextStyle,
      (do
        match ← getColor codes index brightness with
        | some (len, color) => return (styled color, len)
        | none => return (style, 0) : Except DartError (TextStyle × Nat)) =
      (getColor codes index brightness).map fun found =>
        found.elim (style, 0) fun (len, color) => (styled color, len) := by
    intro styled
    rcases getColor codes index brightness with error | _ | ⟨len, color⟩ <;> rfl
  simp only [isExtended, Bool.or_eq_true, decide_eq_true_iff] at extended
  rw [applyCode]
  rcases extended with foreground | background
  · rw [foreground]
    iterate 7 rw [if_neg (by decide)]
    rw [if_pos rfl]
    exact ⟨fun color => style.copyWith { color := some color }, mapped _⟩
  · rw [background]
    iterate 10 rw [if_neg (by decide)]
    rw [if_pos rfl]
    exact ⟨fun color => style.copyWith { backgroundColor := some color }, mapped _⟩

/-- The loop ends normally when all the palette indexes are in the palette; it
has come to `index`, and the next `skip` codes are a colour. -/
theorem applyCodes_ok_iff (rest : List Int) (here : codes.drop index = rest) :
    (∃ after, applyCodes codes brightness (index + skip) style = .ok after) ↔
      ∀ color ∈ indexedFrom rest skip, 0 ≤ color ∧ color < 8 := by
  induction rest generalizing index skip style with
  | nil =>
      have ends : codes.length ≤ index := List.drop_eq_nil_iff.mp here
      rw [applyCodes, if_neg (by omega)]
      simp [indexedFrom]
  | cons code rest ih =>
      have next : codes.drop (index + 1) = rest := drop_succ_of_drop here
      cases skip with
      | succ skip => rw [indexedFrom, ← ih next, Nat.add_assoc index 1, Nat.add_comm 1]
      | zero =>
          have first : codes.getD index 0 = code := by
            rw [List.getD_eq_getElem?_getD, ← List.head?_drop, here]
            rfl
          have inside : index < codes.length := by
            have size := congrArg List.length here
            rw [List.length_drop, List.length_cons] at size
            omega
          have turned : ∀ {len after}, applyCode codes brightness index style = .ok (after, len) →
              ((∃ ends, applyCodes codes brightness index style = .ok ends) ↔
                ∀ color ∈ indexedFrom rest len, 0 ≤ color ∧ color < 8) := by
            intro len after turn
            rw [← ih next, applyCodes, if_pos inside, turn, Nat.add_right_comm]
            rfl
          rw [Nat.add_zero, indexedFrom]
          by_cases extended : isExtended code = true
          · rw [if_pos extended]
            obtain ⟨styled, turn⟩ := applyCode_extended (first ▸ extended)
            rw [getColor_eq here] at turn
            by_cases rgb : 4 ≤ rest.length ∧ rest.getD 0 0 = ansiColorRGB
            · rw [if_pos rgb] at turn ⊢
              exact turned turn
            · rw [if_neg rgb] at turn ⊢
              by_cases indexed : 2 ≤ rest.length ∧ rest.getD 0 0 = ansiColorIndex
              · rw [if_pos indexed] at turn ⊢
                rw [List.forall_mem_cons]
                cases found : basicColor (rest.getD 1 0) brightness with
                | error error =>
                    rw [← @basicColor_ok_iff brightness, found]
                    rw [found] at turn
                    rw [applyCodes, if_pos inside, turn]
                    simp [Except.map, bind, Except.bind]
                | ok color =>
                    rw [found] at turn
                    rw [and_iff_right (basicColor_ok_iff.mp ⟨color, found⟩)]
                    exact turned turn
              · rw [if_neg indexed] at turn ⊢
                exact turned turn
          · rw [if_neg extended]
            obtain ⟨after, turn⟩ := applyCode_plain (first ▸ Bool.eq_false_iff.mpr extended)
            exact turned turn

/-- The numbers between the semicolons. -/
def parameters (group : Text) : List Int :=
  (group.splitOn (unit ';')).map fun part => ↑(Json.digitsValue part)

/-- There is a number of 64 bits between any two semicolons, and colours are
taken from the palette by the numbers that it has. -/
structure Supported (group : Text) : Prop where
  numbers : ∀ part ∈ group.splitOn (unit ';'), part ≠ [] ∧ Json.digitsValue part < 2 ^ 63
  palette : ∀ color ∈ indexedFrom (parameters group) 0, 0 ≤ color ∧ color < 8

theorem parseCodes_eq_ok {group : Text} (all : ∀ code ∈ group, isParameter code = true) :
    parseCodes group = .ok codes ↔
      (∀ part ∈ group.splitOn (unit ';'), part ≠ [] ∧ Json.digitsValue part < 2 ^ 63) ∧
        codes = parameters group := by
  refine except_mapM_eq_ok fun part there value => ?_
  have digits : ∀ code ∈ part, Json.isDigit code = true := by
    intro code inside
    obtain ⟨inGroup, notSeparator⟩ := mem_of_mem_splitOn there inside
    have parameter := all code inGroup
    rwa [isParameter, Bool.or_eq_true, or_iff_left (by simpa using notSeparator)] at parameter
  rw [parseInt_digits_iff digits, ← and_assoc]

theorem escape_ok_iff {group : Text} (all : ∀ code ∈ group, isParameter code = true) :
    (∃ codes, parseCodes group = .ok codes ∧
      ∃ after, applyCodes codes brightness 0 style = .ok after) ↔ Supported group := by
  simp only [parseCodes_eq_ok all]
  refine ⟨fun applied => ?_, fun supported => ?_⟩
  · obtain ⟨_, ⟨numbers, rfl⟩, ends⟩ := applied
    exact ⟨numbers, (@applyCodes_ok_iff _ brightness 0 0 style _ rfl).mp ends⟩
  · exact ⟨_, ⟨supported.numbers, rfl⟩, (@applyCodes_ok_iff _ brightness 0 0 style _ rfl).mpr supported.palette⟩

variable {text : Text} {lastIndex : Nat}

theorem parseMatches_ok_iff {matches' : List (Match Text)}
    (all : ∀ found ∈ matches', ∀ code ∈ found.group, isParameter code = true) :
    (∃ spans, parseMatches text brightness matches' lastIndex style = .ok spans) ↔
      ∀ found ∈ matches', Supported found.group := by
  induction matches' generalizing lastIndex style with
  | nil => exact iff_of_true ⟨_, rfl⟩ (by simp)
  | cons first matches' ih =>
      rw [List.forall_mem_cons] at all ⊢
      rw [← @escape_ok_iff brightness style _ all.1, parseMatches]
      simp only [except_bind_eq_ok]
      refine ⟨fun parsed => ?_, fun supported => ?_⟩
      · obtain ⟨_, codes, read, after, applied, spans, later, _⟩ := parsed
        exact ⟨⟨codes, read, after, applied⟩, (ih all.2).mp ⟨spans, later⟩⟩
      · obtain ⟨⟨codes, read, after, applied⟩, later⟩ := supported
        obtain ⟨spans, shown⟩ := (@ih after first.stop all.2).mpr later
        exact ⟨_, codes, read, after, applied, spans, shown, rfl⟩

/-- The text that the spans show. -/
def shownText (spans : List TextSpan) : Text :=
  spans.flatMap TextSpan.text

theorem shownText_addSpanEx {part : Text} (plain : connectingMessage part = none) :
    shownText (addSpanEx part style) = part := by
  rw [addSpanEx, plain]
  exact List.append_nil part

theorem parseMatches_text {matches' : List (Match Text)} {spans : List TextSpan}
    (parsed : parseMatches text brightness matches' lastIndex style = .ok spans)
    (plain : ∀ part ∈ gaps text lastIndex matches', connectingMessage part = none) :
    shownText spans = (gaps text lastIndex matches').flatten := by
  induction matches' generalizing lastIndex style spans with
  | nil =>
      have last := plain _ List.mem_cons_self
      cases parsed
      rw [gaps, List.flatten_singleton]
      by_cases some' : lastIndex < text.length
      · rw [if_pos some', shownText_addSpanEx last]
      · rw [if_neg some', List.drop_eq_nil_of_le (Nat.not_lt.mp some')]
        rfl
  | cons first matches' ih =>
      rw [gaps, List.forall_mem_cons] at plain
      rw [parseMatches] at parsed
      simp only [except_bind_eq_ok] at parsed
      obtain ⟨codes, _, after, _, later, shown, joined⟩ := parsed
      cases joined
      rw [gaps, List.flatten_cons, ← ih shown plain.2, shownText, List.flatMap_append]
      by_cases some' : substring text lastIndex first.start ≠ []
      · rw [if_pos some']
        exact congrArg (· ++ _) (shownText_addSpanEx plain.1)
      · rw [if_neg some', not_not.mp some']
        rfl

theorem regexColors_eq_some {length : Nat} {group : Text}
    (found : regexColors text = some (length, group)) :
    (0 < length ∧ length ≤ text.length) ∧ ∀ code ∈ group, isParameter code = true := by
  match text with
  | [] | [_] => exact nomatch found
  | escape :: bracket :: rest =>
      rw [regexColors] at found
      split at found
      · rename_i matched
        cases found
        obtain ⟨inside, _⟩ := List.getElem?_eq_some_iff.mp matched.2.2.2
        refine ⟨⟨Nat.succ_pos _, ?_⟩, fun code there => List.mem_takeWhile_imp there⟩
        simp only [List.length_cons]
        omega
      · exact nomatch found

/-- The parts of the message around its escapes. -/
def parts (text : Text) : List Text :=
  gaps text 0 (allMatches regexColors text)

/-- A message is shown without its escapes exactly when each of them is
supported. -/
theorem parseAnsi_shows_iff (text : Text) (brightness : Brightness) :
    (∃ spans, parseAnsi text brightness = .ok spans ∧
      ((∀ part ∈ parts text, connectingMessage part = none) →
        shownText spans = removeMatches regexColors text)) ↔
      ∀ found ∈ allMatches regexColors text, Supported found.group := by
  have all : ∀ found ∈ allMatches regexColors text, ∀ code ∈ found.group, isParameter code = true :=
    fun _ there =>
      @group_of_mem _ _ _ (fun group => ∀ code ∈ group, isParameter code = true)
        (fun _ _ _ matched => (regexColors_eq_some matched).2) _ _ _ _ there
  rw [← parseMatches_ok_iff all]
  refine ⟨fun shown => ?_, fun parsed => ?_⟩
  · obtain ⟨spans, parsed, _⟩ := shown
    exact ⟨spans, parsed⟩
  · obtain ⟨spans, parsed⟩ := parsed
    refine ⟨spans, parsed, fun plain => ?_⟩
    rw [parseMatches_text parsed plain]
    exact gaps_flatten (fun _ _ _ matched => (regexColors_eq_some matched).1) text

/-- A semicolon with nothing beside it is no number. -/
theorem empty_parameter_throws :
    parseAnsi (ascii "\x1b[;m") .dark = .error .formatException := by decide

end CovertConnect.Flutter
