import CovertConnect.Data.Json

namespace CovertConnect.Data.JavaScript

/-! # A part of JavaScript: tokens

The lexer takes one character at a time.  A text that uses anything else of the
language is not taken for a script. -/

inductive Mark where
  | openParen | closeParen | openBrace | closeBrace | openBracket | closeBracket
  | semicolon | comma | dot | assign | notEqual | less | greater | plus | increment | minus | or
deriving DecidableEq, Repr

inductive Keyword where
  | function | conditional | for | let | return | break
  /-- A word that is no name, of a construct that is left out. -/
  | reserved
deriving DecidableEq, Repr

inductive Lexeme where
  | mark (mark : Mark)
  | keyword (keyword : Keyword)
  | name (name : String)
  | number (value : Nat)
  | text (value : Text)
  | regex (body : List Char)
deriving DecidableEq, Repr

structure Token where
  /-- Whether it is on a later line than the token before. -/
  newline : Bool
  lexeme : Lexeme
deriving DecidableEq, Repr

/-- The code units of a character. -/
def utf16 (char : Char) : Text :=
  if char.toNat < 0x10000 then [unit char]
  else
    [(0xD800 + (char.toNat - 0x10000) / 0x400).toUInt16,
      (0xDC00 + (char.toNat - 0x10000) % 0x400).toUInt16]

def isLineEnd (char : Char) : Bool :=
  char = '\n' || char = '\r' || char.toNat = 0x2028 || char.toNat = 0x2029

def isBlank (char : Char) : Bool :=
  char = ' ' || char = '\t' || char.toNat = 0xB || char.toNat = 0xC || char.toNat = 0xA0 ||
    char.toNat = 0xFEFF

def startsWord (char : Char) : Bool :=
  char.isAlpha || char = '_' || char = '$'

def reservedWords : List String :=
  ["await", "case", "catch", "class", "const", "continue", "debugger", "default", "delete", "do",
    "else", "enum", "export", "extends", "false", "finally", "import", "in", "instanceof", "new",
    "null", "super", "switch", "this", "throw", "true", "try", "typeof", "var", "void", "while",
    "with", "yield"]

def wordLexeme (word : String) : Lexeme :=
  if word = "function" then .keyword .function
  else if word = "if" then .keyword .conditional
  else if word = "for" then .keyword .for
  else if word = "let" then .keyword .let
  else if word = "return" then .keyword .return
  else if word = "break" then .keyword .break
  else if word ∈ reservedWords then .keyword .reserved
  else .name word

/-- A mark that no second character can belong to. -/
def singleMark (char : Char) : Option Mark :=
  match char with
  | '(' => some .openParen
  | ')' => some .closeParen
  | '\x7b' => some .openBrace
  | '\x7d' => some .closeBrace
  | '[' => some .openBracket
  | ']' => some .closeBracket
  | ';' => some .semicolon
  | ',' => some .comma
  | '.' => some .dot
  | _ => none

/-- A mark of one character that might have had two. -/
def shortMark (char : Char) : Option Mark :=
  match char with
  | '=' => some .assign
  | '<' => some .less
  | '>' => some .greater
  | '+' => some .plus
  | '-' => some .minus
  | _ => none

def longMark (first second : Char) : Option Mark :=
  match first, second with
  | '!', '=' => some .notEqual
  | '+', '+' => some .increment
  | '|', '|' => some .or
  | _, _ => none

/-- The character that an escape sequence of two characters stands for. -/
def escaped (char : Char) : Option Text :=
  if char = 'n' then some [10]
  else if char = 't' then some [9]
  else if char = 'r' then some [13]
  else if char = 'b' then some [8]
  else if char = 'v' then some [11]
  else if char = 'f' then some [12]
  else if char = 'x' ∨ char = 'u' ∨ char.isDigit ∨ isLineEnd char then none
  else some (utf16 char)

inductive Mode where
  | between
  | word (letters : List Char)
  | number (digits : List Char)
  | mark (first : Char)
  | text (quote : Char) (value : Text)
  | escape (quote : Char) (value : Text)
  /-- A slash inside a class or behind a backslash does not end it. -/
  | regex (body : List Char) (inClass escape : Bool)
deriving DecidableEq, Repr

structure Lexer where
  newline : Bool
  previous : Option Lexeme
  mode : Mode
deriving DecidableEq, Repr

namespace Lexer

def start : Lexer where
  newline := false
  previous := none
  mode := .between

def emit (this : Lexer) (lexeme : Lexeme) : List Token × Lexer :=
  ([⟨this.newline, lexeme⟩], ⟨false, some lexeme, .between⟩)

/-- A slash is an operator behind a value, and there is none of those here. -/
def beforeRegex (this : Lexer) : Bool :=
  match this.previous with
  | some (.name _) | some (.number _) | some (.text _) | some (.regex _) => false
  | some (.mark .closeParen) | some (.mark .closeBracket) | some (.mark .closeBrace) => false
  | _ => true

/-- A character that no token is open for. -/
def begin (this : Lexer) (char : Char) : Option (List Token × Lexer) :=
  if isLineEnd char then some ([], { this with newline := true })
  else if isBlank char then some ([], this)
  else if startsWord char then some ([], { this with mode := .word [char] })
  else if char.isDigit then some ([], { this with mode := .number [char] })
  else if char = '"' ∨ char = '\'' then some ([], { this with mode := .text char [] })
  else if char = '/' then
    if this.beforeRegex then some ([], { this with mode := .regex [] false false }) else none
  else
    match singleMark char with
    | some mark => some (this.emit (.mark mark))
    | none =>
        if char = '!' ∨ char = '|' ∨ (shortMark char).isSome then
          some ([], { this with mode := .mark char })
        else none

/-- The open token ends, and the character is not part of it. -/
def next (this : Lexer) (lexeme : Lexeme) (char : Char) : Option (List Token × Lexer) := do
  let (tokens, lexer) ← (this.emit lexeme).2.begin char
  return ((this.emit lexeme).1 ++ tokens, lexer)

def step (this : Lexer) (char : Char) : Option (List Token × Lexer) :=
  match this.mode with
  | .between => this.begin char
  | .word letters =>
      if startsWord char || char.isDigit then
        some ([], { this with mode := .word (letters ++ [char]) })
      else this.next (wordLexeme (String.ofList letters)) char
  | .number digits =>
      if char.isDigit then
        -- A zero in front means another base.
        if digits = ['0'] then none
        else some ([], { this with mode := .number (digits ++ [char]) })
      else this.next (.number (Nat.ofDigitChars 10 digits 0)) char
  | .mark first =>
      match longMark first char with
      | some mark => some (this.emit (.mark mark))
      | none => do
          if char = first ∨ char = '=' ∨ (first = '=' ∧ char = '>') then none
          else
            let mark ← shortMark first
            this.next (.mark mark) char
  | .text quote value =>
      if char = quote then some (this.emit (.text value))
      else if char = '\\' then some ([], { this with mode := .escape quote value })
      else if char = '\n' ∨ char = '\r' then none
      else some ([], { this with mode := .text quote (value ++ utf16 char) })
  | .escape quote value => do
      let text ← escaped char
      return ([], { this with mode := .text quote (value ++ text) })
  | .regex body inClass escape =>
      if isLineEnd char then none
      else if escape then some ([], { this with mode := .regex (body ++ [char]) inClass false })
      else if char = '/' ∧ !inClass then some (this.emit (.regex body))
      else
        some ([], { this with
          mode := .regex (body ++ [char]) ((inClass || char = '[') && char ≠ ']') (char = '\\') })

def run (this : Lexer) : List Char → Option (List Token × Lexer)
  | [] => some ([], this)
  | char :: source => do
      let (tokens, lexer) ← this.step char
      let (more, last) ← lexer.run source
      return (tokens ++ more, last)

/-- The end of the text ends the open token. -/
def finish (this : Lexer) : Option (List Token) :=
  match this.mode with
  | .between => some []
  | .word letters => some (this.emit (wordLexeme (String.ofList letters))).1
  | .number digits => some (this.emit (.number (Nat.ofDigitChars 10 digits 0))).1
  | .mark first => (shortMark first).map fun mark => (this.emit (.mark mark)).1
  | .text _ _ | .escape _ _ | .regex _ _ _ => none

end Lexer

def tokens (source : List Char) : Option (List Token) := do
  let (tokens, last) ← Lexer.start.run source
  let more ← last.finish
  return tokens ++ more

namespace Lexer

theorem run_append_eq (this : Lexer) (front back : List Char) :
    this.run (front ++ back) = (this.run front).bind fun (tokens, middle) =>
      (middle.run back).map fun (more, last) => (tokens ++ more, last) := by
  induction front generalizing this with
  | nil => cases rest : this.run back <;> simp [run, rest]
  | cons char front ih =>
      rw [List.cons_append, run, run]
      cases this.step char with
      | none => rfl
      | some result =>
          obtain ⟨emitted, lexer⟩ := result
          simp only [Option.bind_eq_bind, Option.bind_some, ih]
          cases lexer.run front with
          | none => rfl
          | some result =>
              obtain ⟨tokens, middle⟩ := result
              cases rest : middle.run back <;> simp [rest]

theorem run_append {this middle last : Lexer} {front back : List Char} {tokens more : List Token}
    (first : this.run front = some (tokens, middle))
    (second : middle.run back = some (more, last)) :
    this.run (front ++ back) = some (tokens ++ more, last) := by
  simp only [run_append_eq, first, Option.bind_some, second, Option.map_some]

theorem run_append_inv {this middle last : Lexer} {front back : List Char} {tokens all : List Token}
    (first : this.run front = some (tokens, middle))
    (run : this.run (front ++ back) = some (all, last)) :
    ∃ more, middle.run back = some (more, last) ∧ all = tokens ++ more := by
  simp only [run_append_eq, first, Option.bind_some, Option.map_eq_some_iff] at run
  obtain ⟨⟨more, _⟩, second, same⟩ := run
  cases same
  exact ⟨more, second, rfl⟩

/-- A character that stands for itself between quotes. -/
def Plain (quote char : Char) : Prop :=
  char ≠ quote ∧ char ≠ '\\' ∧ char ≠ '\n' ∧ char ≠ '\r'

theorem run_text {newline : Bool} {previous : Option Lexeme} {quote : Char} {value : Text}
    {source : List Char} (plain : ∀ char ∈ source, Plain quote char) :
    (Lexer.mk newline previous (.text quote value)).run source =
      some ([], ⟨newline, previous, .text quote (value ++ source.flatMap utf16)⟩) := by
  induction source generalizing value with
  | nil => simp [run]
  | cons char source ih =>
      obtain ⟨⟨notQuote, notSlash, notLine, notReturn⟩, later⟩ := List.forall_mem_cons.mp plain
      rw [run]
      simp only [step, if_neg notQuote, if_neg notSlash,
        if_neg (not_or.mpr ⟨notLine, notReturn⟩), Option.bind_eq_bind, Option.bind_some, ih later,
        List.nil_append, List.flatMap_cons, List.append_assoc, pure]

end Lexer

/-- Inside a line and between two tokens, the text gives the tokens and leaves
the lexer there. -/
def Lexes (source : List Char) (tokens : List Token) : Prop :=
  ∀ previous, ∃ last,
    (Lexer.mk false previous .between).run source = some (tokens, ⟨false, last, .between⟩)

namespace Lexes

theorem nil : Lexes [] [] :=
  fun previous => ⟨previous, rfl⟩

theorem append {front back : List Char} {tokens more : List Token} (first : Lexes front tokens)
    (second : Lexes back more) : Lexes (front ++ back) (tokens ++ more) := by
  intro previous
  obtain ⟨middle, run⟩ := first previous
  obtain ⟨last, runBack⟩ := second middle
  exact ⟨last, Lexer.run_append run runBack⟩

theorem flatMap {α : Type} {items : List α} {text : α → List Char} {tokens : α → List Token}
    (each : ∀ item ∈ items, Lexes (text item) (tokens item)) :
    Lexes (items.flatMap text) (items.flatMap tokens) := by
  induction items with
  | nil => exact nil
  | cons item items ih =>
      rw [List.forall_mem_cons] at each
      exact each.1.append (ih each.2)

theorem mark {char : Char} {mark : Mark} (single : singleMark char = some mark) :
    Lexes [char] [⟨false, .mark mark⟩] := by
  intro previous
  unfold singleMark at single
  split at single <;> cases single <;> exact ⟨_, rfl⟩

theorem text {quote : Char} {source : List Char} (isQuote : quote = '"' ∨ quote = '\'')
    (plain : ∀ char ∈ source, Lexer.Plain quote char) :
    Lexes (quote :: (source ++ [quote])) [⟨false, .text (source.flatMap utf16)⟩] := by
  intro previous
  have opened : (Lexer.mk false previous .between).run [quote] =
      some ([], ⟨false, previous, .text quote []⟩) := by
    rcases isQuote with rfl | rfl <;> rfl
  have closed : (Lexer.mk false previous (.text quote (source.flatMap utf16))).run [quote] =
      some ([⟨false, .text (source.flatMap utf16)⟩],
        ⟨false, some (.text (source.flatMap utf16)), .between⟩) := by
    simp [Lexer.run, Lexer.step, Lexer.emit]
  exact ⟨_, Lexer.run_append opened (Lexer.run_append (Lexer.run_text plain) closed)⟩

end Lexes

end CovertConnect.Data.JavaScript
