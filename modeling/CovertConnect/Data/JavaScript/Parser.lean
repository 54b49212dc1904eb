import CovertConnect.Data.JavaScript.Lexer

namespace CovertConnect.Data.JavaScript

/-! # A part of JavaScript: syntax

Expressions and statements, and a parser that inserts semicolons where the
language does.  The parser takes fuel for the depth it descends to. -/

inductive Operator where
  | or | notEqual | less | greater | plus | minus
deriving DecidableEq, Repr

inductive Expr where
  | number (value : Nat)
  | text (value : Text)
  | regex (body : List Char)
  | name (name : String)
  | array (items : List Expr)
  | member (object : Expr) (name : String)
  | index (object position : Expr)
  | call (callee : Expr) (arguments : List Expr)
  | negate (operand : Expr)
  | binary (operator : Operator) (left right : Expr)
  | assign (name : String) (value : Expr)
  | increment (name : String)

inductive Stmt where
  | expr (expr : Expr)
  | conditional (condition : Expr) (body : Stmt)
  /-- `for (let name = init; condition; update) body`. -/
  | forLet (name : String) (init condition update : Expr) (body : Stmt)
  | return (value : Option Expr)
  | break
  | block (statements : List Stmt)

structure Function where
  name : String
  parameters : List String
  body : List Stmt

namespace Parser

def skip (mark : Mark) : List Token → Option (List Token)
  | ⟨_, .mark found⟩ :: rest => if found = mark then some rest else none
  | _ => none

/-- Operators that bind closer have a higher level. -/
def level : Operator → Nat
  | .or => 0
  | .notEqual => 1
  | .less | .greater => 2
  | .plus | .minus => 3

def operator : List Token → Option (Operator × List Token)
  | ⟨_, .mark .or⟩ :: rest => some (.or, rest)
  | ⟨_, .mark .notEqual⟩ :: rest => some (.notEqual, rest)
  | ⟨_, .mark .less⟩ :: rest => some (.less, rest)
  | ⟨_, .mark .greater⟩ :: rest => some (.greater, rest)
  | ⟨_, .mark .plus⟩ :: rest => some (.plus, rest)
  | ⟨_, .mark .minus⟩ :: rest => some (.minus, rest)
  | _ => none

mutual

def parseExpr : Nat → List Token → Option (Expr × List Token)
  | 0, _ => none
  | fuel + 1, ⟨_, .name name⟩ :: ⟨_, .mark .assign⟩ :: rest => do
      let (value, rest) ← parseExpr fuel rest
      return (.assign name value, rest)
  | fuel + 1, tokens => parseBinary fuel 0 tokens

/-- Operands and the operators from a level on. -/
def parseBinary : Nat → Nat → List Token → Option (Expr × List Token)
  | 0, _, _ => none
  | fuel + 1, least, tokens => do
      let (left, rest) ← parseUnary fuel tokens
      parseOperators fuel least left rest

def parseOperators : Nat → Nat → Expr → List Token → Option (Expr × List Token)
  | 0, _, _, _ => none
  | fuel + 1, least, left, tokens =>
      match operator tokens with
      | none => some (left, tokens)
      | some (operator, rest) =>
          if least ≤ level operator then do
            let (right, rest) ← parseBinary fuel (level operator + 1) rest
            parseOperators fuel least (.binary operator left right) rest
          else some (left, tokens)

def parseUnary : Nat → List Token → Option (Expr × List Token)
  | 0, _ => none
  | fuel + 1, ⟨_, .mark .minus⟩ :: rest => do
      let (operand, rest) ← parseUnary fuel rest
      return (.negate operand, rest)
  | fuel + 1, tokens => do
      let (expr, rest) ← parsePrimary fuel tokens
      parseSuffixes fuel expr rest

def parsePrimary : Nat → List Token → Option (Expr × List Token)
  | 0, _ => none
  | _ + 1, ⟨_, .number value⟩ :: rest => some (.number value, rest)
  | _ + 1, ⟨_, .text value⟩ :: rest => some (.text value, rest)
  | _ + 1, ⟨_, .regex body⟩ :: rest => some (.regex body, rest)
  | _ + 1, ⟨_, .name name⟩ :: rest => some (.name name, rest)
  | fuel + 1, ⟨_, .mark .openParen⟩ :: rest => do
      let (expr, rest) ← parseExpr fuel rest
      let rest ← skip .closeParen rest
      return (expr, rest)
  | fuel + 1, ⟨_, .mark .openBracket⟩ :: rest => do
      let (items, rest) ← parseItems fuel .closeBracket rest
      return (.array items, rest)
  | _ + 1, _ => none

def parseSuffixes : Nat → Expr → List Token → Option (Expr × List Token)
  | 0, _, _ => none
  | fuel + 1, expr, ⟨_, .mark .dot⟩ :: ⟨_, .name name⟩ :: rest =>
      parseSuffixes fuel (.member expr name) rest
  | fuel + 1, expr, ⟨_, .mark .openParen⟩ :: rest => do
      let (arguments, rest) ← parseItems fuel .closeParen rest
      parseSuffixes fuel (.call expr arguments) rest
  | fuel + 1, expr, ⟨_, .mark .openBracket⟩ :: rest => do
      let (position, rest) ← parseExpr fuel rest
      let rest ← skip .closeBracket rest
      parseSuffixes fuel (.index expr position) rest
  | _ + 1, .name name, ⟨false, .mark .increment⟩ :: rest => some (.increment name, rest)
  | _ + 1, expr, tokens => some (expr, tokens)

/-- Expressions and commas up to the closing mark; there may be a comma in
front of it. -/
def parseItems : Nat → Mark → List Token → Option (List Expr × List Token)
  | 0, _, _ => none
  | fuel + 1, closing, tokens =>
      match skip closing tokens with
      | some rest => some ([], rest)
      | none => do
          let (item, rest) ← parseExpr fuel tokens
          match skip .comma rest with
          | some rest =>
              let (items, rest) ← parseItems fuel closing rest
              return (item :: items, rest)
          | none =>
              let rest ← skip closing rest
              return ([item], rest)

end

/-- A semicolon, or where the language puts one. -/
def endStatement : List Token → Option (List Token)
  | ⟨_, .mark .semicolon⟩ :: rest => some rest
  | ⟨newline, lexeme⟩ :: rest =>
      if newline ∨ lexeme = .mark .closeBrace then some (⟨newline, lexeme⟩ :: rest) else none
  | [] => some []

mutual

def parseStatement : Nat → List Token → Option (Stmt × List Token)
  | 0, _ => none
  | fuel + 1, ⟨_, .keyword .conditional⟩ :: rest => do
      let rest ← skip .openParen rest
      let (condition, rest) ← parseExpr fuel rest
      let rest ← skip .closeParen rest
      let (body, rest) ← parseStatement fuel rest
      return (.conditional condition body, rest)
  | fuel + 1, ⟨_, .keyword .for⟩ :: ⟨_, .mark .openParen⟩ :: ⟨_, .keyword .let⟩ ::
      ⟨_, .name name⟩ :: ⟨_, .mark .assign⟩ :: rest => do
      let (init, rest) ← parseExpr fuel rest
      let rest ← skip .semicolon rest
      let (condition, rest) ← parseExpr fuel rest
      let rest ← skip .semicolon rest
      let (update, rest) ← parseExpr fuel rest
      let rest ← skip .closeParen rest
      let (body, rest) ← parseStatement fuel rest
      return (.forLet name init condition update body, rest)
  | fuel + 1, ⟨_, .keyword .return⟩ :: rest =>
      match endStatement rest with
      | some rest => some (.return none, rest)
      | none => do
          let (value, rest) ← parseExpr fuel rest
          let rest ← endStatement rest
          return (.return (some value), rest)
  | _ + 1, ⟨_, .keyword .break⟩ :: rest => do
      let rest ← endStatement rest
      return (.break, rest)
  | fuel + 1, ⟨_, .mark .openBrace⟩ :: rest => do
      let (statements, rest) ← parseBlock fuel rest
      return (.block statements, rest)
  | fuel + 1, tokens => do
      let (expr, rest) ← parseExpr fuel tokens
      let rest ← endStatement rest
      return (.expr expr, rest)

/-- Statements up to the closing brace. -/
def parseBlock : Nat → List Token → Option (List Stmt × List Token)
  | 0, _ => none
  | fuel + 1, tokens =>
      match skip .closeBrace tokens with
      | some rest => some ([], rest)
      | none => do
          let (statement, rest) ← parseStatement fuel tokens
          let (statements, rest) ← parseBlock fuel rest
          return (statement :: statements, rest)

end

def parseParameters : List Token → Option (List String × List Token)
  | ⟨_, .mark .closeParen⟩ :: rest => some ([], rest)
  | ⟨_, .name name⟩ :: ⟨_, .mark .closeParen⟩ :: rest => some ([name], rest)
  | ⟨_, .name name⟩ :: ⟨_, .mark .comma⟩ :: rest => do
      let (names, rest) ← parseParameters rest
      return (name :: names, rest)
  | _ => none

def parseFunction (fuel : Nat) : List Token → Option (Function × List Token)
  | ⟨_, .keyword .function⟩ :: ⟨_, .name name⟩ :: ⟨_, .mark .openParen⟩ :: rest => do
      let (parameters, rest) ← parseParameters rest
      let rest ← skip .openBrace rest
      let (body, rest) ← parseBlock fuel rest
      return ({ name, parameters, body }, rest)
  | _ => none

/-- Only functions are declared at the top. -/
def parseFunctions (fuel : Nat) : Nat → List Token → Option (List Function)
  | _, [] => some []
  | 0, _ :: _ => none
  | count + 1, tokens => do
      let (function, rest) ← parseFunction fuel tokens
      let functions ← parseFunctions fuel count rest
      return function :: functions

theorem parseItems_close (fuel : Nat) (closing : Mark) (newline : Bool) (rest : List Token) :
    parseItems (fuel + 1) closing (⟨newline, .mark closing⟩ :: rest) = some ([], rest) := by
  simp [parseItems, skip]

theorem parseItems_comma {fuel : Nat} {closing : Mark} {newline : Bool}
    {tokens rest last : List Token} {item : Expr} {items : List Expr}
    (unclosed : skip closing tokens = none)
    (first : parseExpr fuel tokens = some (item, ⟨newline, .mark .comma⟩ :: rest))
    (more : parseItems fuel closing rest = some (items, last)) :
    parseItems (fuel + 1) closing tokens = some (item :: items, last) := by
  have comma : skip .comma (⟨newline, .mark .comma⟩ :: rest) = some rest := rfl
  rw [parseItems, unclosed]
  simp only [Option.bind_eq_bind, first, Option.bind_some, comma, more, pure]

theorem parseBlock_cons {fuel : Nat} {tokens rest last : List Token} {statement : Stmt}
    {statements : List Stmt} (unclosed : skip .closeBrace tokens = none)
    (first : parseStatement fuel tokens = some (statement, rest))
    (more : parseBlock fuel rest = some (statements, last)) :
    parseBlock (fuel + 1) tokens = some (statement :: statements, last) := by
  simp [parseBlock, unclosed, first, more]

/-- A statement that is read is the first of the block. -/
theorem parseBlock_first {fuel : Nat} {tokens rest last : List Token} {statement : Stmt}
    {statements : List Stmt} (unclosed : skip .closeBrace tokens = none)
    (first : parseStatement fuel tokens = some (statement, rest))
    (read : parseBlock (fuel + 1) tokens = some (statements, last)) :
    ∃ others, parseBlock fuel rest = some (others, last) ∧ statements = statement :: others := by
  simp only [parseBlock, unclosed, first, Option.bind_eq_bind, Option.bind_some,
    Option.bind_eq_some_iff, pure, Option.some.injEq, Prod.mk.injEq] at read
  obtain ⟨⟨others, _⟩, more, rfl, rfl⟩ := read
  exact ⟨others, more, rfl⟩

theorem parseBlock_head {fuel : Nat} {tokens last : List Token} {statements : List Stmt}
    (unclosed : skip .closeBrace tokens = none)
    (read : parseBlock (fuel + 1) tokens = some (statements, last)) :
    ∃ statement rest others,
      parseStatement fuel tokens = some (statement, rest) ∧ statements = statement :: others := by
  simp only [parseBlock, unclosed, Option.bind_eq_bind, Option.bind_eq_some_iff, pure,
    Option.some.injEq, Prod.mk.injEq] at read
  obtain ⟨⟨statement, rest⟩, first, ⟨others, _⟩, more, rfl, rfl⟩ := read
  exact ⟨statement, rest, others, first, rfl⟩

/-- An array is an expression where nothing behind it continues it. -/
theorem parseExpr_array {fuel : Nat} (newline : Bool) {tokens rest : List Token} {items : List Expr}
    (inside : parseItems fuel .closeBracket tokens = some (items, rest))
    (noSuffix : ∀ fuel, parseSuffixes (fuel + 1) (.array items) rest = some (.array items, rest))
    (noOperator : operator rest = none) :
    parseExpr (fuel + 4) (⟨newline, .mark .openBracket⟩ :: tokens) = some (.array items, rest) := by
  simp [parseExpr, parseBinary, parseUnary, parsePrimary, inside, noSuffix, parseOperators,
    noOperator]

theorem parseExpr_assign {fuel : Nat} {newline next : Bool} {name : String}
    {tokens rest : List Token} {value : Expr}
    (inside : parseExpr fuel tokens = some (value, rest)) :
    parseExpr (fuel + 1) (⟨newline, .name name⟩ :: ⟨next, .mark .assign⟩ :: tokens) =
      some (.assign name value, rest) := by
  rw [parseExpr, inside]
  rfl

/-- The end of the line ends the statement. -/
theorem parseStatement_expr {fuel : Nat} {newline : Bool} {name : String} {lexeme : Lexeme}
    {tokens rest : List Token} {expr : Expr}
    (inside : parseExpr fuel (⟨newline, .name name⟩ :: tokens) =
      some (expr, ⟨true, lexeme⟩ :: rest))
    (other : lexeme ≠ .mark .semicolon) :
    parseStatement (fuel + 1) (⟨newline, .name name⟩ :: tokens) =
      some (.expr expr, ⟨true, lexeme⟩ :: rest) := by
  have ended : endStatement (⟨true, lexeme⟩ :: rest) = some (⟨true, lexeme⟩ :: rest) := by
    simp [endStatement]
  simp only [parseStatement, inside, Option.bind_eq_bind, Option.bind_some, ended, pure]

/-- A statement that begins like an assignment is one. -/
theorem parseStatement_assign {fuel : Nat} {newline next : Bool} {name : String}
    {tokens last : List Token} {statement : Stmt}
    (read : parseStatement fuel (⟨newline, .name name⟩ :: ⟨next, .mark .assign⟩ :: tokens) =
      some (statement, last)) :
    ∃ fuel value rest, parseExpr fuel tokens = some (value, rest) ∧
      statement = .expr (.assign name value) := by
  obtain _ | _ | fuel := fuel
  · simp [parseStatement] at read
  · simp [parseStatement, parseExpr] at read
  · simp only [parseStatement, parseExpr, Option.bind_eq_bind, Option.bind_eq_some_iff, pure,
      Option.some.injEq, Prod.mk.injEq] at read
    obtain ⟨_, ⟨⟨value, rest⟩, inside, rfl⟩, _, _, rfl, _⟩ := read
    exact ⟨fuel, value, rest, inside, rfl⟩

end Parser

/-- No token needs more than eight turns of the parser's functions. -/
def parse (source : List Char) : Option (List Function) := do
  let tokens ← tokens source
  Parser.parseFunctions (8 * tokens.length + 8) tokens.length tokens

theorem parse_single {source : List Char} {token : Token} {rest : List Token} {function : Function}
    (lexed : tokens source = some (token :: rest))
    (first : Parser.parseFunction (8 * (token :: rest).length + 8) (token :: rest) =
      some (function, [])) :
    parse source = some [function] := by
  have none' : ∀ fuel count, Parser.parseFunctions fuel count [] = some [] := by
    intro fuel count
    cases count <;> rfl
  rw [parse, lexed, Option.bind_eq_bind, Option.bind_some, List.length_cons,
    Parser.parseFunctions.eq_3 _ _ _ (by simp), ← List.length_cons, first]
  simp only [Option.bind_eq_bind, Option.bind_some, none', pure]

end CovertConnect.Data.JavaScript
