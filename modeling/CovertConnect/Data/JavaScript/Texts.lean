import CovertConnect.Data.JavaScript.Parser

namespace CovertConnect.Data.JavaScript

/-! # A part of JavaScript: the texts of a script

The parser neither drops a text nor moves one: an expression has the texts of
its tokens, in their order. -/

mutual

def Expr.texts : Expr → List Text
  | .number _ | .regex _ | .name _ | .increment _ => []
  | .text value => [value]
  | .array items => Expr.allTexts items
  | .member object _ => object.texts
  | .index object position => object.texts ++ position.texts
  | .call callee arguments => callee.texts ++ Expr.allTexts arguments
  | .negate operand => operand.texts
  | .binary _ left right => left.texts ++ right.texts
  | .assign _ value => value.texts

def Expr.allTexts : List Expr → List Text
  | [] => []
  | item :: items => item.texts ++ Expr.allTexts items

end

def Lexeme.text? : Lexeme → Option Text
  | .text value => some value
  | _ => none

def tokenTexts (tokens : List Token) : List Text :=
  tokens.filterMap fun token => token.lexeme.text?

theorem tokenTexts_append (front back : List Token) :
    tokenTexts (front ++ back) = tokenTexts front ++ tokenTexts back :=
  List.filterMap_append

namespace Parser

theorem skip_eq {mark : Mark} {tokens rest : List Token} (skipped : skip mark tokens = some rest) :
    tokenTexts tokens = tokenTexts rest := by
  unfold skip at skipped
  split at skipped
  · split at skipped <;> cases skipped
    rfl
  · cases skipped

theorem operator_eq {found : Operator} {tokens rest : List Token}
    (read : operator tokens = some (found, rest)) : tokenTexts tokens = tokenTexts rest := by
  unfold operator at read
  split at read <;> cases read <;> rfl

/-- What the functions for expressions read at some fuel. -/
structure KeepsTexts (fuel : Nat) : Prop where
  expr : ∀ {tokens rest expr}, parseExpr fuel tokens = some (expr, rest) →
    tokenTexts tokens = expr.texts ++ tokenTexts rest
  binary : ∀ {least tokens rest expr}, parseBinary fuel least tokens = some (expr, rest) →
    tokenTexts tokens = expr.texts ++ tokenTexts rest
  operators : ∀ {least left tokens rest expr},
    parseOperators fuel least left tokens = some (expr, rest) →
      left.texts ++ tokenTexts tokens = expr.texts ++ tokenTexts rest
  unary : ∀ {tokens rest expr}, parseUnary fuel tokens = some (expr, rest) →
    tokenTexts tokens = expr.texts ++ tokenTexts rest
  primary : ∀ {tokens rest expr}, parsePrimary fuel tokens = some (expr, rest) →
    tokenTexts tokens = expr.texts ++ tokenTexts rest
  suffixes : ∀ {left tokens rest expr}, parseSuffixes fuel left tokens = some (expr, rest) →
    left.texts ++ tokenTexts tokens = expr.texts ++ tokenTexts rest
  items : ∀ {closing tokens rest items}, parseItems fuel closing tokens = some (items, rest) →
    tokenTexts tokens = Expr.allTexts items ++ tokenTexts rest

theorem keepsTexts_zero : KeepsTexts 0 := by
  constructor <;> intros <;> simp_all [parseExpr, parseBinary, parseOperators, parseUnary,
    parsePrimary, parseSuffixes, parseItems]

section Step

variable {fuel : Nat} {tokens rest : List Token} {expr : Expr}

theorem parseExpr_texts (keeps : KeepsTexts fuel)
    (read : parseExpr (fuel + 1) tokens = some (expr, rest)) :
    tokenTexts tokens = expr.texts ++ tokenTexts rest := by
  unfold parseExpr at read
  split at read
  · contradiction
  · rename_i same
    cases same
    simp only [Option.bind_eq_bind, Option.bind_eq_some_iff, pure, Option.some.injEq,
      Prod.mk.injEq] at read
    obtain ⟨⟨value, last⟩, inside, rfl, rfl⟩ := read
    have kept := keeps.expr inside
    exact kept
  · rename_i same _
    cases same
    exact keeps.binary read

theorem parseBinary_texts (keeps : KeepsTexts fuel) {least : Nat}
    (read : parseBinary (fuel + 1) least tokens = some (expr, rest)) :
    tokenTexts tokens = expr.texts ++ tokenTexts rest := by
  unfold parseBinary at read
  simp only [Option.bind_eq_bind, Option.bind_eq_some_iff] at read
  obtain ⟨⟨left, middle⟩, first, more⟩ := read
  exact (keeps.unary first).trans (keeps.operators more)

theorem parseOperators_texts (keeps : KeepsTexts fuel) {least : Nat} {left : Expr}
    (read : parseOperators (fuel + 1) least left tokens = some (expr, rest)) :
    left.texts ++ tokenTexts tokens = expr.texts ++ tokenTexts rest := by
  unfold parseOperators at read
  split at read
  · cases read
    rfl
  · rename_i found after shown
    split at read
    · simp only [Option.bind_eq_bind, Option.bind_eq_some_iff] at read
      obtain ⟨⟨right, middle⟩, second, more⟩ := read
      have joined := keeps.operators more
      rw [Expr.texts, List.append_assoc, ← keeps.binary second, ← operator_eq shown] at joined
      exact joined
    · cases read
      rfl

theorem parseUnary_texts (keeps : KeepsTexts fuel)
    (read : parseUnary (fuel + 1) tokens = some (expr, rest)) :
    tokenTexts tokens = expr.texts ++ tokenTexts rest := by
  unfold parseUnary at read
  split at read
  · contradiction
  · rename_i same
    cases same
    simp only [Option.bind_eq_bind, Option.bind_eq_some_iff, pure, Option.some.injEq,
      Prod.mk.injEq] at read
    obtain ⟨⟨operand, last⟩, inside, rfl, rfl⟩ := read
    have kept := keeps.unary inside
    exact kept
  · rename_i same _
    cases same
    simp only [Option.bind_eq_bind, Option.bind_eq_some_iff] at read
    obtain ⟨⟨object, middle⟩, first, more⟩ := read
    exact (keeps.primary first).trans (keeps.suffixes more)

theorem parsePrimary_texts (keeps : KeepsTexts fuel)
    (read : parsePrimary (fuel + 1) tokens = some (expr, rest)) :
    tokenTexts tokens = expr.texts ++ tokenTexts rest := by
  unfold parsePrimary at read
  split at read
  · contradiction
  iterate 4
    · cases read
      rfl
  · rename_i same
    cases same
    simp only [Option.bind_eq_bind, Option.bind_eq_some_iff, pure, Option.some.injEq,
      Prod.mk.injEq] at read
    obtain ⟨⟨value, middle⟩, inside, last, closed, rfl, rfl⟩ := read
    have kept := keeps.expr inside
    rw [skip_eq closed] at kept
    exact kept
  · rename_i same
    cases same
    simp only [Option.bind_eq_bind, Option.bind_eq_some_iff, pure, Option.some.injEq,
      Prod.mk.injEq] at read
    obtain ⟨⟨items, last⟩, inside, rfl, rfl⟩ := read
    have kept := keeps.items inside
    exact kept
  · cases read

theorem parseSuffixes_texts (keeps : KeepsTexts fuel) {left : Expr}
    (read : parseSuffixes (fuel + 1) left tokens = some (expr, rest)) :
    left.texts ++ tokenTexts tokens = expr.texts ++ tokenTexts rest := by
  unfold parseSuffixes at read
  split at read
  · contradiction
  · rename_i same
    cases same
    have kept := keeps.suffixes read
    exact kept
  · rename_i same
    cases same
    simp only [Option.bind_eq_bind, Option.bind_eq_some_iff] at read
    obtain ⟨⟨arguments, middle⟩, inside, more⟩ := read
    have joined := keeps.suffixes more
    rw [Expr.texts, List.append_assoc, ← keeps.items inside] at joined
    exact joined
  · rename_i same
    cases same
    simp only [Option.bind_eq_bind, Option.bind_eq_some_iff] at read
    obtain ⟨⟨position, middle⟩, inside, last, closed, more⟩ := read
    have joined := keeps.suffixes more
    rw [Expr.texts, List.append_assoc, ← skip_eq closed, ← keeps.expr inside] at joined
    exact joined
  · cases read
    rfl
  · cases read
    rfl

theorem parseItems_texts (keeps : KeepsTexts fuel) {closing : Mark} {items : List Expr}
    (read : parseItems (fuel + 1) closing tokens = some (items, rest)) :
    tokenTexts tokens = Expr.allTexts items ++ tokenTexts rest := by
  unfold parseItems at read
  split at read
  · rename_i closed
    cases read
    exact skip_eq closed
  · simp only [Option.bind_eq_bind, Option.bind_eq_some_iff] at read
    obtain ⟨⟨item, middle⟩, first, more⟩ := read
    rw [keeps.expr first]
    split at more
    · rename_i after comma
      simp only [Option.bind_eq_some_iff, pure, Option.some.injEq, Prod.mk.injEq] at more
      obtain ⟨⟨others, last⟩, inside, rfl, rfl⟩ := more
      rw [skip_eq comma, keeps.items inside, Expr.allTexts, List.append_assoc]
    · simp only [Option.bind_eq_some_iff, pure, Option.some.injEq, Prod.mk.injEq] at more
      obtain ⟨last, closed, rfl, rfl⟩ := more
      rw [skip_eq closed, Expr.allTexts, Expr.allTexts, List.append_nil]

end Step

theorem keepsTexts (fuel : Nat) : KeepsTexts fuel := by
  induction fuel with
  | zero => exact keepsTexts_zero
  | succ fuel ih => exact {
      expr := parseExpr_texts ih
      binary := parseBinary_texts ih
      operators := parseOperators_texts ih
      unary := parseUnary_texts ih
      primary := parsePrimary_texts ih
      suffixes := parseSuffixes_texts ih
      items := parseItems_texts ih }

end Parser

/-- Only a backslash has its unit at the front. -/
theorem utf16_first (char : Char) :
    char = '\\' ∧ utf16 char = [unit '\\'] ∨
      ∃ code rest, utf16 char = code :: rest ∧ code ≠ unit '\\' := by
  have slash : (unit '\\').toNat = 92 := rfl
  rw [utf16]
  by_cases small : char.toNat < 0x10000
  · rw [if_pos small]
    by_cases same : char = '\\'
    · subst same
      exact .inl ⟨rfl, rfl⟩
    · right
      exists unit char, []
      constructor
      · rfl
      · intro units
        have values := congrArg UInt16.toNat units
        rw [unit, Nat.toUInt16, UInt16.toNat_ofNat', Nat.mod_eq_of_lt small] at values
        exact same (Char.toNat_inj.mp values)
  · right
    rw [if_neg small]
    exists (0xD800 + (char.toNat - 0x10000) / 0x400).toUInt16,
      [(0xDC00 + (char.toNat - 0x10000) % 0x400).toUInt16]
    constructor
    · rfl
    · intro units
      have bound : char.toNat < 0x110000 := by
        have valid : char.toNat < 0xD800 ∨ 0xDFFF < char.toNat ∧ char.toNat < 0x110000 := char.valid
        omega
      have surrogate : 0xD800 + (char.toNat - 0x10000) / 0x400 < 0x10000 := by omega
      have same := congrArg UInt16.toNat units
      rw [slash, Nat.toUInt16, UInt16.toNat_ofNat', Nat.mod_eq_of_lt surrogate] at same
      omega

theorem escaped_first {char : Char} {part : Text} (known : escaped char = some part) :
    char = '\\' ∧ part = [unit '\\'] ∨ ∃ code rest, part = code :: rest ∧ code ≠ unit '\\' := by
  unfold escaped at known
  iterate 6
    split at known
    · cases known
      exact .inr ⟨_, _, rfl, by decide⟩
  split at known
  · cases known
  · cases known
    exact utf16_first char

/-- The lexer gets through the source, and the first text that it finds is this
one. -/
def Spells (lexer : Lexer) (source : List Char) (text : Text) : Prop :=
  ∃ tokens last, lexer.run source = some (tokens, last) ∧ (tokenTexts tokens).head? = some text

namespace Spells

variable {newline : Bool} {previous : Option Lexeme} {quote char : Char} {value text : Text}
  {source : List Char}

theorem step {lexer next : Lexer} (spells : Spells lexer (char :: source) text)
    (stepped : lexer.step char = some ([], next)) : Spells next source text := by
  obtain ⟨tokens, last, run, first⟩ := spells
  simp only [Lexer.run, stepped, Option.bind_eq_bind, Option.bind_some, Option.bind_eq_some_iff,
    pure, List.nil_append, Option.some.injEq, Prod.mk.injEq] at run
  obtain ⟨⟨more, final⟩, rest, rfl, rfl⟩ := run
  exact ⟨more, final, rest, first⟩

theorem closed (spells : Spells ⟨newline, previous, .text quote value⟩ (quote :: source) text) :
    text = value := by
  obtain ⟨tokens, last, run, first⟩ := spells
  simp only [Lexer.run, Lexer.step, if_pos, Lexer.emit, Option.bind_eq_bind, Option.bind_some,
    Option.bind_eq_some_iff, pure, Option.some.injEq, Prod.mk.injEq] at run
  obtain ⟨⟨more, final⟩, rest, rfl, rfl⟩ := run
  exact (Option.some.inj first).symm

theorem backslash (other : '\\' ≠ quote)
    (spells : Spells ⟨newline, previous, .text quote value⟩ ('\\' :: source) text) :
    Spells ⟨newline, previous, .escape quote value⟩ source text :=
  spells.step (by simp [Lexer.step, other])

theorem plain (notQuote : char ≠ quote) (notSlash : char ≠ '\\')
    (spells : Spells ⟨newline, previous, .text quote value⟩ (char :: source) text) :
    Lexer.Plain quote char ∧
      Spells ⟨newline, previous, .text quote (value ++ utf16 char)⟩ source text := by
  by_cases ends : char = '\n' ∨ char = '\r'
  · obtain ⟨tokens, last, run, _⟩ := spells
    simp [Lexer.run, Lexer.step, notQuote, notSlash, ends] at run
  · exact ⟨⟨notQuote, notSlash, not_or.mp ends⟩,
      spells.step (by simp [Lexer.step, notQuote, notSlash, ends])⟩

theorem escape (spells : Spells ⟨newline, previous, .escape quote value⟩ (char :: source) text) :
    ∃ part, escaped char = some part ∧
      Spells ⟨newline, previous, .text quote (value ++ part)⟩ source text := by
  cases known : escaped char with
  | none =>
      obtain ⟨tokens, last, run, _⟩ := spells
      simp [Lexer.run, Lexer.step, known] at run
  | some part => exact ⟨part, rfl, spells.step (by simp [Lexer.step, known])⟩

/-- What is read of a text stays its beginning. -/
theorem starts {lexer : Lexer} (spells : Spells lexer source text)
    (isOpen : lexer.mode = .text quote value ∨ lexer.mode = .escape quote value) :
    value <+: text := by
  induction source generalizing lexer value with
  | nil =>
      obtain ⟨tokens, last, run, first⟩ := spells
      cases run
      cases first
  | cons char source ih =>
      obtain ⟨newline, previous, mode⟩ := lexer
      rcases isOpen with rfl | rfl
      · by_cases closes : char = quote
        · subst closes
          rw [spells.closed]
        · by_cases slash : char = '\\'
          · subst slash
            exact ih (spells.backslash closes) (.inr rfl)
          · obtain ⟨_, later⟩ := spells.plain closes slash
            exact (List.prefix_append _ _).trans (ih later (.inl rfl))
      · obtain ⟨part, _, later⟩ := spells.escape
        exact (List.prefix_append _ _).trans (ih later (.inl rfl))

end Spells

end CovertConnect.Data.JavaScript
