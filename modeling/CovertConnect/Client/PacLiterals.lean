import CovertConnect.Client.PacVerdict
import CovertConnect.Data.JavaScript.Texts

namespace CovertConnect.Client.PacScript

open CovertConnect.Data CovertConnect.Data.JavaScript

/-! # Domains of any text

A domain is put between quotes as it is.  The script has the list that it was
built from just when no domain means anything to the script or to the
replacements. -/

def textOf : Expr → Option Text
  | .text value => some value
  | _ => none

def textsOf : Expr → Option (List Text)
  | .array items => items.mapM textOf
  | _ => none

def listOf : Expr → Option (List (List Text))
  | .array buckets => buckets.mapM textsOf
  | _ => none

def setsList : Stmt → Option Expr
  | .expr (.assign "list" value) => some value
  | _ => none

/-- What the first `list = [...]` of the script says. -/
def listLiteral (functions : List Function) : Option (List (List Text)) := do
  let value ← (functions.flatMap Function.body).findSome? setsList
  listOf value

theorem allTexts_of_mapM {α : Type} {read : Expr → Option α} {texts : α → List Text}
    (sound : ∀ {item : Expr} {value : α}, read item = some value → item.texts = texts value)
    {items : List Expr} {values : List α} (known : items.mapM read = some values) :
    Expr.allTexts items = values.flatMap texts := by
  induction items generalizing values with
  | nil =>
      cases known
      rfl
  | cons item items ih =>
      simp only [List.mapM_cons, Option.bind_eq_bind, Option.bind_eq_some_iff, pure,
        Option.some.injEq] at known
      obtain ⟨value, single, others, rest, rfl⟩ := known
      rw [Expr.allTexts, ih rest, sound single, List.flatMap_cons]

theorem texts_of_textOf {item : Expr} {text : Text} (known : textOf item = some text) :
    item.texts = [text] := by
  cases item <;> cases known
  rfl

theorem texts_of_textsOf {bucket : Expr} {texts : List Text} (known : textsOf bucket = some texts) :
    bucket.texts = texts := by
  cases bucket with
  | array items =>
      rw [Expr.texts, allTexts_of_mapM texts_of_textOf known]
      exact List.flatMap_singleton' texts
  | _ => cases known

theorem texts_of_listOf {value : Expr} {texts : List (List Text)}
    (known : listOf value = some texts) : value.texts = texts.flatten := by
  cases value with
  | array buckets =>
      rw [Expr.texts, allTexts_of_mapM texts_of_textsOf known, List.flatMap_id']
  | _ => cases known

/-- The list is read from what is behind its bracket. -/
theorem texts_of_listLiteral {functions : List Function} {rest : List Token}
    {texts : List (List Text)}
    (parsed : Parser.parseFunctions
      (8 * (functionTokens ++ (quadTokens ++ (plainTokens ++ (listTokens ++ rest)))).length + 8)
      (functionTokens ++ (quadTokens ++ (plainTokens ++ (listTokens ++ rest)))).length
      (functionTokens ++ (quadTokens ++ (plainTokens ++ (listTokens ++ rest)))) = some functions)
    (known : listLiteral functions = some texts) : texts.flatten <+: tokenTexts rest := by
  obtain ⟨count, sized⟩ : ∃ count, (functionTokens ++ (quadTokens ++ (plainTokens ++
      (listTokens ++ rest)))).length = count + 8 := by
    have function : functionTokens.length = 8 := rfl
    exact ⟨_, by rw [List.length_append, function, Nat.add_comm]⟩
  have headed : ∀ fuel tokens, Parser.parseFunction fuel (functionTokens ++ tokens) =
      (Parser.parseBlock fuel tokens).bind fun result =>
        some (⟨"FindProxyForURL", ["url", "host"], result.1⟩, result.2) :=
    fun _ _ => rfl
  rw [sized, show 8 * (count + 8) + 8 = 8 * count + 9 + 60 + 1 + 1 + 1 from rfl,
    Parser.parseFunctions.eq_3 _ _ _ (by simp [functionTokens, line]), headed] at parsed
  simp only [Option.bind_eq_bind, Option.bind_eq_some_iff, Option.some.injEq, pure] at parsed
  obtain ⟨_, ⟨⟨body, last⟩, block, rfl⟩, others, _, rfl⟩ := parsed
  obtain ⟨_, afterQuad, rfl⟩ := Parser.parseBlock_first rfl (parse_quad (8 * count + 11) _) block
  obtain ⟨_, afterPlain, rfl⟩ :=
    Parser.parseBlock_first rfl (parse_plain (8 * count + 10) _) afterQuad
  obtain ⟨statement, _, _, read, rfl⟩ := Parser.parseBlock_head rfl afterPlain
  obtain ⟨spare, value, behind, inside, rfl⟩ := Parser.parseStatement_assign read
  have kept := (Parser.keepsTexts spare).expr inside
  have values : listOf value = some texts := known
  rw [texts_of_listOf values] at kept
  exact ⟨_, kept.symm⟩

section Host

variable {newline : Bool} {previous : Option Lexeme} {value text : Text} {source : List Char}

/-- What is read behind the backslashes is not another backslash. -/
theorem unexpected {part rest : Text} {count : Nat} {code : UInt16} (other : code ≠ unit '\\')
    (starts : value ++ code :: part <+: value ++ (List.replicate (count + 1) (unit '\\') ++ rest)) :
    False := by
  rw [List.prefix_append_right_inj, List.replicate_succ, List.cons_append,
    List.cons_prefix_cons] at starts
  exact other starts.1

theorem backslashes_cons (count : Nat) (host : List Char) :
    List.replicate count (unit '\\') ++ ('\\' :: host).flatMap utf16 =
      List.replicate (count + 1) (unit '\\') ++ host.flatMap utf16 := by
  rw [List.replicate_succ', List.append_assoc]
  rfl

/-- An escape of another character is read where a backslash has to be. -/
theorem escape_slash {char : Char} {rest : Text} {count : Nat} (other : char ≠ '\\') :
    ¬ Spells ⟨newline, previous, .escape '"' value⟩ (char :: source)
      (value ++ (List.replicate (count + 1) (unit '\\') ++ rest)) := by
  intro spells
  obtain ⟨part, known, later⟩ := spells.escape
  obtain ⟨slash, -⟩ | ⟨code, units, rfl, apart⟩ := escaped_first known
  · exact other slash
  · exact unexpected apart (later.starts (.inl rfl))

theorem plain_slash {char : Char} {rest : Text} {count : Nat} (notQuote : char ≠ '"')
    (notSlash : char ≠ '\\') :
    ¬ Spells ⟨newline, previous, .text '"' value⟩ (char :: source)
      (value ++ (List.replicate (count + 1) (unit '\\') ++ rest)) := by
  intro spells
  have starts := (spells.plain notQuote notSlash).2.starts (.inl rfl)
  obtain ⟨slash, -⟩ | ⟨code, units, known, apart⟩ := utf16_first char
  · exact notSlash slash
  · rw [known] at starts
    exact unexpected apart starts

/-- The quotes are read back as the host only where they hold nothing but plain
text.  A backslash makes what is read fall behind, and from there on only
backslashes could be read. -/
theorem plain_of_spells {port : UInt16} {host : List Char} :
    (∀ (value : Text) (count : Nat),
      Spells ⟨newline, previous, .text '"' value⟩
        (replaceFrom proxyMark (proxyText port) host 0 ++ '"' :: source)
        (value ++ (List.replicate count (unit '\\') ++ host.flatMap utf16)) →
      count = 0 ∧ (∀ char ∈ host, Lexer.Plain '"' char) ∧ ¬ proxyMark <:+: host) ∧
    ∀ (value : Text) (count : Nat),
      ¬ Spells ⟨newline, previous, .escape '"' value⟩
        (replaceFrom proxyMark (proxyText port) host 0 ++ '"' :: source)
        (value ++ (List.replicate (count + 1) (unit '\\') ++ host.flatMap utf16)) := by
  induction host with
  | nil =>
      constructor
      · intro value count spells
        have same := spells.closed
        simp at same
        exact ⟨same, by simp, by simp [proxyMark]⟩
      · intro value count spells
        exact escape_slash (by decide) spells
  | cons char host ih =>
      by_cases here : proxyMark <+: char :: host
      · obtain ⟨rfl, _⟩ := List.cons_prefix_cons.mp here
        rw [replaceFrom_here here, show proxyText port = '\'' :: (proxyText port).tail from rfl]
        constructor
        · intro value count spells
          cases count with
          | zero =>
              have starts := (spells.plain (by decide) (by decide)).2.starts (.inl rfl)
              rw [List.prefix_append_right_inj] at starts
              exact absurd (List.cons_prefix_cons.mp starts).1 (by decide)
          | succ count => exact absurd spells (plain_slash (by decide) (by decide))
        · intro value count spells
          exact escape_slash (by decide) spells
      · rw [replaceFrom_passed here]
        obtain ⟨ofText, ofEscape⟩ := ih
        constructor
        · intro value count spells
          by_cases closes : char = '"'
          · subst closes
            have same := spells.closed
            simp [utf16, unit] at same
          · by_cases slash : char = '\\'
            · subst slash
              have behind := spells.backslash (by decide)
              rw [backslashes_cons] at behind
              exact (ofEscape _ _ behind).elim
            · cases count with
              | zero =>
                  obtain ⟨plain, later⟩ := spells.plain closes slash
                  have aligned : value ++ (List.replicate 0 (unit '\\') ++
                      (char :: host).flatMap utf16) = (value ++ utf16 char) ++
                        (List.replicate 0 (unit '\\') ++ host.flatMap utf16) := by
                    simp [List.flatMap_cons]
                  rw [aligned] at later
                  obtain ⟨_, others, unmarked⟩ := ofText _ _ later
                  exact ⟨rfl, List.forall_mem_cons.mpr ⟨plain, others⟩,
                    fun found => (List.infix_cons_iff.mp found).elim here unmarked⟩
              | succ count => exact absurd spells (plain_slash closes slash)
        · intro value count spells
          by_cases slash : char = '\\'
          · subst slash
            obtain ⟨part, known, later⟩ := spells.escape
            cases known
            have aligned : value ++ (List.replicate (count + 1) (unit '\\') ++
                ('\\' :: host).flatMap utf16) = (value ++ [unit '\\']) ++
                  (List.replicate (count + 1) (unit '\\') ++ host.flatMap utf16) := by
              rw [List.replicate_succ, List.cons_append, backslashes_cons, List.append_cons]
              rfl
            have later' : Spells ⟨newline, previous, .text '"' (value ++ [unit '\\'])⟩
                (replaceFrom proxyMark (proxyText port) host 0 ++ '"' :: source)
                (value ++ (List.replicate (count + 1) (unit '\\') ++
                  ('\\' :: host).flatMap utf16)) := later
            rw [aligned] at later'
            cases (ofText _ _ later').1
          · exact escape_slash slash spells

end Host

/-- Between two tokens the lexer gets through the source, and these are the first
texts that it finds. -/
def Shows (source : List Char) (texts : List Text) : Prop :=
  ∃ previous tokens last,
    (Lexer.mk false previous .between).run source = some (tokens, last) ∧
      texts <+: tokenTexts tokens

namespace Shows

variable {front back : List Char} {texts : List Text} {tokens : List Token}

theorem passes (shows : Shows (front ++ back) (tokenTexts tokens ++ texts))
    (lexes : Lexes front tokens) : Shows back texts := by
  obtain ⟨previous, all, last, run, found⟩ := shows
  obtain ⟨middle, first⟩ := lexes previous
  obtain ⟨more, second, rfl⟩ := Lexer.run_append_inv first run
  rw [tokenTexts_append, List.prefix_append_right_inj] at found
  exact ⟨middle, more, last, second, found⟩

theorem spells {text : Text} (shows : Shows ('"' :: back) (text :: texts)) :
    ∃ previous, Spells ⟨false, previous, .text '"' []⟩ back text := by
  obtain ⟨previous, tokens, last, run, found⟩ := shows
  have first : (tokenTexts tokens).head? = some text := by
    obtain ⟨_, same⟩ := found
    rw [← same]
    rfl
  have whole : Spells ⟨false, previous, .between⟩ ('"' :: back) text := ⟨tokens, last, run, first⟩
  exact ⟨previous, whole.step rfl⟩

theorem literal_host {port : UInt16} {host : String}
    (shows : Shows ('"' :: (hostPrint port host ++ ['"', ',']) ++ back) (hostText host :: texts)) :
    IsLiteral host ∧ Shows back texts := by
  have quoted := shows
  rw [List.cons_append, List.append_assoc] at quoted
  obtain ⟨previous, spelled⟩ := quoted.spells
  obtain ⟨_, plain, unmarked⟩ := plain_of_spells.1 [] 0 spelled
  have literal : IsLiteral host := ⟨plain, unmarked⟩
  exact ⟨literal, passes shows (lexes_host literal port)⟩

theorem literal_items {port : UInt16} {hosts : List String}
    (shows : Shows ((hosts.flatMap fun host => '"' :: (hostPrint port host ++ ['"', ','])) ++ back)
      (hosts.map hostText ++ texts)) :
    (∀ host ∈ hosts, IsLiteral host) ∧ Shows back texts := by
  induction hosts with
  | nil => exact ⟨by simp, shows⟩
  | cons host hosts ih =>
      rw [List.flatMap_cons, List.append_assoc] at shows
      obtain ⟨literal, later⟩ := shows.literal_host
      obtain ⟨others, later⟩ := ih later
      exact ⟨List.forall_mem_cons.mpr ⟨literal, others⟩, later⟩

theorem literal_hosts {port : UInt16} {hosts : List String}
    (shows : Shows (hostsPrint port hosts ++ back) (hosts.map hostText ++ texts)) :
    (∀ host ∈ hosts, IsLiteral host) ∧ Shows back texts := by
  have opening : Lexes ['['] [⟨false, .mark .openBracket⟩] := Lexes.mark rfl
  have closing : Lexes [']'] [⟨false, .mark .closeBracket⟩] := Lexes.mark rfl
  have comma : Lexes [','] [⟨false, .mark .comma⟩] := Lexes.mark rfl
  rw [hostsPrint, List.cons_append, List.cons_append, List.append_assoc] at shows
  obtain ⟨literal, later⟩ := (passes shows opening).literal_items
  exact ⟨literal, passes later (closing.append comma)⟩

theorem literal_buckets {port : UInt16} {buckets : List (List String)}
    (shows : Shows (buckets.flatMap (hostsPrint port) ++ back)
      ((buckets.map (List.map hostText)).flatten ++ texts)) :
    ∀ hosts ∈ buckets, ∀ host ∈ hosts, IsLiteral host := by
  induction buckets with
  | nil => simp
  | cons hosts buckets ih =>
      rw [List.flatMap_cons, List.append_assoc, List.map_cons, List.flatten_cons,
        List.append_assoc] at shows
      obtain ⟨literal, later⟩ := shows.literal_hosts
      exact List.forall_mem_cons.mpr ⟨literal, ih later⟩

end Shows

theorem mem_byDots {domains : List String} {domain : String} (listed : domain ∈ domains) :
    ∃ hosts ∈ byDots domains, domain ∈ hosts := by
  have inside : domain ∈ (byDots domains).getD (domain.toList.count '.') [] := by
    rw [getD_byDots]
    exact List.mem_filter.mpr ⟨listed, by simp⟩
  rw [List.getD_eq_getElem?_getD] at inside
  cases bucket : (byDots domains)[domain.toList.count '.']? with
  | none =>
      rw [bucket] at inside
      cases inside
  | some hosts =>
      rw [bucket] at inside
      exact ⟨hosts, List.mem_of_getElem? bucket, inside⟩

theorem wordLexeme_text (word : String) : (wordLexeme word).text? = none := by
  unfold wordLexeme
  split_ifs <;> rfl

/-- No text is left open at the end. -/
theorem finish_texts {lexer : Lexer} {tokens : List Token} (finished : lexer.finish = some tokens) :
    tokenTexts tokens = [] := by
  unfold Lexer.finish at finished
  split at finished
  · cases finished
    rfl
  · cases finished
    simp [tokenTexts, Lexer.emit, wordLexeme_text]
  · cases finished
    rfl
  · obtain ⟨mark, _, rfl⟩ := Option.map_eq_some_iff.mp finished
    rfl
  iterate 3
    · cases finished

theorem listOf_hosts (buckets : List (List String)) :
    listOf (.array (buckets.map hostsExpr)) = some (buckets.map (List.map hostText)) := by
  have single : ∀ hosts, textsOf (hostsExpr hosts) = some (hosts.map hostText) := by
    intro hosts
    rw [hostsExpr, textsOf]
    induction hosts with
    | nil => rfl
    | cons host hosts ih => simp [List.mapM_cons, ih, textOf]
  rw [listOf]
  induction buckets with
  | nil => rfl
  | cons hosts buckets ih => simp [List.mapM_cons, ih, single]

/-- The script is whole, and its list is the one of the domains. -/
def ListsDomains (domains : List String) (port : UInt16) : Prop :=
  ∃ functions, parse (buildPac domains port) = some functions ∧
    listLiteral functions = some ((byDots domains).map (List.map hostText))

theorem literal_of_lists {domains : List String} {port : UInt16}
    (lists : ListsDomains domains port) : ∀ domain ∈ domains, IsLiteral domain := by
  obtain ⟨functions, parsed, known⟩ := lists
  simp only [parse, tokens, buildPac_print, Option.bind_eq_bind, Option.bind_eq_some_iff, pure,
    Option.some.injEq] at parsed
  obtain ⟨_, ⟨⟨_, last⟩, run, final, finished, rfl⟩, parsed⟩ := parsed
  obtain ⟨more, behind, rfl⟩ := Lexer.run_append_inv run_pacHead run
  rw [List.append_assoc, List.append_assoc, List.append_assoc, List.append_assoc] at parsed
  have found := texts_of_listLiteral parsed known
  rw [tokenTexts_append, finish_texts finished, List.append_nil] at found
  rw [← List.append_nil (List.flatten _)] at found
  have literal := Shows.literal_buckets ⟨_, more, last, behind, found⟩
  intro domain listed
  obtain ⟨hosts, bucket, inside⟩ := mem_byDots listed
  exact literal hosts bucket domain inside

theorem lists_of_literal {domains : List String} (literal : ∀ domain ∈ domains, IsLiteral domain)
    (port : UInt16) : ListsDomains domains port :=
  ⟨[findProxyForURL domains port], parse_buildPac literal port, listOf_hosts _⟩

/-- The script has the list that it was built from, and the call for the host
ends with a text. -/
structure Works (others : String → List Value → Value) (domains : List String) (port : UInt16)
    (url host : Text) : Prop where
  lists : ListsDomains domains port
  finishes : ∃ text, Returns others domains port url host (.text text)

section Works

variable {domains : List String} {others : String → List Value → Value} {port : UInt16}
  {url host : Text}

theorem finishes_named (literal : ∀ domain ∈ domains, IsLiteral domain)
    (named : ¬ IsQuad Octet host) : ∃ text, Returns others domains port url host (.text text) := by
  by_cases plain : IsPlain host
  · exact ⟨_, 0, fun _ _ => verdict_plain literal named plain⟩
  · have run := fun fuel (enough : (byDots domains).length + 1 ≤ fuel) =>
      @verdict_deep domains others port fuel url host literal named plain enough
    by_cases found : Found (byDots domains) (host.splitOn (unit '.')) 0
    · exact ⟨_, _, fun fuel enough => (run fuel enough).1 found⟩
    · exact ⟨_, _, fun fuel enough => (run fuel enough).2 found⟩

theorem not_works_quad (quad : IsQuad Octet host) : ¬ Works others domains port url host := by
  intro works
  obtain ⟨text, enough, returns⟩ := works.finishes
  have thrown := verdict_quad (literal_of_lists works.lists) others port enough url quad
  rw [returns enough (Nat.le_refl enough)] at thrown
  cases thrown

/-- The script fails for every host that looks like an address, and for every
host as soon as one domain means something to it. -/
theorem works_iff (others : String → List Value → Value) (domains : List String) (port : UInt16)
    (url host : Text) :
    Works others domains port url host ↔
      (∀ domain ∈ domains, IsLiteral domain) ∧ ¬ IsQuad Octet host := by
  constructor
  · intro works
    exact ⟨literal_of_lists works.lists, fun quad => not_works_quad quad works⟩
  · intro ⟨literal, named⟩
    exact ⟨lists_of_literal literal port, finishes_named literal named⟩

/-- An address of the private networks has no verdict, and a domain with a quote
takes the verdict from every host. -/
theorem not_works_address :
    ¬ Works (fun _ _ => .undefined) ["example.org"] 25444 [] (ascii "10.0.0.1") ∧
      ¬ Works (fun _ _ => .undefined) ["a\"b"] 25444 [] (ascii "www.example.org") := by
  constructor
  · apply not_works_quad
    rw [← test_quadPieces]
    decide
  · intro works
    have literal := literal_of_lists works.lists "a\"b" (by simp)
    exact (literal.plain '"' (by simp)).1 rfl

end Works

end CovertConnect.Client.PacScript
