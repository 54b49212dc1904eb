import CovertConnect.Client.PacFileService
import CovertConnect.Data.JavaScript.Interpreter

namespace CovertConnect.Client.PacScript

open CovertConnect.Data CovertConnect.Data.JavaScript

/-! # The PAC file as a script

The text that is built for a list of domains is a script, and what the parser
makes of it is known. -/

/-- What a domain of the list is made of. -/
def domainChar (char : Char) : Bool :=
  char.isLower || char.isDigit || char = '-' || char = '.'

def IsDomain (domain : String) : Prop :=
  ∀ char ∈ domain.toList, domainChar char = true

/-- Nothing in it means anything to the script or to the replacements. -/
structure IsLiteral (domain : String) : Prop where
  plain : ∀ char ∈ domain.toList, Lexer.Plain '"' char
  unmarked : ¬ proxyMark <:+: domain.toList

theorem isLiteral_of_isDomain {domain : String} (lawful : IsDomain domain) : IsLiteral domain := by
  constructor
  · intro char found
    have differs : ∀ other, domainChar other = false → char ≠ other := by
      intro other foreign same
      have known := lawful char found
      rw [same, foreign] at known
      cases known
    exact ⟨differs _ rfl, differs _ rfl, differs _ rfl, differs _ rfl⟩
  · intro found
    have inside : '_' ∈ domain.toList := found.subset (by simp [proxyMark])
    cases lawful _ inside

theorem literals_of_domains {domains : List String} (valid : ∀ domain ∈ domains, IsDomain domain) :
    ∀ domain ∈ domains, IsLiteral domain :=
  fun domain listed => isLiteral_of_isDomain (valid domain listed)

def hostText (host : String) : Text :=
  host.toList.flatMap utf16

/-- The hosts by their number of dots. -/
def byDots (domains : List String) : List (List String) :=
  domains.foldl addByDots []

theorem getD_addByDots (hosts : List (List String)) (host : String) (dots : Nat) :
    (addByDots hosts host).getD dots [] =
      if host.toList.count '.' = dots then hosts.getD dots [] ++ [host] else hosts.getD dots [] := by
  have grown : (hosts ++ List.replicate (host.toList.count '.' + 1 - hosts.length) []).getD dots [] =
      hosts.getD dots [] := by
    simp only [List.getD_eq_getElem?_getD, List.getElem?_append, List.getElem?_replicate]
    split <;> [rfl; skip]
    rw [List.getElem?_eq_none (by omega)]
    split <;> rfl
  simp only [addByDots, Nat.add_sub_cancel, List.getD_eq_getElem?_getD,
    List.getElem?_modify] at grown ⊢
  by_cases same : host.toList.count '.' = dots
  · have inside : dots <
        (hosts ++ List.replicate (host.toList.count '.' + 1 - hosts.length) []).length := by
      rw [List.length_append, List.length_replicate]
      omega
    rw [if_pos same, ← grown, List.getElem?_eq_getElem inside]
    simp [same]
  · rw [if_neg same, ← grown]
    simp [same]

/-- A host is in the list of its number of dots, and in the order of the domains. -/
theorem getD_byDots (domains : List String) (dots : Nat) :
    (byDots domains).getD dots [] = domains.filter fun domain => domain.toList.count '.' = dots := by
  have folded : ∀ hosts, (domains.foldl addByDots hosts).getD dots [] =
      hosts.getD dots [] ++ domains.filter fun domain => domain.toList.count '.' = dots := by
    induction domains with
    | nil => simp
    | cons domain domains ih =>
        intro hosts
        rw [List.foldl_cons, ih, getD_addByDots, List.filter_cons]
        by_cases same : domain.toList.count '.' = dots <;> simp [same]
  rw [byDots, folded]
  rfl

theorem mem_of_mem_byDots {domains hosts : List String} {host : String}
    (listed : hosts ∈ byDots domains) (found : host ∈ hosts) : host ∈ domains := by
  obtain ⟨dots, inside, rfl⟩ := List.mem_iff_getElem.mp listed
  have same : (byDots domains).getD dots [] = (byDots domains)[dots] := by
    rw [List.getD_eq_getElem?_getD, List.getElem?_eq_getElem inside, Option.getD_some]
  rw [← same, getD_byDots] at found
  exact List.mem_of_mem_filter found

def call (name : String) (arguments : List Expr) : Expr :=
  .call (.name name) arguments

def invoke (object : Expr) (name : String) (arguments : List Expr) : Expr :=
  .call (.member object name) arguments

def answer (verdict : String) : Stmt :=
  .block [.return (some (.text (ascii verdict)))]

def octetPattern : List Char :=
  ['[', '0', '-', '9', ']', '\x7b', '1', ',', '3', '\x7d']

def quadPattern : List Char :=
  '^' :: (octetPattern ++ '\\' :: '.' :: (octetPattern ++ '\\' :: '.' :: (octetPattern ++
    '\\' :: '.' :: (octetPattern ++ ['$']))))

def isInNet (address mask : String) : Expr :=
  call "IsInNet" [.name "host", .text (ascii address), .text (ascii mask)]

def quadCheck : Stmt :=
  .conditional (invoke (.regex quadPattern) "test" [.name "host"])
    (.block [.conditional
      (.binary .or
        (.binary .or
          (.binary .or (isInNet "10.0.0.0" "255.0.0.0") (isInNet "127.0.0.0" "255.0.0.0"))
          (isInNet "172.16.0.0" "255.240.0.0"))
        (isInNet "192.168.0.0" "255.255.0.0"))
      (answer "DIRECT")])

def plainCheck : Stmt :=
  .conditional
    (.binary .or (call "isPlainHostName" [.name "host"])
      (call "shExpMatch" [.name "host", .text (ascii "*.local")]))
    (answer "DIRECT")

def hostsExpr (hosts : List String) : Expr :=
  .array (hosts.map fun host => .text (hostText host))

def setList (domains : List String) : Stmt :=
  .expr (.assign "list" (.array ((byDots domains).map hostsExpr)))

def setParts : Stmt :=
  .expr (.assign "parts" (invoke (.name "host") "split" [.text (ascii ".")]))

def setPartCount : Stmt :=
  .expr (.assign "part_count" (.binary .plus (.name "i") (.number 1)))

def stopCheck : Stmt :=
  .conditional (.binary .greater (.name "part_count") (.member (.name "parts") "length"))
    (.block [.break])

def setPhost : Stmt :=
  .expr (.assign "phost"
    (invoke
      (invoke (.name "parts") "slice"
        [.binary .minus (.member (.name "parts") "length") (.name "part_count")])
      "join" [.text (ascii ".")]))

def foundCheck : Stmt :=
  .conditional
    (.binary .notEqual (invoke (.index (.name "list") (.name "i")) "indexOf" [.name "phost"])
      (.negate (.number 1)))
    (answer "DIRECT;")

def searchTurn : Stmt :=
  .block [setPartCount, stopCheck, setPhost, foundCheck]

def search : Stmt :=
  .forLet "i" (.number 0) (.binary .less (.name "i") (.member (.name "list") "length"))
    (.increment "i") searchTurn

def proxyVerdict (port : UInt16) : Text :=
  ascii "PROXY " ++ hostText (proxyAddressText port)

def findProxyForURL (domains : List String) (port : UInt16) : Function where
  name := "FindProxyForURL"
  parameters := ["url", "host"]
  body := [quadCheck, plainCheck, setList domains, setParts, search,
    .return (some (.text (proxyVerdict port)))]

/-- The tokens of one line. -/
def line : List Lexeme → List Token
  | [] => []
  | first :: rest => ⟨true, first⟩ :: rest.map fun lexeme => ⟨false, lexeme⟩

def isInNetLexemes (address mask : String) : List Lexeme :=
  [.name "IsInNet", .mark .openParen, .name "host", .mark .comma, .text (ascii address),
    .mark .comma, .text (ascii mask), .mark .closeParen]

def functionTokens : List Token :=
  line [.keyword .function, .name "FindProxyForURL", .mark .openParen, .name "url", .mark .comma,
    .name "host", .mark .closeParen, .mark .openBrace]

def quadTokens : List Token :=
  line [.keyword .conditional, .mark .openParen, .regex quadPattern, .mark .dot, .name "test",
    .mark .openParen, .name "host", .mark .closeParen, .mark .closeParen, .mark .openBrace] ++
  line ([.keyword .conditional, .mark .openParen] ++ isInNetLexemes "10.0.0.0" "255.0.0.0") ++
  line (.mark .or :: isInNetLexemes "127.0.0.0" "255.0.0.0") ++
  line (.mark .or :: isInNetLexemes "172.16.0.0" "255.240.0.0") ++
  line (.mark .or :: isInNetLexemes "192.168.0.0" "255.255.0.0") ++
  line [.mark .closeParen, .mark .openBrace] ++
  line [.keyword .return, .text (ascii "DIRECT")] ++
  line [.mark .closeBrace] ++
  line [.mark .closeBrace]

def plainTokens : List Token :=
  line [.keyword .conditional, .mark .openParen, .name "isPlainHostName", .mark .openParen,
    .name "host", .mark .closeParen, .mark .or, .name "shExpMatch", .mark .openParen,
    .name "host", .mark .comma, .text (ascii "*.local"), .mark .closeParen, .mark .closeParen,
    .mark .openBrace] ++
  line [.keyword .return, .text (ascii "DIRECT")] ++
  line [.mark .closeBrace]

def listTokens : List Token :=
  line [.name "list", .mark .assign, .mark .openBracket]

def hostTokens (host : String) : List Token :=
  [⟨false, .text (hostText host)⟩, ⟨false, .mark .comma⟩]

def hostsTokens (hosts : List String) : List Token :=
  ⟨false, .mark .openBracket⟩ ::
    (hosts.flatMap hostTokens ++ [⟨false, .mark .closeBracket⟩, ⟨false, .mark .comma⟩])

def partsTokens : List Token :=
  line [.name "parts", .mark .assign, .name "host", .mark .dot, .name "split", .mark .openParen,
    .text (ascii "."), .mark .closeParen]

def searchTokens : List Token :=
  line [.keyword .for, .mark .openParen, .keyword .let, .name "i", .mark .assign, .number 0,
    .mark .semicolon, .name "i", .mark .less, .name "list", .mark .dot, .name "length",
    .mark .semicolon, .name "i", .mark .increment, .mark .closeParen, .mark .openBrace] ++
  line [.name "part_count", .mark .assign, .name "i", .mark .plus, .number 1, .mark .semicolon] ++
  line [.keyword .conditional, .mark .openParen, .name "part_count", .mark .greater, .name "parts",
    .mark .dot, .name "length", .mark .closeParen, .mark .openBrace] ++
  line [.keyword .break] ++
  line [.mark .closeBrace] ++
  line [.name "phost", .mark .assign, .name "parts", .mark .dot, .name "slice", .mark .openParen,
    .name "parts", .mark .dot, .name "length", .mark .minus, .name "part_count",
    .mark .closeParen, .mark .dot, .name "join", .mark .openParen, .text (ascii "."),
    .mark .closeParen] ++
  line [.keyword .conditional, .mark .openParen, .name "list", .mark .openBracket, .name "i",
    .mark .closeBracket, .mark .dot, .name "indexOf", .mark .openParen, .name "phost",
    .mark .closeParen, .mark .notEqual, .mark .minus, .number 1, .mark .closeParen,
    .mark .openBrace] ++
  line [.keyword .return, .text (ascii "DIRECT;")] ++
  line [.mark .closeBrace] ++
  line [.mark .closeBrace]

/-- The last statement and the brace behind it. -/
def proxyTokens (port : UInt16) : List Token :=
  line [.keyword .return, .text (proxyVerdict port)] ++ line [.mark .closeBrace]

set_option maxRecDepth 20000 in
theorem pacMiddle_apart : apart '_' '_' pacMiddle.toList = true := by
  rw [show pacMiddle.toList = _ from String.toList_ofList]
  decide +kernel

set_option maxRecDepth 20000 in
theorem pacHead_apart : apart '_' '_' pacHead.toList = true := by
  rw [show pacHead.toList = _ from String.toList_ofList]
  decide +kernel

/-- A host as it stands in the text: the second replacement goes over it too. -/
def hostPrint (port : UInt16) (host : String) : List Char :=
  replaceAll proxyMark (proxyText port) host.toList

def hostsPrint (port : UInt16) (hosts : List String) : List Char :=
  '[' :: (hosts.flatMap fun host => '"' :: (hostPrint port host ++ ['"', ','])) ++ [']', ',']

theorem hostPrint_literal {host : String} (literal : IsLiteral host) (port : UInt16) :
    hostPrint port host = host.toList :=
  replaceFrom_absent literal.unmarked _

theorem replace_hosts (port : UInt16) (hosts : List String) (rest : List Char) :
    replaceFrom proxyMark (proxyText port) (hostsText hosts ++ rest) 0 =
      hostsPrint port hosts ++ replaceFrom proxyMark (proxyText port) rest 0 := by
  have passes : ∀ {front : List Char}, '_' ∉ front → ∀ text : List Char,
      replaceFrom proxyMark (proxyText port) (front ++ text) 0 =
        front ++ replaceFrom proxyMark (proxyText port) text 0 :=
    fun clear _ => replaceFrom_apart (apart_of_not_mem clear '_') _ _
  have items : ∀ text : List Char,
      replaceFrom proxyMark (proxyText port)
          ((hosts.flatMap fun host => '"' :: (host.toList ++ ['"', ','])) ++ text) 0 =
        (hosts.flatMap fun host => '"' :: (hostPrint port host ++ ['"', ','])) ++
          replaceFrom proxyMark (proxyText port) text 0 := by
    intro text
    induction hosts with
    | nil => rfl
    | cons host hosts ih =>
        have quoted := @replaceFrom_separated _ _ proxyMark (by simp [proxyMark]) '"'
          (by simp [proxyMark]) (proxyText port) host.toList
        simp only [List.flatMap_cons, List.cons_append, List.append_assoc, List.nil_append]
        rw [← List.singleton_append, passes (by simp), quoted _ (Nat.zero_le _),
          ← List.singleton_append (x := ','), passes (by simp), ih]
        rfl
  have opening := passes (show '_' ∉ ['['] by simp)
  have closing := passes (show '_' ∉ [']', ','] by simp)
  simp only [hostsText, hostsPrint, List.cons_append, List.append_assoc, List.nil_append]
    at items opening closing ⊢
  rw [opening, items, closing]

theorem replace_array (port : UInt16) (domains : List String) (rest : List Char) :
    replaceFrom proxyMark (proxyText port) (arrayText domains ++ rest) 0 =
      (byDots domains).flatMap (hostsPrint port) ++
        replaceFrom proxyMark (proxyText port) rest 0 := by
  rw [arrayText, ← byDots]
  induction byDots domains with
  | nil => rfl
  | cons hosts buckets ih =>
      rw [List.flatMap_cons, List.append_assoc, replace_hosts, ih, List.flatMap_cons,
        List.append_assoc]

/-- The two replacements put the list and the proxy in their places. -/
theorem buildPac_print (domains : List String) (port : UInt16) :
    buildPac domains port = pacHead.toList ++ ((byDots domains).flatMap (hostsPrint port) ++
      (pacMiddle.toList ++ (proxyText port ++ pacTail.toList))) := by
  have passed : ∀ replacement : List Char,
      replaceFrom arrayMark replacement (proxyMark ++ pacTail.toList) 0 =
        proxyMark ++ pacTail.toList := by
    intro replacement
    rw [show pacTail.toList = _ from String.toList_ofList]
    rfl
  have tail : replaceFrom proxyMark (proxyText port) pacTail.toList 0 = pacTail.toList := by
    rw [show pacTail.toList = _ from String.toList_ofList]
    rfl
  have first : replaceAll arrayMark (arrayText domains) pacContent = pacHead.toList ++
      (arrayText domains ++ (pacMiddle.toList ++ (proxyMark ++ pacTail.toList))) := by
    rw [replaceAll, pacContent]
    rw [arrayMark, replaceFrom_apart pacHead_apart, ← arrayMark,
      replaceFrom_pattern (by simp [arrayMark])]
    rw [arrayMark, replaceFrom_apart pacMiddle_apart, ← arrayMark, passed]
  rw [buildPac, first, replaceAll]
  rw [proxyMark, replaceFrom_apart pacHead_apart, ← proxyMark, replace_array, proxyMark,
    replaceFrom_apart pacMiddle_apart, ← proxyMark, replaceFrom_pattern (by simp [proxyMark]), tail]

theorem lexes_host {host : String} (literal : IsLiteral host) (port : UInt16) :
    Lexes ('"' :: (hostPrint port host ++ ['"', ','])) (hostTokens host) := by
  have comma : Lexes [','] [⟨false, .mark .comma⟩] := Lexes.mark rfl
  have quoted : Lexes ('"' :: (host.toList ++ ['"'])) [⟨false, .text (hostText host)⟩] :=
    Lexes.text (.inl rfl) literal.plain
  have both := quoted.append comma
  rw [List.cons_append, List.append_assoc] at both
  rwa [hostPrint_literal literal]

theorem lexes_hosts {hosts : List String} (literal : ∀ host ∈ hosts, IsLiteral host)
    (port : UInt16) : Lexes (hostsPrint port hosts) (hostsTokens hosts) := by
  have opening : Lexes ['['] [⟨false, .mark .openBracket⟩] := Lexes.mark rfl
  have closing : Lexes [']'] [⟨false, .mark .closeBracket⟩] := Lexes.mark rfl
  have comma : Lexes [','] [⟨false, .mark .comma⟩] := Lexes.mark rfl
  have items : Lexes (hosts.flatMap fun host => '"' :: (hostPrint port host ++ ['"', ',']))
      (hosts.flatMap hostTokens) :=
    Lexes.flatMap fun host inside => lexes_host (literal host inside) port
  exact opening.append (items.append (closing.append comma))

theorem lexes_array {domains : List String} (literal : ∀ domain ∈ domains, IsLiteral domain)
    (port : UInt16) :
    Lexes ((byDots domains).flatMap (hostsPrint port)) ((byDots domains).flatMap hostsTokens) :=
  Lexes.flatMap fun _ listed => lexes_hosts
    (fun host inside => literal host (mem_of_mem_byDots listed inside)) port

set_option maxRecDepth 20000 in
theorem run_pacHead :
    Lexer.start.run pacHead.toList =
      some (functionTokens ++ (quadTokens ++ (plainTokens ++ listTokens)),
        ⟨false, some (.mark .openBracket), .between⟩) := by
  rw [show pacHead.toList = _ from String.toList_ofList]
  decide +kernel

set_option maxRecDepth 20000 in
theorem run_pacMiddle (previous : Option Lexeme) :
    (Lexer.mk false previous .between).run pacMiddle.toList =
      some (⟨false, .mark .closeBracket⟩ ::
          (partsTokens ++ (searchTokens ++ [⟨true, .keyword .return⟩])),
        ⟨false, some (.keyword .return), .between⟩) := by
  have bracket : (Lexer.mk false previous .between).run [']'] =
      some ([⟨false, .mark .closeBracket⟩], ⟨false, some (.mark .closeBracket), .between⟩) := rfl
  have others : (Lexer.mk false (some (.mark .closeBracket)) .between).run pacMiddle.toList.tail =
      some (partsTokens ++ (searchTokens ++ [⟨true, .keyword .return⟩]),
        ⟨false, some (.keyword .return), .between⟩) := by
    rw [show pacMiddle.toList = _ from String.toList_ofList]
    decide +kernel
  have split : pacMiddle.toList = [']'] ++ pacMiddle.toList.tail := by
    rw [show pacMiddle.toList = _ from String.toList_ofList]
    rfl
  rw [split]
  exact Lexer.run_append bracket others

theorem lexes_proxy (port : UInt16) :
    Lexes (proxyText port) [⟨false, .text (proxyVerdict port)⟩] := by
  have plain : ∀ char ∈ "PROXY ".toList ++ (proxyAddressText port).toList,
      Lexer.Plain '\'' char := by
    intro char found
    rw [proxyAddressText, String.toList_append, toString, instToStringNat, Nat.toList_repr,
      List.mem_append, List.mem_append] at found
    rcases found with found | found | found
    · revert char
      simp [Lexer.Plain]
    · revert char
      simp [Lexer.Plain]
    · have digit := Nat.isDigit_of_mem_toDigits (by decide) (by decide) found
      have differs : ∀ other : Char, other.isDigit = false → char ≠ other := by
        intro other foreign same
        rw [same, foreign] at digit
        cases digit
      exact ⟨differs _ rfl, differs _ rfl, differs _ rfl, differs _ rfl⟩
  have quoted := Lexes.text (.inr rfl) plain
  rw [List.flatMap_append, show "PROXY ".toList.flatMap utf16 = ascii "PROXY " from rfl] at quoted
  exact quoted

/-- The tokens of the text. -/
def pacTokens (domains : List String) (port : UInt16) : List Token :=
  functionTokens ++ (quadTokens ++ (plainTokens ++ (listTokens ++
    ((byDots domains).flatMap hostsTokens ++
      ⟨false, .mark .closeBracket⟩ :: (partsTokens ++ (searchTokens ++ proxyTokens port))))))

theorem tokens_buildPac {domains : List String} (literal : ∀ domain ∈ domains, IsLiteral domain)
    (port : UInt16) : tokens (buildPac domains port) = some (pacTokens domains port) := by
  obtain ⟨afterArray, runArray⟩ := lexes_array literal port (some (.mark .openBracket))
  obtain ⟨afterProxy, runProxy⟩ := lexes_proxy port (some (.keyword .return))
  have runTail : (Lexer.mk false afterProxy .between).run pacTail.toList =
      some (line [.mark .closeBrace], ⟨true, some (.mark .closeBrace), .between⟩) := by
    rw [show pacTail.toList = _ from String.toList_ofList]
    rfl
  have run := Lexer.run_append run_pacHead (Lexer.run_append runArray
    (Lexer.run_append (run_pacMiddle afterArray) (Lexer.run_append runProxy runTail)))
  rw [tokens, buildPac_print, run]
  simp only [pacTokens, proxyTokens, line, Lexer.finish, Option.bind_eq_bind, Option.bind_some,
    pure, List.append_assoc, List.cons_append, List.nil_append, List.map_cons, List.map_nil]

theorem parse_quad (fuel : Nat) (rest : List Token) :
    Parser.parseStatement (fuel + 60) (quadTokens ++ rest) = some (quadCheck, rest) := rfl

theorem parse_plain (fuel : Nat) (rest : List Token) :
    Parser.parseStatement (fuel + 60) (plainTokens ++ rest) = some (plainCheck, rest) := rfl

theorem parse_parts (fuel : Nat) (rest : List Token) :
    Parser.parseStatement (fuel + 60) (partsTokens ++ (searchTokens ++ rest)) =
      some (setParts, searchTokens ++ rest) := rfl

theorem parse_search (fuel : Nat) (rest : List Token) :
    Parser.parseStatement (fuel + 60) (searchTokens ++ rest) = some (search, rest) := rfl

theorem parse_proxy (fuel : Nat) (port : UInt16) :
    Parser.parseStatement (fuel + 60) (proxyTokens port) =
      some (.return (some (.text (proxyVerdict port))), line [.mark .closeBrace]) := rfl

theorem parseItems_hosts {hosts : List String} {fuel : Nat} (enough : hosts.length + 10 ≤ fuel)
    (rest : List Token) :
    Parser.parseItems fuel .closeBracket
        (hosts.flatMap hostTokens ++ ⟨false, .mark .closeBracket⟩ :: rest) =
      some (hosts.map fun host => .text (hostText host), rest) := by
  induction hosts generalizing fuel with
  | nil =>
      obtain ⟨spare, rfl⟩ := Nat.exists_eq_add_of_le' enough
      exact Parser.parseItems_close _ _ _ _
  | cons host hosts ih =>
      rw [List.length_cons] at enough
      obtain ⟨spare, rfl⟩ : ∃ spare, fuel = spare + 10 + 1 := ⟨fuel - 11, by omega⟩
      have item : ∀ tokens, Parser.parseExpr (spare + 10)
          (⟨false, .text (hostText host)⟩ :: ⟨false, .mark .comma⟩ :: tokens) =
            some (.text (hostText host), ⟨false, .mark .comma⟩ :: tokens) := fun _ => rfl
      exact Parser.parseItems_comma rfl (item _) (ih (by omega))

theorem hostsTokens_length (hosts : List String) :
    (hostsTokens hosts).length = 2 * hosts.length + 3 := by
  have flat : (hosts.flatMap hostTokens).length = 2 * hosts.length := by
    simp [List.length_flatMap, hostTokens, Nat.mul_comm]
  rw [hostsTokens, List.length_cons, List.length_append, flat]
  rfl

/-- A list of hosts takes one from the fuel, and it has three tokens at least. -/
theorem parseItems_array {buckets : List (List String)} {fuel : Nat}
    (enough : (buckets.flatMap hostsTokens).length + 20 ≤ fuel) (rest : List Token) :
    Parser.parseItems fuel .closeBracket
        (buckets.flatMap hostsTokens ++ ⟨false, .mark .closeBracket⟩ :: rest) =
      some (buckets.map hostsExpr, rest) := by
  induction buckets generalizing fuel with
  | nil =>
      obtain ⟨spare, rfl⟩ := Nat.exists_eq_add_of_le' enough
      exact Parser.parseItems_close _ _ _ _
  | cons hosts buckets ih =>
      rw [List.flatMap_cons, List.length_append, hostsTokens_length] at enough
      obtain ⟨spare, rfl⟩ : ∃ spare, fuel = spare + 4 + 1 := ⟨fuel - 5, by omega⟩
      have sized : hosts.length + 10 ≤ spare := by omega
      have inside := parseItems_hosts sized
        (⟨false, .mark .comma⟩ ::
          (buckets.flatMap hostsTokens ++ ⟨false, .mark .closeBracket⟩ :: rest))
      have item := Parser.parseExpr_array false inside (fun _ => rfl) rfl
      have later := ih (show (buckets.flatMap hostsTokens).length + 20 ≤ spare + 4 by omega)
      rw [List.flatMap_cons, hostsTokens, List.append_assoc, List.cons_append, List.append_assoc]
      exact Parser.parseItems_comma rfl item later

theorem parse_list {domains : List String} {fuel : Nat}
    (enough : ((byDots domains).flatMap hostsTokens).length + 60 ≤ fuel) (rest : List Token) :
    Parser.parseStatement fuel (listTokens ++ ((byDots domains).flatMap hostsTokens ++
        ⟨false, .mark .closeBracket⟩ :: (partsTokens ++ rest))) =
      some (setList domains, partsTokens ++ rest) := by
  obtain ⟨spare, rfl⟩ : ∃ spare, fuel = spare + 4 + 1 + 1 := ⟨fuel - 6, by omega⟩
  have sized : ((byDots domains).flatMap hostsTokens).length + 20 ≤ spare := by omega
  have array := Parser.parseExpr_array false (parseItems_array sized (partsTokens ++ rest))
    (fun _ => rfl) rfl
  exact Parser.parseStatement_expr (Parser.parseExpr_assign array) (by simp)

theorem parse_body {domains : List String} {port : UInt16} {fuel : Nat}
    (enough : ((byDots domains).flatMap hostsTokens).length + 100 ≤ fuel) :
    Parser.parseBlock fuel (quadTokens ++ (plainTokens ++ (listTokens ++
      ((byDots domains).flatMap hostsTokens ++ ⟨false, .mark .closeBracket⟩ ::
        (partsTokens ++ (searchTokens ++ proxyTokens port)))))) =
      some ((findProxyForURL domains port).body, []) := by
  obtain ⟨spare, rfl⟩ : ∃ spare, fuel = spare + 60 + 1 + 1 + 1 + 1 + 1 + 1 + 1 :=
    ⟨fuel - 67, by omega⟩
  have list := parse_list
    (show ((byDots domains).flatMap hostsTokens).length + 60 ≤ spare + 60 + 1 + 1 + 1 + 1 by omega)
    (searchTokens ++ proxyTokens port)
  have final : Parser.parseBlock (spare + 60 + 1) (line [.mark .closeBrace]) = some ([], []) := rfl
  exact Parser.parseBlock_cons rfl (parse_quad (spare + 6) _)
    (Parser.parseBlock_cons rfl (parse_plain (spare + 5) _)
      (Parser.parseBlock_cons rfl list
        (Parser.parseBlock_cons rfl (parse_parts (spare + 3) _)
          (Parser.parseBlock_cons rfl (parse_search (spare + 2) _)
            (Parser.parseBlock_cons rfl (parse_proxy (spare + 1) port) final)))))

/-- The text is a script of one function. -/
theorem parse_buildPac {domains : List String} (literal : ∀ domain ∈ domains, IsLiteral domain)
    (port : UInt16) : parse (buildPac domains port) = some [findProxyForURL domains port] := by
  have sized : ((byDots domains).flatMap hostsTokens).length + 12 ≤
      (pacTokens domains port).length := by
    have function : functionTokens.length = 8 := rfl
    have list : listTokens.length = 3 := rfl
    simp only [pacTokens, List.length_append, List.length_cons, function, list]
    omega
  have body := @parse_body domains port _
    (show ((byDots domains).flatMap hostsTokens).length + 100 ≤
      8 * (pacTokens domains port).length + 8 by omega)
  have headed : ∀ fuel tokens, Parser.parseFunction fuel (functionTokens ++ tokens) =
      (Parser.parseBlock fuel tokens).bind fun result =>
        some ({ findProxyForURL domains port with body := result.1 }, result.2) :=
    fun _ _ => rfl
  have function : Parser.parseFunction (8 * (pacTokens domains port).length + 8)
      (pacTokens domains port) = some (findProxyForURL domains port, []) :=
    (headed (8 * (pacTokens domains port).length + 8) _).trans (by rw [body]; rfl)
  exact parse_single (tokens_buildPac literal port) function

end CovertConnect.Client.PacScript
