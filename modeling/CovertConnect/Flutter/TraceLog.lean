import CovertConnect.Data.HeaderEnd
import CovertConnect.Flutter.RevLines

namespace CovertConnect.Flutter

open CovertConnect.Data

/-! # Pages of the log

The log is shown from its end on, a page at a time: the position of the last line
of a page is where the next one starts. -/

def defaultSize : Nat := 4096

structure LogLine where
  line : String
  position : Nat
deriving DecidableEq, Repr

def LogLine.ofRevLine (revLine : RevLine) : LogLine where
  line := revLine.line
  position := revLine.position

/-- The loop of `get_trace_log`; `line?` passes an error on. -/
def collect (limit : Nat) :
    List (Except RevError RevLine) → (result : List RevLine) → Except RevError (List RevLine)
  | [], result => .ok result
  | item :: items, result =>
      if result.length ≥ limit then .ok result
      else do
        let line ← item
        collect limit items (result ++ [line])

def getTraceLog (content : Bytes) (start : Option Nat) (limit : Nat) :
    Except RevError (List LogLine) := do
  let result ← collect limit ((RevLines.withCapacity defaultSize start content).map Prod.snd) []
  return result.map LogLine.ofRevLine

/-- Pages up to the first empty one, each from the last position of the page
before; nothing when the calls do not suffice. -/
def readPages (content : Bytes) (limits : Nat → Nat) :
    (calls turn : Nat) → (start : Option Nat) → Option (Except RevError (List (List LogLine)))
  | 0, _, _ => none
  | calls + 1, turn, start =>
      match getTraceLog content start (limits turn) with
      | .error error => some (.error error)
      | .ok page =>
          match page.getLast? with
          | none => some (.ok [])
          | some line =>
              (readPages content limits calls (turn + 1) (some line.position)).map
                (Except.map (page :: ·))

/-- The lines in front of `last`, all of them texts. -/
inductive Reads (content : Bytes) : Nat → List RevLine → Prop
  | start : Reads content 0 []
  | line {last : Nat} {line : String} {lines : List RevLine} : 0 < last → last ≤ content.length →
      fromUtf8 (between content (lineStart lfByte content last) last) = some line →
      Reads content (RevLines.nextEnd content defaultSize last) lines →
      Reads content last (⟨line, RevLines.nextEnd content defaultSize last⟩ :: lines)

namespace Reads

variable {content : Bytes} {last : Nat} {lines : List RevLine}

theorem inside (reads : Reads content last lines) : last ≤ content.length := by
  cases reads with
  | start => exact Nat.zero_le _
  | line _ inside _ _ => exact inside

theorem readings_eq (reads : Reads content last lines) :
    (RevLines.readings content (last + 1) ⟨last, defaultSize⟩).map Prod.snd = lines.map .ok := by
  induction reads with
  | start => rfl
  | @line last line lines unread inside known rest ih =>
      have shorter := RevLines.nextEnd_lt content defaultSize unread
      rw [RevLines.readings_cons (by decide) unread inside, RevLines.asItem, known,
        RevLines.readings_enough (by decide) rest.inside shorter (Nat.lt_succ_self _), List.map_cons,
        ih]
      rfl

/-- A line's position is where the lines behind it are read from. -/
theorem drop (reads : Reads content last lines) {front back : List RevLine} {line : RevLine}
    (split : lines = front ++ line :: back) : Reads content line.position back := by
  induction front generalizing last lines with
  | nil =>
      subst split
      cases reads with
      | line _ _ _ rest => exact rest
  | cons first front ih =>
      subst split
      cases reads with
      | line _ _ _ rest => exact ih rest rfl

end Reads

theorem collect_ok (limit : Nat) (lines result : List RevLine) :
    collect limit (lines.map .ok) result = .ok (result ++ lines.take (limit - result.length)) := by
  induction lines generalizing result with
  | nil => simp [collect]
  | cons line lines ih =>
      rw [List.map_cons, collect]
      split
      · rename_i full
        rw [Nat.sub_eq_zero_of_le full, List.take_zero, List.append_nil]
      · rename_i room
        obtain ⟨left, counted⟩ : ∃ left, limit - result.length = left + 1 :=
          ⟨limit - result.length - 1, by omega⟩
        have fewer : limit - (result ++ [line]).length = left := by
          rw [List.length_append, List.length_singleton]
          omega
        have taken := ih (result ++ [line])
        rw [fewer, List.append_assoc, List.singleton_append] at taken
        rw [counted, List.take_succ_cons]
        exact taken

theorem getTraceLog_reads {content : Bytes} {start : Option Nat} {lines : List RevLine}
    (reads : Reads content (start.getD content.length) lines) (limit : Nat) :
    getTraceLog content start limit = .ok ((lines.take limit).map LogLine.ofRevLine) := by
  rw [getTraceLog, RevLines.withCapacity, reads.readings_eq, collect_ok]
  rfl

/-- The pages are the lines that were left to read, each once. -/
theorem readPages_reads {content : Bytes} {limits : Nat → Nat} (some' : ∀ turn, 1 ≤ limits turn)
    (count : Nat) {start : Option Nat} {lines : List RevLine} (sized : lines.length = count)
    (reads : Reads content (start.getD content.length) lines) (turn : Nat) :
    ∃ pages, pages.flatten = lines.map LogLine.ofRevLine ∧
      ∀ calls, count < calls → readPages content limits calls turn start = some (.ok pages) := by
  induction count using Nat.strong_induction_on generalizing start lines turn with
  | _ count ih =>
      have page := getTraceLog_reads reads (limits turn)
      cases lines with
      | nil =>
          exists []
          constructor
          · rfl
          · intro calls enough
            obtain ⟨spare, rfl⟩ : ∃ spare, calls = spare + 1 := ⟨calls - 1, by omega⟩
            rw [List.take_nil] at page
            rw [readPages, page]
            rfl
      | cons line lines =>
          have read : (line :: lines).take (limits turn) ≠ [] := by
            intro nothing
            rw [List.take_eq_nil_iff] at nothing
            rcases nothing with zero | empty
            · exact absurd (some' turn) (by omega)
            · cases empty
          obtain ⟨front, last, taken, split⟩ := take_split read
          have shorter : ((line :: lines).drop (limits turn)).length < count := by
            have length := congrArg List.length split
            rw [List.length_append, List.length_cons (a := last), sized] at length
            omega
          obtain ⟨pages, flat, enough⟩ := @ih _ shorter (some last.position) _ rfl
            (reads.drop split) (turn + 1)
          exists (front ++ [last]).map LogLine.ofRevLine :: pages
          constructor
          · rw [List.flatten_cons, flat, ← List.map_append, List.append_assoc,
              List.singleton_append, ← split]
          · intro calls enough'
            obtain ⟨spare, rfl⟩ : ∃ spare, calls = spare + 1 := ⟨calls - 1, by omega⟩
            have after := enough spare (by omega)
            rw [taken] at page
            have ends : ((front ++ [last]).map LogLine.ofRevLine).getLast? =
                some (LogLine.ofRevLine last) := by
              rw [List.map_append, List.map_singleton, List.getLast?_concat]
            rw [readPages, page]
            simp only [ends]
            rw [show (LogLine.ofRevLine last).position = last.position from rfl, after]
            rfl

theorem Reads.single {line : String} (unread : 0 < (utf8Bytes line).length)
    (noFeed : lfByte ∉ utf8Bytes line) (rest : Bytes) :
    Reads (utf8Bytes line ++ rest) (utf8Bytes line).length [⟨line, 0⟩] := by
  have start := @lineStart_append _ _ lfByte [] (utf8Bytes line) rest noFeed nofun
  have whole := between_middle [] (utf8Bytes line) rest
  rw [List.nil_append, List.length_nil, Nat.zero_add] at start whole
  have ends : RevLines.nextEnd (utf8Bytes line ++ rest) defaultSize (utf8Bytes line).length = 0 := by
    rw [RevLines.nextEnd, start]
  have read := @Reads.line (utf8Bytes line ++ rest) _ line [] unread (by simp)
    (by rw [start, whole, fromUtf8_utf8Bytes]) (by rw [ends]; exact Reads.start)
  rwa [ends] at read

/-- A line behind a line end. -/
theorem Reads.behind {front rest : Bytes} {line : String} {lines : List RevLine}
    (noFeed : lfByte ∉ utf8Bytes line) (noReturn : crByte ∉ front)
    (reads : Reads (front ++ [lfByte] ++ utf8Bytes line ++ rest) front.length lines) :
    Reads (front ++ [lfByte] ++ utf8Bytes line ++ rest) (front.length + 1 + (utf8Bytes line).length)
      (⟨line, front.length⟩ :: lines) := by
  have begins : ∀ place, (front ++ [lfByte]).length = place + 1 →
      (front ++ [lfByte])[place]? = some lfByte := by
    intro place behind
    rw [List.length_append, List.length_singleton] at behind
    rw [← Nat.succ.inj behind, List.getElem?_append_right (Nat.le_refl _), Nat.sub_self]
    rfl
  have start := lineStart_append rest noFeed begins
  have whole := between_middle (front ++ [lfByte]) (utf8Bytes line) rest
  rw [List.length_append, List.length_singleton] at start whole
  have ends : RevLines.nextEnd (front ++ [lfByte] ++ utf8Bytes line ++ rest) defaultSize
      (front.length + 1 + (utf8Bytes line).length) = front.length := by
    rw [RevLines.nextEnd, start]
    simp only
    apply if_neg
    intro both
    have inFront : front.length - 1 < front.length := by
      have far := both.1
      omega
    have cr := both.2
    rw [List.append_assoc, List.append_assoc, List.getElem?_append_left inFront] at cr
    exact noReturn (List.mem_of_getElem? cr)
  have inside : front.length + 1 + (utf8Bytes line).length ≤
      (front ++ [lfByte] ++ utf8Bytes line ++ rest).length := by
    simp only [List.length_append, List.length_singleton]
    omega
  have read := @Reads.line (front ++ [lfByte] ++ utf8Bytes line ++ rest)
    (front.length + 1 + (utf8Bytes line).length) line lines (by omega) inside
    (by rw [start, whole, fromUtf8_utf8Bytes]) (by rwa [ends])
  rwa [ends] at read

/-- A line without line ends. -/
structure Plain (text : String) : Prop where
  noFeed : '\n' ∉ text.toList
  noReturn : '\r' ∉ text.toList

theorem Plain.lfByte {text : String} (plain : Plain text) : lfByte ∉ utf8Bytes text :=
  mem_utf8Bytes (by decide) rfl plain.noFeed

theorem Plain.crByte {text : String} (plain : Plain text) : crByte ∉ utf8Bytes text :=
  mem_utf8Bytes (by decide) rfl plain.noReturn

theorem crByte_joined {texts : List String} (plain : ∀ text ∈ texts, Plain text) :
    crByte ∉ utf8Bytes (String.intercalate "\n" texts) := by
  apply @mem_utf8Bytes _ '\r' _ (by decide) rfl
  induction texts with
  | nil => exact List.not_mem_nil
  | cons text texts ih =>
      have here := (plain text List.mem_cons_self).noReturn
      cases texts with
      | nil => rwa [String.intercalate_singleton]
      | cons next texts =>
          have behind := ih fun text member => plain text (List.mem_cons_of_mem _ member)
          rw [String.intercalate_cons_cons, String.toList_append, String.toList_append,
            List.append_assoc, List.mem_append, List.mem_append]
          intro found
          rcases found with found | found | found
          · exact here found
          · cases List.mem_singleton.mp found
          · exact behind found

theorem utf8Bytes_length_pos {text : String} (some' : text ≠ "") : 0 < (utf8Bytes text).length := by
  cases chars : text.toList with
  | nil => exact absurd (String.toList_eq_nil_iff.mp chars) some'
  | cons char chars =>
      rw [utf8Bytes_flatMap, ‹text.toList = _›, List.flatMap_cons, List.length_append]
      exact Nat.add_pos_left (by simp [Char.utf8Size_pos]) _

/-- Lines that were written are read back, from the last one on. -/
theorem reads_texts (texts : List String) (plain : ∀ text ∈ texts, Plain text)
    (first : texts.head? ≠ some "") (rest : Bytes) :
    ∃ lines, Reads (utf8Bytes (String.intercalate "\n" texts) ++ rest)
        (utf8Bytes (String.intercalate "\n" texts)).length lines ∧
      lines.map RevLine.line = texts.reverse := by
  induction texts using List.reverseRecOn generalizing rest with
  | nil => exact ⟨[], Reads.start, rfl⟩
  | append_singleton texts text ih =>
      have lineFeed := (plain text (by simp)).lfByte
      have plainFront : ∀ text ∈ texts, Plain text :=
        fun text member => plain text (List.mem_append_left _ member)
      rcases eq_or_ne texts [] with rfl | some'
      · rw [List.nil_append] at first ⊢
        rw [String.intercalate_singleton]
        have unread : text ≠ "" := by
          intro empty
          rw [empty] at first
          exact first rfl
        exact ⟨[⟨text, 0⟩], Reads.single (utf8Bytes_length_pos unread) lineFeed rest, rfl⟩
      · rw [List.head?_append_of_ne_nil _ some'] at first
        have joined : utf8Bytes (String.intercalate "\n" (texts ++ [text])) =
            utf8Bytes (String.intercalate "\n" texts) ++ [lfByte] ++ utf8Bytes text := by
          rw [String.intercalate_append_of_ne_nil some' (List.cons_ne_nil _ _),
            String.intercalate_singleton, utf8Bytes_append, utf8Bytes_append]
          rfl
        obtain ⟨lines, reads, read⟩ := ih plainFront first ([lfByte] ++ utf8Bytes text ++ rest)
        rw [← List.append_assoc, ← List.append_assoc] at reads
        have behind := reads.behind lineFeed (crByte_joined plainFront)
        exists ⟨text, (utf8Bytes (String.intercalate "\n" texts)).length⟩ :: lines
        constructor
        · rw [joined, List.length_append, List.length_append, List.length_singleton]
          exact behind
        · rw [List.map_cons, read, List.reverse_append]
          rfl

theorem plain_cons {char : Char} {text : String} (other : char ≠ '\n') (other' : char ≠ '\r')
    (plain : Plain text) : Plain (String.singleton char ++ text) := by
  constructor
  · rw [String.toList_append, String.toList_singleton, List.singleton_append, List.mem_cons]
    exact fun found => found.elim (fun same => other same.symm) plain.noFeed
  · rw [String.toList_append, String.toList_singleton, List.singleton_append, List.mem_cons]
    exact fun found => found.elim (fun same => other' same.symm) plain.noReturn

/-- A text without carriage returns is made of lines. -/
theorem exists_texts {chars : List Char} (noReturn : '\r' ∉ chars) :
    ∃ text texts, String.intercalate "\n" (text :: texts) = String.ofList chars ∧
      (∀ line ∈ text :: texts, Plain line) ∧ (text = "" → chars.head? = some '\n' ∨ chars = []) := by
  induction chars with
  | nil =>
      exists "", []
      constructor
      · exact String.intercalate_singleton
      · constructor
        · intro line member
          rw [List.mem_singleton.mp member]
          exact ⟨List.not_mem_nil, List.not_mem_nil⟩
        · exact fun _ => .inr rfl
  | cons char chars ih =>
      rw [List.mem_cons, not_or] at noReturn
      obtain ⟨text, texts, joined, plain, -⟩ := ih noReturn.2
      rcases eq_or_ne char '\n' with rfl | other
      · exists "", text :: texts
        constructor
        · rw [String.intercalate_cons_cons, joined, String.empty_append, ← String.toList_inj]
          simp
        · constructor
          · exact List.forall_mem_cons.mpr ⟨⟨List.not_mem_nil, List.not_mem_nil⟩, plain⟩
          · exact fun _ => .inl rfl
      · exists String.singleton char ++ text, texts
        constructor
        · rw [String.intercalate_cons_append, joined, ← String.toList_inj]
          simp
        · constructor
          · rw [List.forall_mem_cons] at plain ⊢
            exact ⟨plain_cons other (Ne.symm noReturn.1) plain.1, plain.2⟩
          · intro empty
            have chars' := congrArg String.toList empty
            rw [String.toList_append, String.toList_singleton] at chars'
            cases chars'

/-- A text without carriage returns is read back line by line. -/
theorem reads_text {text : String} (noReturn : '\r' ∉ text.toList)
    (first : text.toList.head? ≠ some '\n') :
    ∃ lines, Reads (utf8Bytes text) (utf8Bytes text).length lines ∧
      String.intercalate "\n" (lines.reverse.map RevLine.line) = text := by
  rcases eq_or_ne text "" with rfl | some'
  · exact ⟨[], Reads.start, rfl⟩
  · obtain ⟨line, texts, joined, plain, begins⟩ := exists_texts noReturn
    rw [String.ofList_toList] at joined
    have head : (line :: texts).head? ≠ some "" := by
      intro empty
      rcases begins (Option.some.inj empty) with feed | nothing
      · exact first feed
      · exact some' (String.toList_eq_nil_iff.mp nothing)
    obtain ⟨lines, reads, read⟩ := reads_texts (line :: texts) plain head []
    rw [joined, List.append_nil] at reads
    exists lines
    constructor
    · exact reads
    · rw [List.map_reverse, read, List.reverse_reverse, joined]

/-- The pages up to the first empty one, turned around, are the text. -/
theorem pages_joined {text : String} (noReturn : '\r' ∉ text.toList)
    (first : text.toList.head? ≠ some '\n') {limits : Nat → Nat}
    (some' : ∀ turn, 1 ≤ limits turn) :
    ∃ pages count, (∀ calls, count < calls →
        readPages (utf8Bytes text) limits calls 0 none = some (.ok pages)) ∧
      String.intercalate "\n" (pages.flatten.reverse.map LogLine.line) = text := by
  obtain ⟨lines, reads, joined⟩ := reads_text noReturn first
  obtain ⟨pages, flat, enough⟩ := @readPages_reads _ limits some' _ none lines rfl reads 0
  exists pages, lines.length
  constructor
  · exact enough
  · rw [flat, ← List.map_reverse, List.map_map]
    exact joined

/-- An empty line between two lines, read in pages of one line and of two lines. -/
theorem pages_joined_two :
    ∃ pages count, (∀ calls, count < calls →
        readPages (utf8Bytes "é\n\n2") (· % 2 + 1) calls 0 none = some (.ok pages)) ∧
      String.intercalate "\n" (pages.flatten.reverse.map LogLine.line) = "é\n\n2" :=
  pages_joined (by decide) (by decide) fun turn => Nat.le_add_left 1 (turn % 2)

end CovertConnect.Flutter
