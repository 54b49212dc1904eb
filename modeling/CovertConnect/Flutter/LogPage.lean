import CovertConnect.Flutter.TraceLog

namespace CovertConnect.Flutter

/-! # The page that shows the log

`_LogPageState`: the first page is shown from its middle on in both directions,
and the older half grows by a page at a time. -/

def kReadChunkSize : Nat := 100

/-- `getLog` of the service. -/
abbrev GetLog : Type := (start : Option Nat) → (limit : Nat) → Except RevError (List LogLine)

structure LogPageState where
  newMessages : List String := []
  oldMessages : List LogLine := []
  endReached : Bool := false
  loadMoreInProgress : Bool := false

namespace LogPageState

/-- A `_loadMore` up to its `finally`. -/
def loadMore (getLog : GetLog) (this : LogPageState) : LogPageState :=
  if this.endReached ∨ this.loadMoreInProgress then this
  else
    match this.oldMessages.getLast? with
    | none => this
    | some last =>
        let this :=
          match getLog (some last.position) kReadChunkSize with
          | .error _ => this
          | .ok newMessages =>
              if newMessages.length < kReadChunkSize then { this with endReached := true }
              else { this with oldMessages := this.oldMessages ++ newMessages }
        { this with loadMoreInProgress := false }

/-- `_init` behind the registration. -/
def init (getLog : GetLog) (this : LogPageState) : LogPageState :=
  match getLog none kReadChunkSize with
  | .error _ => this
  | .ok messages =>
      let fullChunk := messages.length ≥ kReadChunkSize
      let messages := messages.dropWhile (·.line.isEmpty)
      let splitIndex := messages.length / 2
      let (oldMessages, messages) :=
        if fullChunk then (this.oldMessages ++ messages.drop splitIndex, messages.take splitIndex)
        else (this.oldMessages, messages)
      let newMessages := messages.reverse.map LogLine.line
      let newMessages :=
        if this.newMessages ≠ [] then newMessages.filter (· ∉ this.newMessages) else newMessages
      { this with oldMessages, newMessages := newMessages ++ this.newMessages }

/-- From the top of the page to its end. -/
def shown (this : LogPageState) : List String :=
  this.oldMessages.reverse.map LogLine.line ++ this.newMessages

/-- The page behind `_init` and some `_loadMore`. -/
def loaded (getLog : GetLog) (calls : Nat) : LogPageState :=
  (loadMore getLog)^[calls] (init getLog {})

end LogPageState

/-- The pages of a log are exact; its last line comes first. -/
structure ExactPages (getLog : GetLog) (log : List LogLine) : Prop where
  first : ∀ limit, getLog none limit = .ok (log.take limit)
  resumed : ∀ {front line back}, log = front ++ line :: back →
    ∀ limit, getLog (some line.position) limit = .ok (back.take limit)

/-- The log in front of its trailing empty lines. -/
def trimmed (log : List LogLine) : List LogLine :=
  log.dropWhile (·.line.isEmpty)

theorem exactPages_getTraceLog {content : Data.Bytes} {lines : List RevLine}
    (reads : Reads content content.length lines) :
    ExactPages (getTraceLog content) (lines.map LogLine.ofRevLine) where
  first limit := by
    rw [@getTraceLog_reads content none lines reads limit, List.map_take]
  resumed := by
    intro front line back split limit
    obtain ⟨front, rest, rfl, rfl, behind⟩ := List.map_eq_append_iff.mp split
    obtain ⟨line, back, rfl, rfl, rfl⟩ := List.map_eq_cons_iff.mp behind
    have page := @getTraceLog_reads content (some line.position) back (reads.drop rfl) limit
    rw [List.map_take] at page
    exact page

theorem trimmed_append {front : List LogLine} (some' : trimmed front ≠ []) (back : List LogLine) :
    trimmed (front ++ back) = trimmed front ++ back := by
  rw [trimmed, List.dropWhile_append, if_neg]
  · rfl
  · intro empty
    exact some' (List.isEmpty_iff.mp empty)

theorem getLast?_trimmed {log : List LogLine} (some' : trimmed log ≠ []) :
    (trimmed log).getLast? = log.getLast? := by
  obtain ⟨front, split⟩ := List.dropWhile_suffix (l := log) (·.line.isEmpty)
  conv_rhs => rw [← split]
  exact (List.getLast?_append_of_ne_nil _ some').symm

namespace LogPageState

/-- The page shows the end of the log from some page on. -/
structure Loaded (log : List LogLine) (pages : Nat) (state : LogPageState) : Prop where
  inside : kReadChunkSize * (pages + 1) ≤ log.length
  shows : state.shown = (trimmed (log.take (kReadChunkSize * (pages + 1)))).reverse.map LogLine.line
  some : trimmed (log.take (kReadChunkSize * (pages + 1))) ≠ []
  last : state.oldMessages.getLast? = (log.take (kReadChunkSize * (pages + 1))).getLast?
  idle : state.loadMoreInProgress = false
  ended : state.endReached = true → log.length < kReadChunkSize * (pages + 2)

theorem init_loaded {getLog : GetLog} {log : List LogLine} (exact' : ExactPages getLog log)
    (full : kReadChunkSize ≤ log.length) (some' : trimmed (log.take kReadChunkSize) ≠ []) :
    Loaded log 0 (init getLog {}) ∧ (init getLog {}).endReached = false := by
  have size : (log.take kReadChunkSize).length ≥ kReadChunkSize := by
    rw [List.length_take, Nat.min_eq_left full]
  have state : init getLog {} =
      { oldMessages := (trimmed (log.take kReadChunkSize)).drop
          ((trimmed (log.take kReadChunkSize)).length / 2)
        newMessages := ((trimmed (log.take kReadChunkSize)).take
          ((trimmed (log.take kReadChunkSize)).length / 2)).reverse.map LogLine.line } := by
    rw [init, exact'.first]
    simp only [if_pos size, ne_eq, not_true_eq_false, if_false, List.append_nil, List.nil_append]
    rfl
  have half : (trimmed (log.take kReadChunkSize)).length / 2 <
      (trimmed (log.take kReadChunkSize)).length := by
    have length := List.length_pos_iff.mpr some'
    omega
  rw [state]
  refine ⟨{
    inside := full
    shows := ?shows
    some := some'
    last := ?last
    idle := rfl
    ended := nofun }, rfl⟩
  case shows =>
    rw [shown, ← List.map_append, ← List.reverse_append, List.take_append_drop]
    rfl
  case last =>
    rw [List.getLast?_drop, if_neg (Nat.not_le.mpr half), getLast?_trimmed some']
    rfl

/-- What comes next is the page behind those that are shown. -/
theorem Loaded.loadMore_eq {getLog : GetLog} {log : List LogLine} (exact' : ExactPages getLog log)
    {pages : Nat} {state : LogPageState} (loaded : Loaded log pages state)
    (more : state.endReached = false) :
    loadMore getLog state =
      if log.length < kReadChunkSize * (pages + 2) then
        { state with endReached := true, loadMoreInProgress := false }
      else
        { state with
          oldMessages := state.oldMessages ++
            (log.drop (kReadChunkSize * (pages + 1))).take kReadChunkSize
          loadMoreInProgress := false } := by
  have inside := loaded.inside
  have read : log.take (kReadChunkSize * (pages + 1)) ≠ [] := by
    intro empty
    have count := congrArg List.length empty
    rw [List.length_take, Nat.min_eq_left inside, List.length_nil, kReadChunkSize] at count
    omega
  obtain ⟨front, last, taken, split⟩ := Data.take_split read
  have ends : state.oldMessages.getLast? = Option.some last := by
    rw [loaded.last, taken, List.getLast?_concat]
  have page := exact'.resumed split kReadChunkSize
  have short : ((log.drop (kReadChunkSize * (pages + 1))).take kReadChunkSize).length <
      kReadChunkSize ↔ log.length < kReadChunkSize * (pages + 2) := by
    rw [List.length_take, List.length_drop, show pages + 2 = pages + 1 + 1 from rfl,
      Nat.mul_succ _ (pages + 1)]
    omega
  have busy : ¬ (state.endReached = true ∨ state.loadMoreInProgress = true) := by
    rw [more, loaded.idle]
    decide
  rw [loadMore, if_neg busy, ends]
  simp only [page, short]
  split <;> rfl

theorem Loaded.next {log : List LogLine} {pages : Nat} {state : LogPageState}
    (loaded : Loaded log pages state) (more : state.endReached = false)
    (full : kReadChunkSize * (pages + 2) ≤ log.length) :
    Loaded log (pages + 1)
      { state with
        oldMessages := state.oldMessages ++
          (log.drop (kReadChunkSize * (pages + 1))).take kReadChunkSize
        loadMoreInProgress := false } := by
  have joined : log.take (kReadChunkSize * (pages + 1 + 1)) =
      log.take (kReadChunkSize * (pages + 1)) ++
        (log.drop (kReadChunkSize * (pages + 1))).take kReadChunkSize := by
    rw [Nat.mul_succ _ (pages + 1), List.take_add]
  have pageSome : (log.drop (kReadChunkSize * (pages + 1))).take kReadChunkSize ≠ [] := by
    intro empty
    have count := congrArg List.length empty
    rw [List.length_take, List.length_drop, List.length_nil, kReadChunkSize] at count
    rw [kReadChunkSize] at full
    omega
  refine {
    inside := full
    shows := ?shows
    some := ?some
    last := ?last
    idle := rfl
    ended := fun ended => absurd (more.symm.trans ended) nofun }
  case shows =>
    have before := loaded.shows
    rw [shown] at before
    rw [joined, trimmed_append loaded.some, shown, List.reverse_append, List.reverse_append,
      List.map_append, List.map_append, List.append_assoc, before]
  case some =>
    rw [joined, trimmed_append loaded.some]
    exact List.append_ne_nil_of_left_ne_nil loaded.some _
  case last =>
    rw [joined, List.getLast?_append_of_ne_nil _ pageSome,
      List.getLast?_append_of_ne_nil _ pageSome]

/-- A page that is full is shown, and one that is not ends the log. -/
theorem loadMore_loaded {getLog : GetLog} {log : List LogLine} (exact' : ExactPages getLog log)
    {pages : Nat} {state : LogPageState} (loaded : Loaded log pages state)
    (more : state.endReached = false) :
    Loaded log pages (loadMore getLog state) ∧ (loadMore getLog state).endReached = true ∨
      Loaded log (pages + 1) (loadMore getLog state) ∧
        (loadMore getLog state).endReached = false := by
  rw [loaded.loadMore_eq exact' more]
  by_cases near : log.length < kReadChunkSize * (pages + 2)
  · rw [if_pos near]
    exact .inl ⟨⟨loaded.inside, loaded.shows, loaded.some, loaded.last, rfl, fun _ => near⟩, rfl⟩
  · rw [if_neg near]
    exact .inr ⟨loaded.next more (Nat.not_lt.mp near), more⟩

theorem loadMore_ended {getLog : GetLog} {state : LogPageState} (ended : state.endReached = true) :
    loadMore getLog state = state :=
  if_pos (.inl ended)

theorem loadMore_empty {getLog : GetLog} {state : LogPageState} (empty : state.oldMessages = []) :
    loadMore getLog state = state := by
  rw [loadMore, empty]
  exact ite_self _

theorem loaded_pages {getLog : GetLog} {log : List LogLine} (exact' : ExactPages getLog log)
    (full : kReadChunkSize ≤ log.length) (some' : trimmed (log.take kReadChunkSize) ≠ [])
    (calls : Nat) :
    ∃ pages, Loaded log pages (loaded getLog calls) ∧
      ((loaded getLog calls).endReached = true ∨
        (loaded getLog calls).endReached = false ∧ pages = calls) := by
  induction calls with
  | zero =>
      obtain ⟨first, more⟩ := init_loaded exact' full some'
      exact ⟨0, first, .inr ⟨more, rfl⟩⟩
  | succ calls ih =>
      obtain ⟨pages, before, ended | ⟨more, count⟩⟩ := ih
      · rw [loaded, Function.iterate_succ_apply', ← loaded, loadMore_ended ended]
        exact ⟨pages, before, .inl ended⟩
      · rw [loaded, Function.iterate_succ_apply', ← loaded]
        rcases loadMore_loaded exact' before more with ⟨after, ended⟩ | ⟨after, more⟩
        · exact ⟨pages, after, .inl ended⟩
        · exact ⟨pages + 1, after, .inr ⟨more, congrArg Nat.succ count⟩⟩

end LogPageState

/-- Another `_loadMore` changes nothing. -/
def Settled (getLog : GetLog) (calls : Nat) : Prop :=
  LogPageState.loadMore getLog (LogPageState.loaded getLog calls) =
    LogPageState.loaded getLog calls

/-- The log is short or empty, or it is made of full pages and the last of them is
not empty. -/
def FullPages (log : List LogLine) : Prop :=
  log.length < kReadChunkSize ∨ trimmed log = [] ∨
    (kReadChunkSize ∣ log.length ∧ trimmed (log.take kReadChunkSize) ≠ [])

theorem loaded_settled {getLog : GetLog} {calls : Nat} (settled : Settled getLog calls)
    (more : Nat) : LogPageState.loaded getLog (more + calls) = LogPageState.loaded getLog calls := by
  rw [LogPageState.loaded, Function.iterate_add_apply]
  exact Function.iterate_fixed settled more

theorem loaded_empty {getLog : GetLog}
    (empty : (LogPageState.init getLog {}).oldMessages = []) (calls : Nat) :
    LogPageState.loaded getLog calls = LogPageState.init getLog {} :=
  Function.iterate_fixed (LogPageState.loadMore_empty empty) calls

/-- There are not more full pages than lines. -/
theorem loaded_ended {getLog : GetLog} {log : List LogLine} (exact' : ExactPages getLog log)
    (full : kReadChunkSize ≤ log.length) (some' : trimmed (log.take kReadChunkSize) ≠ [])
    {calls : Nat} (enough : log.length ≤ calls) :
    ∃ pages, LogPageState.Loaded log pages (LogPageState.loaded getLog calls) ∧
      (LogPageState.loaded getLog calls).endReached = true := by
  obtain ⟨pages, loaded, ended | ⟨-, count⟩⟩ := LogPageState.loaded_pages exact' full some' calls
  · exact ⟨pages, loaded, ended⟩
  · have inside := loaded.inside
    rw [count, kReadChunkSize] at inside
    omega

theorem loaded_shown_iff {log : List LogLine} {pages : Nat} {state : LogPageState}
    (loaded : LogPageState.Loaded log pages state) (ended : state.endReached = true) :
    state.shown = (trimmed log).reverse.map LogLine.line ↔ kReadChunkSize ∣ log.length := by
  have inside := loaded.inside
  have near := loaded.ended ended
  have next : kReadChunkSize * (pages + 2) = kReadChunkSize * (pages + 1) + kReadChunkSize := by
    rw [← Nat.mul_succ]
  have whole : trimmed log = trimmed (log.take (kReadChunkSize * (pages + 1))) ++
      log.drop (kReadChunkSize * (pages + 1)) := by
    rw [← trimmed_append loaded.some, List.take_append_drop]
  constructor
  · intro same
    have length := congrArg List.length (loaded.shows.symm.trans same)
    rw [whole] at length
    simp only [List.length_map, List.length_reverse, List.length_append, List.length_drop] at length
    exact ⟨pages + 1, by omega⟩
  · intro pagesOnly
    obtain ⟨count, total⟩ := pagesOnly
    obtain rfl : count = pages + 1 := by
      rw [total] at inside near
      have lower := Nat.le_of_mul_le_mul_left inside (by decide)
      have upper := Nat.lt_of_mul_lt_mul_left near
      omega
    rw [loaded.shows, ← total, List.take_length]

theorem init_short {getLog : GetLog} {log : List LogLine} (exact' : ExactPages getLog log)
    (short : log.length < kReadChunkSize) :
    LogPageState.init getLog {} = { newMessages := (trimmed log).reverse.map LogLine.line } := by
  have whole : log.take kReadChunkSize = log := List.take_of_length_le (Nat.le_of_lt short)
  rw [LogPageState.init, exact'.first, whole]
  simp only [ge_iff_le, if_neg (Nat.not_le.mpr short), ne_eq, not_true_eq_false, if_false,
    List.append_nil]
  rfl

theorem init_blank {getLog : GetLog} {log : List LogLine} (exact' : ExactPages getLog log)
    (blank : trimmed (log.take kReadChunkSize) = []) : LogPageState.init getLog {} = {} := by
  have dropped : (log.take kReadChunkSize).dropWhile (·.line.isEmpty) = [] := blank
  rw [LogPageState.init, exact'.first]
  simp only [dropped, List.drop_nil, List.take_nil, List.append_nil, ite_self, ne_eq,
    not_true_eq_false, if_false]
  rfl

/-- When nothing is left to load, the page shows the lines up to the trailing
empty ones just when none of them is on a page that is not full. -/
theorem shown_iff {getLog : GetLog} {log : List LogLine} (exact' : ExactPages getLog log) :
    (∃ calls, Settled getLog calls) ∧ ∀ calls, Settled getLog calls →
      ((LogPageState.loaded getLog calls).shown = (trimmed log).reverse.map LogLine.line ↔
        FullPages log) := by
  by_cases short : log.length < kReadChunkSize
  · have state := init_short exact' short
    have empty : (LogPageState.init getLog {}).oldMessages = [] := by rw [state]
    constructor
    · exists 0
      exact LogPageState.loadMore_empty empty
    · intro calls _
      rw [loaded_empty empty, state]
      exact iff_of_true rfl (.inl short)
  · have full := Nat.not_lt.mp short
    by_cases blank : trimmed (log.take kReadChunkSize) = []
    · -- The page has no line to go on from.
      have state := init_blank exact' blank
      have empty : (LogPageState.init getLog {}).oldMessages = [] := by rw [state]
      constructor
      · exists 0
        exact LogPageState.loadMore_empty empty
      · intro calls _
        rw [loaded_empty empty, state, FullPages]
        constructor
        · intro same
          have nothing := same.symm
          rw [LogPageState.shown, List.append_nil, List.reverse_nil, List.map_nil,
            List.map_eq_nil_iff, List.reverse_eq_nil_iff] at nothing
          exact .inr (.inl nothing)
        · intro condition
          rcases condition with few | nothing | ⟨-, lines⟩
          · exact absurd few short
          · rw [nothing]
            rfl
          · exact absurd blank lines
    · constructor
      · obtain ⟨pages, -, ended⟩ := loaded_ended exact' full blank (Nat.le_refl _)
        exact ⟨log.length, LogPageState.loadMore_ended ended⟩
      · intro calls settled
        obtain ⟨pages, loaded, ended⟩ :=
          loaded_ended exact' full blank (Nat.le_add_right log.length calls)
        rw [loaded_settled settled] at loaded ended
        rw [loaded_shown_iff loaded ended, FullPages]
        constructor
        · intro pagesOnly
          exact .inr (.inr ⟨pagesOnly, blank⟩)
        · intro condition
          rcases condition with few | nothing | ⟨pagesOnly, -⟩
          · exact absurd few short
          · rw [← List.take_append_drop kReadChunkSize log,
              trimmed_append blank, List.append_eq_nil_iff] at nothing
            exact absurd nothing.1 blank
          · exact pagesOnly

def manyLines : Data.Bytes :=
  Data.utf8Bytes (String.intercalate "\n" (List.replicate 101 "x"))

theorem exactPages_manyLines :
    ∃ log, ExactPages (getTraceLog manyLines) log ∧ log.map LogLine.line = List.replicate 101 "x" := by
  have plain : ∀ text ∈ List.replicate 101 "x", Plain text := by
    intro text member
    rw [List.eq_of_mem_replicate member]
    exact ⟨by decide, by decide⟩
  obtain ⟨lines, reads, read⟩ := reads_texts (List.replicate 101 "x") plain (by decide) []
  rw [List.append_nil] at reads
  have texts : (lines.map LogLine.ofRevLine).map LogLine.line = List.replicate 101 "x" := by
    rw [List.map_map, ← List.reverse_replicate, ← read]
    rfl
  exact ⟨lines.map LogLine.ofRevLine, exactPages_getTraceLog reads, texts⟩

theorem shown_iff_manyLines :
    ∃ log, log.map LogLine.line = List.replicate 101 "x" ∧
      (∃ calls, Settled (getTraceLog manyLines) calls) ∧
      ∀ calls, Settled (getTraceLog manyLines) calls →
        ((LogPageState.loaded (getTraceLog manyLines) calls).shown =
            (trimmed log).reverse.map LogLine.line ↔ FullPages log) := by
  obtain ⟨log, exact', texts⟩ := exactPages_manyLines
  exact ⟨log, texts, shown_iff exact'⟩

/-- The oldest of 101 lines is never shown. -/
theorem oldest_line_lost :
    ∃ log calls, ExactPages (getTraceLog manyLines) log ∧ Settled (getTraceLog manyLines) calls ∧
      (LogPageState.loaded (getTraceLog manyLines) calls).shown ≠
        (trimmed log).reverse.map LogLine.line := by
  obtain ⟨log, exact', texts⟩ := exactPages_manyLines
  have length : log.length = 101 := by
    have count := congrArg List.length texts
    rwa [List.length_map, List.length_replicate] at count
  have some' : trimmed (log.take kReadChunkSize) ≠ [] := by
    cases log with
    | nil => cases length
    | cons line log =>
        have first : line.line = "x" := (List.cons.inj texts).1
        rw [kReadChunkSize, List.take_succ_cons, trimmed, List.dropWhile_cons_of_neg]
        · exact List.cons_ne_nil _ _
        · rw [first]
          decide
  obtain ⟨pages, loaded, ended⟩ :=
    loaded_ended exact' (by rw [length]; decide) some' (Nat.le_refl log.length)
  exists log, log.length
  refine ⟨exact', LogPageState.loadMore_ended ended, ?_⟩
  rw [ne_eq, loaded_shown_iff loaded ended, length]
  decide

end CovertConnect.Flutter
