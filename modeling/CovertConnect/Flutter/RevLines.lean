import CovertConnect.Data.Bytes
import CovertConnect.Data.Lines

namespace CovertConnect.Flutter

open CovertConnect.Data

/-! # Lines from the end of a file

The file is read backwards, a buffer at a time, and a line is what is between
two line ends.  The reader keeps the place up to which it has not read yet. -/

def lfByte : UInt8 := 10

def crByte : UInt8 := 13

structure RevLine where
  line : String
  position : Nat
deriving DecidableEq, Repr

inductive RevError where
  /-- The file ends before the place that is to be read. -/
  | io
  | notUtf8
deriving DecidableEq, Repr

structure RevLines where
  readerPos : Nat
  bufSize : Nat
deriving DecidableEq, Repr

namespace RevLines

/-- `read_to_buffer`: the bytes in front of the place, which moves there. -/
def readToBuffer (content : Bytes) (size : Nat) (this : RevLines) :
    Except RevError (Bytes × RevLines) :=
  if this.readerPos ≤ content.length then
    .ok (between content (this.readerPos - size) this.readerPos,
      { this with readerPos := this.readerPos - size })
  else .error .io

/-- The loop over the bytes and their indices, from the last one on. -/
def scan : List (UInt8 × Nat) → (result : Bytes) → Option Nat × Bytes
  | [], result => (none, result)
  | (ch, idx) :: rest, result =>
      if ch = lfByte then (some idx, result) else scan rest (result ++ [ch])

/-- The bytes were pushed backwards. -/
def finish (result : Bytes) (this : RevLines) : Option (Except RevError RevLine) × RevLines :=
  match fromUtf8 result.reverse with
  | some line => (some (.ok { line, position := this.readerPos }), this)
  | none => (some (.error .notUtf8), this)

/-- The outer loop; each turn but the last moves the place. -/
def readLine (content : Bytes) :
    (fuel : Nat) → (result : Bytes) → RevLines → Option (Except RevError RevLine) × RevLines
  | 0, _, this => (none, this)
  | fuel + 1, result, this =>
      if this.readerPos < 1 then
        if result.length > 0 then finish result this else (none, this)
      else
        let size := min this.bufSize this.readerPos
        match readToBuffer content size this with
        | .ok (buf, this) =>
            match scan buf.zipIdx.reverse result with
            | (some idx, result) =>
                let offset := if idx > 1 ∧ buf[idx - 1]? = some crByte then idx - 1 else idx
                finish result { this with readerPos := this.readerPos + offset }
            | (none, result) => readLine content fuel result this
        | .error error => (some (.error error), this)

def nextLine (content : Bytes) (this : RevLines) : Option (Except RevError RevLine) × RevLines :=
  readLine content (this.readerPos + 1) [] this

/-- What is read, and the place up to which it is read.  It ends with the first error
of the file: nobody reads on after one. -/
def readings (content : Bytes) : (fuel : Nat) → RevLines → List (Nat × Except RevError RevLine)
  | 0, _ => []
  | fuel + 1, this =>
      match nextLine content this with
      | (none, _) => []
      | (some (.error .io), _) => [(this.readerPos, .error .io)]
      | (some item, after) => (this.readerPos, item) :: readings content fuel after

/-- `RevLines::with_capacity`, polled to the end. -/
def withCapacity (cap : Nat) (pos : Option Nat) (content : Bytes) :
    List (Nat × Except RevError RevLine) :=
  let readerSize := pos.getD content.length
  readings content (readerSize + 1) { readerPos := readerSize, bufSize := cap }

/-- The buffer that `place` is read into starts here, when the reading starts
in front of `last`. -/
def bufferStart (cap last place : Nat) : Nat :=
  last - ((last - 1 - place) / cap + 1) * cap

/-- Where the reading goes on behind the line that ends at `last`: in front of
the line end, if its first byte is seen. -/
def nextEnd (content : Bytes) (cap last : Nat) : Nat :=
  match lineStart lfByte content last with
  | 0 => 0
  | lf + 1 =>
      if lf - bufferStart cap last lf > 1 ∧ content[lf - 1]? = some crByte then lf - 1 else lf

theorem bufferStart_last {cap last place : Nat} (before : place < last)
    (near : last - min cap last ≤ place) : bufferStart cap last place = last - min cap last := by
  have quotient : (last - 1 - place) / cap = 0 := Nat.div_eq_of_lt (by omega)
  rw [bufferStart, quotient]
  omega

theorem bufferStart_earlier {cap last place : Nat} (some' : 0 < cap)
    (far : place < last - min cap last) :
    bufferStart cap last place = bufferStart cap (last - min cap last) place := by
  have full : min cap last = cap := by omega
  rw [full] at far ⊢
  have whole : last - 1 - place = (last - cap - 1 - place) + cap := by omega
  rw [bufferStart, bufferStart, whole, Nat.add_div_right _ some',
    Nat.add_mul (_ + 1), Nat.one_mul, Nat.add_comm _ cap]
  exact Nat.sub_add_eq ..

/-- The scan stops at the last line end of the buffer. -/
theorem scan_between (content : Bytes) (first count : Nat) (inside : first + count ≤ content.length)
    (result : Bytes) :
    scan (between content first (first + count)).zipIdx.reverse result =
      if lineStart lfByte content (first + count) ≤ first then
        (none, result ++ (between content first (first + count)).reverse)
      else
        (some (lineStart lfByte content (first + count) - 1 - first),
          result ++ (between content (lineStart lfByte content (first + count))
            (first + count)).reverse) := by
  induction count generalizing result with
  | zero =>
      rw [Nat.add_zero, between_self, if_pos (lineStart_le ..)]
      simp [scan]
  | succ count ih =>
      have here : content[first + count]? = some content[first + count] :=
        List.getElem?_eq_getElem (by omega)
      have length : (between content first (first + count)).length = count := by
        rw [between_length (by omega)]
        omega
      have zipped : (between content first (first + count + 1)).zipIdx.reverse =
          (content[first + count], count) :: (between content first (first + count)).zipIdx.reverse := by
        rw [between_succ (Nat.le_add_right _ _) here, List.zipIdx_append, length,
          List.reverse_append]
        simp
      rw [← Nat.add_assoc, zipped, scan]
      by_cases ends : content[first + count] = lfByte
      · have start : lineStart lfByte content (first + count + 1) = first + count + 1 := by
          rw [lineStart, if_pos (by rw [here, ends])]
        rw [if_pos ends, start, if_neg (by omega), between_self, List.reverse_nil, List.append_nil]
        congr 2
        omega
      · have start : lineStart lfByte content (first + count + 1) =
            lineStart lfByte content (first + count) := by
          rw [lineStart, if_neg (by rw [here, Option.some_inj]; exact ends)]
        have pushed : ∀ from', from' ≤ first + count →
            result ++ [content[first + count]] ++ (between content from' (first + count)).reverse =
              result ++ (between content from' (first + count + 1)).reverse := by
          intro from' before
          rw [between_succ before here, List.reverse_append, List.append_assoc]
          rfl
        rw [if_neg ends, ih (by omega), start, pushed _ (Nat.le_add_right _ _),
          pushed _ (lineStart_le ..)]

/-- A buffer without a line end changes nothing. -/
theorem nextEnd_earlier {content : Bytes} {cap last : Nat} (some' : 0 < cap)
    (earlier : lineStart lfByte content last ≤ last - min cap last) :
    nextEnd content cap (last - min cap last) = nextEnd content cap last := by
  rw [nextEnd, nextEnd, lineStart_within earlier (Nat.sub_le ..)]
  cases start : lineStart lfByte content last with
  | zero => rfl
  | succ lf =>
      rw [start] at earlier
      simp only
      rw [bufferStart_earlier some' (show lf < last - min cap last by omega)]

/-- The line end is in the last buffer. -/
theorem nextEnd_here {content : Bytes} {cap last lf : Nat}
    (start : lineStart lfByte content last = lf + 1) (near : last - min cap last ≤ lf) :
    nextEnd content cap last = last - min cap last +
      if lf - (last - min cap last) > 1 ∧
          (between content (last - min cap last) last)[lf - (last - min cap last) - 1]? = some crByte
      then lf - (last - min cap last) - 1 else lf - (last - min cap last) := by
  have before : lf < last := by
    have bound := lineStart_le lfByte content last
    omega
  rw [nextEnd, start]
  simp only
  rw [bufferStart_last before near]
  by_cases beyond : lf - (last - min cap last) > 1
  · have place : last - min cap last + (lf - (last - min cap last) - 1) = lf - 1 := by omega
    rw [getElem?_between content (by omega), place]
    by_cases cr : content[lf - 1]? = some crByte
    · rw [if_pos ⟨beyond, cr⟩, if_pos ⟨beyond, cr⟩]
      omega
    · rw [if_neg (fun both => cr both.2), if_neg (fun both => cr both.2)]
      omega
  · rw [if_neg (fun both => beyond both.1), if_neg (fun both => beyond both.1)]
    omega

/-- The line that is read, for the bytes in front of `last`. -/
theorem readLine_eq {content : Bytes} {cap : Nat} (some' : 0 < cap) {fuel last : Nat}
    {result : Bytes} (enough : last < fuel) (inside : last ≤ content.length)
    (unread : 0 < last ∨ result ≠ []) :
    readLine content fuel result ⟨last, cap⟩ =
      finish (result ++ (between content (lineStart lfByte content last) last).reverse)
        ⟨nextEnd content cap last, cap⟩ := by
  induction fuel generalizing last result with
  | zero => omega
  | succ fuel ih =>
      rw [readLine]
      by_cases atStart : last < 1
      · obtain rfl : last = 0 := by omega
        have read : result.length > 0 :=
          List.length_pos_iff.mpr (unread.resolve_left (Nat.lt_irrefl 0))
        have start : lineStart lfByte content 0 = 0 := rfl
        rw [if_pos (by exact atStart), if_pos read, start, between_self, List.reverse_nil,
          List.append_nil]
        rfl
      · have sum : last - min cap last + min cap last = last := by omega
        have filled : readToBuffer content (min cap last) ⟨last, cap⟩ =
            .ok (between content (last - min cap last) last, ⟨last - min cap last, cap⟩) := by
          rw [readToBuffer, if_pos inside]
        have scanned := scan_between content (last - min cap last) (min cap last) (by omega) result
        rw [sum] at scanned
        rw [if_neg (by exact atStart)]
        simp only [filled, scanned]
        by_cases earlier : lineStart lfByte content last ≤ last - min cap last
        · have read : result ++ (between content (last - min cap last) last).reverse ≠ [] := by
            have length := @between_length _ content (last - min cap last) last inside
            intro empty
            rw [List.append_eq_nil_iff, List.reverse_eq_nil_iff] at empty
            rw [empty.2, List.length_nil] at length
            omega
          rw [if_pos earlier]
          simp only
          rw [ih (by omega) (by omega) (.inr read), lineStart_within earlier (Nat.sub_le ..),
            List.append_assoc, ← List.reverse_append, between_append content earlier (Nat.sub_le ..),
            nextEnd_earlier some' earlier]
        · obtain ⟨lf, start⟩ : ∃ lf, lineStart lfByte content last = lf + 1 :=
            ⟨lineStart lfByte content last - 1, by omega⟩
          rw [if_neg earlier]
          simp only
          rw [nextEnd_here start (by omega), start, Nat.add_sub_cancel]

def asItem (bytes : Bytes) (position : Nat) : Except RevError RevLine :=
  match fromUtf8 bytes with
  | some line => .ok { line, position }
  | none => .error .notUtf8

theorem nextLine_eq {content : Bytes} {cap last : Nat} (some' : 0 < cap) (unread : 0 < last)
    (inside : last ≤ content.length) :
    nextLine content ⟨last, cap⟩ =
      (some (asItem (between content (lineStart lfByte content last) last)
        (nextEnd content cap last)), ⟨nextEnd content cap last, cap⟩) := by
  rw [nextLine, readLine_eq some' (Nat.lt_succ_self last) inside (.inl unread), finish,
    List.nil_append, List.reverse_reverse, asItem]
  split <;> rfl

theorem nextEnd_lt (content : Bytes) (cap : Nat) {last : Nat} (unread : 0 < last) :
    nextEnd content cap last < last := by
  have bound := lineStart_le lfByte content last
  rw [nextEnd]
  split
  · exact unread
  · split <;> omega

theorem readings_start (content : Bytes) (fuel cap : Nat) : readings content fuel ⟨0, cap⟩ = [] := by
  cases fuel <;> rfl

theorem readings_cons {content : Bytes} {cap last fuel : Nat} (some' : 0 < cap) (unread : 0 < last)
    (inside : last ≤ content.length) :
    readings content (fuel + 1) ⟨last, cap⟩ =
      (last, asItem (between content (lineStart lfByte content last) last)
        (nextEnd content cap last)) :: readings content fuel ⟨nextEnd content cap last, cap⟩ := by
  rw [readings, nextLine_eq some' unread inside, asItem]
  cases fromUtf8 (between content (lineStart lfByte content last) last) <;> rfl

theorem readings_enough {content : Bytes} {cap : Nat} (some' : 0 < cap) {last fuel more : Nat}
    (inside : last ≤ content.length) (enough : last < fuel) (enough' : last < more) :
    readings content fuel ⟨last, cap⟩ = readings content more ⟨last, cap⟩ := by
  induction fuel generalizing last more with
  | zero => omega
  | succ fuel ih =>
      rcases Nat.eq_zero_or_pos last with rfl | unread
      · rw [readings_start, readings_start]
      · obtain ⟨spare, rfl⟩ : ∃ spare, more = spare + 1 := ⟨more - 1, by omega⟩
        have shorter := nextEnd_lt content cap unread
        rw [readings_cons some' unread inside, readings_cons some' unread inside,
          ih (by omega) (by omega) (show nextEnd content cap last < spare by omega)]

/-- Where the line ends in front of the one that ends at `last`. -/
def trimmedEnd (content : Bytes) (last : Nat) : Nat :=
  match lineStart lfByte content last with
  | 0 => 0
  | lf + 1 => if content[lf - 1]? = some crByte then lf - 1 else lf

theorem trimmedEnd_lt (content : Bytes) {last : Nat} (unread : 0 < last) :
    trimmedEnd content last < last := by
  have bound := lineStart_le lfByte content last
  rw [trimmedEnd]
  split
  · exact unread
  · split <;> omega

/-- The ends of the lines in front of `last`, which is the first of them. -/
def lineEnds (content : Bytes) (last : Nat) : List Nat :=
  if _ : last = 0 then []
  else last :: lineEnds content (trimmedEnd content last)
termination_by last
decreasing_by exact trimmedEnd_lt content (Nat.pos_of_ne_zero ‹_›)

/-- The place is inside a line end of two bytes. -/
def InsideCrLf (content : Bytes) (pos : Nat) : Prop :=
  0 < pos ∧ content[pos - 1]? = some crByte ∧ content[pos]? = some lfByte

/-- A line end of two bytes in front of the line that ends at `last` does not
come at the start of a buffer. -/
def Fits (content : Bytes) (cap last : Nat) : Prop :=
  ∀ lf, lineStart lfByte content last = lf + 1 → content[lf - 1]? = some crByte →
    lf - bufferStart cap last lf > 1

theorem nextEnd_of_fits {content : Bytes} {cap last : Nat} (fits : Fits content cap last) :
    nextEnd content cap last = trimmedEnd content last := by
  rw [nextEnd, trimmedEnd]
  cases start : lineStart lfByte content last with
  | zero => rfl
  | succ lf =>
      simp only
      by_cases cr : content[lf - 1]? = some crByte
      · rw [if_pos ⟨fits lf start cr, cr⟩, if_pos cr]
      · rw [if_neg (fun both => cr both.2), if_neg cr]

theorem insideCrLf_of_not_fits {content : Bytes} {cap last : Nat} (misses : ¬ Fits content cap last) :
    InsideCrLf content (nextEnd content cap last) := by
  rw [Fits, not_forall] at misses
  obtain ⟨lf, misses⟩ := misses
  simp only [Classical.not_imp] at misses
  obtain ⟨start, cr, near⟩ := misses
  have ends : content[lf]? = some lfByte := lineStart_separator start
  have same : nextEnd content cap last = lf := by
    rw [nextEnd, start]
    simp only
    rw [if_neg (fun both => near both.1)]
  rw [same]
  cases lf with
  | zero =>
      rw [ends] at cr
      cases cr
  | succ lf => exact ⟨Nat.succ_pos lf, cr, ends⟩

theorem not_insideCrLf_trimmed (content : Bytes) (last : Nat) :
    ¬ InsideCrLf content (trimmedEnd content last) := by
  intro inside
  obtain ⟨some', cr, ends⟩ := inside
  rw [trimmedEnd] at some' cr ends
  cases start : lineStart lfByte content last with
  | zero => simp [start] at some'
  | succ lf =>
      rw [start] at cr ends
      simp only at cr ends
      split at ends
      · rename_i here
        rw [here] at ends
        cases ends
      · rename_i other
        rw [if_neg other] at cr
        exact other cr

theorem lineEnds_start (content : Bytes) : lineEnds content 0 = [] := by
  rw [lineEnds, dif_pos rfl]

theorem lineEnds_cons (content : Bytes) {last : Nat} (unread : 0 < last) :
    lineEnds content last = last :: lineEnds content (trimmedEnd content last) := by
  rw [lineEnds, dif_neg (Nat.ne_of_gt unread)]

/-- No line has the first byte of a line end of two bytes just when every such
line end is seen as a whole. -/
theorem readings_whole_iff {content : Bytes} {cap : Nat} (some' : 0 < cap) {fuel last : Nat}
    (enough : last < fuel) (inside : last ≤ content.length) :
    (∀ reading ∈ readings content fuel ⟨last, cap⟩, ¬ InsideCrLf content reading.1) ↔
      ¬ InsideCrLf content last ∧ ∀ place ∈ lineEnds content last, Fits content cap place := by
  induction fuel generalizing last with
  | zero => omega
  | succ fuel ih =>
      rcases Nat.eq_zero_or_pos last with rfl | unread
      · simp [readings_start, lineEnds_start, InsideCrLf]
      · have shorter := nextEnd_lt content cap unread
        rw [readings_cons some' unread inside, lineEnds_cons content unread, List.forall_mem_cons,
          List.forall_mem_cons, ih (by omega) (by omega)]
        apply and_congr_right
        intro _
        by_cases fits : Fits content cap last
        · rw [nextEnd_of_fits fits]
          exact ⟨fun both => ⟨fits, both.2⟩, fun both => ⟨not_insideCrLf_trimmed content last, both.2⟩⟩
        · exact iff_of_false (fun both => both.1 (insideCrLf_of_not_fits fits)) fun both => fits both.1

/-- Buffers that see the line ends as a whole give the same lines. -/
theorem readings_same {content : Bytes} {first second : Nat} (some₁ : 0 < first) (some₂ : 0 < second)
    {fuel last : Nat} (enough : last < fuel) (inside : last ≤ content.length)
    (fits₁ : ∀ place ∈ lineEnds content last, Fits content first place)
    (fits₂ : ∀ place ∈ lineEnds content last, Fits content second place) :
    readings content fuel ⟨last, first⟩ = readings content fuel ⟨last, second⟩ := by
  induction fuel generalizing last with
  | zero => omega
  | succ fuel ih =>
      rcases Nat.eq_zero_or_pos last with rfl | unread
      · rw [readings_start, readings_start]
      · have shorter := trimmedEnd_lt content unread
        rw [lineEnds_cons content unread, List.forall_mem_cons] at fits₁ fits₂
        rw [readings_cons some₁ unread inside, readings_cons some₂ unread inside,
          nextEnd_of_fits fits₁.1, nextEnd_of_fits fits₂.1,
          ih (by omega) (by omega) fits₁.2 fits₂.2]

/-- The two capacities give the same lines at the same positions, and none has
the first byte of a line end of two bytes. -/
structure SameLines (content : Bytes) (pos : Option Nat) (first second : Nat) : Prop where
  same : (withCapacity first pos content).map Prod.snd = (withCapacity second pos content).map Prod.snd
  whole₁ : ∀ reading ∈ withCapacity first pos content, ¬ InsideCrLf content reading.1
  whole₂ : ∀ reading ∈ withCapacity second pos content, ¬ InsideCrLf content reading.1

/-- The reading does not start inside a line end of two bytes, and no such line
end comes at the start of a buffer. -/
def Aligned (content : Bytes) (pos : Option Nat) (cap : Nat) : Prop :=
  ¬ InsideCrLf content (pos.getD content.length) ∧
    ∀ place ∈ lineEnds content (pos.getD content.length), Fits content cap place

theorem withCapacity_beyond {content : Bytes} {pos : Option Nat} (cap : Nat)
    (beyond : content.length < pos.getD content.length) :
    withCapacity cap pos content = [(pos.getD content.length, .error .io)] := by
  have refused : nextLine content ⟨pos.getD content.length, cap⟩ =
      (some (.error .io), ⟨pos.getD content.length, cap⟩) := by
    have short : ∀ size, readToBuffer content size ⟨pos.getD content.length, cap⟩ = .error .io :=
      fun size => if_neg (Nat.not_le.mpr beyond)
    have unread : ¬ pos.getD content.length < 1 := Nat.not_lt.mpr (Nat.one_le_of_lt beyond)
    rw [nextLine, readLine, if_neg (by exact unread)]
    simp only [short]
  simp only [withCapacity, readings, refused]

/-- The sizes of the buffers do not show just when no line end of two bytes
comes at the start of a buffer. -/
theorem sameLines_iff (content : Bytes) (pos : Option Nat) {first second : Nat} (some₁ : 1 ≤ first)
    (some₂ : 1 ≤ second) :
    SameLines content pos first second ↔
      (pos.getD content.length ≤ content.length →
        Aligned content pos first ∧ Aligned content pos second) := by
  have whole : ∀ {cap}, 1 ≤ cap → pos.getD content.length ≤ content.length →
      ((∀ reading ∈ withCapacity cap pos content, ¬ InsideCrLf content reading.1) ↔
        Aligned content pos cap) :=
    fun some' inside => readings_whole_iff some' (Nat.lt_succ_self _) inside
  constructor
  · intro given inside
    exact ⟨(whole some₁ inside).mp given.whole₁, (whole some₂ inside).mp given.whole₂⟩
  · intro aligned
    rcases Nat.lt_or_ge content.length (pos.getD content.length) with beyond | inside
    · -- The file has no such place, and nothing is read.
      have apart : ¬ InsideCrLf content (pos.getD content.length) := by
        intro found
        rw [InsideCrLf, List.getElem?_eq_none (Nat.le_of_lt beyond)] at found
        cases found.2.2
      constructor
      · rw [withCapacity_beyond first beyond, withCapacity_beyond second beyond]
      · simpa [withCapacity_beyond first beyond] using apart
      · simpa [withCapacity_beyond second beyond] using apart
    · obtain ⟨fits₁, fits₂⟩ := aligned inside
      constructor
      · exact congrArg _ (readings_same some₁ some₂ (Nat.lt_succ_self _) inside fits₁.2 fits₂.2)
      · exact (whole some₁ inside).mpr fits₁
      · exact (whole some₂ inside).mpr fits₂

def windowsText : Bytes :=
  [97, crByte, lfByte, 98]

theorem lineEnds_windowsText : lineEnds windowsText 4 = [4, 1] := by
  rw [lineEnds_cons _ (by decide), show trimmedEnd windowsText 4 = 1 from rfl,
    lineEnds_cons _ (by decide), show trimmedEnd windowsText 1 = 0 from rfl, lineEnds_start]

theorem sameLines_windowsText : SameLines windowsText none 4 4096 := by
  have aligned : ∀ cap, cap = 4 ∨ cap = 4096 → Aligned windowsText none cap := by
    intro cap either
    constructor
    · intro inside
      cases inside.2.2
    · rw [show (none : Option Nat).getD windowsText.length = 4 from rfl, lineEnds_windowsText]
      intro place listed lf start cr
      simp only [List.mem_cons, List.not_mem_nil, or_false] at listed
      rcases listed with rfl | rfl
      · cases start
        rcases either with rfl | rfl <;> decide
      · cases start
  exact (sameLines_iff windowsText none (by decide) (by decide)).mpr fun _ =>
    ⟨aligned 4 (.inl rfl), aligned 4096 (.inr rfl)⟩

/-- A buffer of one byte never shows both bytes of a line end, and at the start of
the file no buffer does. -/
theorem not_sameLines :
    ¬ SameLines windowsText none 1 4096 ∧ ¬ SameLines [crByte, lfByte, 98] none 4096 4096 := by
  constructor
  · intro same
    have whole := (readings_whole_iff (by decide) (by decide) (by decide)).mp same.whole₁
    have listed : 4 ∈ lineEnds windowsText 4 := by simp [lineEnds_windowsText]
    exact absurd (whole.2 4 listed 2 rfl rfl) (by decide)
  · intro same
    have whole := (readings_whole_iff (by decide) (by decide) (by decide)).mp same.whole₁
    have listed : 3 ∈ lineEnds [crByte, lfByte, 98] 3 := by
      rw [lineEnds_cons _ (by decide)]
      exact List.mem_cons_self
    exact absurd (whole.2 3 listed 1 rfl rfl) (by decide)

end RevLines

end CovertConnect.Flutter
