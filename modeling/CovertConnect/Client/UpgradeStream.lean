import CovertConnect.Data.AsyncIo
import CovertConnect.Data.HeaderEnd

namespace CovertConnect.Client

open CovertConnect.Data

/-! # The client's end of the HTTP upgrade

The first write sends the request, and the first read after it takes the
response; both go on where they stopped when the inner stream was not ready. -/

def maxUpgradeResponse : Nat := 255

inductive UpgradeState where
  | sendRequest (pos : Nat)
  | waitResponse (lfInRow size : Nat)
  | upgraded
deriving DecidableEq, Repr

def upgradeRequest (host httpPath : String) : String :=
  "GET /" ++ httpPath ++ " HTTP/1.1\r\n" ++
    ("Host: " ++ host ++ "\r\n" ++ "Connection: upgrade\r\nUpgrade: websocket\r\n\r\n")

structure UgradeStream (S : Type) where
  inner : S
  state : UpgradeState
  request : Bytes

namespace UgradeStream

variable {S : Type}

def fromStream (inner : S) (host httpPath : String) : UgradeStream S where
  inner := inner
  state := .sendRequest 0
  request := utf8Bytes (upgradeRequest host httpPath)

/-- The loop over the response, a byte a turn; `left` more bytes are taken as a
part of it.  No result means that the response is complete. -/
def awaitResponse [AsyncRead S] : (left lfInRow size : Nat) → (inner : S) →
    Option (Poll (Except IoError Bytes)) × UpgradeState × S
  | left, lfInRow, size, inner =>
      if 2 ≤ lfInRow then (none, .upgraded, inner)
      else
        match AsyncRead.pollRead inner 1 with
        | (.pending, inner) => (some .pending, .waitResponse lfInRow size, inner)
        | (.ready (.error error), inner) =>
            (some (.ready (.error error)), .waitResponse lfInRow size, inner)
        | (.ready (.ok filled), inner) =>
            match left with
            | 0 =>
                (some (.ready (.error (.invalidData "uprade response too big"))),
                  .waitResponse lfInRow (size + 1), inner)
            | left + 1 =>
                match filled with
                | [] => (some (.ready (.ok [])), .waitResponse lfInRow (size + 1), inner)
                | byte :: _ => awaitResponse left (lfAfter lfInRow byte) (size + 1) inner

def pollRead [AsyncRead S] (room : Nat) (this : UgradeStream S) :
    Poll (Except IoError Bytes) × UgradeStream S :=
  match this.state with
  | .waitResponse lfInRow size =>
      match awaitResponse (maxUpgradeResponse - size) lfInRow size this.inner with
      | (some result, state, inner) => (result, { this with state, inner })
      | (none, state, inner) =>
          let (result, inner) := AsyncRead.pollRead inner room
          (result, { this with state, inner })
  | _ =>
      let (result, inner) := AsyncRead.pollRead this.inner room
      (result, { this with inner })

/-- The loop over the request from `pos` on; every turn sends at least one of
the `left` bytes.  No result means that the request is out. -/
def sendRequest [AsyncWrite S] (request : Bytes) : (left pos : Nat) → (inner : S) →
    Option (Poll (Except IoError Nat)) × Nat × S
  | 0, pos, inner => (none, pos, inner)
  | left + 1, pos, inner =>
      if pos < request.length then
        match AsyncWrite.pollWrite inner (request.drop pos) with
        | (.pending, inner) => (some .pending, pos, inner)
        | (.ready (.ok 0), inner) => (some (.ready (.error .unexpectedEof)), pos, inner)
        | (.ready (.ok n), inner) => sendRequest request left (pos + n) inner
        | (.ready (.error error), inner) => (some (.ready (.error error)), pos, inner)
      else (none, pos, inner)

def pollWrite [AsyncWrite S] (buf : Bytes) (this : UgradeStream S) :
    Poll (Except IoError Nat) × UgradeStream S :=
  match this.state with
  | .sendRequest pos =>
      match sendRequest this.request (this.request.length - pos) pos this.inner with
      | (some result, pos, inner) => (result, { this with state := .sendRequest pos, inner })
      | (none, _, inner) =>
          let (result, inner) := AsyncWrite.pollWrite inner buf
          (result, { this with state := .waitResponse 0 0, inner })
  | _ =>
      let (result, inner) := AsyncWrite.pollWrite this.inner buf
      (result, { this with inner })

/-- The part of the request that is not out yet. -/
def unsent (this : UgradeStream S) : Bytes :=
  match this.state with
  | .sendRequest pos => this.request.drop pos
  | _ => []

def delivered : Poll (Except IoError Bytes) → Bytes
  | .ready (.ok bytes) => bytes
  | _ => []

def accepted (buf : Bytes) : Poll (Except IoError Nat) → Bytes
  | .ready (.ok count) => buf.take count
  | _ => []

theorem writes_of_poll [AsyncWrite S] {inner after : S} {buf : Bytes}
    {result : Poll (Except IoError Nat)} (poll : AsyncWrite.pollWrite inner buf = (result, after)) :
    Writes inner (accepted buf result) after := by
  cases result using Poll.threeWays with
  | pending => exact .pending poll .done
  | error error => exact .failed poll .done
  | ok count =>
      have one := Writes.accept poll .done
      rwa [List.append_nil] at one

theorem reads_of_poll [AsyncRead S] {inner after : S} {room : Nat}
    {result : Poll (Except IoError Bytes)} (poll : AsyncRead.pollRead inner room = (result, after)) :
    Reads inner (delivered result) after := by
  cases result using Poll.threeWays with
  | pending => exact .pending poll .done
  | error error => exact .failed poll .done
  | ok bytes =>
      have one := Reads.chunk poll .done
      rwa [List.append_nil] at one

/-- What the loop sends is the next part of the request. -/
theorem sendRequest_spec [AsyncWrite S] {request : Bytes} {left pos : Nat} {inner : S}
    {result : Option (Poll (Except IoError Nat))} {pos' : Nat} {after : S}
    (within : pos ≤ request.length) (enough : request.length - pos ≤ left)
    (run : sendRequest request left pos inner = (result, pos', after)) :
    ∃ out, Writes inner out after ∧ request.drop pos = out ++ request.drop pos' ∧
      pos' ≤ request.length ∧ (result = none → pos' = request.length) ∧
      (∀ answer, result = some answer →
        pos' < request.length ∧ ∀ count, answer ≠ .ready (.ok count)) := by
  induction left generalizing pos inner with
  | zero =>
      cases run
      exact ⟨[], .done, rfl, within, fun _ => by omega, fun _ some => by cases some⟩
  | succ left ih =>
      rw [sendRequest] at run
      split at run
      · rename_i more
        split at run
        · rename_i inner poll
          cases run
          exact ⟨[], .pending poll .done, rfl, within, (by simp), fun answer same => by
            cases same
            exact ⟨more, by simp⟩⟩
        · rename_i inner poll
          cases run
          have none := Writes.accept poll .done
          exact ⟨[], by simpa using none, rfl, within, (by simp), fun answer same => by
            cases same
            exact ⟨more, by simp⟩⟩
        · rename_i n inner some poll
          have positive : 0 < n := Nat.pos_of_ne_zero some
          have fits := AsyncWrite.pollWrite_fits _ _ _ _ poll
          rw [List.length_drop] at fits
          obtain ⟨out, writes, split, rest⟩ := ih (by omega) (by omega) run
          refine ⟨(request.drop pos).take n ++ out, .accept poll writes, ?_, rest⟩
          rw [List.append_assoc, ← split, ← List.drop_drop, List.take_append_drop]
        · rename_i error inner poll
          cases run
          exact ⟨[], .failed poll .done, rfl, within, (by simp), fun answer same => by
            cases same
            exact ⟨more, by simp⟩⟩
      · rename_i whole
        cases run
        exact ⟨[], .done, rfl, within, fun _ => by omega, fun _ some => by cases some⟩

/-- A stream whose request is not out has more of it to send. -/
def Underway (this : UgradeStream S) : Prop :=
  ∀ pos, this.state = .sendRequest pos → pos < this.request.length

/-- First the rest of the request goes out, then what is accepted. -/
theorem pollWrite_spec [AsyncWrite S] {this after : UgradeStream S} {buf : Bytes}
    {result : Poll (Except IoError Nat)} (underway : this.Underway)
    (poll : this.pollWrite buf = (result, after)) :
    ∃ out, Writes this.inner out after.inner ∧ after.request = this.request ∧ after.Underway ∧
      out ++ after.unsent = this.unsent ++ accepted buf result ∧
      (∀ count, result = .ready (.ok count) → after.unsent = []) ∧
      (after.state = this.state ∨
        (∃ pos pos', this.state = .sendRequest pos ∧ after.state = .sendRequest pos') ∨
        (∃ pos, this.state = .sendRequest pos ∧ after.state = .waitResponse 0 0)) := by
  have through : (∀ pos, this.state ≠ .sendRequest pos) →
      this.pollWrite buf = ((AsyncWrite.pollWrite this.inner buf).1,
        { this with inner := (AsyncWrite.pollWrite this.inner buf).2 }) := by
    intro sent
    cases state : this.state with
    | sendRequest pos => exact absurd state (sent pos)
    | waitResponse lfInRow size => simp only [pollWrite, state]
    | upgraded => simp only [pollWrite, state]
  by_cases sent : ∀ pos, this.state ≠ .sendRequest pos
  · rw [through sent] at poll
    cases poll
    have nothing : this.unsent = [] := by
      cases state : this.state with
      | sendRequest pos => exact absurd state (sent pos)
      | waitResponse lfInRow size => simp only [unsent, state]
      | upgraded => simp only [unsent, state]
    have nothing' : ({ this with inner := (AsyncWrite.pollWrite this.inner buf).2 } :
        UgradeStream S).unsent = [] := nothing
    exact ⟨_, writes_of_poll rfl, rfl, underway, by rw [nothing, nothing', List.append_nil]; rfl,
      fun _ _ => nothing', .inl rfl⟩
  · obtain ⟨pos, state⟩ := not_forall_not.mp sent
    have within := underway pos state
    rcases run : sendRequest this.request (this.request.length - pos) pos this.inner with
      ⟨answer, pos', inner⟩
    obtain ⟨out, writes, split, bound, whole, part⟩ :=
      sendRequest_spec (Nat.le_of_lt within) (Nat.le_refl _) run
    simp only [pollWrite, state, run] at poll
    cases answer with
    | some answer =>
        cases poll
        obtain ⟨short, refused⟩ := part result rfl
        have none : accepted buf result = [] := by
          cases result using Poll.threeWays with
          | pending => rfl
          | error error => rfl
          | ok count => exact absurd rfl (refused count)
        refine ⟨out, writes, rfl, ?_, ?_, ?_, .inr (.inl ⟨pos, pos', state, rfl⟩)⟩
        · intro pos'' same
          cases same
          exact short
        · simp only [unsent, state, none, List.append_nil]
          exact split.symm
        · exact fun count same => absurd same (refused count)
    | none =>
        cases poll
        have out_ : out = this.request.drop pos := by
          rw [split, whole rfl, List.drop_length, List.append_nil]
        refine ⟨out ++ accepted buf (AsyncWrite.pollWrite inner buf).1,
          writes.trans (writes_of_poll rfl), rfl, ?_, ?_, fun _ _ => rfl,
          .inr (.inr ⟨pos, state, rfl⟩)⟩
        · intro pos'' same
          cases same
        · simp only [unsent, state, out_, List.append_nil]

theorem awaitResponse_closed [AsyncRead S] {left count size : Nat} {inner : S}
    (closed : 2 ≤ count) : awaitResponse left count size inner = (none, .upgraded, inner) := by
  cases left with
  | zero => rw [awaitResponse, if_pos closed]
  | succ left => rw [awaitResponse, if_pos closed]

/-- The loop stops behind the second line feed in a row, when nothing comes, or
when too much has come. -/
theorem awaitResponse_spec [AsyncRead S]
    (open_ : ∀ (inner after : S) answer, AsyncRead.pollRead inner 1 = (.ready answer, after) →
      ∃ bytes, answer = .ok bytes ∧ bytes ≠ [])
    {left count size : Nat} {inner : S} {result : Option (Poll (Except IoError Bytes))}
    {state : UpgradeState} {after : S} (small : count < 2)
    (run : awaitResponse left count size inner = (result, state, after)) :
    ∃ got, Reads inner got after ∧
      (∀ part, part < got.length → (got.take part).foldl lfAfter count < 2) ∧
      ((result = none ∧ state = .upgraded ∧ 2 ≤ got.foldl lfAfter count) ∨
        (result = some .pending ∧ got.foldl lfAfter count < 2 ∧
          state = .waitResponse (got.foldl lfAfter count) (size + got.length)) ∨
        got.length = left + 1) := by
  induction left generalizing count size inner with
  | zero =>
      rw [awaitResponse, if_neg (Nat.not_le.mpr small)] at run
      split at run
      · rename_i poll
        cases run
        exact ⟨[], .pending poll .done, by simp, .inr (.inl ⟨rfl, small, rfl⟩)⟩
      · rename_i poll
        obtain ⟨_, impossible, _⟩ := open_ _ _ _ poll
        cases impossible
      · rename_i filled _ poll
        obtain ⟨bytes, same, some⟩ := open_ _ _ _ poll
        cases same
        have fits := AsyncRead.pollRead_fits _ _ _ _ poll
        have positive := List.length_pos_iff.mpr some
        cases run
        have read := Reads.chunk poll .done
        rw [List.append_nil] at read
        refine ⟨filled, read, ?_, .inr (.inr (by omega))⟩
        intro part short
        have first : part = 0 := by omega
        rw [first]
        exact small
  | succ left ih =>
      rw [awaitResponse, if_neg (Nat.not_le.mpr small)] at run
      split at run
      · rename_i poll
        cases run
        exact ⟨[], .pending poll .done, by simp, .inr (.inl ⟨rfl, small, rfl⟩)⟩
      · rename_i poll
        obtain ⟨_, impossible, _⟩ := open_ _ _ _ poll
        cases impossible
      · rename_i filled next poll
        obtain ⟨bytes, same, some⟩ := open_ _ _ _ poll
        cases same
        have fits := AsyncRead.pollRead_fits _ _ _ _ poll
        cases filled with
        | nil => exact absurd rfl some
        | cons byte more =>
            have single : more = [] := by
              rw [List.length_cons] at fits
              exact List.length_eq_zero_iff.mp (by omega)
            subst single
            dsimp only at run
            by_cases closed : 2 ≤ lfAfter count byte
            · rw [awaitResponse_closed closed] at run
              cases run
              refine ⟨[byte], .chunk poll .done, ?_, .inl ⟨rfl, rfl, closed⟩⟩
              intro part short
              have first : part = 0 := by
                simp only [List.length_singleton] at short
                omega
              rw [first]
              exact small
            · obtain ⟨got, reads, before, ends⟩ := ih (Nat.not_le.mp closed) run
              refine ⟨byte :: got, .chunk poll reads, ?_, ?_⟩
              · intro part short
                cases part with
                | zero => exact small
                | succ part =>
                    rw [List.length_cons] at short
                    exact before part (by omega)
              · rcases ends with upgraded | ⟨pending, low, same⟩ | many
                · exact .inl upgraded
                · refine .inr (.inl ⟨pending, low, ?_⟩)
                  rw [same, List.length_cons, List.foldl_cons]
                  congr 1
                  omega
                · right
                  right
                  rw [List.length_cons, many]

/-- Outside of the response a read passes on what it reads; the response ends
with the `header` of what is read. -/
theorem pollRead_spec [AsyncRead S]
    (open_ : ∀ (inner after : S) answer, AsyncRead.pollRead inner 1 = (.ready answer, after) →
      ∃ bytes, answer = .ok bytes ∧ bytes ≠ [])
    {this after : UgradeStream S} {room : Nat} {result : Poll (Except IoError Bytes)}
    (poll : this.pollRead room = (result, after)) :
    ∃ got, Reads this.inner got after.inner ∧ after.request = this.request ∧
      ((∀ count size, this.state ≠ .waitResponse count size) →
        after.state = this.state ∧ got = delivered result) ∧
      ∀ count size, this.state = .waitResponse count size → count < 2 →
        ∃ header, header <+: got ∧
          (∀ part, part < header.length → (header.take part).foldl lfAfter count < 2) ∧
          ((after.state = .upgraded ∧ 2 ≤ header.foldl lfAfter count ∧
              got = header ++ delivered result) ∨
            (after.state = .waitResponse (header.foldl lfAfter count) (size + header.length) ∧
              header.foldl lfAfter count < 2 ∧ got = header ∧ delivered result = []) ∨
            header.length = maxUpgradeResponse - size + 1) := by
  have through : (∀ count size, this.state ≠ .waitResponse count size) →
      this.pollRead room = ((AsyncRead.pollRead this.inner room).1,
        { this with inner := (AsyncRead.pollRead this.inner room).2 }) := by
    intro other
    cases state : this.state with
    | sendRequest pos => simp only [pollRead, state]
    | waitResponse count size => exact absurd state (other count size)
    | upgraded => simp only [pollRead, state]
  by_cases other : ∀ count size, this.state ≠ .waitResponse count size
  · rw [through other] at poll
    cases poll
    exact ⟨_, reads_of_poll rfl, rfl, fun _ => ⟨rfl, rfl⟩,
      fun count size same => absurd same (other count size)⟩
  · obtain ⟨count, size, state⟩ : ∃ count size, this.state = .waitResponse count size := by
      by_contra none
      exact other fun count size same => none ⟨count, size, same⟩
    rcases run : awaitResponse (maxUpgradeResponse - size) count size this.inner with
      ⟨answer, state', inner⟩
    simp only [pollRead, state, run] at poll
    by_cases small : count < 2
    · obtain ⟨header, reads, before, ends⟩ := awaitResponse_spec open_ small run
      cases answer with
      | none =>
          cases poll
          refine ⟨header ++ delivered (AsyncRead.pollRead inner room).1,
            reads.trans (reads_of_poll rfl), rfl, fun none => absurd state (none count size), ?_⟩
          intro count' size' same _
          rw [state] at same
          cases same
          refine ⟨header, List.prefix_append _ _, before, ?_⟩
          rcases ends with ⟨_, upgraded, closed⟩ | ⟨impossible, _⟩ | many
          · exact .inl ⟨upgraded, closed, rfl⟩
          · cases impossible
          · exact .inr (.inr many)
      | some answer =>
          cases poll
          refine ⟨header, reads, rfl, fun none => absurd state (none count size), ?_⟩
          intro count' size' same _
          rw [state] at same
          cases same
          refine ⟨header, List.prefix_refl _, before, ?_⟩
          rcases ends with ⟨impossible, _⟩ | ⟨pending, low, waits⟩ | many
          · cases impossible
          · cases pending
            exact .inr (.inl ⟨waits, low, rfl, rfl⟩)
          · exact .inr (.inr many)
    · rw [awaitResponse_closed (Nat.le_of_not_lt small)] at run
      cases run
      cases poll
      refine ⟨_, reads_of_poll rfl, rfl, fun none => absurd state (none count size), ?_⟩
      intro count' size' same small'
      rw [state] at same
      cases same
      exact absurd small' small

end UgradeStream

end CovertConnect.Client
