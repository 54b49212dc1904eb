import CovertConnect.Client.UpgradeStream
import CovertConnect.Data.Wire
import CovertConnect.Server.Upgrade

namespace CovertConnect.Tunnel

open CovertConnect.Data CovertConnect.Client CovertConnect.Server

/-! # The HTTP upgrade of both ends

The client writes its tunnel bytes right behind the request, and the server
writes its own right behind the response. -/

theorem upgradeRequest_endsHeader {host urlPath : String}
    (hostLine : '\n' ∉ host.toList ∧ '\r' ∉ host.toList)
    (pathLine : '\n' ∉ urlPath.toList ∧ '\r' ∉ urlPath.toList) :
    EndsHeader (utf8Bytes (upgradeRequest host urlPath)) := by
  have clean : ∀ text : String, '\n' ∉ text.toList ∧ '\r' ∉ text.toList →
      lineFeed ∉ utf8Bytes text ∧ carriageReturn ∉ utf8Bytes text :=
    fun text ⟨noFeed, noReturn⟩ =>
      ⟨mem_utf8Bytes (by decide) (by decide) noFeed, mem_utf8Bytes (by decide) (by decide) noReturn⟩
  obtain ⟨hostFeed, hostReturn⟩ := clean host hostLine
  obtain ⟨pathFeed, pathReturn⟩ := clean urlPath pathLine
  let lines : List Bytes :=
    [utf8Bytes "GET /" ++ utf8Bytes urlPath ++ utf8Bytes " HTTP/1.1",
      utf8Bytes "Host: " ++ utf8Bytes host, utf8Bytes "Connection: upgrade",
      utf8Bytes "Upgrade: websocket"]
  have bytes : utf8Bytes (upgradeRequest host urlPath) = body lines ++ crlf := by
    have version : utf8Bytes " HTTP/1.1\r\n" = utf8Bytes " HTTP/1.1" ++ crlf := rfl
    have next : utf8Bytes "\r\n" = crlf := rfl
    have rest : utf8Bytes "Connection: upgrade\r\nUpgrade: websocket\r\n\r\n" =
        utf8Bytes "Connection: upgrade" ++ crlf ++ (utf8Bytes "Upgrade: websocket" ++ crlf ++ crlf) :=
      rfl
    simp only [upgradeRequest, utf8Bytes_append, version, next, rest, lines, body, List.flatMap_cons,
      List.flatMap_nil, List.append_assoc, List.append_nil]
  rw [bytes]
  apply lines_endHeader (List.cons_ne_nil _ _)
  intro line member
  simp only [List.mem_cons, List.not_mem_nil, or_false] at member
  rcases member with rfl | rfl | rfl | rfl
  · constructor
    · exact List.append_ne_nil_of_left_ne_nil (List.append_ne_nil_of_left_ne_nil (by decide) _) _
    · simp only [List.mem_append, not_or]
      exact ⟨⟨by decide, pathFeed⟩, by decide⟩
    · simp only [List.mem_append, not_or]
      exact ⟨⟨by decide, pathReturn⟩, by decide⟩
  · constructor
    · exact List.append_ne_nil_of_left_ne_nil (by decide) _
    · simp only [List.mem_append, not_or]
      exact ⟨by decide, hostFeed⟩
    · simp only [List.mem_append, not_or]
      exact ⟨by decide, hostReturn⟩
  · exact ⟨by decide, by decide, by decide⟩
  · exact ⟨by decide, by decide, by decide⟩

theorem response_endsHeader : EndsHeader Upgrading.response := by
  have bytes : Upgrading.response =
      body [utf8Bytes "HTTP/1.1 101 Switching Protocols", utf8Bytes "Upgrade: cconnect",
        utf8Bytes "Connection: Upgrade"] ++ crlf := rfl
  rw [bytes]
  apply lines_endHeader (List.cons_ne_nil _ _)
  intro line member
  simp only [List.mem_cons, List.not_mem_nil, or_false] at member
  rcases member with rfl | rfl | rfl <;> exact ⟨by decide, by decide, by decide⟩

theorem response_length : Upgrading.response.length = 76 := rfl

/-- The server finds its path in the request of a client with the same path. -/
theorem checkUpgradeRequest_own (host urlPath : String) :
    checkUpgradeRequest urlPath (utf8Bytes (upgradeRequest host urlPath)) = .ok () := by
  have valid : fromUtf8Lossy (utf8Bytes (upgradeRequest host urlPath)) =
      upgradeRequest host urlPath := by
    rw [fromUtf8Lossy, fromUtf8_utf8Bytes]
  have found : urlPath.toList <:+: (upgradeRequest host urlPath).toList := by
    rw [upgradeRequest, String.toList_append, String.toList_append, String.toList_append]
    exact ⟨_, _, (List.append_assoc _ _ _).symm⟩
  have ends : (upgradeRequest host urlPath).toList.getLast? = some '\n' := by
    have last : ∀ front : String,
        (front ++ "Connection: upgrade\r\nUpgrade: websocket\r\n\r\n").toList.getLast? =
          some '\n' := by
      intro front
      rw [String.toList_append, List.getLast?_append]
      rfl
    rw [upgradeRequest, ← String.append_assoc]
    exact last _
  rw [checkUpgradeRequest, valid]
  simp [found, ends]

/-- `accepted` and `returned` are what the client's `pollWrite` and `pollRead`
told their callers, `written` is what the tunnel of the server wrote; `wrote`
tells that some `pollWrite` was ready. -/
structure UpgradeLink where
  client : UgradeStream Wire
  server : Upgrading
  /-- How much of what each end has accepted has arrived at the other. -/
  carriedUp : Nat
  carriedDown : Nat
  accepted : Bytes
  returned : Bytes
  written : Bytes
  wrote : Bool

inductive UpgradeEvent where
  | write (buf : Bytes) (writes : List Readiness)
  | read (room : Nat) (reads : List Readiness)
  | carryUp (count : Nat)
  | carryDown (count : Nat)
  | serverRead
  | serverReply (further : Nat)
  | serverFlush
  | serverWrite (bytes : Bytes)

namespace UpgradeLink

def start (host urlPath : String) : UpgradeLink where
  client := .fromStream .empty host urlPath
  server := .begun []
  carriedUp := 0
  carriedDown := 0
  accepted := []
  returned := []
  written := []
  wrote := false

def underwayUp (link : UpgradeLink) : Bytes :=
  link.client.inner.outgoing.drop link.carriedUp

def underwayDown (link : UpgradeLink) : Bytes :=
  link.server.outgoing.drop link.carriedDown

def write (link : UpgradeLink) (buf : Bytes) (writes : List Readiness) : UpgradeLink :=
  let client := { link.client with inner := { link.client.inner with writes } }
  let (result, client) := client.pollWrite buf
  { link with
    client
    accepted := link.accepted ++ UgradeStream.accepted buf result
    wrote := match result with
      | .ready (.ok _) => true
      | _ => link.wrote }

def read (link : UpgradeLink) (room : Nat) (reads : List Readiness) : UpgradeLink :=
  let client := { link.client with inner := { link.client.inner with reads } }
  let (result, client) := client.pollRead room
  { link with client, returned := link.returned ++ UgradeStream.delivered result }

def carryUp (link : UpgradeLink) (count : Nat) : UpgradeLink :=
  { link with
    server := { link.server with
      incoming := link.server.incoming ++ link.underwayUp.take count }
    carriedUp := min (link.carriedUp + count) link.client.inner.outgoing.length }

def carryDown (link : UpgradeLink) (count : Nat) : UpgradeLink :=
  { link with
    client := { link.client with
      inner := { link.client.inner with
        incoming := link.client.inner.incoming ++ link.underwayDown.take count } }
    carriedDown := min (link.carriedDown + count) link.server.outgoing.length }

def step (urlPath : String) (link : UpgradeLink) : UpgradeEvent → UpgradeLink
  | .write buf writes => link.write buf writes
  | .read room reads => link.read room reads
  | .carryUp count => link.carryUp count
  | .carryDown count => link.carryDown count
  | .serverRead => { link with server := link.server.readByte urlPath }
  | .serverReply further => { link with server := link.server.reply further }
  | .serverFlush => { link with server := link.server.flush }
  | .serverWrite bytes =>
      match link.server.phase with
      | .accepted =>
          { link with server := link.server.write bytes, written := link.written ++ bytes }
      | _ => link

def run (urlPath : String) (link : UpgradeLink) (events : List UpgradeEvent) : UpgradeLink :=
  events.foldl (step urlPath) link

/-- What the server has read and sent so far. -/
def Serves (request : Bytes) (link : UpgradeLink) : Prop :=
  match link.server.phase with
  | .reading =>
      lfInRow link.server.readed < 2 ∧ link.server.readed <+: request ∧
        link.server.outgoing = [] ∧ link.written = []
  | .replying sent =>
      link.server.readed = request ∧ link.server.outgoing = Upgrading.response.take sent ∧
        link.written = []
  | .flushing =>
      link.server.readed = request ∧ link.server.outgoing = Upgrading.response ∧ link.written = []
  | .accepted =>
      link.server.readed = request ∧ link.server.outgoing = Upgrading.response ++ link.written
  | .refused _ => False

/-- What the client has read so far, `got` in all. -/
def Takes (link : UpgradeLink) (got : Bytes) : Prop :=
  match link.client.state with
  | .sendRequest _ => got = [] ∧ link.returned = []
  | .waitResponse count size =>
      got = Upgrading.response.take size ∧ size < Upgrading.response.length ∧
        count = lfInRow got ∧ count < 2 ∧ link.returned = []
  | .upgraded => got = Upgrading.response ++ link.returned

structure Inv (request : Bytes) (link : UpgradeLink) : Prop where
  sends : link.client.request = request
  underway : link.client.Underway
  sent : link.client.inner.outgoing ++ link.client.unsent = request ++ link.accepted
  quiet : link.client.unsent ≠ [] → link.accepted = []
  wrote : link.wrote = true → link.client.unsent = []
  carriedUp_le : link.carriedUp ≤ link.client.inner.outgoing.length
  carriedDown_le : link.carriedDown ≤ link.server.outgoing.length
  arrivedUp : link.server.readed ++ link.server.incoming =
    link.client.inner.outgoing.take link.carriedUp
  serves : link.Serves request
  arrivedDown : ∃ got, link.Takes got ∧
    got ++ link.client.inner.incoming = link.server.outgoing.take link.carriedDown

theorem Serves.outgoing_prefix {request : Bytes} {link : UpgradeLink} (serves : link.Serves request) :
    link.server.outgoing <+: Upgrading.response ++ link.written := by
  unfold Serves at serves
  cases phase : link.server.phase with
  | reading =>
      simp only [phase] at serves
      rw [serves.2.2.1]
      exact List.nil_prefix
  | replying sent =>
      simp only [phase] at serves
      rw [serves.2.1]
      exact (List.take_prefix _ _).trans (List.prefix_append _ _)
  | flushing =>
      simp only [phase] at serves
      rw [serves.2.1]
      exact List.prefix_append _ _
  | accepted =>
      simp only [phase] at serves
      exact ⟨[], (List.append_nil _).trans serves.2⟩
  | refused error =>
      simp only [phase] at serves

theorem start_inv (host urlPath : String) (ends : EndsHeader (utf8Bytes (upgradeRequest host urlPath))) :
    (start host urlPath).Inv (utf8Bytes (upgradeRequest host urlPath)) where
  sends := rfl
  underway := by
    intro pos same
    cases same
    exact ends.nonempty
  sent := (List.append_nil _).symm
  wrote := by simp [start]
  carriedUp_le := Nat.le_refl 0
  carriedDown_le := Nat.le_refl 0
  arrivedUp := rfl
  quiet := fun _ => rfl
  serves := ⟨Nat.zero_lt_two, List.nil_prefix, rfl, rfl⟩
  arrivedDown := ⟨[], ⟨rfl, rfl⟩, rfl⟩

/-- The server has read a part of what the client has sent. -/
theorem Inv.readed_prefix {request : Bytes} {link : UpgradeLink} (inv : link.Inv request) :
    link.server.readed <+: link.client.inner.outgoing :=
  (List.prefix_append _ _).trans (inv.arrivedUp ▸ List.take_prefix _ _)

theorem Inv.outgoing_of_unsent {request : Bytes} {link : UpgradeLink} (inv : link.Inv request)
    {pos : Nat} (state : link.client.state = .sendRequest pos) :
    link.client.inner.outgoing = request.take pos ∧ link.accepted = [] := by
  have short := inv.underway pos state
  rw [inv.sends] at short
  have unsent : link.client.unsent = request.drop pos := by
    simp only [UgradeStream.unsent, state, inv.sends]
  have none : link.accepted = [] := by
    apply inv.quiet
    rw [unsent]
    exact fun nothing => absurd (List.drop_eq_nil_iff.mp nothing) (Nat.not_le.mpr short)
  have sent := inv.sent
  rw [unsent, none, List.append_nil] at sent
  refine ⟨List.append_cancel_right (sent.trans (List.take_append_drop pos request).symm), none⟩

/-- While the request is not out, the server has answered nothing. -/
theorem Inv.silent {request : Bytes} {link : UpgradeLink} (inv : link.Inv request) {pos : Nat}
    (state : link.client.state = .sendRequest pos) : link.server.outgoing = [] := by
  have short := inv.underway pos state
  rw [inv.sends] at short
  have partly : link.server.readed ≠ request := by
    intro whole
    have front := inv.readed_prefix
    rw [whole, (inv.outgoing_of_unsent state).1] at front
    have size := front.length_le
    rw [List.length_take] at size
    omega
  have serves := inv.serves
  unfold Serves at serves
  cases phase : link.server.phase with
  | reading =>
      simp only [phase] at serves
      exact serves.2.2.1
  | replying sent =>
      simp only [phase] at serves
      exact absurd serves.1 partly
  | flushing =>
      simp only [phase] at serves
      exact absurd serves.1 partly
  | accepted =>
      simp only [phase] at serves
      exact absurd serves.1 partly
  | refused error => simp only [phase] at serves

/-- A new script changes nothing that has happened. -/
theorem Inv.scripted {request : Bytes} {link : UpgradeLink} (inv : link.Inv request)
    (reads writes : List Readiness) :
    ({ link with client := { link.client with inner := { link.client.inner with reads, writes } } } :
      UpgradeLink).Inv request :=
  ⟨inv.sends, inv.underway, inv.sent, inv.quiet, inv.wrote, inv.carriedUp_le, inv.carriedDown_le,
    inv.arrivedUp, inv.serves, inv.arrivedDown⟩

theorem write_inv {request : Bytes} {link : UpgradeLink} (inv : link.Inv request) (buf : Bytes)
    (writes : List Readiness) : (link.write buf writes).Inv request := by
  have ready := inv.scripted link.client.inner.reads writes
  unfold write
  generalize ({ link.client with inner := { link.client.inner with writes } } :
    UgradeStream Wire) = client at ready ⊢
  rcases poll : client.pollWrite buf with ⟨result, after⟩
  obtain ⟨out, written, sends, underway, split, whole, state⟩ :=
    UgradeStream.pollWrite_spec ready.underway poll
  have sent : client.inner.outgoing ++ client.unsent = request ++ link.accepted := ready.sent
  have grown := Wire.outgoing_of_writes written
  have kept := Wire.incoming_of_writes written
  have rest : after.unsent ≠ [] → client.unsent ≠ [] ∧ UgradeStream.accepted buf result = [] := by
    intro more
    have refused : UgradeStream.accepted buf result = [] := by
      cases result using Poll.threeWays with
      | pending => rfl
      | error error => rfl
      | ok count => exact absurd (whole count rfl) more
    rw [refused, List.append_nil] at split
    exact ⟨fun nothing => more (List.append_eq_nil_iff.mp (split.trans nothing)).2, refused⟩
  simp only [poll]
  constructor
  · exact sends.trans ready.sends
  · exact underway
  · dsimp only
    rw [grown, List.append_assoc, split, ← List.append_assoc, sent, List.append_assoc]
  · intro more
    obtain ⟨unsent, refused⟩ := rest more
    dsimp only
    rw [refused, List.append_nil]
    exact ready.quiet unsent
  · intro wrote
    by_contra more
    obtain ⟨unsent, _⟩ := rest more
    cases result using Poll.threeWays with
    | pending => exact unsent (ready.wrote wrote)
    | error error => exact unsent (ready.wrote wrote)
    | ok count => exact more (whole count rfl)
  · dsimp only
    rw [grown, List.length_append]
    exact Nat.le_trans ready.carriedUp_le (Nat.le_add_right _ _)
  · exact ready.carriedDown_le
  · dsimp only
    rw [grown, List.take_append_of_le_length ready.carriedUp_le]
    exact ready.arrivedUp
  · exact ready.serves
  · obtain ⟨got, takes, split⟩ := ready.arrivedDown
    refine ⟨got, ?_, ?_⟩
    · unfold Takes at takes ⊢
      rcases state with same | ⟨pos, pos', before, same⟩ | ⟨pos, before, same⟩
      · rwa [same]
      · rw [same]
        rwa [before] at takes
      · rw [same]
        rw [before] at takes
        obtain ⟨rfl, returned⟩ := takes
        exact ⟨rfl, response_endsHeader.nonempty, rfl, by decide, returned⟩
    · dsimp only
      rw [kept]
      exact split

/-- A part of what the server sends that is not longer than the response. -/
theorem Inv.got_take {request : Bytes} {link : UpgradeLink} (inv : link.Inv request)
    {got rest : Bytes} (split : got ++ rest = link.server.outgoing.take link.carriedDown)
    (short : got.length ≤ Upgrading.response.length) :
    got = Upgrading.response.take got.length := by
  have front : got <+: Upgrading.response ++ link.written :=
    ((List.prefix_append got rest).trans (split ▸ List.take_prefix _ _)).trans
      inv.serves.outgoing_prefix
  have same := List.prefix_iff_eq_take.mp front
  rwa [List.take_append_of_le_length short] at same

/-- Reading on until the line feeds are there, the client does not read past the
response. -/
theorem Inv.header_fits {request : Bytes} {link : UpgradeLink} (inv : link.Inv request)
    {got header rest : Bytes}
    (split : got ++ header ++ rest = link.server.outgoing.take link.carriedDown)
    (before : ∀ part, part < header.length → (header.take part).foldl lfAfter (lfInRow got) < 2)
    (short : got.length < Upgrading.response.length) :
    (got ++ header).length ≤ Upgrading.response.length := by
  by_contra long
  rw [List.length_append] at long
  have within : Upgrading.response.length - got.length < header.length := by omega
  have size : (got ++ header.take (Upgrading.response.length - got.length)).length =
      Upgrading.response.length := by
    rw [List.length_append, List.length_take]
    omega
  have split' : (got ++ header.take (Upgrading.response.length - got.length)) ++
      (header.drop (Upgrading.response.length - got.length) ++ rest) =
      link.server.outgoing.take link.carriedDown := by
    rw [← split, List.append_assoc, ← List.append_assoc (List.take _ header),
      List.take_append_drop, List.append_assoc]
  have whole := inv.got_take split' (Nat.le_of_eq size)
  rw [size, List.take_length] at whole
  have open_ := before _ within
  rw [lfInRow, ← List.foldl_append, ← lfInRow, whole] at open_
  exact absurd response_endsHeader.whole (Nat.not_le.mpr open_)

/-- What is read up to the line feeds is the response as far as it goes, and it is
whole just when the line feeds are there. -/
theorem Inv.header_read {request : Bytes} {link : UpgradeLink} (inv : link.Inv request)
    {got header rest : Bytes}
    (split : got ++ header ++ rest = link.server.outgoing.take link.carriedDown)
    (before : ∀ part, part < header.length → (header.take part).foldl lfAfter (lfInRow got) < 2)
    (short : got.length < Upgrading.response.length) :
    (got ++ header).length ≤ Upgrading.response.length ∧
      got ++ header = Upgrading.response.take (got ++ header).length ∧
      (2 ≤ lfInRow (got ++ header) → got ++ header = Upgrading.response) ∧
      (lfInRow (got ++ header) < 2 → (got ++ header).length < Upgrading.response.length) := by
  have fits := inv.header_fits split before short
  have headerIs := inv.got_take split fits
  refine ⟨fits, headerIs, ?_, ?_⟩
  · intro closed
    rw [headerIs] at closed
    rw [headerIs, response_endsHeader.size_of fits closed, List.take_length]
  · intro low
    rw [headerIs] at low
    exact response_endsHeader.short_of _ low

theorem read_inv {request : Bytes} {link : UpgradeLink}
    (inv : link.Inv request) (room : Nat) (reads : List Readiness) :
    (link.read room reads).Inv request := by
  have ready := inv.scripted reads link.client.inner.writes
  unfold read
  generalize ({ link.client with inner := { link.client.inner with reads } } :
    UgradeStream Wire) = client at ready ⊢
  rcases poll : client.pollRead room with ⟨result, after⟩
  have open_ : ∀ (inner after : Wire) answer,
      AsyncRead.pollRead inner 1 = (.ready answer, after) →
        ∃ bytes, answer = .ok bytes ∧ bytes ≠ [] := by
    intro inner after answer poll
    obtain ⟨bytes, same, some⟩ := Wire.pollRead_open poll
    exact ⟨bytes, same, some Nat.one_pos⟩
  obtain ⟨new, arrived, sends, through, response⟩ := UgradeStream.pollRead_spec open_ poll
  have taken : client.inner.incoming = new ++ after.inner.incoming := Wire.incoming_of_reads arrived
  have kept : after.inner.outgoing = client.inner.outgoing := Wire.outgoing_of_reads arrived
  simp only [poll]
  obtain ⟨got, takes, split⟩ := ready.arrivedDown
  change got ++ client.inner.incoming = link.server.outgoing.take link.carriedDown at split
  rw [taken, ← List.append_assoc] at split
  have assembled : after.unsent = client.unsent → after.Underway →
      (∃ got, Takes { link with
          client := after
          returned := link.returned ++ UgradeStream.delivered result } got ∧
        got ++ after.inner.incoming = link.server.outgoing.take link.carriedDown) →
      Inv request { link with
        client := after
        returned := link.returned ++ UgradeStream.delivered result } := by
    intro unsent underway arrivedDown
    refine ⟨sends.trans ready.sends, underway, ?_, ?_, ?_, ?_, ready.carriedDown_le, ?_,
      ready.serves, arrivedDown⟩
    · rw [unsent, kept]
      exact ready.sent
    · rw [unsent]
      exact ready.quiet
    · rw [unsent]
      exact ready.wrote
    · rw [kept]
      exact ready.carriedUp_le
    · rw [kept]
      exact ready.arrivedUp
  unfold Takes at takes assembled
  cases state : client.state with
  | sendRequest pos =>
      obtain ⟨same, passed⟩ := through (by simp [state])
      simp only [state] at takes
      rw [ready.silent state, List.take_nil] at split
      have nothing := (List.append_eq_nil_iff.mp (List.append_eq_nil_iff.mp split).1).2
      rw [nothing] at passed
      refine assembled ?_ ?_ ⟨got, ?_, ?_⟩
      · simp only [UgradeStream.unsent, same, sends]
      · intro pos' now
        rw [sends]
        exact ready.underway pos' (same ▸ now)
      · simp only [same, state]
        rw [← passed, List.append_nil]
        exact takes
      · rw [ready.silent state, List.take_nil, ← split, nothing, List.append_nil]
  | upgraded =>
      obtain ⟨same, passed⟩ := through (by simp [state])
      simp only [state] at takes
      refine assembled ?_ ?_ ⟨got ++ new, ?_, split⟩
      · simp only [UgradeStream.unsent, same, state]
      · intro pos' now
        rw [same, state] at now
        cases now
      · simp only [same, state]
        rw [takes, passed, List.append_assoc]
  | waitResponse count size =>
      simp only [state] at takes
      obtain ⟨part, inside, counted, small, returned⟩ := takes
      obtain ⟨header, front, before, ends⟩ := response count size state small
      obtain ⟨rest, whole⟩ := front
      have width : got.length = size := by
        rw [part, List.length_take]
        omega
      rw [counted] at before ends
      rw [← whole, ← List.append_assoc, List.append_assoc] at split
      obtain ⟨fits, headerIs, whenClosed, whenOpen⟩ := ready.header_read split before (by omega)
      have unsent : (∀ pos, after.state ≠ .sendRequest pos) →
          after.unsent = client.unsent ∧ after.Underway := by
        intro other
        refine ⟨?_, fun pos now => absurd now (other pos)⟩
        cases state' : after.state with
        | sendRequest pos => exact absurd state' (other pos)
        | waitResponse count size => simp only [UgradeStream.unsent, state, state']
        | upgraded => simp only [UgradeStream.unsent, state, state']
      have count_append : header.foldl lfAfter (lfInRow got) = lfInRow (got ++ header) := by
        rw [lfInRow, lfInRow, List.foldl_append]
      rcases ends with ⟨now, closed, passed⟩ | ⟨now, low, passed, nothing⟩ | many
      · have complete := whenClosed (count_append ▸ closed)
        obtain ⟨unsent, underway⟩ := unsent (by simp [now])
        refine assembled unsent underway ⟨got ++ new, ?_, ?_⟩
        · simp only [now]
          rw [returned, passed, ← List.append_assoc, complete, List.nil_append]
        · rw [← split, ← whole]
          simp only [List.append_assoc]
      · have short := whenOpen (count_append ▸ low)
        obtain ⟨unsent, underway⟩ := unsent (by simp [now])
        have both : (got ++ header).length = size + header.length := by
          rw [List.length_append, width]
        refine assembled unsent underway ⟨got ++ new, ?_, ?_⟩
        · simp only [now]
          rw [passed, ← both]
          refine ⟨headerIs, short, count_append, low, ?_⟩
          rw [returned, nothing]
          rfl
        · rw [← split, ← whole]
          simp only [List.append_assoc]
      · rw [List.length_append, response_length, many, maxUpgradeResponse, width] at fits
        rw [response_length] at inside
        omega

theorem carryUp_inv {request : Bytes} {link : UpgradeLink} (inv : link.Inv request) (count : Nat) :
    (link.carryUp count).Inv request := by
  have arrived : link.client.inner.outgoing.take (link.carriedUp + count) =
      link.client.inner.outgoing.take link.carriedUp ++ link.underwayUp.take count :=
    List.take_add
  have carried : link.client.inner.outgoing.take
      (min (link.carriedUp + count) link.client.inner.outgoing.length) =
      link.client.inner.outgoing.take (link.carriedUp + count) := by
    rw [List.take_eq_take_iff]
    omega
  exact
    { inv with
      carriedUp_le := Nat.min_le_right _ _
      arrivedUp := by
        simp only [carryUp]
        rw [carried, arrived, ← inv.arrivedUp, List.append_assoc] }

theorem carryDown_inv {request : Bytes} {link : UpgradeLink} (inv : link.Inv request)
    (count : Nat) : (link.carryDown count).Inv request := by
  have arrived : link.server.outgoing.take (link.carriedDown + count) =
      link.server.outgoing.take link.carriedDown ++ link.underwayDown.take count :=
    List.take_add
  have carried : link.server.outgoing.take
      (min (link.carriedDown + count) link.server.outgoing.length) =
      link.server.outgoing.take (link.carriedDown + count) := by
    rw [List.take_eq_take_iff]
    omega
  obtain ⟨got, takes, split⟩ := inv.arrivedDown
  exact
    { inv with
      carriedDown_le := Nat.min_le_right _ _
      arrivedDown := ⟨got, takes, by
        simp only [carryDown]
        rw [carried, arrived, ← split, List.append_assoc]⟩ }

/-- The server sends more, and has read nothing new. -/
theorem Inv.serverSent {request : Bytes} {link after : UpgradeLink} (inv : link.Inv request)
    {phase : UpgradePhase} {more written : Bytes}
    (same : after = { link with
      server := { link.server with outgoing := link.server.outgoing ++ more, phase }, written })
    (serves : after.Serves request) : after.Inv request := by
  subst same
  obtain ⟨got, takes, split⟩ := inv.arrivedDown
  refine ⟨inv.sends, inv.underway, inv.sent, inv.quiet, inv.wrote, inv.carriedUp_le, ?_,
    inv.arrivedUp, serves, ⟨got, takes, ?_⟩⟩
  · dsimp only
    rw [List.length_append]
    exact Nat.le_trans inv.carriedDown_le (Nat.le_add_right _ _)
  · dsimp only
    rw [List.take_append_of_le_length inv.carriedDown_le]
    exact split

theorem serverRead_inv {request : Bytes} (ends : EndsHeader request)
    (short : request.length < maxUpgradeRequest) {urlPath : String}
    (found : checkUpgradeRequest urlPath request = .ok ()) {link : UpgradeLink}
    (inv : link.Inv request) :
    ({ link with server := link.server.readByte urlPath } : UpgradeLink).Inv request := by
  rw [Upgrading.readByte]
  split
  · rename_i byte incoming reading waiting
    have serves := inv.serves
    simp only [Serves, reading] at serves
    obtain ⟨open_, front, silent, nothing⟩ := serves
    have arrived := inv.arrivedUp
    rw [waiting] at arrived
    have next : link.server.readed ++ [byte] <+: request ++ link.accepted := by
      refine List.IsPrefix.trans ?_ (inv.sent ▸ List.prefix_append _ _)
      refine List.IsPrefix.trans ⟨incoming, ?_⟩ (List.take_prefix link.carriedUp _)
      rw [← arrived, List.append_assoc]
      rfl
    have size : (link.server.readed ++ [byte]).length = link.server.readed.length + 1 :=
      List.length_append
    have partly : link.server.readed.length < request.length := by
      apply ends.short_of
      rwa [← List.prefix_iff_eq_take.mp front]
    have front' : link.server.readed ++ [byte] <+: request :=
      List.prefix_of_prefix_length_le next (List.prefix_append _ _) (by omega)
    have serves' : ({ link with server := { link.server with
        incoming
        readed := link.server.readed ++ [byte]
        phase := Upgrading.phaseAfter urlPath (link.server.readed ++ [byte]) } } :
          UpgradeLink).Serves request := by
      rw [Upgrading.phaseAfter, if_neg (by omega)]
      by_cases more : lfInRow (link.server.readed ++ [byte]) < 2
      · rw [if_pos more]
        exact ⟨more, front', silent, nothing⟩
      · have whole : link.server.readed ++ [byte] = request := by
          have same := List.prefix_iff_eq_take.mp front'
          rw [same] at more
          rw [same, ends.size_of front'.length_le (Nat.le_of_not_lt more), List.take_length]
        rw [if_neg more, whole, found]
        exact ⟨rfl, silent, nothing⟩
    refine ⟨inv.sends, inv.underway, inv.sent, inv.quiet, inv.wrote, inv.carriedUp_le,
      inv.carriedDown_le, ?_, serves', inv.arrivedDown⟩
    dsimp only
    rw [← arrived, List.append_assoc]
    rfl
  · exact inv

theorem serverReply_inv {request : Bytes} {link : UpgradeLink} (inv : link.Inv request)
    (further : Nat) :
    ({ link with server := link.server.reply further } : UpgradeLink).Inv request := by
  have serves := inv.serves
  rw [Upgrading.reply]
  cases phase : link.server.phase with
  | replying sent =>
      simp only [Serves, phase] at serves
      obtain ⟨whole, part, nothing⟩ := serves
      refine inv.serverSent rfl ?_
      have grown : link.server.outgoing ++ (Upgrading.response.drop sent).take (further + 1) =
          Upgrading.response.take (sent + (further + 1)) := by
        rw [part, ← List.take_add]
      have size : ((Upgrading.response.drop sent).take (further + 1)).length =
          min (further + 1) (Upgrading.response.length - sent) := by
        rw [List.length_take, List.length_drop]
      dsimp only
      by_cases more : sent + ((Upgrading.response.drop sent).take (further + 1)).length <
          Upgrading.response.length
      · rw [if_pos more]
        refine ⟨whole, ?_, nothing⟩
        dsimp only
        rw [grown, List.take_eq_take_iff]
        omega
      · rw [if_neg more]
        refine ⟨whole, ?_, nothing⟩
        dsimp only
        rw [grown, List.take_of_length_le (by omega)]
  | reading | flushing | accepted | refused => exact inv

theorem serverFlush_inv {request : Bytes} {link : UpgradeLink} (inv : link.Inv request) :
    ({ link with server := link.server.flush } : UpgradeLink).Inv request := by
  have serves := inv.serves
  rw [Upgrading.flush]
  cases phase : link.server.phase with
  | flushing =>
      simp only [Serves, phase] at serves
      obtain ⟨whole, sent, nothing⟩ := serves
      have same : ({ link with server := { link.server with phase := .accepted } } : UpgradeLink) =
          { link with
            server := { link.server with outgoing := link.server.outgoing ++ [], phase := .accepted }
            written := link.written } := by
        rw [List.append_nil]
      exact inv.serverSent same ⟨whole, by rw [sent, nothing, List.append_nil]⟩
  | reading | replying | accepted | refused => exact inv

theorem serverWrite_inv {request : Bytes} {link : UpgradeLink} (inv : link.Inv request)
    (accepted : link.server.phase = .accepted) (bytes : Bytes) :
    ({ link with server := link.server.write bytes, written := link.written ++ bytes } :
      UpgradeLink).Inv request := by
  have serves := inv.serves
  simp only [Serves, accepted] at serves
  obtain ⟨whole, sent⟩ := serves
  have wrote : link.server.write bytes =
      { link.server with outgoing := link.server.outgoing ++ bytes, phase := .accepted } := by
    simp only [Upgrading.write, accepted]
  rw [wrote]
  refine inv.serverSent rfl ⟨whole, ?_⟩
  dsimp only
  rw [sent, List.append_assoc]

theorem step_inv {request : Bytes} (ends : EndsHeader request)
    (short : request.length < maxUpgradeRequest) {urlPath : String}
    (found : checkUpgradeRequest urlPath request = .ok ()) {link : UpgradeLink}
    (inv : link.Inv request) (event : UpgradeEvent) : (link.step urlPath event).Inv request := by
  cases event with
  | write buf writes => exact write_inv inv buf writes
  | read room reads => exact read_inv inv room reads
  | carryUp count => exact carryUp_inv inv count
  | carryDown count => exact carryDown_inv inv count
  | serverRead => exact serverRead_inv ends short found inv
  | serverReply further => exact serverReply_inv inv further
  | serverFlush => exact serverFlush_inv inv
  | serverWrite bytes =>
      rw [step]
      split
      · rename_i accepted
        exact serverWrite_inv inv accepted bytes
      · exact inv

theorem run_inv {host urlPath : String}
    (hostLine : '\n' ∉ host.toList ∧ '\r' ∉ host.toList)
    (pathLine : '\n' ∉ urlPath.toList ∧ '\r' ∉ urlPath.toList)
    (short : (utf8Bytes (upgradeRequest host urlPath)).length ≤ 254)
    (events : List UpgradeEvent) :
    ((start host urlPath).run urlPath events).Inv (utf8Bytes (upgradeRequest host urlPath)) := by
  have ends := upgradeRequest_endsHeader hostLine pathLine
  have found := checkUpgradeRequest_own host urlPath
  exact List.foldlRecOn events (step urlPath) (start_inv host urlPath ends)
    fun _ kept event _ => step_inv ends (Nat.lt_succ_of_le short) found kept event

theorem Inv.unread {request : Bytes} {link : UpgradeLink} (inv : link.Inv request)
    (whole : link.server.readed = request) (answered : link.server.outgoing ≠ []) :
    link.server.incoming ++ link.underwayUp = link.accepted := by
  have sent : link.client.unsent = [] := by
    cases state : link.client.state with
    | sendRequest pos => exact absurd (inv.silent state) answered
    | waitResponse count size => simp only [UgradeStream.unsent, state]
    | upgraded => simp only [UgradeStream.unsent, state]
  have total := inv.sent
  rw [sent, List.append_nil, ← List.take_append_drop link.carriedUp link.client.inner.outgoing,
    ← inv.arrivedUp, whole, List.append_assoc] at total
  exact List.append_cancel_left total

theorem Inv.returned_prefix {request : Bytes} {link : UpgradeLink} (inv : link.Inv request) :
    link.returned <+: link.written := by
  obtain ⟨got, takes, split⟩ := inv.arrivedDown
  cases state : link.client.state with
  | sendRequest pos =>
      simp only [Takes, state] at takes
      rw [takes.2]
      exact List.nil_prefix
  | waitResponse count size =>
      simp only [Takes, state] at takes
      rw [takes.2.2.2.2]
      exact List.nil_prefix
  | upgraded =>
      simp only [Takes, state] at takes
      have front : got <+: Upgrading.response ++ link.written :=
        ((List.prefix_append got _).trans (split ▸ List.take_prefix _ _)).trans
          inv.serves.outgoing_prefix
      rw [takes] at front
      exact (List.prefix_append_right_inj _).mp front

/-- Both transports are empty and the server has nothing to do: it does not read
on, has nothing to send and waits for nothing. -/
structure Settled (urlPath : String) (link : UpgradeLink) : Prop where
  wrote : link.wrote = true
  carriedUp : link.carriedUp = link.client.inner.outgoing.length
  carriedDown : link.carriedDown = link.server.outgoing.length
  taken : link.client.inner.incoming = []
  idle : link.server.readByte urlPath = link.server ∧ link.server.reply 0 = link.server ∧
    link.server.flush = link.server

instance (urlPath : String) (link : UpgradeLink) : Decidable (link.Settled urlPath) :=
  decidable_of_iff
    (link.wrote = true ∧ link.carriedUp = link.client.inner.outgoing.length ∧
      link.carriedDown = link.server.outgoing.length ∧ link.client.inner.incoming = [] ∧
      link.server.readByte urlPath = link.server ∧ link.server.reply 0 = link.server ∧
      link.server.flush = link.server)
    ⟨fun ⟨wrote, up, down, taken, idle⟩ => ⟨wrote, up, down, taken, idle⟩,
      fun ⟨wrote, up, down, taken, idle⟩ => ⟨wrote, up, down, taken, idle⟩⟩

theorem Inv.settled_accepted {request : Bytes} (ends : EndsHeader request) {urlPath : String}
    {link : UpgradeLink} (inv : link.Inv request) (settled : link.Settled urlPath) :
    link.server.phase = .accepted := by
  obtain ⟨read, reply, flush⟩ := settled.idle
  have serves := inv.serves
  cases phase : link.server.phase with
  | accepted => rfl
  | refused error => simp only [Serves, phase] at serves
  | flushing =>
      simp only [Upgrading.flush, phase] at flush
      have same := congrArg Upgrading.phase flush
      rw [phase] at same
      cases same
  | replying sent =>
      simp only [Upgrading.reply, phase] at reply
      have nothing := List.append_right_eq_self.mp (congrArg Upgrading.outgoing reply)
      have same := congrArg Upgrading.phase reply
      rw [nothing, phase] at same
      split at same
      · rename_i more
        have some := congrArg List.length nothing
        rw [List.length_take, List.length_drop, List.length_nil] at some
        simp only [List.length_nil, Nat.add_zero] at more
        omega
      · cases same
  | reading =>
      simp only [Serves, phase] at serves
      obtain ⟨open_, front, _⟩ := serves
      have nothing : link.server.incoming = [] := by
        cases waiting : link.server.incoming with
        | nil => rfl
        | cons byte incoming =>
            simp only [Upgrading.readByte, phase, waiting] at read
            have size := congrArg (List.length ∘ Upgrading.incoming) read
            simp only [Function.comp, waiting, List.length_cons] at size
            omega
      -- Everything is there, so the request is, and the server has seen its end.
      have total := inv.sent
      have arrived := inv.arrivedUp
      rw [nothing, settled.carriedUp, List.take_length, List.append_nil] at arrived
      rw [inv.wrote settled.wrote, ← arrived, List.append_nil] at total
      have whole : link.server.readed.length < request.length := by
        apply ends.short_of
        rwa [← List.prefix_iff_eq_take.mp front]
      have size := congrArg List.length total
      rw [List.length_append] at size
      omega

/-- The upgrade is transparent: the server never refuses it; once it is
accepted, what is unread is what the client wrote, and the client returns what
the server wrote behind its response.  When nothing is left to do, the server
has accepted and everything is there. -/
theorem upgrade_transparent {host urlPath : String}
    (hostLine : '\n' ∉ host.toList ∧ '\r' ∉ host.toList)
    (pathLine : '\n' ∉ urlPath.toList ∧ '\r' ∉ urlPath.toList)
    (short : (utf8Bytes (upgradeRequest host urlPath)).length ≤ 254)
    (events : List UpgradeEvent) :
    let link := (start host urlPath).run urlPath events
    (∀ error, link.server.phase ≠ .refused error) ∧
      (link.server.phase = .accepted →
        link.server.incoming ++ link.underwayUp = link.accepted) ∧
      link.returned <+: link.written ∧
      (link.Settled urlPath → link.server.phase = .accepted ∧
        link.server.incoming = link.accepted ∧ link.returned = link.written) := by
  intro link
  have inv : link.Inv (utf8Bytes (upgradeRequest host urlPath)) :=
    run_inv hostLine pathLine short events
  have ends := upgradeRequest_endsHeader hostLine pathLine
  have unread : link.server.phase = .accepted →
      link.server.incoming ++ link.underwayUp = link.accepted := by
    intro accepted
    have serves := inv.serves
    simp only [Serves, accepted] at serves
    refine inv.unread serves.1 ?_
    rw [serves.2]
    exact List.append_ne_nil_of_left_ne_nil (by decide) _
  refine ⟨?_, unread, inv.returned_prefix, ?_⟩
  · intro error refused
    have serves := inv.serves
    simp only [Serves, refused] at serves
  · intro settled
    have accepted := inv.settled_accepted ends settled
    refine ⟨accepted, ?_, ?_⟩
    · have all := unread accepted
      rwa [underwayUp, settled.carriedUp, List.drop_length, List.append_nil] at all
    · have serves := inv.serves
      simp only [Serves, accepted] at serves
      obtain ⟨got, takes, split⟩ := inv.arrivedDown
      rw [settled.taken, settled.carriedDown, List.take_length, List.append_nil, serves.2] at split
      cases state : link.client.state with
      | sendRequest pos =>
          have sent := inv.silent state
          rw [serves.2] at sent
          exact absurd sent (List.append_ne_nil_of_left_ne_nil (by decide) _)
      | waitResponse count size =>
          simp only [Takes, state] at takes
          have width := congrArg List.length split
          rw [takes.1, List.length_take, List.length_append] at width
          omega
      | upgraded =>
          simp only [Takes, state] at takes
          rw [takes] at split
          exact List.append_cancel_left split

/-- The client's first write takes three polls and its bytes arrive with the
request; the response arrives in two parts, the second one with a tunnel byte. -/
def sampleEvents : List UpgradeEvent :=
  [.write [1, 2, 3] [.ready 40, .pending], .carryUp 20, .serverRead,
    .write [1, 2, 3] [.ready 200, .ready 9], .read 4 [.ready 0], .carryUp 300] ++
    List.replicate 100 .serverRead ++
    [.serverReply 30, .carryDown 9, .read 4 (List.replicate 12 (.ready 0)), .serverReply 300,
      .serverFlush, .serverWrite [7, 8], .carryDown 300, .read 1 (List.replicate 70 (.ready 0)),
      .read 5 [.ready 9]]

theorem upgrade_transparent_sample :
    let link := (start "h" "p").run "p" sampleEvents
    link.server.phase = .accepted ∧ link.server.incoming = link.accepted ∧
      link.returned = link.written ∧ link.accepted = [1, 2, 3] ∧ link.written = [7, 8] := by
  have settled : ((start "h" "p").run "p" sampleEvents).Settled "p" ∧
      ((start "h" "p").run "p" sampleEvents).accepted = [1, 2, 3] ∧
      ((start "h" "p").run "p" sampleEvents).written = [7, 8] := by
    decide +kernel
  obtain ⟨accepted, unread, returned⟩ :=
    (upgrade_transparent (by decide) (by decide) (by decide) sampleEvents).2.2.2 settled.1
  exact ⟨accepted, unread, returned, settled.2⟩

end UpgradeLink

end CovertConnect.Tunnel
