import CovertConnect.Data.AsyncIo
import CovertConnect.Data.HeaderEnd
import Mathlib.Data.List.Infix

namespace CovertConnect.Server

open CovertConnect.Data

/-! # The server's end of the HTTP upgrade

A proxy in front of the server passes the header of the upgrade request on; the
server reads it byte by byte, so that what follows it stays in the socket. -/

def isContinuation (byte : UInt8) : Bool :=
  0x80 ≤ byte && byte ≤ 0xBF

/-- The bytes that may follow a lead byte, and how many bytes follow it in
all. -/
def secondByte (lead : UInt8) : Option (UInt8 × UInt8 × Nat) :=
  if 0xC2 ≤ lead ∧ lead ≤ 0xDF then some (0x80, 0xBF, 1)
  else if lead = 0xE0 then some (0xA0, 0xBF, 2)
  else if lead = 0xED then some (0x80, 0x9F, 2)
  else if 0xE1 ≤ lead ∧ lead ≤ 0xEF then some (0x80, 0xBF, 2)
  else if lead = 0xF0 then some (0x90, 0xBF, 3)
  else if 0xF1 ≤ lead ∧ lead ≤ 0xF3 then some (0x80, 0xBF, 3)
  else if lead = 0xF4 then some (0x80, 0x8F, 3)
  else none

/-- How many bytes the first character takes, and whether it is well formed. -/
def firstUnit : Bytes → Nat × Bool
  | [] => (1, false)
  | lead :: rest =>
      if lead < 0x80 then (1, true)
      else
        match secondByte lead, rest with
        | some (low, high, count), second :: rest =>
            if low ≤ second ∧ second ≤ high then
              let more := ((rest.take (count - 1)).takeWhile isContinuation).length
              (2 + more, more = count - 1)
            else (1, false)
        | _, _ => (1, false)

def lossyBytes : (turns : Nat) → Bytes → Bytes
  | 0, _ => []
  | turns + 1, bytes =>
      if bytes = [] then []
      else
        let (size, valid) := firstUnit bytes
        (if valid then bytes.take size else [0xEF, 0xBF, 0xBD]) ++ lossyBytes turns (bytes.drop size)

def fromUtf8Lossy (bytes : Bytes) : String :=
  match fromUtf8 bytes with
  | some text => text
  | none => (fromUtf8 (lossyBytes bytes.length bytes)).getD ""

/-- The size of the buffer for the request. -/
def maxUpgradeRequest : Nat := 255

def upgradeResponse : String :=
  "HTTP/1.1 101 Switching Protocols\r\nUpgrade: cconnect\r\nConnection: Upgrade\r\n\r\n"

def headerTooBig : Error :=
  .anyhow "response header with upgrade is too big"

def checkUpgradeRequest (urlPath : String) (request : Bytes) : Except Error Unit :=
  let req := fromUtf8Lossy request
  if ¬ urlPath.toList <:+: req.toList ∨ req.toList.getLast? ≠ some '\n' then
    .error (.anyhow "unexpected header from localhost")
  else .ok ()

section Calls

variable {S : Type} [Socket S]

def ioCall {α : Type} (call : S → Except IoError α × S) : Exec S Error α := fun stream =>
  match call stream with
  | (.ok value, stream) => (.ok value, stream)
  | (.error error, stream) => (.err (.io error), stream)

/-- The loop over the request; `left` more bytes fill the buffer, and a full
buffer is too much. -/
def readUpgradeRequest : (left lfInRow : Nat) → (readed : Bytes) → Exec S Error Bytes
  | 0, _, _ => .fail headerTooBig
  | left + 1, lfInRow, readed =>
      if lfInRow < 2 then do
        let byte ← ioCall (Socket.readExact · 1)
        readUpgradeRequest left (lfAfter lfInRow (byte.headD 0)) (readed ++ byte)
      else return readed

def replyUpgrade (urlPath : String) (request : Bytes) : Exec S Error Unit :=
  match checkUpgradeRequest urlPath request with
  | .error error => .fail error
  | .ok () => do
      ioCall (Socket.writeAll · (utf8Bytes upgradeResponse))
      ioCall Socket.flush

def processHttpUpgrade (urlPath : String) : Exec S Error Unit := do
  let request ← readUpgradeRequest maxUpgradeRequest 0 []
  replyUpgrade urlPath request

end Calls

/-- The same call, a turn at a time: each turn takes what the socket has to give or
to accept at that time. -/
inductive UpgradePhase where
  | reading
  | replying (sent : Nat)
  | flushing
  | accepted
  | refused (error : Error)
deriving DecidableEq, Repr

structure Upgrading where
  incoming : Bytes
  outgoing : Bytes
  readed : Bytes
  phase : UpgradePhase
deriving DecidableEq, Repr

namespace Upgrading

def begun (incoming : Bytes) : Upgrading where
  incoming := incoming
  outgoing := []
  readed := []
  phase := .reading

def response : Bytes :=
  utf8Bytes upgradeResponse

def phaseAfter (urlPath : String) (readed : Bytes) : UpgradePhase :=
  if maxUpgradeRequest ≤ readed.length then .refused headerTooBig
  else if lfInRow readed < 2 then .reading
  else
    match checkUpgradeRequest urlPath readed with
    | .ok () => .replying 0
    | .error error => .refused error

def readByte (urlPath : String) (this : Upgrading) : Upgrading :=
  match this.phase, this.incoming with
  | .reading, byte :: incoming =>
      let readed := this.readed ++ [byte]
      { this with incoming, readed, phase := phaseAfter urlPath readed }
  | _, _ => this

/-- One byte of the response and up to `further` more. -/
def reply (further : Nat) (this : Upgrading) : Upgrading :=
  match this.phase with
  | .replying sent =>
      let part := (response.drop sent).take (further + 1)
      { this with
        outgoing := this.outgoing ++ part
        phase :=
          if sent + part.length < response.length then .replying (sent + part.length)
          else .flushing }
  | _ => this

def flush (this : Upgrading) : Upgrading :=
  match this.phase with
  | .flushing => { this with phase := .accepted }
  | _ => this

/-- The tunnel writes once the upgrade is accepted. -/
def write (bytes : Bytes) (this : Upgrading) : Upgrading :=
  match this.phase with
  | .accepted => { this with outgoing := this.outgoing ++ bytes }
  | _ => this

def readBytes (urlPath : String) : (turns : Nat) → Upgrading → Upgrading
  | 0, this => this
  | turns + 1, this => readBytes urlPath turns (this.readByte urlPath)

end Upgrading

/-- How the call ends when its turns end in that state. -/
def Upgrading.ended (read : Upgrading) : Outcome Error Unit × Loaded :=
  match read.phase with
  | .reading => (.err (.io .unexpectedEof), { incoming := [], outgoing := [] })
  | .refused error => (.err error, { incoming := read.incoming, outgoing := [] })
  | _ => (.ok (), { incoming := read.incoming, outgoing := Upgrading.response })

theorem readBytes_decided {urlPath : String} {this : Upgrading} (turns : Nat)
    (decided : this.phase ≠ .reading) : this.readBytes urlPath turns = this := by
  induction turns with
  | zero => rfl
  | succ turns ih =>
      have still : this.readByte urlPath = this := by
        rw [Upgrading.readByte]
        split
        · rename_i reading _
          exact absurd reading decided
        · rfl
      rw [Upgrading.readBytes, still, ih]

/-- The loop from a request that is partly read. -/
theorem readUpgradeRequest_turns (urlPath : String) (left : Nat) (readed incoming : Bytes)
    (room : left + readed.length = maxUpgradeRequest) (some : 0 < left)
    (open_ : lfInRow readed < 2) :
    (readUpgradeRequest left (lfInRow readed) readed >>= replyUpgrade urlPath)
        ({ incoming, outgoing := [] } : Loaded) =
      (Upgrading.readBytes urlPath incoming.length
        { incoming, outgoing := [], readed, phase := .reading }).ended := by
  obtain ⟨left, rfl⟩ := Nat.exists_eq_succ_of_ne_zero (Nat.ne_of_gt some)
  induction incoming generalizing left readed with
  | nil => simp [readUpgradeRequest, open_, Upgrading.readBytes, Upgrading.ended, ioCall,
      Socket.readExact, Loaded.readExact, Exec.bind_apply]
  | cons byte incoming ih =>
      have first : (ioCall (Socket.readExact · 1) : Exec Loaded Error Bytes)
          { incoming := byte :: incoming, outgoing := [] } =
          (.ok [byte], { incoming, outgoing := [] }) := by
        simp [ioCall, Socket.readExact, Loaded.readExact, Loaded.read]
      have call : (readUpgradeRequest (left + 1) (lfInRow readed) readed >>= replyUpgrade urlPath)
            ({ incoming := byte :: incoming, outgoing := [] } : Loaded) =
          (readUpgradeRequest left (lfInRow (readed ++ [byte])) (readed ++ [byte]) >>=
            replyUpgrade urlPath) { incoming, outgoing := [] } := by
        rw [readUpgradeRequest, if_pos open_, Exec.bind_apply, Exec.bind_ok first, lfInRow_snoc]
        rfl
      have turn : (Upgrading.readBytes urlPath (byte :: incoming).length
            { incoming := byte :: incoming, outgoing := [], readed, phase := .reading }) =
          Upgrading.readBytes urlPath incoming.length
            { incoming, outgoing := [], readed := readed ++ [byte],
              phase := Upgrading.phaseAfter urlPath (readed ++ [byte]) } := rfl
      have width : (readed ++ [byte]).length = readed.length + 1 := List.length_append
      rw [call, turn]
      by_cases full : maxUpgradeRequest ≤ (readed ++ [byte]).length
      · have none : left = 0 := by omega
        subst none
        rw [Upgrading.phaseAfter, if_pos full, readBytes_decided _ (by simp)]
        rfl
      · obtain ⟨left, rfl⟩ := Nat.exists_eq_succ_of_ne_zero (show left ≠ 0 by omega)
        by_cases more : lfInRow (readed ++ [byte]) < 2
        · rw [Upgrading.phaseAfter, if_neg full, if_pos more]
          exact ih _ more left (by omega) (Nat.succ_pos left)
        · have request : (readUpgradeRequest (left + 1) (lfInRow (readed ++ [byte]))
              (readed ++ [byte])) ({ incoming, outgoing := [] } : Loaded) =
              (.ok (readed ++ [byte]), { incoming, outgoing := [] }) := by
            rw [readUpgradeRequest, if_neg more]
            rfl
          rw [Exec.bind_ok request, Upgrading.phaseAfter, if_neg full, if_neg more, replyUpgrade]
          cases checkUpgradeRequest urlPath (readed ++ [byte]) with
          | error error =>
              rw [readBytes_decided _ (by simp)]
              rfl
          | ok _ =>
              rw [readBytes_decided _ (by simp)]
              rfl

/-- On a socket that has everything to give, the call does what its turns do. -/
theorem processHttpUpgrade_turns (urlPath : String) (incoming : Bytes) :
    processHttpUpgrade urlPath ({ incoming, outgoing := [] } : Loaded) =
      (Upgrading.readBytes urlPath incoming.length (.begun incoming)).ended :=
  readUpgradeRequest_turns urlPath maxUpgradeRequest [] incoming rfl (by decide) (by decide)

end CovertConnect.Server
