import CovertConnect.Crypto.Stream.Sender
import CovertConnect.Server.Responses

namespace CovertConnect.Server

open CovertConnect.Data CovertConnect.Data.Exec
open CovertConnect.Crypto CovertConnect.Crypto.Connection
open CovertConnect.Client (SocketAddr)

/-! # What the server seals

One connection seals the records of one response, or those of one stream, or
nothing at all. -/

def sealedRecords (history : List ConnectionEvent) : List SealRecord :=
  history.filterMap fun
    | .sealed record => some record
    | .terminated .. => none

theorem sealedRecords_append (before after : List ConnectionEvent) :
    sealedRecords (before ++ after) = sealedRecords before ++ sealedRecords after :=
  List.filterMap_append

theorem sealedRecords_events (response : Response) :
    sealedRecords response.events = response.records := rfl

section Calls

variable {S R : Type}

def sealedSoFar (connection : Connection S R) : List SealRecord :=
  sealedRecords connection.history

/-- A call seals nothing, or records that are allowed. -/
def Seals {α : Type} (allowed : List SealRecord → Prop) (call : Exec (Connection S R) Error α)
    (connection : Connection S R) : Prop :=
  ∃ records, sealedSoFar (call connection).2 = sealedSoFar connection ++ records ∧
    (records ≠ [] → allowed records)

namespace Seals

variable {α β : Type} {allowed : List SealRecord → Prop} {call : Exec (Connection S R) Error α}
  {next : α → Exec (Connection S R) Error β} {connection : Connection S R}

theorem of_keeps (kept : Keeps sealedSoFar call) : Seals allowed call connection :=
  ⟨[], by rw [kept, List.append_nil], fun some => absurd rfl some⟩

theorem imp {wider : List SealRecord → Prop} (seals : Seals allowed call connection)
    (widen : ∀ records, allowed records → wider records) : Seals wider call connection := by
  obtain ⟨records, added, fine⟩ := seals
  exact ⟨records, added, fun some => widen records (fine some)⟩

theorem bind_keeps (first : Seals allowed call connection)
    (later : ∀ value, Keeps sealedSoFar (next value)) :
    Seals allowed (call >>= next) connection := by
  obtain ⟨records, added, fine⟩ := first
  refine ⟨records, ?_, fine⟩
  rw [bind_apply]
  rcases run : call connection with ⟨value | error | reason, after⟩
  · rw [run] at added
    exact (later value after).trans added
  · rw [run] at added
    exact added
  · rw [run] at added
    exact added

theorem keeps_bind (first : Keeps sealedSoFar call)
    (later : ∀ value after, call connection = (.ok value, after) →
      Seals allowed (next value) after) : Seals allowed (call >>= next) connection := by
  have kept := first connection
  rcases run : call connection with ⟨value | error | reason, after⟩
  · obtain ⟨records, added, fine⟩ := later value after run
    rw [run] at kept
    refine ⟨records, ?_, fine⟩
    rw [bind_ok run, added]
    exact congrArg (· ++ records) kept
  all_goals
    rw [run] at kept
    refine ⟨[], ?_, fun some => absurd rfl some⟩
    rw [bind_apply, run, List.append_nil]
    exact kept

theorem attempt (seals : Seals allowed call connection) :
    Seals allowed (Exec.attempt call) connection := by
  obtain ⟨records, added, fine⟩ := seals
  refine ⟨records, ?_, fine⟩
  rw [attempt_apply]
  rcases run : call connection with ⟨value | error | reason, after⟩ <;>
  · rw [run] at added
    exact added

end Seals

theorem keeps_of_history {α : Type} {call : Exec (Connection S R) Error α}
    (kept : Keeps Connection.history call) : Keeps sealedSoFar call :=
  fun connection => congrArg sealedRecords (kept connection)

theorem io_seals_nothing {α : Type} (call : S → Except IoError α × S) :
    Keeps sealedSoFar (io call : Exec (Connection S R) Error α) :=
  keeps_of_history (io_keeps call)

theorem fail_seals_nothing {α : Type} (error : Error) :
    Keeps sealedSoFar (.fail error : Exec (Connection S R) Error α) := Keeps.fail error

variable [Socket S] [Rng R]

omit [Socket S] in
theorem genRange_seals_nothing (low high : Nat) :
    Keeps sealedSoFar (genRange low high : Exec (Connection S R) Error Nat) := by
  intro connection
  rw [genRange]
  split <;> rfl

theorem terminateSlowly_seals_nothing (cooldown : PaddingRange) :
    Keeps sealedSoFar (terminateSlowly cooldown : Exec (Connection S R) Error Unit) := by
  refine Keeps.bind (genRange_seals_nothing _ _) fun maxRead => ?_
  refine Keeps.bind (genRange_seals_nothing _ _) fun maxTimeMs => ?_
  refine Keeps.bind ?_ fun _ => Keeps.modify fun _ => rfl
  refine Keeps.modify fun connection => ?_
  change sealedRecords (connection.history ++ _) = _
  rw [sealedRecords_append]
  exact List.append_nil _

theorem refuse_seals_nothing {α : Type} (cfg : AppConfig) (message : String) :
    Keeps sealedSoFar (refuse cfg message : Exec (Connection S R) Error α) :=
  Keeps.bind (terminateSlowly_seals_nothing _) fun _ => fail_seals_nothing _

theorem acceptUpgrade_seals_nothing (socketAddr : SocketAddr) (cfg : AppConfig) (urlPath : String)
    (upgradeSupport : Bool) :
    Keeps sealedSoFar (acceptUpgrade socketAddr cfg urlPath upgradeSupport :
      Exec (Connection S R) Error Unit) := by
  rw [acceptUpgrade]
  split
  · refine Keeps.bind ?_ fun result => ?_
    · intro connection
      rw [attempt_apply, onStream, focus_apply]
      rcases processHttpUpgrade urlPath connection.stream with ⟨_ | _ | _, stream⟩ <;> rfl
    · cases result with
      | ok _ => exact fun _ => rfl
      | error err =>
          exact Keeps.bind (terminateSlowly_seals_nothing _) fun _ => fail_seals_nothing _
  · exact fun _ => rfl

omit [Rng R] in
theorem tryReadRest_seals_nothing (data : Bytes) (readed : Nat) :
    Keeps sealedSoFar (tryReadRest data readed : Exec (Connection S R) Error Bytes) := by
  rw [tryReadRest]
  split
  · exact io_seals_nothing _
  · exact fun _ => rfl

variable [Aead]

theorem decodeHost_seals_nothing (cfg : AppConfig) (header : TunnelHeader) (data : Bytes) :
    Keeps sealedSoFar (decodeHost cfg header data : Exec (Connection S R) Error String) := by
  refine Keeps.bind (Keeps.lift _) fun split => ?_
  dsimp only
  split
  · exact refuse_seals_nothing _ _
  · refine Keeps.bind (Keeps.lift _) fun hostBytes => ?_
    split
    · exact fun _ => rfl
    · exact refuse_seals_nothing _ _

theorem readHost_seals_nothing (cfg : AppConfig) (header : TunnelHeader) (data : Bytes) :
    Keeps sealedSoFar (readHost cfg header data : Exec (Connection S R) Error String) := by
  refine Keeps.bind (tryReadRest_seals_nothing _ _) fun rest => ?_
  split
  · exact refuse_seals_nothing _ _
  · exact decodeHost_seals_nothing _ _ _

variable [Hashes]

omit [Socket S] [Rng R] [Aead] in
theorem openTunnel_seals_nothing (lookup : String → Except IoError (List SocketAddr))
    (cfg : AppConfig) (nonce : Bytes) (header : TunnelHeader) (host : String) :
    Keeps sealedSoFar (openTunnel lookup cfg nonce header host :
      Exec (Connection S R) Error (Tunnel S R)) := by
  rw [openTunnel]
  split
  · exact fail_seals_nothing _
  · split
    · exact fail_seals_nothing _
    · exact Keeps.bind (Keeps.lift _) fun _ => Keeps.get_bind fun _ _ => rfl

theorem acceptTunnel_seals_nothing (lookup : String → Except IoError (List SocketAddr))
    (cfg : AppConfig) (nonce data : Bytes) (header : TunnelHeader) :
    Keeps sealedSoFar (acceptTunnel lookup cfg nonce data header :
      Exec (Connection S R) Error (Option (Tunnel S R))) := by
  refine Keeps.bind (readHost_seals_nothing _ _ _) fun host => ?_
  exact Keeps.bind (openTunnel_seals_nothing _ _ _ _ _) fun _ _ => rfl

omit [Socket S] in
/-- The records of a response to a request with this salt. -/
def AnswersTo (R : Type) (protocol : ProtocolConfig) (salt : Bytes) (records : List SealRecord) :
    Prop :=
  ∃ (ciphers : Cipher × Cipher) (draws : ResponseDraws R),
    responseCiphers (utf8Bytes protocol.key) salt = .ok ciphers ∧
      records = (responseOf protocol ciphers draws).records

omit [Socket S] in
theorem specialResponse_seals {protocol : ProtocolConfig} {salt : Bytes}
    {connection : Connection S R} :
    Seals (AnswersTo R protocol salt) (specialResponse protocol salt) connection := by
  cases derived : responseCiphers (utf8Bytes protocol.key) salt with
  | ok ciphers =>
      rw [Seals, specialResponse_ok derived]
      refine ⟨_, sealedRecords_append _ _, fun _ => ?_⟩
      exact ⟨ciphers, _, derived, sealedRecords_events _⟩
  | err error =>
      refine Seals.of_keeps ?_
      rw [specialResponse, derived]
      exact Keeps.bind (genRange_seals_nothing _ _) fun _ =>
        Keeps.bind (genRange_seals_nothing _ _) fun _ => fail_seals_nothing _
  | panic reason =>
      refine Seals.of_keeps ?_
      rw [specialResponse, derived]
      exact Keeps.bind (genRange_seals_nothing _ _) fun _ =>
        Keeps.bind (genRange_seals_nothing _ _) fun _ _ => rfl

theorem answerSpecialRequest_seals {cfg : AppConfig} {data : Bytes} {readed : Nat}
    {header : SpecialHeader} {connection : Connection S R} :
    Seals (AnswersTo R cfg.protocol header.salt) (answerSpecialRequest cfg data readed header)
      connection := by
  refine Seals.keeps_bind (tryReadRest_seals_nothing _ _) fun rest after _ => ?_
  split
  · exact Seals.of_keeps (fail_seals_nothing _)
  · refine Seals.bind_keeps specialResponse_seals fun response => ?_
    exact Keeps.bind (io_seals_nothing _) fun _ => io_seals_nothing _

/-- What is sealed after a request was opened. -/
def Answered (R : Type) (cfg : AppConfig) (connectTime : Int) (front : Bytes)
    (records : List SealRecord) : Prop :=
  ∃ header, specialHeader cfg connectTime front = .ok header ∧
    AnswersTo R cfg.protocol header.salt records

theorem trySpecialRequest_seals {cfg : AppConfig} {connectTime : Int} {data : Bytes} {readed : Nat}
    {connection : Connection S R} (inside : readed ≤ data.length) :
    Seals (fun records => 78 ≤ readed ∧ Answered R cfg connectTime data records)
      (trySpecialRequest cfg connectTime data readed) connection := by
  by_cases short : readed < 78
  · have few : readed < specialHeaderLen := short
    rw [trySpecialRequest, divide_pos (by decide), pure_bind, if_pos few]
    exact Seals.of_keeps (fail_seals_nothing _)
  have long : 78 ≤ readed := Nat.le_of_not_lt short
  rw [trySpecialRequest_long long inside]
  refine Seals.keeps_bind (Keeps.lift _) fun header after opened => ?_
  have read : specialHeader cfg connectTime data = .ok header := congrArg Prod.fst opened
  exact answerSpecialRequest_seals.imp fun records answers => ⟨long, header, read, answers⟩

theorem otherwise_seals {α : Type} {cfg : AppConfig} {connectTime : Int} {data : Bytes}
    {readed : Nat} {message : String} {connection : Connection S R}
    (inside : readed ≤ data.length) :
    Seals (fun records => 78 ≤ readed ∧ Answered R cfg connectTime data records)
      (otherwise cfg connectTime data readed message : Exec (Connection S R) Error (Option α))
      connection := by
  refine Seals.bind_keeps (trySpecialRequest_seals inside).attempt fun result => ?_
  cases result with
  | ok _ => exact fun _ => rfl
  | error _ => exact refuse_seals_nothing _ _

theorem afterRead_seals {lookup : String → Except IoError (List SocketAddr)} {connectTime : Int}
    {cfg : AppConfig} {front : Bytes} {connection : Connection S R}
    (fits : front.length ≤ minHeaderLen cfg.protocol) :
    Seals (fun records => 78 ≤ front.length ∧ Answered R cfg connectTime front records)
      (afterRead lookup connectTime cfg front) connection := by
  rw [afterRead]
  split
  · refine (otherwise_seals (by rw [resize_length]; exact fits)).imp ?_
    intro records given
    obtain ⟨long, header, read, answers⟩ := given
    rw [specialHeader_resize long fits] at read
    exact ⟨long, header, read, answers⟩
  · refine Seals.keeps_bind ?_ fun timestampForKey after _ => ?_
    · rw [divide]
      split <;> exact fun _ => rfl
    refine Seals.keeps_bind (Keeps.lift _) fun opened after _ => ?_
    cases opened with
    | none => exact otherwise_seals (Nat.le_refl _)
    | some header => exact Seals.of_keeps (acceptTunnel_seals_nothing _ _ _ _ _)

theorem startTunnel_seals {lookup : String → Except IoError (List SocketAddr)}
    {socketAddr : SocketAddr} {connectTime : Int} {cfg : AppConfig} {urlPath : String}
    {upgradeSupport : Bool} {connection : Connection S R} :
    Seals (fun records => ∃ front, FirstRead socketAddr cfg urlPath upgradeSupport connection front ∧
        78 ≤ front.length ∧ Answered R cfg connectTime front records)
      (startTunnel lookup socketAddr connectTime cfg urlPath upgradeSupport) connection := by
  refine Seals.keeps_bind (acceptUpgrade_seals_nothing _ _ _ _) fun _ ready accepted => ?_
  rw [readHeader_eq]
  refine Seals.keeps_bind (io_seals_nothing _) fun front next read => ?_
  have first := firstRead_of_run accepted read
  have fits : front.length ≤ minHeaderLen cfg.protocol := by
    obtain ⟨ready', after, _, answer⟩ := first
    exact Socket.read_fits _ _ _ _ answer
  exact (afterRead_seals fits).imp fun records answered => ⟨front, first, answered⟩

end Calls

section Keys

variable {R : Type} [Aead] [Hashes]

/-- What must not be repeated with another plaintext. -/
def slot (record : SealRecord) : CipherType × Bytes × Nonce :=
  (record.kind, record.key, record.nonce)

omit [Aead] in
theorem responseCiphers_inv {key salt : Bytes} {ciphers : Cipher × Cipher} (sized : salt.length = 32)
    (both : responseCiphers key salt = .ok ciphers) :
    ∃ responseKey, Kdf.argon2.deriveProtocolResponseKey key salt = .ok responseKey ∧
      ciphers.1.kind = .aes256Gcm ∧ ciphers.1.key = responseKey ∧
      ciphers.2.kind = .chaCha20Poly1305 ∧ ciphers.2.key = responseKey := by
  cases derived : Kdf.argon2.deriveProtocolResponseKey key salt with
  | error message =>
      rw [responseCiphers, derived] at both
      cases both
  | ok responseKey =>
      rw [responseCiphers_ok sized derived] at both
      cases both
      exact ⟨responseKey, rfl, rfl, rfl, rfl, rfl⟩

/-- The four records of a response are under one key and in four slots. -/
theorem AnswersTo.slots {protocol : ProtocolConfig} {salt : Bytes} {records : List SealRecord}
    (sized : salt.length = 32) (answers : AnswersTo R protocol salt records) :
    (records.map slot).Nodup ∧
      ∃ responseKey, Kdf.argon2.deriveProtocolResponseKey (utf8Bytes protocol.key) salt =
          .ok responseKey ∧
        ∀ record ∈ records, record.key = responseKey := by
  obtain ⟨ciphers, draws, both, rfl⟩ := answers
  obtain ⟨responseKey, derived, aes, aesKey, cha, chaKey⟩ := responseCiphers_inv sized both
  have moved : ∀ nonce : Nonce, nonce ≠ nonce.inc 1 := by
    intro nonce same
    have still : nonce.inc 0 = nonce.inc 1 := (Nonce.inc_zero nonce).trans same
    exact absurd (Nonce.inc_inj (by decide) (by decide) still) (by decide)
  constructor
  · simp [Response.records, responseOf, slot, Cipher.record, aes, cha, moved]
  · refine ⟨responseKey, derived, ?_⟩
    simp [Response.records, responseOf, Cipher.record, aesKey, chaKey]

theorem specialHeader_salt {cfg : AppConfig} {connectTime : Int} {front : Bytes}
    {header : SpecialHeader} (long : 78 ≤ front.length)
    (read : specialHeader cfg connectTime front = .ok header) : header.salt.length = 32 := by
  have sizes := specialHeader_sizes long
  rcases openSpecialHeader_cases (utf8Bytes cfg.protocol.key)
      (connectTime.tdiv getProtocolMaxConnectDelay) sizes.1 sizes.2 with
    ⟨error, failed⟩ | ⟨opened, _, _, _, plain, succeeded, _, _, plainSize, salt, _⟩
  · cases failed.symm.trans read
  · cases succeeded.symm.trans read
    rw [salt, List.length_take, plainSize]
    rfl

theorem tunnelHeader_salt {cfg : AppConfig} {connectTime : Int} {front : Bytes}
    {header : TunnelHeader} (long : 63 ≤ front.length)
    (read : tunnelHeader cfg connectTime front = .ok (some header)) : header.salt.length = 32 := by
  have nonceSize : (front.take 12).length = 12 := List.length_take_of_le (by omega)
  have headerSize : ((front.take 63).drop 12).length = 51 := by
    rw [List.length_drop, List.length_take]
    omega
  rcases openTunnelHeader_cases cfg.protocol (connectTime.tdiv cfg.protocol.maxConnectDelay.toNat)
      nonceSize headerSize with
    ⟨error, failed⟩ | failed | ⟨opened, plain, _, succeeded, _, fields⟩
  · cases failed.symm.trans read
  · cases failed.symm.trans read
  · cases succeeded.symm.trans read
    rw [fields.salt, List.length_take, fields.size]
    rfl

/-- The keys that a first read has the server seal under: that of the tunnel
that it opens, or that of the response to the request that it opens. -/
def KeyedBy (cfg : AppConfig) (connectTime : Int) (front key : Bytes) : Prop :=
  (∃ header, tunnelHeader cfg connectTime front = .ok (some header) ∧
    cfg.protocol.kdf.deriveServerKey (utf8Bytes cfg.protocol.key) header.salt = .ok key) ∨
  ∃ header, specialHeader cfg connectTime front = .ok header ∧
    Kdf.argon2.deriveProtocolResponseKey (utf8Bytes cfg.protocol.key) header.salt = .ok key

end Keys

end CovertConnect.Server
