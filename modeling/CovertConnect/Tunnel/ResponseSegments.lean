import CovertConnect.Data.Segments
import CovertConnect.Tunnel.ProtocolRoundTrip

namespace CovertConnect.Tunnel

open CovertConnect.Data CovertConnect.Data.Exec
open CovertConnect.Crypto CovertConnect.Crypto.Connection
open CovertConnect.Client CovertConnect.Server

/-! # A response in pieces

The header of a response is taken with one read, and its body with a read that
waits for all of it. -/

section Pieces

variable {S : Type} [Socket S]

/-- `holds stream unread`: these bytes come from the stream, and then no more.
A read returns some of them where it can return any. -/
structure Chunked (holds : S → Bytes → Prop) : Prop where
  read : ∀ stream unread room, holds stream unread → 0 < room → unread ≠ [] →
    ∃ count after, 0 < count ∧ count ≤ room ∧ count ≤ unread.length ∧
      Socket.read stream room = (.ok (unread.take count), after) ∧ holds after (unread.drop count)
  ended : ∀ stream room bytes after, holds stream [] →
    Socket.read stream room = (.ok bytes, after) → bytes = []
  readExact : ∀ stream unread size, holds stream unread → size ≤ unread.length →
    ∃ after, Socket.readExact stream size = (.ok (unread.take size), after)
  missing : ∀ stream unread size, holds stream unread → unread.length < size →
    ∃ error after, Socket.readExact stream size = (.error error, after)

/-- How many bytes the next read returns. -/
def firstRead (stream : S) (room : Nat) : Nat :=
  match (Socket.read stream room).1 with
  | .ok bytes => bytes.length
  | .error _ => 0

theorem Chunked.firstRead_cases {holds : S → Bytes → Prop} (chunked : Chunked holds)
    {stream : S} {unread : Bytes} (waiting : holds stream unread) {room : Nat} (some' : 0 < room) :
    firstRead stream room < room ∨ (room ≤ unread.length ∧
      ∃ after, Socket.read stream room = (.ok (unread.take room), after) ∧
        holds after (unread.drop room)) := by
  by_cases nothing : unread = []
  · subst nothing
    left
    rcases answered : Socket.read stream room with ⟨error | bytes, after⟩
    · rw [firstRead, answered]
      exact some'
    · rw [firstRead, answered, chunked.ended stream room bytes after waiting answered]
      exact some'
  · obtain ⟨count, after, _, within, inside, read, left⟩ :=
      chunked.read stream unread room waiting some' nothing
    rcases Nat.lt_or_eq_of_le within with short | full
    · left
      rw [firstRead, read]
      dsimp only
      rwa [List.length_take_of_le inside]
    · subst full
      exact .inr ⟨inside, after, read, left⟩

end Pieces

/-- Segments are such pieces. -/
theorem segmented_chunked :
    Chunked fun (stream : Segmented) (unread : Bytes) => stream.unread = unread where
  read := by
    intro stream _ room same positive filled
    subst same
    have came : stream.first ≠ [] := fun nothing => filled (Segmented.settle_filled _ _ nothing)
    let count := min room stream.first.length
    have within : count ≤ stream.first.length := Nat.min_le_right _ _
    have taken : stream.unread.take count = stream.first.take room := by
      rw [stream.first_append, List.take_append_of_le_length within, ← List.take_eq_take_min]
    have left : stream.unread.drop count = stream.first.drop room ++ stream.settled.2.flatten := by
      rw [stream.first_append, List.drop_append_of_le_length within, ← List.drop_eq_drop_min]
    have inside : stream.first.length ≤ stream.unread.length :=
      stream.first_le_second.trans stream.second_le_unread
    have some' := List.length_pos_iff.mpr came
    exact ⟨count, (stream.read room).2, by omega, Nat.min_le_left _ _, within.trans inside,
      by rw [taken]; rfl, left.symm⟩
  ended := by
    intro stream room bytes after nothing taken
    have first : stream.first = [] := by
      have split := stream.first_append
      rw [nothing] at split
      exact (List.append_eq_nil_iff.mp split.symm).1
    cases taken
    exact (congrArg (List.take room) first).trans List.take_nil
  readExact := by
    intro stream _ size same enough
    subst same
    have come := Segmented.gather_enough enough
    have split := Segmented.gather_unread size stream.arrived stream.arriving
    refine ⟨{ stream with
      arrived := (Segmented.gather size stream.arrived stream.arriving).1.drop size
      arriving := (Segmented.gather size stream.arrived stream.arriving).2 }, ?_⟩
    change Segmented.readExact _ _ = _
    simp only [Segmented.readExact]
    rw [if_pos come, Segmented.unread, ← split, List.take_append_of_le_length come]
  missing := by
    intro stream _ size same short
    subst same
    have split := Segmented.gather_unread size stream.arrived stream.arriving
    have few : ¬ size ≤ (Segmented.gather size stream.arrived stream.arriving).1.length := by
      rw [Segmented.unread, ← split, List.length_append] at short
      omega
    change ∃ error after, Segmented.readExact _ _ = _
    simp only [Segmented.readExact]
    rw [if_neg few]
    exact ⟨_, _, rfl⟩

section Layers

variable [Aead]

theorem openLayers_length {cipherAes cipherCha : Cipher} {part : String} {record plain : Bytes}
    (opened : openLayers cipherAes cipherCha part record = .ok plain) :
    plain.length = record.length - 16 := by
  have outer := cipherCha.decrypt_length record
  rcases cha : cipherCha.decrypt record with ⟨_ | _, middle⟩
  · rw [openLayers, cha] at opened
    cases opened
  · have inner := cipherAes.decrypt_length (middle.take (middle.length - cipherCha.tagSize))
    rcases aes : cipherAes.decrypt (middle.take (middle.length - cipherCha.tagSize)) with
      ⟨_ | _, last⟩
    · rw [openLayers, cha] at opened
      dsimp only at opened
      rw [aes] at opened
      cases opened
    · rw [openLayers, cha] at opened
      dsimp only at opened
      rw [aes] at opened
      cases opened
      rw [cha] at outer
      rw [aes, List.length_take_of_le (Nat.sub_le _ _), Cipher.tagSize_eq] at inner
      rw [inner, outer]

variable [Hashes]

/-- What the header of a response says about the length of the body. -/
def bodyLen (header : Bytes) : Nat :=
  beNat (header.take 2) + protocolPayloadLen + beNat ((header.drop 2).take 2) + 16 + 16

/-- The bytes begin with a response to this salt: two records, each in two
layers, that give this configuration. -/
def Responds (key : String) (salt bytes : Bytes) (protocol : ProtocolConfig) : Prop :=
  ∃ ciphers header data, responseCiphers (utf8Bytes key) salt = .ok ciphers ∧
    openLayers ciphers.1 ciphers.2 "header" (bytes.take 36) = .ok header ∧
    36 + bodyLen header ≤ bytes.length ∧
    openLayers (ciphers.1.incNonce 1) (ciphers.2.incNonce 1) "data"
      ((bytes.drop 36).take (bodyLen header)) = .ok data ∧
    protocolFromPayload key (data.drop (beNat (header.take 2))) = .ok protocol

variable {S R : Type} [Socket S]

/-- A response is understood where its header comes with the first read. -/
theorem readProtocolResponse_ok_iff {holds : S → Bytes → Prop} (chunked : Chunked holds)
    {key : String} {salt bytes : Bytes} {connection : Connection S R}
    (waiting : holds connection.stream bytes) {protocol : ProtocolConfig} :
    (∃ after, readProtocolResponse key salt connection = (.ok protocol, after)) ↔
      firstRead connection.stream 36 = 36 ∧ Responds key salt bytes protocol := by
  rcases chunked.firstRead_cases waiting (show 0 < 36 by decide) with short | ⟨long, stream, read, left⟩
  · refine iff_of_false ?_ (fun given => absurd given.1 (Nat.ne_of_lt short))
    intro given
    obtain ⟨after, run⟩ := given
    obtain ⟨header, middle, read, run⟩ := bind_eq_ok.mp run
    have size : header.length ≠ 2 + 2 + CipherType.aes256Gcm.tagSize +
        CipherType.aes256Gcm.tagSize := by
      obtain ⟨stream, answered, _⟩ := io_inv read
      have answered : Socket.read connection.stream 36 = (.ok header, stream) := answered
      rw [firstRead, answered] at short
      exact Nat.ne_of_lt short
    rw [if_pos size] at run
    cases run
  have full : firstRead connection.stream 36 = 36 := by
    rw [firstRead, read]
    exact List.length_take_of_le long
  have reading : (io (Socket.read · (2 + 2 + CipherType.aes256Gcm.tagSize +
      CipherType.aes256Gcm.tagSize)) : Exec (Connection S R) Error Bytes) connection =
        (.ok (bytes.take 36), { connection with stream }) := io_ok read
  have sized : ¬ (bytes.take 36).length ≠ 2 + 2 + CipherType.aes256Gcm.tagSize +
      CipherType.aes256Gcm.tagSize := fun differs => differs (List.length_take_of_le long)
  rw [readProtocolResponse]
  dsimp only
  rw [bind_ok reading, if_neg sized]
  constructor
  · intro given
    obtain ⟨after, run⟩ := given
    obtain ⟨ciphers, derived, run⟩ := lift_bind_eq_ok.mp run
    obtain ⟨header, opened, run⟩ := lift_bind_eq_ok.mp run
    have headerSize := openLayers_length opened
    rw [List.length_take_of_le long] at headerSize
    have begins : (Outcome.splitTo header 2 : Outcome Error _) = .ok (header.take 2, header.drop 2) :=
      Outcome.splitTo_ok (by omega)
    have ends : (Outcome.splitTo (header.drop 2) 2 : Outcome Error _) =
        .ok ((header.drop 2).take 2, (header.drop 2).drop 2) :=
      Outcome.splitTo_ok (by rw [List.length_drop]; omega)
    rw [begins, lift_ok_bind] at run
    dsimp only at run
    rw [ends, lift_ok_bind] at run
    dsimp only at run
    obtain ⟨body, middle, rest, run⟩ := bind_eq_ok.mp run
    obtain ⟨data, bodyOpened, run⟩ := lift_bind_eq_ok.mp run
    obtain ⟨last, taken, _⟩ := io_inv rest
    have rest : Socket.readExact stream (bodyLen header) = (.ok body, last) := taken
    have inside : bodyLen header ≤ (bytes.drop 36).length := by
      by_contra short
      obtain ⟨error, _, failed⟩ := chunked.missing _ _ _ left (Nat.lt_of_not_le short)
      rw [failed] at rest
      cases rest
    have bodyEq : body = (bytes.drop 36).take (bodyLen header) := by
      obtain ⟨_, taken⟩ := chunked.readExact _ _ _ left inside
      rw [taken] at rest
      cases rest
      rfl
    rw [bodyEq] at bodyOpened
    have dataSize := openLayers_length bodyOpened
    rw [List.length_take_of_le inside] at dataSize
    have behind : (Outcome.splitTo data (beNat (header.take 2)) : Outcome Error _) =
        .ok (data.take (beNat (header.take 2)), data.drop (beNat (header.take 2))) :=
      Outcome.splitTo_ok (by rw [dataSize, bodyLen]; omega)
    rw [behind, lift_ok_bind] at run
    obtain ⟨parsed, _⟩ := lift_eq_ok.mp run
    rw [List.length_drop] at inside
    exact ⟨full, ciphers, header, data, derived, opened, by omega, bodyOpened, parsed⟩
  · intro given
    obtain ⟨_, ciphers, header, data, derived, opened, inside, body, parsed⟩ := given
    have headerSize := openLayers_length opened
    have dataSize := openLayers_length body
    rw [List.length_take_of_le long] at headerSize
    rw [List.length_take_of_le (by rw [List.length_drop]; omega)] at dataSize
    have begins : (Outcome.splitTo header 2 : Outcome Error _) = .ok (header.take 2, header.drop 2) :=
      Outcome.splitTo_ok (by omega)
    have ends : (Outcome.splitTo (header.drop 2) 2 : Outcome Error _) =
        .ok ((header.drop 2).take 2, (header.drop 2).drop 2) :=
      Outcome.splitTo_ok (by rw [List.length_drop]; omega)
    have behind : (Outcome.splitTo data (beNat (header.take 2)) : Outcome Error _) =
        .ok (data.take (beNat (header.take 2)), data.drop (beNat (header.take 2))) :=
      Outcome.splitTo_ok (by rw [dataSize, bodyLen]; omega)
    obtain ⟨after, rest⟩ := chunked.readExact stream (bytes.drop 36) (bodyLen header) left
      (by rw [List.length_drop]; omega)
    have restRead : (io (Socket.readExact · (beNat (header.take 2) + protocolPayloadLen +
        beNat ((header.drop 2).take 2) + CipherType.aes256Gcm.tagSize +
          CipherType.aes256Gcm.tagSize)) : Exec (Connection S R) Error Bytes)
        { connection with stream } =
          (.ok ((bytes.drop 36).take (bodyLen header)), { connection with stream := after }) :=
      io_ok rest
    refine ⟨{ connection with stream := after }, ?_⟩
    rw [derived, lift_ok_bind]
    rw [opened, lift_ok_bind, begins, lift_ok_bind]
    rw [ends, lift_ok_bind]
    rw [bind_ok restRead, body, lift_ok_bind, behind, lift_ok_bind]
    dsimp only
    rw [parsed]
    rfl

/-- What a client is given: a configuration, or a failure. -/
def given : Outcome Error ProtocolConfig → Option ProtocolConfig
  | .ok protocol => some protocol
  | _ => none

omit [Aead] [Hashes] [Socket S] in
theorem given_eq_some {run : Outcome Error ProtocolConfig × Connection S R}
    {protocol : ProtocolConfig} :
    given run.1 = some protocol ↔ ∃ after, run = (.ok protocol, after) := by
  rcases run with ⟨value | error | reason, after⟩
  · simp [given]
  · simp [given]
  · simp [given]

variable [Rng R]

/-- The request of a client has gone out, and `bytes` come back on the stream
that it waits on. -/
def Answered (holds : S → Bytes → Prop) (key : String) (now : Int) (client : Connection S R)
    (request : ProtocolRequest) (bytes : Bytes) (stream : S) : Prop :=
  ∃ requested sent, protocolRequest key now client = (.ok request, requested) ∧
    Socket.writeAll requested.stream request.bytes = (.ok (), sent) ∧
    Socket.flush sent = (.ok (), stream) ∧ holds stream bytes

theorem getServerProtocol_given {holds : S → Bytes → Prop} (chunked : Chunked holds)
    {key : String} {now : Int} {client : Connection S R} {request : ProtocolRequest}
    {bytes : Bytes} {stream : S} (answered : Answered holds key now client request bytes stream)
    (protocol : ProtocolConfig) :
    given (getServerProtocol key now client).1 = some protocol ↔
      firstRead stream 36 = 36 ∧ Responds key request.salt bytes protocol := by
  obtain ⟨requested, sent, built, wrote, flush, waiting⟩ := answered
  let asked : Connection S R := { requested with stream }
  have run : getServerProtocol key now client = readProtocolResponse key request.salt asked := by
    rw [getServerProtocol, bind_ok built, bind_ok (io_ok wrote), bind_ok (io_ok flush)]
  have asking : holds asked.stream bytes := waiting
  rw [run, given_eq_some, readProtocolResponse_ok_iff chunked asking]

/-- The same bytes give two clients the same, unless they are a response whose
header comes to one of them in pieces. -/
theorem getServerProtocol_segments {S' R' : Type} [Socket S'] [Rng R'] {holds : S → Bytes → Prop}
    {holds' : S' → Bytes → Prop} (chunked : Chunked holds) (chunked' : Chunked holds')
    {key : String} {now : Int} {client : Connection S R} {client' : Connection S' R'}
    {request : ProtocolRequest} {bytes : Bytes} {stream : S} {stream' : S'}
    (answered : Answered holds key now client request bytes stream)
    (answered' : Answered holds' key now client' request bytes stream') :
    given (getServerProtocol key now client).1 = given (getServerProtocol key now client').1 ↔
      (firstRead stream 36 = 36 ↔ firstRead stream' 36 = 36) ∨
        ∀ protocol, ¬ Responds key request.salt bytes protocol := by
  have pieces := getServerProtocol_given chunked answered
  have pieces' := getServerProtocol_given chunked' answered'
  constructor
  · intro same
    rw [or_iff_not_imp_right]
    intro understood
    obtain ⟨protocol, responds⟩ := not_forall_not.mp understood
    have piece := pieces protocol
    rw [same, pieces'] at piece
    exact (and_congr_left_iff.mp piece.symm) responds
  · intro given
    refine Option.ext fun protocol => ?_
    rw [pieces, pieces']
    rcases given with fronts | nothing
    · rw [fronts]
    · exact iff_of_false (fun whole => nothing _ whole.2) (fun whole => nothing _ whole.2)

end Layers

def askOver (pieces : Segmented) : Outcome Error ProtocolConfig × Connection Segmented Unit :=
  @getServerProtocol Segmented Unit Aead.tagging Hashes.folding _ _ "key" 29999 ⟨pieces, (), []⟩

/-- `count` bytes are there at once, and the others a moment later. -/
def pausing (count : Nat) : Segmented :=
  ⟨sampleAnswer.take count, true, [[], sampleAnswer.drop count], []⟩

theorem getServerProtocol_differs :
    given (askOver (pausing 20)).1 ≠ given (askOver (.whole sampleAnswer)).1 := by
  decide +kernel

/-- A pause behind the header makes no difference. -/
theorem getServerProtocol_segments_sample :
    given (askOver (pausing 36)).1 = given (askOver (.whole sampleAnswer)).1 := by
  let _ := Aead.tagging
  let _ := Hashes.folding
  have front : firstRead (pausing 36) 36 = 36 := by decide +kernel
  have front' : firstRead (.whole sampleAnswer : Segmented) 36 = 36 := by decide +kernel
  have derived : (Kdf.argon2.deriveKeyFromTimestamp (utf8Bytes "key")
      ((29999 : Int).tdiv getProtocolMaxConnectDelay)).isOk = true := by decide +kernel
  cases found : Kdf.argon2.deriveKeyFromTimestamp (utf8Bytes "key")
      ((29999 : Int).tdiv getProtocolMaxConnectDelay) with
  | error message =>
      rw [found] at derived
      cases derived
  | ok headerKey =>
      let request := requestOf headerKey (requestDraws ())
      have answered : ∀ pieces : Segmented, Answered (fun stream unread => stream.unread = unread)
          "key" 29999 (⟨pieces, (), []⟩ : Connection Segmented Unit) request pieces.unread
          (pieces.write request.bytes) :=
        fun pieces => ⟨_, _, protocolRequest_ok found, rfl, rfl, rfl⟩
      have joined : (pausing 36).unread = sampleAnswer := by
        simp [pausing, Segmented.unread]
      have first := answered (pausing 36)
      rw [joined] at first
      have second := answered (.whole sampleAnswer)
      rw [Segmented.whole_unread] at second
      exact (getServerProtocol_segments segmented_chunked segmented_chunked first second).mpr
        (.inl (iff_of_true front front'))

end CovertConnect.Tunnel
