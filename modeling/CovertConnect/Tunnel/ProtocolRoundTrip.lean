import CovertConnect.Server.Responses
import CovertConnect.Tunnel.RoundTrip

namespace CovertConnect.Tunnel

open CovertConnect.Data CovertConnect.Data.Exec
open CovertConnect.Crypto CovertConnect.Crypto.Connection
open CovertConnect.Client CovertConnect.Server

/-! # A client is given the configuration of its server -/

theorem getBe_append {ε : Type} {width : Nat} {front : Bytes} (rest : Bytes)
    (sized : front.length = width) :
    (getBe width (front ++ rest) : Outcome ε (Nat × Bytes)) = .ok (beNat front, rest) := by
  have inside : width ≤ (front ++ rest).length := by
    rw [List.length_append]
    omega
  rw [getBe, if_pos inside, List.take_left' sized, List.drop_left' sized]

theorem getBe_u8 {ε : Type} (byte : UInt8) (rest : Bytes) :
    (getBe 1 (byte :: rest) : Outcome ε (Nat × Bytes)) = .ok (byte.toNat, rest) := by
  have value : beNat [byte] = byte.toNat := by simp [beNat, leNat]
  rw [← value]
  exact @getBe_append ε 1 [byte] rest rfl

theorem getBe_beBytes {ε : Type} {width value : Nat} (rest : Bytes) (small : value < 256 ^ width) :
    (getBe width (beBytes width value ++ rest) : Outcome ε (Nat × Bytes)) = .ok (value, rest) := by
  rw [getBe_append rest (beBytes_length _ _), beNat_beBytes_of_lt small]

theorem getBe_u16 {ε : Type} (value : UInt16) (rest : Bytes) :
    (getBe 2 (beBytes 2 value.toNat ++ rest) : Outcome ε (Nat × Bytes)) =
      .ok (value.toNat, rest) :=
  getBe_beBytes rest value.toNat_lt

theorem getBe_u64 {ε : Type} (value : UInt64) (rest : Bytes) :
    (getBe 8 (beBytes 8 value.toNat ++ rest) : Outcome ε (Nat × Bytes)) =
      .ok (value.toNat, rest) :=
  getBe_beBytes rest value.toNat_lt

theorem protocolFromPayload_payload (key : String) (protocol : ProtocolConfig) (rest : Bytes) :
    protocolFromPayload key (payload protocol ++ rest) = .ok { protocol with key } := by
  have layout : payload protocol ++ rest =
      protocol.kdf.toByte :: protocol.cipher.toByte ::
        (beBytes 2 protocol.maxConnectDelay.toNat ++
          (beBytes 2 protocol.headerPadding.start.toNat ++
            (beBytes 2 protocol.headerPadding.stop.toNat ++
              (beBytes 2 protocol.dataPadding.max.toNat ++
                (protocol.dataPadding.rate ::
                  (beBytes 8 protocol.encryptionLimit.toNat ++ rest)))))) := by
    simp [payload]
  rw [layout, protocolFromPayload]
  simp only [getBe_u8, getBe_u16, getBe_u64, Outcome.ok_bind, Outcome.pure_eq, UInt8.ofNat_toNat,
    UInt16.ofNat_toNat, UInt64.ofNat_toNat, Kdf.tryFrom_toByte, CipherType.tryFrom_toByte]

section Layers

variable [Aead]

theorem openLayers_sealed (correct : Aead.Correct) (cipherAes cipherCha : Cipher) (part : String)
    (plain : Bytes) :
    openLayers cipherAes cipherCha part
        (cipherCha.record (cipherAes.record plain).bytes).bytes =
      .ok (plain ++ Aead.sealTag cipherAes.kind cipherAes.key cipherAes.nonce plain) := by
  have outer : cipherCha.decrypt (cipherCha.record (cipherAes.record plain).bytes).bytes = _ :=
    Cipher.decrypt_sealRecord correct cipherCha (cipherAes.record plain).bytes
  have inner : cipherAes.decrypt (cipherAes.record plain).bytes = _ :=
    Cipher.decrypt_sealRecord correct cipherAes plain
  rw [openLayers, outer]
  dsimp only
  rw [Cipher.tagSize_eq, List.length_append, Aead.sealTag_length, Nat.add_sub_cancel,
    List.take_left, inner]

variable {S R R' : Type} [Hashes] [Socket S]

/-- The whole response is there when the client reads: all of its header at
once, and then the rest. -/
def Delivered (stream : S) (response : Bytes) (after : S) : Prop :=
  ∃ next, Socket.read stream 36 = (.ok (response.take 36), next) ∧
    Socket.readExact next (response.length - 36) = (.ok (response.drop 36), after)

theorem readProtocolResponse_ok (correct : Aead.Correct) {protocol : ProtocolConfig} {key : String}
    {salt : Bytes} {ciphers : Cipher × Cipher} {draws : ResponseDraws R'}
    {connection : Connection S R} {after : S}
    (derived : responseCiphers (utf8Bytes key) salt = .ok ciphers)
    (beginSmall : draws.beginSize < 65536) (endSmall : draws.endSize < 65536)
    (beginSized : draws.begin.length = draws.beginSize)
    (padded : draws.padding.length = draws.endSize)
    (delivered : Delivered connection.stream (responseOf protocol ciphers draws).bytes after) :
    readProtocolResponse key salt connection =
      (.ok { protocol with key }, { connection with stream := after }) := by
  obtain ⟨next, head, body⟩ := delivered
  let response := responseOf protocol ciphers draws
  have headerSize : response.headerCha.bytes.length = 36 := by
    simp [response, responseOf, Cipher.record]
  have bodySize : response.bytes.length - 36 =
      draws.beginSize + protocolPayloadLen + draws.endSize + 16 + 16 := by
    simp [response, responseOf, Response.bytes, Cipher.record, beginSized, padded, payload,
      protocolPayloadLen]
    omega
  have front : response.bytes.take 36 = response.headerCha.bytes := List.take_left' headerSize
  have back : response.bytes.drop 36 = response.bodyCha.bytes := List.drop_left' headerSize
  rw [front] at head
  rw [bodySize, back] at body
  have read : (io (Socket.read ·
      (2 + 2 + CipherType.aes256Gcm.tagSize + CipherType.aes256Gcm.tagSize)) :
        Exec (Connection S R) Error Bytes) connection =
      (.ok response.headerCha.bytes, { connection with stream := next }) :=
    io_ok head
  have readRest : (io (Socket.readExact · (draws.beginSize + protocolPayloadLen + draws.endSize +
      CipherType.aes256Gcm.tagSize + CipherType.aes256Gcm.tagSize)) :
        Exec (Connection S R) Error Bytes) { connection with stream := next } =
      (.ok response.bodyCha.bytes, { connection with stream := after }) :=
    io_ok body
  have whole : ¬ response.headerCha.bytes.length ≠
      2 + 2 + CipherType.aes256Gcm.tagSize + CipherType.aes256Gcm.tagSize :=
    fun short => short headerSize
  -- what is left of the layers, and of the fields behind each other
  have header : openLayers ciphers.1 ciphers.2 "header" response.headerCha.bytes =
      .ok (beBytes 2 draws.beginSize ++ beBytes 2 draws.endSize ++ _) :=
    openLayers_sealed correct _ _ _ _
  have data : openLayers (ciphers.1.incNonce 1) (ciphers.2.incNonce 1) "data"
      response.bodyCha.bytes = .ok (draws.begin ++ (payload protocol ++ draws.padding) ++ _) :=
    openLayers_sealed correct _ _ _ _
  have beginValue : beNat (beBytes 2 draws.beginSize) = draws.beginSize :=
    beNat_beBytes_of_lt beginSmall
  have endValue : beNat (beBytes 2 draws.endSize) = draws.endSize :=
    beNat_beBytes_of_lt endSmall
  rw [readProtocolResponse]
  dsimp only
  rw [bind_ok read, if_neg whole, derived, lift_ok_bind, header, lift_ok_bind, List.append_assoc,
    Outcome.splitTo_append (beBytes_length _ _), lift_ok_bind]
  dsimp only
  rw [Outcome.splitTo_append (beBytes_length _ _), lift_ok_bind]
  dsimp only
  rw [beginValue, endValue, bind_ok readRest, data, lift_ok_bind, List.append_assoc,
    Outcome.splitTo_append beginSized, lift_ok_bind]
  dsimp only
  rw [List.append_assoc, protocolFromPayload_payload]
  rfl

omit [Socket S] in
/-- The header of a request opens in its bucket and in the next one. -/
theorem specialHeader_sent (correct : Aead.Correct) {cfg : AppConfig} {draws : Draws R'}
    {headerKey data : Bytes} {serverTime timestamp : Int} (salted : draws.salt.length = 32)
    (small : draws.paddingSize < 65536)
    (bucket : timestamp = serverTime.tdiv getProtocolMaxConnectDelay ∨
      timestamp = serverTime.tdiv getProtocolMaxConnectDelay - 1)
    (derived : Kdf.argon2.deriveKeyFromTimestamp (utf8Bytes cfg.protocol.key) timestamp =
      .ok headerKey)
    (wrong : ∀ other, Kdf.argon2.deriveKeyFromTimestamp (utf8Bytes cfg.protocol.key)
      (serverTime.tdiv getProtocolMaxConnectDelay) = .ok other →
        (requestOuter headerKey draws).FailsUnder other)
    (arrived : data.take 78 = (requestOf headerKey draws).bytes.take 78) :
    specialHeader cfg serverTime data = .ok ⟨draws.salt, draws.paddingSize⟩ := by
  have innerSize : (requestInner headerKey draws).bytes.length = 50 := by
    rw [SealRecord.bytes_length, requestInner, List.length_append, salted, beBytes_length]
  have headerSize : (draws.nonce.bytes ++ (requestOuter headerKey draws).bytes).length = 78 := by
    rw [List.length_append, SealRecord.bytes_length, requestOuter, innerSize, draws.nonce.length_eq]
  have fixed : data.take 78 = draws.nonce.bytes ++ (requestOuter headerKey draws).bytes := by
    rw [arrived, requestOf, List.take_left' headerSize]
  obtain ⟨nonceCut, headerCut⟩ := front_cut draws.nonce.length_eq fixed
  have opened : openHeader .aes256Gcm .argon2 (utf8Bytes cfg.protocol.key)
      (serverTime.tdiv getProtocolMaxConnectDelay) draws.nonce.bytes
      (requestOuter headerKey draws).bytes =
        .ok (some (⟨.aes256Gcm, headerKey, draws.nonce, [], 0⟩, (requestInner headerKey draws).bytes ++
          Aead.sealTag .aes256Gcm headerKey draws.nonce (requestInner headerKey draws).bytes)) :=
    openHeader_sealed correct bucket derived wrong
  have inner : Aead.openRecord .chaCha20Poly1305 headerKey draws.nonce
      (requestInner headerKey draws).bytes = some (draws.salt ++ beBytes 2 draws.paddingSize) :=
    Aead.openRecord_sealRecord correct _ _ _ _
  have layers := openSpecialHeader_inner opened (Kdf.deriveKeyFromTimestamp_length derived) rfl
    innerSize (Aead.sealTag_length _ _ _ _)
  dsimp only at layers
  rw [inner] at layers
  dsimp only at layers
  rw [specialHeader, nonceCut, headerCut, layers, List.take_left' salted, List.drop_left' salted,
    beNat_beBytes_of_lt small]

/-- A request that is all there is answered. -/
theorem answerSpecialRequest_ok {holds : S → Bytes → Prop} [Rng R] (buffered : Buffered holds)
    {cfg : AppConfig} {data unread rest : Bytes} {readed : Nat} {header : SpecialHeader}
    {connection : Connection S R} (waiting : holds connection.stream (unread ++ rest))
    (sized : readed + unread.length = 78 + header.padding) :
    ∃ stream, answerSpecialRequest cfg data readed header connection =
        (specialResponse cfg.protocol header.salt >>= fun response =>
          io (Socket.writeAll · response) >>= fun _ => io Socket.flush)
          { connection with stream } ∧
      holds stream rest := by
  have headerLen : specialHeaderLen = 78 := rfl
  have inside : readed ≤ (resize data (specialHeaderLen + header.padding)).length := by
    rw [resize_length]
    omega
  have missing : unread.length =
      (resize data (specialHeaderLen + header.padding)).length - readed := by
    rw [resize_length]
    omega
  obtain ⟨stream, read, left⟩ := buffered.tryReadRest waiting inside missing
  have whole : ¬ readed + unread.length ≠ specialHeaderLen + header.padding := by omega
  refine ⟨stream, ?_, left⟩
  rw [answerSpecialRequest, bind_ok read, if_neg whole]

omit [Aead] [Socket S] in
theorem responseCiphers_total {key headerKey salt : Bytes} {timestamp : Int}
    (derived : Kdf.argon2.deriveKeyFromTimestamp key timestamp = .ok headerKey)
    (salted : salt.length = 32) : ∃ ciphers, responseCiphers key salt = .ok ciphers := by
  obtain ⟨responseKey, response⟩ : ∃ responseKey,
      Kdf.argon2.deriveProtocolResponseKey key salt = .ok responseKey :=
    Kdf.deriveKey2_total derived salted (by decide)
  exact ⟨_, responseCiphers_ok salted response⟩

/-- The server authenticates the request of a client with its key and answers
it, and a client that the answer reaches is given the server's
configuration. -/
theorem getServerProtocol_round_trip {S' : Type} {holds : S → Bytes → Prop} [Socket S'] [Rng R]
    [Rng R'] (correct : Aead.Correct) (buffered : Buffered holds) {cfg : AppConfig}
    {clientTime serverTime : Int} {client requested : Connection S' R'}
    {request : ProtocolRequest} {data : Bytes} {readed : Nat}
    (bucket : serverTime.tdiv getProtocolMaxConnectDelay -
      clientTime.tdiv getProtocolMaxConnectDelay ∈ [0, 1])
    (built : protocolRequest cfg.protocol.key clientTime client = (.ok request, requested))
    (wrong : ∀ record, .sealed record ∈ requested.history → ∀ other,
      Kdf.argon2.deriveKeyFromTimestamp (utf8Bytes cfg.protocol.key)
        (serverTime.tdiv getProtocolMaxConnectDelay) = .ok other → record.FailsUnder other)
    (long : 78 ≤ readed) (inside : readed ≤ data.length)
    (received : data.take readed = request.bytes.take readed) :
    specialHeader cfg serverTime data = .ok ⟨request.salt, request.paddingSize⟩ ∧
    ∀ (server : Connection S R) (rest : Bytes),
      trySpecialRequest cfg serverTime data readed server =
        answerSpecialRequest cfg (data.drop 78) readed ⟨request.salt, request.paddingSize⟩ server ∧
      (holds server.stream (request.bytes.drop readed ++ rest) →
        ∃ stream response answered, holds stream rest ∧
          specialResponse cfg.protocol request.salt { server with stream } =
            (.ok response, answered) ∧
          trySpecialRequest cfg serverTime data readed server =
            (io (Socket.writeAll · response) >>= fun _ => io Socket.flush) answered ∧
          ∀ sent flushed after, Socket.writeAll requested.stream request.bytes = (.ok (), sent) →
            Socket.flush sent = (.ok (), flushed) → Delivered flushed response after →
            getServerProtocol cfg.protocol.key clientTime client =
              (.ok cfg.protocol, { requested with stream := after })) := by
  obtain ⟨headerKey, derived, rfl, history⟩ := protocolRequest_inv built
  let draws := requestDraws client.rng
  have salted : draws.salt.length = 32 := Draws.salt_length
  have small : draws.paddingSize < 65536 :=
    (Draws.paddingSize_bounds (by decide)).2.trans (by decide)
  have recorded : .sealed (requestOuter headerKey draws) ∈ requested.history := by
    simp [history, draws]
  have bucket := bucket_cases bucket
  have arrived : data.take 78 = (requestOf headerKey draws).bytes.take 78 := by
    have fronts := congrArg (List.take 78) received
    rwa [List.take_take, List.take_take, Nat.min_eq_left long] at fronts
  have authenticated := specialHeader_sent correct salted small bucket derived (wrong _ recorded) arrived
  refine ⟨authenticated, fun server rest => ?_⟩
  have answering : trySpecialRequest cfg serverTime data readed server =
      answerSpecialRequest cfg (data.drop 78) readed ⟨draws.salt, draws.paddingSize⟩ server := by
    rw [trySpecialRequest_long long inside, authenticated, lift_ok_bind]
  refine ⟨answering, fun waiting => ?_⟩
  have size : (requestOf headerKey draws).bytes.length = 78 + draws.paddingSize := by
    have padded : draws.padding.length = draws.paddingSize := Draws.padding_length
    rw [requestOf, List.length_append, List.length_append, SealRecord.bytes_length, requestOuter,
      SealRecord.bytes_length, requestInner, List.length_append, salted, beBytes_length,
      draws.nonce.length_eq, padded]
  have short : readed ≤ (requestOf headerKey draws).bytes.length := by
    have taken : data.take readed = (requestOf headerKey draws).bytes.take readed := received
    have lengths := congrArg List.length taken
    rw [List.length_take, List.length_take, Nat.min_eq_left inside] at lengths
    omega
  have sized : readed + ((requestOf headerKey draws).bytes.drop readed).length =
      78 + draws.paddingSize := by
    rw [List.length_drop]
    omega
  obtain ⟨stream, answered, left⟩ : ∃ stream, answerSpecialRequest cfg (data.drop 78) readed
      ⟨draws.salt, draws.paddingSize⟩ server =
        (specialResponse cfg.protocol draws.salt >>= fun response =>
          io (Socket.writeAll · response) >>= fun _ => io Socket.flush) { server with stream } ∧
      holds stream rest := answerSpecialRequest_ok buffered waiting sized
  obtain ⟨ciphers, both⟩ := responseCiphers_total derived salted
  have response : specialResponse cfg.protocol draws.salt { server with stream } = (.ok _, _) :=
    specialResponse_ok both
  refine ⟨stream, _, _, left, response, ?_, ?_⟩
  · rw [answering, answered, bind_ok response]
  · intro sent flushed after wrote flush delivered
    have opened : readProtocolResponse cfg.protocol.key draws.salt
        { requested with stream := flushed } =
          (.ok cfg.protocol, { requested with stream := after }) :=
      readProtocolResponse_ok correct both
        (ResponseDraws.beginSize_lt.trans (by decide)) (ResponseDraws.endSize_lt.trans (by decide))
        ResponseDraws.begin_length ResponseDraws.padding_length delivered
    rw [getServerProtocol, bind_ok built, bind_ok (io_ok wrote), bind_ok (io_ok flush)]
    exact opened

end Layers

def answerWith (stream : Loaded) : Outcome Error Bytes × Connection Loaded Unit :=
  @specialResponse Loaded Unit _ Aead.tagging Hashes.folding (sampleConfig ⟨200, 300⟩).protocol
    (List.replicate 32 0) ⟨stream, (), []⟩

def sampleAnswer : Bytes :=
  match answerWith ⟨[], []⟩ with
  | (.ok response, _) => response
  | _ => []

/-- What is answered does not depend on the socket. -/
theorem answerWith_eq (stream : Loaded) : (answerWith stream).1 = .ok sampleAnswer := by
  let _ := Aead.tagging
  let _ := Hashes.folding
  have derived : (responseCiphers (utf8Bytes "key") (List.replicate 32 0)).isOk = true := by
    decide +kernel
  cases both : responseCiphers (utf8Bytes "key") (List.replicate 32 0) with
  | ok ciphers =>
      have answered : ∀ stream : Loaded, answerWith stream = (.ok _, _) :=
        fun stream => specialResponse_ok both
      rw [sampleAnswer, answered, answered]
  | err error =>
      rw [both] at derived
      cases derived
  | panic reason =>
      rw [both] at derived
      cases derived

def lateClient : Connection Loaded Unit := ⟨⟨sampleAnswer, []⟩, (), []⟩

def lateRequest : Outcome Error ProtocolRequest × Connection Loaded Unit :=
  @protocolRequest Loaded Unit Aead.tagging Hashes.folding _ "key" 29999 lateClient

theorem loaded_delivered (stream : Loaded) :
    Delivered stream stream.incoming { stream with incoming := [] } := by
  refine ⟨{ stream with incoming := stream.incoming.drop 36 }, rfl, ?_⟩
  have all : (stream.incoming.drop 36).length = stream.incoming.length - 36 := List.length_drop
  change Loaded.readExact _ _ = _
  rw [Loaded.readExact, if_pos (Nat.le_of_eq all.symm), Loaded.read, ← all, List.take_length,
    List.drop_length]

theorem getServerProtocol_sample : ∃ request after, lateRequest.1 = .ok request ∧
    @specialHeader Aead.tagging Hashes.folding (sampleConfig ⟨200, 300⟩) 30000
      (request.bytes.take 100) = .ok ⟨request.salt, request.paddingSize⟩ ∧
    @getServerProtocol Loaded Unit Aead.tagging Hashes.folding _ _ "key" 29999 lateClient =
      (.ok (sampleConfig ⟨200, 300⟩).protocol, after) := by
  let _ := Aead.tagging
  let _ := Hashes.folding
  have closed : closedTo .argon2 "key" 1 lateRequest.2.history = true := by decide +kernel
  have drawn : lateRequest.1.isOkAnd (fun request => decide (request.salt = List.replicate 32 0 ∧
      100 ≤ request.bytes.length ∧ lateRequest.2.stream = lateClient.stream)) = true := by
    decide +kernel
  rcases run : lateRequest with ⟨request | error | reason, requested⟩
  · rw [run] at closed drawn
    obtain ⟨salted, long, kept⟩ := of_decide_eq_true drawn
    let cfg := sampleConfig ⟨200, 300⟩
    let server : Connection Loaded Unit := ⟨⟨request.bytes.drop 100 ++ [], []⟩, (), []⟩
    have bucket : (30000 : Int).tdiv getProtocolMaxConnectDelay -
        (29999 : Int).tdiv getProtocolMaxConnectDelay ∈ [0, 1] := by decide
    have second : (30000 : Int).tdiv getProtocolMaxConnectDelay = 1 := by decide
    have wrong : ∀ record, .sealed record ∈ requested.history → ∀ other,
        Kdf.argon2.deriveKeyFromTimestamp (utf8Bytes cfg.protocol.key)
          ((30000 : Int).tdiv getProtocolMaxConnectDelay) = .ok other → record.FailsUnder other :=
      fun _ recorded _ derived => closedTo_failsUnder closed recorded (second ▸ derived)
    have built : protocolRequest cfg.protocol.key 29999 lateClient = (.ok request, requested) := run
    have waiting : server.stream.incoming = request.bytes.drop 100 ++ [] := rfl
    have inside : 100 ≤ (request.bytes.take 100).length := by
      rw [List.length_take]
      omega
    have received : (request.bytes.take 100).take 100 = request.bytes.take 100 := by
      rw [List.take_take, Nat.min_self]
    obtain ⟨opened, answers⟩ := getServerProtocol_round_trip (R := Unit) Aead.tagging_correct
      loaded_buffered bucket built wrong (by decide) inside received
    obtain ⟨stream, response, answered, _, written, _, given⟩ := (answers server []).2 waiting
    rw [salted] at written
    have same : response = sampleAnswer := by
      have outcome := answerWith_eq stream
      rw [show answerWith stream = (.ok response, answered) from written] at outcome
      exact Outcome.ok.inj outcome
    have incoming : (requested.stream.write request.bytes).incoming = response := by
      rw [kept, same]
      rfl
    have delivered := loaded_delivered (requested.stream.write request.bytes)
    rw [incoming] at delivered
    exact ⟨request, _, rfl, opened, given _ _ _ rfl rfl delivered⟩
  all_goals
    rw [run] at drawn
    cases drawn

end CovertConnect.Tunnel
