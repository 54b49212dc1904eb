import CovertConnect.Data.Segments
import CovertConnect.Tunnel.ProtocolRoundTrip
import CovertConnect.Tunnel.Segments

namespace CovertConnect.Tunnel

open CovertConnect.Data CovertConnect.Data.Exec
open CovertConnect.Crypto CovertConnect.Crypto.Connection
open CovertConnect.Client CovertConnect.Server

/-! # A genuine request in the socket

The server takes it for the front of a tunnel header first.  What is left of it
behind that front is taken without waiting, which works only while the socket
is known to be readable. -/

/-- `unread` is there, and known to be. -/
def known (sent : Bytes) (stream : Segmented) (unread : Bytes) : Prop :=
  stream = ⟨unread, true, [], sent⟩

theorem known_buffered (sent : Bytes) : Buffered (known sent) where
  read := by
    intro stream unread room same inside
    subst same
    refine ⟨⟨unread.drop room, true, [], sent⟩, ?_, rfl⟩
    have taken := Segmented.read_there unread sent room
    rwa [decide_eq_true inside] at taken
  tryRead := by
    intro stream unread room same inside
    subst same
    exact ⟨_, Segmented.tryRead_there sent inside, rfl⟩

section Requests

variable [Aead] [Hashes] {R R' S' : Type} [Rng R] [Rng R']

/-- Nothing opens of a request but what its client has sealed: not its front
under the keys of tunnel headers, and not its header under the key of another
bucket. -/
structure Authentic (cfg : AppConfig) (serverTime : Int) (request : Bytes)
    (history : List ConnectionEvent) : Prop where
  tunnel : ∀ timestamp headerKey,
    (timestamp = serverTime.tdiv cfg.protocol.maxConnectDelay.toNat ∨
      timestamp = serverTime.tdiv cfg.protocol.maxConnectDelay.toNat - 1) →
    cfg.protocol.kdf.deriveKeyFromTimestamp (utf8Bytes cfg.protocol.key) timestamp = .ok headerKey →
    ∀ nonce : Nonce, nonce.bytes = request.take 12 → ∀ plain,
      Aead.openRecord cfg.protocol.cipher headerKey nonce ((request.take 63).drop 12) = some plain →
        .sealed ⟨cfg.protocol.cipher, headerKey, nonce, plain⟩ ∈ history
  special : ∀ record, .sealed record ∈ history → ∀ other,
    Kdf.argon2.deriveKeyFromTimestamp (utf8Bytes cfg.protocol.key)
      (serverTime.tdiv getProtocolMaxConnectDelay) = .ok other → record.FailsUnder other

/-- The server writes the response to a salt, and the call returns. -/
def AnswersWith (cfg : AppConfig) (salt sent : Bytes) (ready : Connection Segmented R)
    (run : Outcome Error (Option (Tunnel Segmented R)) × Connection Segmented R) : Prop :=
  ∃ (stream : Segmented) (response : Bytes) (answered after : Connection Segmented R),
    specialResponse cfg.protocol salt { ready with stream } = (.ok response, answered) ∧
      run = (.ok none, after) ∧ after.stream.outgoing = sent ++ response

omit [Hashes] [Rng R] in
theorem request_sizes (headerKey : Bytes) (rng : R') :
    (requestInner headerKey (requestDraws rng)).plain.length = 34 ∧
      (requestOuter headerKey (requestDraws rng)).plain.length = 50 ∧
      (requestOf headerKey (requestDraws rng)).bytes.length = 78 + (requestDraws rng).paddingSize := by
  have salted : (requestDraws rng).salt.length = 32 := Draws.salt_length
  have padded : (requestDraws rng).padding.length = (requestDraws rng).paddingSize :=
    Draws.padding_length
  have inner : (requestInner headerKey (requestDraws rng)).plain.length = 34 := by
    rw [requestInner, List.length_append, salted, beBytes_length]
  have outer : (requestOuter headerKey (requestDraws rng)).plain.length = 50 := by
    rw [requestOuter, SealRecord.bytes_length, inner]
  refine ⟨inner, outer, ?_⟩
  rw [requestOf, List.length_append, List.length_append, SealRecord.bytes_length, outer,
    (requestDraws rng).nonce.length_eq, padded]

omit [Rng R] in
theorem request_length {key : String} {now : Int} {client requested : Connection S' R'}
    {request : ProtocolRequest} (built : protocolRequest key now client = (.ok request, requested)) :
    request.bytes.length = 78 + request.paddingSize := by
  obtain ⟨headerKey, _, rfl, _⟩ := protocolRequest_inv built
  exact (request_sizes headerKey client.rng).2.2

/-- A genuine request is no tunnel header: what is sealed in it has other
lengths. -/
theorem tunnelHeader_request {cfg : AppConfig} {serverTime clientTime : Int}
    {client requested : Connection S' R'} {request : ProtocolRequest} (fresh : client.history = [])
    (built : protocolRequest cfg.protocol.key clientTime client = (.ok request, requested))
    (authentic : Authentic cfg serverTime request.bytes requested.history) :
    tunnelHeader cfg serverTime request.bytes = .ok none := by
  obtain ⟨headerKey, derived, rfl, history⟩ := protocolRequest_inv built
  obtain ⟨inner, outer, size⟩ := request_sizes headerKey client.rng
  have nonceSize : ((requestOf headerKey (requestDraws client.rng)).bytes.take 12).length = 12 := by
    rw [List.length_take]
    omega
  refine openTunnelHeader_closed (openHeader_closed nonceSize
    (Kdf.deriveKeyFromTimestamp_both derived _) ?_)
  intro timestamp other bucket otherDerived nonce nonceEq
  by_contra opens
  obtain ⟨plain, opens⟩ := Option.ne_none_iff_exists'.mp opens
  have plainSize := Aead.openRecord_length opens
  rw [List.length_drop, List.length_take] at plainSize
  have sealed := authentic.tunnel timestamp other bucket otherDerived nonce nonceEq plain opens
  rw [history, fresh] at sealed
  simp only [List.nil_append, List.cons_append, List.mem_cons, List.not_mem_nil, or_false,
    ConnectionEvent.sealed.injEq] at sealed
  rcases sealed with same | same
  · rw [← same] at inner
    dsimp only at inner
    omega
  · rw [← same] at outer
    dsimp only at outer
    omega

/-- What the server makes of a request once it is no tunnel header: it has read
`readed` bytes of it, and the others are there. -/
theorem trySpecialRequest_genuine (correct : Aead.Correct) {cfg : AppConfig}
    {serverTime clientTime : Int} {client requested : Connection S' R'} {request : ProtocolRequest}
    (bucket : serverTime.tdiv getProtocolMaxConnectDelay -
      clientTime.tdiv getProtocolMaxConnectDelay ∈ [0, 1])
    (built : protocolRequest cfg.protocol.key clientTime client = (.ok request, requested))
    (authentic : Authentic cfg serverTime request.bytes requested.history) {data : Bytes}
    {readed : Nat} (long : 78 ≤ readed) (inside : readed ≤ data.length)
    (received : data.take 78 = request.bytes.take 78) :
    (trySpecialRequest cfg serverTime data readed : Exec (Connection Segmented R) Error Unit) =
      answerSpecialRequest cfg (data.drop 78) readed ⟨request.salt, request.paddingSize⟩ := by
  obtain ⟨headerKey, derived, rfl, history⟩ := protocolRequest_inv built
  have recorded : .sealed (requestOuter headerKey (requestDraws client.rng)) ∈ requested.history := by
    simp [history]
  have authenticated : specialHeader cfg serverTime data =
      .ok ⟨(requestDraws client.rng).salt, (requestDraws client.rng).paddingSize⟩ :=
    specialHeader_sent correct Draws.salt_length
      ((Draws.paddingSize_bounds (by decide)).2.trans (by decide)) (bucket_cases bucket) derived
      (authentic.special _ recorded) received
  rw [trySpecialRequest_long long inside, authenticated, lift_ok_bind]
  rfl

/-- A request that the first read took as a whole has drained the socket. -/
theorem trySpecialRequest_drained (correct : Aead.Correct) {cfg : AppConfig}
    {serverTime clientTime : Int} {client requested : Connection S' R'} {request : ProtocolRequest}
    (bucket : serverTime.tdiv getProtocolMaxConnectDelay -
      clientTime.tdiv getProtocolMaxConnectDelay ∈ [0, 1])
    (built : protocolRequest cfg.protocol.key clientTime client = (.ok request, requested))
    (authentic : Authentic cfg serverTime request.bytes requested.history) {size : Nat}
    (short : request.bytes.length < size) (sent : Bytes) (rng : R) (history : List ConnectionEvent) :
    trySpecialRequest cfg serverTime (resize request.bytes size) request.bytes.length
        (⟨⟨[], false, [], sent⟩, rng, history⟩ : Connection Segmented R) =
      (.err (.io .wouldBlock), ⟨⟨[], false, [], sent⟩, rng, history⟩) := by
  have headerLen : specialHeaderLen = 78 := rfl
  have whole := request_length built
  have grown : (resize request.bytes size).take 78 = request.bytes.take 78 := by
    rw [resize_grow (by omega), List.take_append_of_le_length (by omega)]
  have nothing : (tryReadRest (resize ((resize request.bytes size).drop 78)
      (specialHeaderLen + request.paddingSize)) request.bytes.length :
        Exec (Connection Segmented R) Error Bytes) ⟨⟨[], false, [], sent⟩, rng, history⟩ =
      (.err (.io .wouldBlock), ⟨⟨[], false, [], sent⟩, rng, history⟩) := by
    rw [tryReadRest, if_pos (by rw [resize_length]; omega), io]
    dsimp only
    rw [show Socket.tryRead (⟨[], false, [], sent⟩ : Segmented) _ = _ from
      Segmented.tryRead_drained sent _]
  rw [trySpecialRequest_genuine correct bucket built authentic (by omega)
    (by rw [resize_length]; omega) grown, answerSpecialRequest, bind_err nothing]

/-- A request whose front was read, with the others behind it in the socket. -/
theorem trySpecialRequest_there (correct : Aead.Correct) {cfg : AppConfig}
    {serverTime clientTime : Int} {client requested : Connection S' R'} {request : ProtocolRequest}
    (bucket : serverTime.tdiv getProtocolMaxConnectDelay -
      clientTime.tdiv getProtocolMaxConnectDelay ∈ [0, 1])
    (built : protocolRequest cfg.protocol.key clientTime client = (.ok request, requested))
    (authentic : Authentic cfg serverTime request.bytes requested.history) {size : Nat}
    (long : 78 ≤ size) (inside : size ≤ request.bytes.length) (sent : Bytes) (rng : R)
    (history : List ConnectionEvent) :
    ∃ (stream : Segmented) (response : Bytes) (drawn after : Connection Segmented R),
      specialResponse cfg.protocol request.salt ⟨stream, rng, history⟩ = (.ok response, drawn) ∧
        trySpecialRequest cfg serverTime (request.bytes.take size) size
          (⟨⟨request.bytes.drop size, true, [], sent⟩, rng, history⟩ : Connection Segmented R) =
            (.ok (), after) ∧
        after.stream.outgoing = sent ++ response := by
  have whole := request_length built
  have frontSize : (request.bytes.take size).length = size := List.length_take_of_le inside
  have received : (request.bytes.take size).take 78 = request.bytes.take 78 := by
    rw [List.take_take, Nat.min_eq_left long]
  let behind : Connection Segmented R := ⟨⟨request.bytes.drop size, true, [], sent⟩, rng, history⟩
  have waiting : known sent behind.stream (request.bytes.drop size ++ []) := by
    rw [List.append_nil]
    rfl
  have sized : size + (request.bytes.drop size).length = 78 + request.paddingSize := by
    rw [List.length_drop]
    omega
  obtain ⟨stream, answered, left⟩ : ∃ stream, answerSpecialRequest cfg
      ((request.bytes.take size).drop 78) size ⟨request.salt, request.paddingSize⟩ behind =
        (specialResponse cfg.protocol request.salt >>= fun response =>
          io (Socket.writeAll · response) >>= fun _ => io Socket.flush)
          ⟨stream, rng, history⟩ ∧ known sent stream [] :=
    answerSpecialRequest_ok (known_buffered sent) waiting sized
  obtain ⟨ciphers, both⟩ : ∃ ciphers,
      responseCiphers (utf8Bytes cfg.protocol.key) request.salt = .ok ciphers := by
    obtain ⟨headerKey, derived, rfl, _⟩ := protocolRequest_inv built
    have salted : (requestDraws client.rng).salt.length = 32 := Draws.salt_length
    exact responseCiphers_total derived salted
  obtain ⟨response, drawn, responded, same⟩ : ∃ (response : Bytes) (drawn : Connection Segmented R),
      specialResponse cfg.protocol request.salt ⟨stream, rng, history⟩ = (.ok response, drawn) ∧
        drawn.stream = stream := ⟨_, _, specialResponse_ok both, rfl⟩
  have run : trySpecialRequest cfg serverTime (request.bytes.take size) size behind =
      (.ok (), { drawn with stream := drawn.stream.write response }) := by
    rw [trySpecialRequest_genuine correct bucket built authentic long (Nat.le_of_eq frontSize.symm)
      received, answered, bind_ok responded]
    rfl
  refine ⟨stream, response, drawn, _, responded, run, ?_⟩
  change drawn.stream.outgoing ++ response = sent ++ response
  rw [same, left]

/-- A genuine request that is all there is answered where it is at least as
long as the header that the server reads first. -/
theorem startTunnel_answers_request (correct : Aead.Correct) {cfg : AppConfig} (valid : cfg.Valid)
    {serverTime clientTime : Int} {client requested : Connection S' R'} {request : ProtocolRequest}
    (fresh : client.history = [])
    (bucket : serverTime.tdiv getProtocolMaxConnectDelay -
      clientTime.tdiv getProtocolMaxConnectDelay ∈ [0, 1])
    (built : protocolRequest cfg.protocol.key clientTime client = (.ok request, requested))
    (authentic : Authentic cfg serverTime request.bytes requested.history)
    (lookup : String → Except IoError (List SocketAddr)) (socketAddr : SocketAddr)
    (urlPath : String) (upgradeSupport : Bool) {connection ready : Connection Segmented R}
    {sent : Bytes}
    (upgraded : acceptUpgrade socketAddr cfg urlPath upgradeSupport connection = (.ok (), ready))
    (there : known sent ready.stream request.bytes) :
    AnswersWith cfg request.salt sent ready
        (startTunnel lookup socketAddr serverTime cfg urlPath upgradeSupport connection) ↔
      83 + cfg.protocol.headerPadding.start.toNat ≤ 78 + request.paddingSize := by
  have noHeader := tunnelHeader_request fresh built authentic
  have size := request_length built
  have least := minHeaderLen_eq cfg.protocol
  have started : startTunnel lookup socketAddr serverTime cfg urlPath upgradeSupport connection =
      (io (Socket.read · (minHeaderLen cfg.protocol)) >>= afterRead lookup serverTime cfg) ready := by
    rw [startTunnel, bind_ok upgraded, readHeader_eq]
  obtain ⟨stream, rng, history⟩ := ready
  have there : stream = ⟨request.bytes, true, [], sent⟩ := there
  subst there
  rw [started]
  have read := Segmented.read_there request.bytes sent (minHeaderLen cfg.protocol)
  by_cases short : request.bytes.length < minHeaderLen cfg.protocol
  · refine iff_of_false ?_ (by omega)
    intro answers
    obtain ⟨_, _, _, after, _, run, _⟩ := answers
    rw [List.take_of_length_le (Nat.le_of_lt short), List.drop_eq_nil_of_le (Nat.le_of_lt short),
      decide_eq_false (Nat.not_le_of_lt short)] at read
    have reading : (io (Socket.read · (minHeaderLen cfg.protocol)) :
        Exec (Connection Segmented R) Error Bytes) ⟨⟨request.bytes, true, [], sent⟩, rng, history⟩ =
          (.ok request.bytes, ⟨⟨[], false, [], sent⟩, rng, history⟩) := io_ok read
    have attempted : attempt (trySpecialRequest cfg serverTime
        (resize request.bytes (minHeaderLen cfg.protocol)) request.bytes.length)
          (⟨⟨[], false, [], sent⟩, rng, history⟩ : Connection Segmented R) =
        (.ok (.error (.io .wouldBlock)), ⟨⟨[], false, [], sent⟩, rng, history⟩) := by
      rw [attempt_apply, trySpecialRequest_drained correct bucket built authentic short]
    rw [bind_ok reading, afterRead, if_pos short, otherwise, bind_ok attempted] at run
    exact refuse_not_ok run
  · have inside := Nat.le_of_not_lt short
    refine iff_of_true ?_ (by omega)
    rw [decide_eq_true inside] at read
    let front := request.bytes.take (minHeaderLen cfg.protocol)
    have frontSize : front.length = minHeaderLen cfg.protocol := List.length_take_of_le inside
    have reading : (io (Socket.read · (minHeaderLen cfg.protocol)) :
        Exec (Connection Segmented R) Error Bytes) ⟨⟨request.bytes, true, [], sent⟩, rng, history⟩ =
          (.ok front, ⟨⟨request.bytes.drop (minHeaderLen cfg.protocol), true, [], sent⟩, rng,
            history⟩) := io_ok read
    have opening : openTunnelHeader cfg.protocol
        (serverTime.tdiv cfg.protocol.maxConnectDelay.toNat) (front.take 12)
        ((front.take 63).drop 12) = .ok none :=
      (tunnelHeader_take request.bytes (by omega)).trans noHeader
    obtain ⟨stream, response, drawn, after, responded, done, written⟩ :=
      trySpecialRequest_there correct bucket built authentic (by omega) inside sent rng history
    have attempted : attempt (trySpecialRequest cfg serverTime front front.length)
        ⟨⟨request.bytes.drop (minHeaderLen cfg.protocol), true, [], sent⟩, rng, history⟩ =
          (.ok (.ok ()), after) := by
      rw [attempt_apply, frontSize, done]
    refine ⟨stream, response, drawn, after, responded, ?_, written⟩
    rw [bind_ok reading, afterRead, if_neg (by omega), divide_pos valid.delay, pure_bind, opening,
      lift_ok_bind]
    dsimp only
    rw [otherwise, bind_ok attempted]
    rfl

end Requests

/-- The request comes to a server with this range of paddings. -/
def serveRequest (headerPadding : PaddingRange) (request : Bytes) :
    Outcome Error (Option (Tunnel Segmented Unit)) × Connection Segmented Unit :=
  @startTunnel Segmented Unit _ _ Aead.tagging Hashes.folding (fun _ => .ok []) peer 30000
    (sampleConfig headerPadding) "" false ⟨.whole request, (), []⟩

def lateRequestBytes : Bytes :=
  match lateRequest with
  | (.ok request, _) => request.bytes
  | _ => []

/-- The front of the request opens under no key of a tunnel header. -/
def frontCloses (timestamp : Int) (request : Bytes) : Bool :=
  match @Kdf.deriveKeyFromTimestamp Hashes.folding .blake3 (utf8Bytes "key") timestamp with
  | .error _ => true
  | .ok headerKey => @Aead.openRecord Aead.tagging .aes256Gcm headerKey .zero
      ((request.take 63).drop 12) == none

theorem startTunnel_answers_sample : ∃ request requested, lateRequest = (.ok request, requested) ∧
    @AnswersWith Aead.tagging Hashes.folding Unit _ (sampleConfig ⟨1, 2⟩) request.salt []
      ⟨.whole request.bytes, (), []⟩ (serveRequest ⟨1, 2⟩ request.bytes) := by
  let _ := Aead.tagging
  let _ := Hashes.folding
  have closed : closedTo .argon2 "key" 1 lateRequest.2.history = true := by decide +kernel
  have drawn : (match lateRequest with
      | (.ok request, _) => decide (request.bytes.take 12 = List.replicate 12 0 ∧
          request.paddingSize = 177) && frontCloses 3 request.bytes && frontCloses 2 request.bytes
      | _ => false) = true := by decide +kernel
  rcases run : lateRequest with ⟨request | error | reason, requested⟩
  · rw [run] at closed drawn
    simp only [Bool.and_eq_true, decide_eq_true_eq] at drawn
    obtain ⟨⟨⟨nonce, padding⟩, current⟩, before⟩ := drawn
    let cfg := sampleConfig ⟨1, 2⟩
    have valid : cfg.Valid := ⟨by decide, by decide, by decide⟩
    have bucket : (30000 : Int).tdiv getProtocolMaxConnectDelay -
        (29999 : Int).tdiv getProtocolMaxConnectDelay ∈ [0, 1] := by decide
    have second : (30000 : Int).tdiv getProtocolMaxConnectDelay = 1 := by decide
    have third : (30000 : Int).tdiv cfg.protocol.maxConnectDelay.toNat = 3 := by decide
    have authentic : Authentic cfg 30000 request.bytes requested.history := by
      refine ⟨?_, fun _ recorded _ derived => closedTo_failsUnder closed recorded (second ▸ derived)⟩
      intro timestamp headerKey near derived drawn same plain opened
      have sameNonce : drawn = .zero := Nonce.ext_bytes (same.trans nonce)
      rw [sameNonce] at opened
      have closes : frontCloses timestamp request.bytes = true := by
        rw [third] at near
        rcases near with rfl | rfl
        · exact current
        · exact before
      have derived : Kdf.blake3.deriveKeyFromTimestamp (utf8Bytes "key") timestamp = .ok headerKey :=
        derived
      have opened : Aead.openRecord .aes256Gcm headerKey .zero
        ((request.bytes.take 63).drop 12) = some plain := opened
      rw [frontCloses, derived] at closes
      dsimp only at closes
      rw [opened] at closes
      cases closes
    let connection : Connection Segmented Unit := ⟨.whole request.bytes, (), []⟩
    have upgraded : acceptUpgrade peer cfg "" false connection = (.ok (), connection) := rfl
    have there : known [] connection.stream request.bytes := rfl
    have enough : 83 + cfg.protocol.headerPadding.start.toNat ≤ 78 + request.paddingSize := by
      rw [padding]
      decide
    exact ⟨request, requested, rfl, (startTunnel_answers_request Aead.tagging_correct valid rfl
      bucket run authentic (fun _ => .ok []) peer "" false upgraded there).mpr enough⟩
  all_goals
    rw [run] at drawn
    cases drawn

/-- A header of at least 283 bytes is longer than the request. -/
theorem startTunnel_drops_request : (sampleConfig ⟨200, 300⟩).Valid ∧
    lateRequestBytes.length = 255 ∧
    (match (serveRequest ⟨200, 300⟩ lateRequestBytes).1 with
      | .ok _ => false
      | .err error => decide (error = .anyhow "wrong header packet size")
      | .panic _ => false) = true ∧
    (serveRequest ⟨200, 300⟩ lateRequestBytes).2.stream.outgoing = [] :=
  ⟨sampleConfig_valid, by decide +kernel⟩

end CovertConnect.Tunnel
