import CovertConnect.Client.StartTunnel
import CovertConnect.Server.NewKey
import CovertConnect.Server.Probing
import CovertConnect.Tunnel.RoundTrip
import CovertConnect.Tunnel.Upgrade

namespace CovertConnect.Tunnel

open CovertConnect.Data CovertConnect.Data.Exec
open CovertConnect.Crypto CovertConnect.Crypto.Connection
open CovertConnect.Client CovertConnect.Server

/-! # Tunnels over HTTPS

Client and server derive the path of the upgrade from the key that they share.
The server reads the request for it into a buffer of its own size. -/

theorem urlSafeNoPad_length (data : Bytes) :
    (urlSafeNoPad data).length = (4 * data.length + 2) / 3 := by
  fun_induction urlSafeNoPad data with
  | case1 => rfl
  | case2 a group => simp only [List.length_cons, List.length_nil]
  | case3 a b group => simp only [List.length_cons, List.length_nil]
  | case4 a b c rest group ih =>
      simp only [List.length_cons, ih]
      omega

theorem keySymbol_facts {char : Char} (found : char ∈ keySymbols) :
    (String.utf8EncodeChar char).length = 1 ∧ char ≠ '\n' ∧ char ≠ '\r' := by
  have plain : keySymbols.all (fun char => (String.utf8EncodeChar char).length == 1 &&
      char != '\n' && char != '\r') = true := by
    decide
  have facts := List.all_eq_true.mp plain char found
  simp only [Bool.and_eq_true, beq_iff_eq, bne_iff_ne, and_assoc] at facts
  exact facts

theorem encoded_length {chars : List Char}
    (single : ∀ char ∈ chars, (String.utf8EncodeChar char).length = 1) :
    (chars.flatMap String.utf8EncodeChar).length = chars.length := by
  induction chars with
  | nil => rfl
  | cons char chars ih =>
      rw [List.flatMap_cons, List.length_append, single char List.mem_cons_self,
        ih fun other there => single other (List.mem_cons_of_mem _ there), List.length_cons,
        Nat.add_comm]

/-- A path is 43 bytes of one line. -/
structure IsDerivedPath (urlPath : String) : Prop where
  size : strLen urlPath = 43
  line : '\n' ∉ urlPath.toList ∧ '\r' ∉ urlPath.toList

theorem deriveUrlPath_inv [Hashes] {key urlPath : String}
    (derived : Kdf.deriveUrlPath key = .ok urlPath) : IsDerivedPath urlPath := by
  rw [Kdf.deriveUrlPath] at derived
  obtain ⟨data, hashed, encoded⟩ := except_bind_eq_ok.mp derived
  cases encoded
  have facts : ∀ char ∈ urlSafeNoPad data, _ := fun char found =>
    keySymbol_facts (urlSafeNoPad_symbols data char found)
  refine ⟨?_, ?_, ?_⟩
  · rw [strLen, utf8Bytes_flatMap, String.toList_ofList,
      encoded_length fun char found => (facts char found).1, urlSafeNoPad_length,
      Kdf.deriveKey_length hashed]
  · rw [String.toList_ofList]
    exact fun found => (facts _ found).2.1 rfl
  · rw [String.toList_ofList]
    exact fun found => (facts _ found).2.2 rfl

theorem upgradeRequest_length (host httpPath : String) :
    (utf8Bytes (upgradeRequest host httpPath)).length = 67 + strLen httpPath + strLen host := by
  have front : (utf8Bytes "GET /").length = 5 := rfl
  have version : (utf8Bytes " HTTP/1.1\r\n").length = 11 := rfl
  have hostLine : (utf8Bytes "Host: ").length = 6 := rfl
  have ending : (utf8Bytes "\r\n").length = 2 := rfl
  have rest : (utf8Bytes "Connection: upgrade\r\nUpgrade: websocket\r\n\r\n").length = 43 := rfl
  simp only [upgradeRequest, utf8Bytes_append, List.length_append, front, version, hostLine, ending,
    rest, strLen]
  omega

theorem readExact_one (byte : UInt8) (incoming outgoing : Bytes) :
    (ioCall (Socket.readExact · 1) : Exec Loaded Error Bytes)
        ⟨byte :: incoming, outgoing⟩ = (.ok [byte], ⟨incoming, outgoing⟩) := by
  simp [ioCall, Socket.readExact, Loaded.readExact, Loaded.read]

/-- A request that fits is read to its end and no further. -/
theorem readUpgradeRequest_fits {request : Bytes} (ends : EndsHeader request)
    (tail outgoing : Bytes) {left : Nat} {readed coming : Bytes} (parts : readed ++ coming = request)
    (room : request.length < left + readed.length) :
    readUpgradeRequest left (lfInRow readed) readed (⟨coming ++ tail, outgoing⟩ : Loaded) =
      (.ok request, ⟨tail, outgoing⟩) := by
  induction coming generalizing left readed with
  | nil =>
      rw [List.append_nil] at parts
      subst parts
      obtain ⟨left, rfl⟩ := Nat.exists_eq_succ_of_ne_zero (show left ≠ 0 by omega)
      rw [readUpgradeRequest, if_neg (Nat.not_lt.mpr ends.whole)]
      rfl
  | cons byte coming ih =>
      have size : request.length = readed.length + coming.length + 1 := by
        rw [← parts, List.length_append, List.length_cons]
        omega
      have open_ : lfInRow readed < 2 := by
        have before := ends.before readed.length (by omega)
        rwa [← parts, List.take_left] at before
      obtain ⟨left, rfl⟩ := Nat.exists_eq_succ_of_ne_zero (show left ≠ 0 by omega)
      rw [readUpgradeRequest, if_pos open_, List.cons_append,
        bind_ok (readExact_one byte (coming ++ tail) outgoing), List.headD_cons, ← lfInRow_snoc]
      refine ih (by rw [List.append_assoc]; exact parts) ?_
      rw [List.length_append, List.length_singleton]
      omega

/-- A request that does not fit fills the buffer before its end. -/
theorem readUpgradeRequest_full {request : Bytes} (ends : EndsHeader request)
    (tail outgoing : Bytes) {left : Nat} {readed coming : Bytes} (parts : readed ++ coming = request)
    (full : left + readed.length ≤ request.length) :
    readUpgradeRequest left (lfInRow readed) readed (⟨coming ++ tail, outgoing⟩ : Loaded) =
      (.err headerTooBig, ⟨(coming ++ tail).drop left, outgoing⟩) := by
  induction left generalizing readed coming with
  | zero => rfl
  | succ left ih =>
      have size : request.length = readed.length + coming.length := by
        rw [← parts, List.length_append]
      have open_ : lfInRow readed < 2 := by
        have before := ends.before readed.length (by omega)
        rwa [← parts, List.take_left] at before
      cases coming with
      | nil =>
          rw [List.length_nil] at size
          omega
      | cons byte coming =>
          rw [readUpgradeRequest, if_pos open_, List.cons_append,
            bind_ok (readExact_one byte (coming ++ tail) outgoing), List.headD_cons, ← lfInRow_snoc,
            List.drop_succ_cons]
          refine ih (by rw [List.append_assoc]; exact parts) ?_
          rw [List.length_append, List.length_singleton]
          omega

/-- The longest host in a request with a derived path. -/
def maxUpgradeHost : Nat := 144

/-- The bytes of a client that was let in through a proxy: its request and what
comes after it. -/
def throughProxy (host urlPath : String) (tail : Bytes) : Loaded where
  incoming := utf8Bytes (upgradeRequest host urlPath) ++ tail
  outgoing := []

section Upgrade

variable {R : Type} [Rng R] {cfg : AppConfig} {host urlPath : String}

/-- The request is answered and taken off the socket. -/
theorem acceptUpgrade_fits (derived : IsDerivedPath urlPath)
    (hostLine : '\n' ∉ host.toList ∧ '\r' ∉ host.toList) (fits : strLen host ≤ maxUpgradeHost)
    {socketAddr : SocketAddr} (proxied : socketAddr.ip = localHost) (tail : Bytes) (rng : R)
    (history : List ConnectionEvent) :
    acceptUpgrade socketAddr cfg urlPath true ⟨throughProxy host urlPath tail, rng, history⟩ =
      (.ok (), ⟨⟨tail, Upgrading.response⟩, rng, history⟩) := by
  have ends := upgradeRequest_endsHeader hostLine derived.line
  have room : (utf8Bytes (upgradeRequest host urlPath)).length < maxUpgradeRequest + 0 := by
    rw [upgradeRequest_length, derived.size]
    change strLen host ≤ 144 at fits
    change _ < 255
    omega
  have read : readUpgradeRequest maxUpgradeRequest 0 [] (throughProxy host urlPath tail) =
      (.ok (utf8Bytes (upgradeRequest host urlPath)), ⟨tail, []⟩) :=
    readUpgradeRequest_fits ends tail [] (List.nil_append _) room
  have upgraded : processHttpUpgrade urlPath (throughProxy host urlPath tail) =
      (.ok (), ⟨tail, Upgrading.response⟩) := by
    rw [processHttpUpgrade, bind_ok read, replyUpgrade, checkUpgradeRequest_own]
    rfl
  rw [acceptUpgrade, if_pos ⟨rfl, proxied⟩, bind_apply, attempt_apply, onStream, focus_apply,
    upgraded]
  rfl

/-- The request is refused when the buffer is full, without an answer. -/
theorem acceptUpgrade_full (derived : IsDerivedPath urlPath)
    (hostLine : '\n' ∉ host.toList ∧ '\r' ∉ host.toList) (long : maxUpgradeHost < strLen host)
    {socketAddr : SocketAddr} (proxied : socketAddr.ip = localHost) (tail : Bytes) (rng : R)
    (history : List ConnectionEvent) :
    EndsWith (acceptUpgrade socketAddr cfg urlPath true)
      ⟨throughProxy host urlPath tail, rng, history⟩
      ⟨(throughProxy host urlPath tail).incoming.drop maxUpgradeRequest, []⟩ := by
  have ends := upgradeRequest_endsHeader hostLine derived.line
  have full : maxUpgradeRequest + 0 ≤ (utf8Bytes (upgradeRequest host urlPath)).length := by
    rw [upgradeRequest_length, derived.size]
    change 144 < strLen host at long
    change 255 ≤ _
    omega
  have read : readUpgradeRequest maxUpgradeRequest 0 [] (throughProxy host urlPath tail) =
      (.err headerTooBig, ⟨(throughProxy host urlPath tail).incoming.drop maxUpgradeRequest, []⟩) :=
    readUpgradeRequest_full ends tail [] (List.nil_append _) full
  have refused : EndsWith (acceptUpgrade socketAddr cfg urlPath true)
      ⟨throughProxy host urlPath tail, rng, history⟩
      (readUpgradeRequest maxUpgradeRequest 0 [] (throughProxy host urlPath tail)).2 := by
    refine acceptUpgrade_refused ⟨rfl, proxied⟩ fun request after readAll => ?_
    rw [read] at readAll
    cases readAll
  rwa [read] at refused

end Upgrade

theorem loaded_buffered_kept (outgoing : Bytes) :
    Buffered fun (stream : Loaded) (unread : Bytes) => stream = ⟨unread, outgoing⟩ where
  read := by
    intro stream _ room same _
    subst same
    exact ⟨_, rfl, rfl⟩
  tryRead := by
    intro stream _ room same _
    subst same
    exact ⟨_, rfl, rfl⟩

section Configurations

variable [Hashes]

/-- A path that the client has found is that of its key. -/
theorem init_urlPath {lookup : String → Except IoError (List SocketAddr)}
    {config initialized : ServerConfig} {httpPath : String}
    (found : config.init lookup = .ok initialized) (path : initialized.urlPath = some httpPath) :
    Kdf.deriveUrlPath config.protocol.key = .ok httpPath := by
  obtain ⟨connCfg, connects, rfl⟩ := ServerConfig.init_inv found
  dsimp only at path
  rw [ServerConnectConfig.new] at connects
  split at connects
  · cases connects
    cases path
  · dsimp only at connects
    generalize (if ':' ∈ config.host.toList then
        if String.ofList (stripPort config.host.toList) ++ httpsPort = config.host then
          (config.host, String.ofList (stripPort config.host.toList), true)
        else (config.host, config.host, false)
      else (config.host ++ httpsPort, config.host, true)) = parts at connects
    obtain ⟨serverHost, host, addPath⟩ := parts
    dsimp only at connects
    split at connects
    · cases connects
    · cases connects
    · cases addPath with
      | false =>
          cases connects
          cases path
      | true =>
          rw [if_pos rfl] at connects
          split at connects
          · cases connects
          · rename_i urlPath derived
            cases connects
            cases path
            exact derived

omit [Hashes] in
/-- The name in the request is one that TLS has taken. -/
theorem connect_upgrade {S R : Type} {network : Network} {address : SocketAddr} {host : String}
    {urlPath : Option String} {state after : Tunnelling S R} {peer : SocketAddr}
    {domain httpPath : String}
    (run : Proxy.connect network address host urlPath state =
      (.ok (.ugradeStream peer domain httpPath), after)) :
    urlPath = some httpPath ∧ network.serverName domain = .ok () := by
  have path := (Proxy.connect_attempts network address host urlPath state).2 _ (congrArg Prod.fst run)
  refine ⟨path.symm, ?_⟩
  rw [← path, Proxy.connect.eq_def] at run
  obtain ⟨_, dialled, dialling, run⟩ := bind_eq_ok.mp run
  dsimp only [StreamType.urlPath] at run
  obtain ⟨_, named, naming, run⟩ := bind_eq_ok.mp run
  obtain ⟨_, shaken, shaking, run⟩ := bind_eq_ok.mp run
  cases run
  cases name : network.serverName (String.ofList (stripPort host.toList)) with
  | ok => rfl
  | error error =>
      rw [name] at naming
      cases naming

/-- The names of TLS are of one line. -/
def NamesLines (network : Network) : Prop :=
  ∀ domain, network.serverName domain = .ok () → '\n' ∉ domain.toList ∧ '\r' ∉ domain.toList

end Configurations

section Opening

variable [Aead] [Hashes] {S R R' T : Type} [Rng R] [Rng R']

/-- A tunnel over HTTPS is opened for a server name of up to 144 bytes, and
nothing of the tunnel is lost with the request.  A longer name, which TLS may
take, ends the connection without an answer. -/
theorem startTunnel_https (correct : Aead.Correct) (build : Build) {network : Network}
    (lines : NamesLines network) {serverLookup : String → Except IoError (List SocketAddr)}
    {config initialized : ServerConfig} (found : config.init serverLookup = .ok initialized)
    {state after : Tunnelling T R'} {address : SocketAddr} {domain httpPath : String}
    (connected : Proxy.connect network initialized.address initialized.host initialized.urlPath
      state = (.ok (.ugradeStream address domain httpPath), after))
    {cfg : AppConfig} (shared : cfg.protocol = config.protocol) {urlPath : String}
    (own : Kdf.deriveUrlPath cfg.protocol.key = .ok urlPath)
    {host : String} {clientTime serverTime : Int} {sender sent : Connection S R'}
    {packet : TunnelPacket} (long : minHostLen ≤ strLen host) (short : strLen host ≤ 259)
    (positive : config.protocol.maxConnectDelay.toNat ≠ 0)
    (bucket : serverTime.tdiv config.protocol.maxConnectDelay.toNat -
      clientTime.tdiv config.protocol.maxConnectDelay.toNat ∈ [0, 1])
    (built : tunnelPacket build config.protocol host clientTime sender = (.ok packet, sent))
    (wrong : ∀ record, .sealed record ∈ sent.history → ∀ other,
      config.protocol.kdf.deriveKeyFromTimestamp (utf8Bytes config.protocol.key)
        (serverTime.tdiv config.protocol.maxConnectDelay.toNat) = .ok other →
          record.FailsUnder other)
    {lookup : String → Except IoError (List SocketAddr)} {addresses : List SocketAddr}
    (resolved : lookup host = .ok addresses) (reachable : addresses ≠ [])
    {socketAddr : SocketAddr} (proxied : socketAddr.ip = localHost) (rest : Bytes) (rng : R)
    (history : List ConnectionEvent) :
    let run := startTunnel lookup socketAddr serverTime cfg urlPath true
      ⟨throughProxy domain httpPath (packet.bytes ++ rest), rng, history⟩
    (strLen domain ≤ maxUpgradeHost →
      run.2.stream = ⟨rest, Upgrading.response⟩ ∧
        ∃ tunnel, run.1 = .ok (some tunnel) ∧ tunnel.host = host) ∧
      (maxUpgradeHost < strLen domain →
        run.2.stream.outgoing = [] ∧ ∀ tunnel, run.1 ≠ .ok tunnel) := by
  obtain ⟨path, named⟩ := connect_upgrade connected
  have derivedPath := init_urlPath found path
  obtain rfl : httpPath = urlPath :=
    Except.ok.inj (derivedPath.symm.trans (shared ▸ own))
  have isPath := deriveUrlPath_inv derivedPath
  constructor
  · intro fits
    -- the request is taken off the socket, and then the packet
    have upgraded : acceptUpgrade socketAddr cfg httpPath true
        ⟨throughProxy domain httpPath (packet.bytes ++ rest), rng, history⟩ =
          (.ok (), ⟨⟨packet.bytes ++ rest, Upgrading.response⟩, rng, history⟩) :=
      acceptUpgrade_fits isPath (lines domain named) fits proxied _ rng history
    obtain ⟨headerKey, hostLen, derived, filled, sized, packetEq, recorded⟩ := tunnelPacket_inv built
    let draws := tunnelDraws config.protocol sender.rng
    have sendable : Sendable config.protocol draws host := tunnelDraws_sendable filled long short
    rw [hostLenByte_ok build long] at sized
    cases sized
    have recorded : .sealed (headerRecord config.protocol headerKey draws (hostByte host)) ∈
        sent.history := by
      simp [recorded, draws]
    let ready : Connection Loaded R := ⟨⟨packet.bytes ++ rest, Upgrading.response⟩, rng, history⟩
    have waiting : ready.stream =
        ⟨(packetOf config.protocol headerKey draws (hostByte host) host).bytes ++ rest,
          Upgrading.response⟩ := by
      rw [← packetEq]
    let header := sentHeader config.protocol headerKey draws host
    obtain ⟨stream, decoded, left⟩ : ∃ stream, readHeader lookup serverTime cfg ready =
        (openTunnel lookup cfg draws.nonce.bytes header host >>= fun tunnel => pure (some tunnel))
          { ready with stream } ∧ stream = ⟨rest, Upgrading.response⟩ :=
      sendable.readHeader_packet correct (loaded_buffered_kept Upgrading.response) shared positive
        (bucket_cases bucket) derived (wrong _ recorded) waiting
    subst left
    -- the ciphers of its salt can be derived
    obtain ⟨clientKey, client⟩ : ∃ clientKey, cfg.protocol.kdf.deriveClientKey
        (utf8Bytes cfg.protocol.key) draws.salt = .ok clientKey :=
      Kdf.deriveKey2_total (shared ▸ derived) sendable.salt (by decide)
    obtain ⟨serverKey, server⟩ : ∃ serverKey, cfg.protocol.kdf.deriveServerKey
        (utf8Bytes cfg.protocol.key) draws.salt = .ok serverKey :=
      Kdf.deriveKey2_total (shared ▸ derived) sendable.salt (by decide)
    obtain ⟨ciphers, both⟩ : ∃ ciphers, Cipher.newClientServer cfg.protocol.cipher
        cfg.protocol.kdf (utf8Bytes cfg.protocol.key) draws.salt = .ok ciphers :=
      ⟨_, Cipher.newClientServer_ok sendable.salt client server⟩
    obtain ⟨tunnel, accepted⟩ : ∃ tunnel, openTunnel lookup cfg draws.nonce.bytes header host
        (⟨⟨rest, Upgrading.response⟩, rng, history⟩ : Connection Loaded R) =
          (.ok tunnel, ⟨⟨rest, Upgrading.response⟩, rng, history⟩) :=
      openTunnel_ok resolved reachable both
    have started : startTunnel lookup socketAddr serverTime cfg httpPath true
        ⟨throughProxy domain httpPath (packet.bytes ++ rest), rng, history⟩ =
          (.ok (some tunnel), ⟨⟨rest, Upgrading.response⟩, rng, history⟩) := by
      rw [startTunnel, bind_ok upgraded, decoded, bind_ok accepted]
      rfl
    rw [started]
    exact ⟨rfl, tunnel, rfl, (openTunnel_inv accepted).1⟩
  · intro long
    have refused : EndsWith (acceptUpgrade socketAddr cfg httpPath true)
        ⟨throughProxy domain httpPath (packet.bytes ++ rest), rng, history⟩ _ :=
      acceptUpgrade_full isPath (lines domain named) long proxied _ rng history
    obtain ⟨left, refused⟩ := refused
    rw [startTunnel, bind_apply]
    rcases accepted : acceptUpgrade socketAddr cfg httpPath true
      ⟨throughProxy domain httpPath (packet.bytes ++ rest), rng, history⟩ with
      ⟨value | error | reason, ended⟩
    · rw [accepted] at refused
      exact absurd rfl (refused value)
    · rw [accepted] at left
      exact ⟨congrArg Loaded.outgoing left, fun _ run => by cases run⟩
    · rw [accepted] at left
      exact ⟨congrArg Loaded.outgoing left, fun _ run => by cases run⟩

end Opening

/-- Names with a line end are refused. -/
def lineNetwork : Network where
  connect _ := .ok ()
  serverName domain :=
    if '\n' ∈ domain.toList ∨ '\r' ∈ domain.toList then .error (.anyhow "invalid dns name")
    else .ok ()
  handshake _ _ := .ok ()

theorem lineNetwork_lines : NamesLines lineNetwork := by
  intro domain named
  by_cases lined : '\n' ∈ domain.toList ∨ '\r' ∈ domain.toList
  · dsimp only [lineNetwork] at named
    rw [if_pos lined] at named
    cases named
  · exact not_or.mp lined

def httpsServer : ServerConfig :=
  { (idleServer "a.org" true).config with protocol := (sampleConfig ⟨200, 300⟩).protocol }

theorem httpsServer_init {urlPath : String}
    (derived : @Kdf.deriveUrlPath Hashes.folding "key" = .ok urlPath) :
    @ServerConfig.init Hashes.folding (fun _ => .ok [peer]) httpsServer =
      .ok { httpsServer with address := peer, urlPath := some urlPath } := by
  let _ := Hashes.folding
  have named : SocketAddr.fromStr "a.org" = none := by decide +kernel
  have connects : ServerConnectConfig.new "a.org" "key" (fun _ => .ok [peer]) =
      .ok { host := "a.org", address := peer, urlPath := some urlPath } := by
    rw [ServerConnectConfig.new, named]
    dsimp only
    rw [if_pos (by decide), derived]
    rfl
  rw [ServerConfig.init]
  change (ServerConnectConfig.new "a.org" "key" (fun _ => .ok [peer]) >>= _) = _
  rw [connects]
  rfl

def proxyAddr : SocketAddr where
  ip := localHost
  port := 50000

/-- The tunnel of the last moment, through a proxy. -/
def openProxied (urlPath : String) (incoming : Bytes) :
    Outcome Error (Option (Tunnel Loaded Unit)) × Connection Loaded Unit :=
  @startTunnel Loaded Unit _ _ Aead.tagging Hashes.folding (fun _ => .ok [peer]) proxyAddr 10000
    (sampleConfig ⟨200, 300⟩) urlPath true ⟨throughProxy "a.org" urlPath incoming, (), []⟩

theorem startTunnel_https_sample : ∃ packet urlPath tunnel, lastMoment.1 = .ok packet ∧
    (openProxied urlPath (packet.bytes ++ [1, 2, 3])).1 = .ok (some tunnel) ∧
    tunnel.host = "a.org:80" ∧
    (openProxied urlPath (packet.bytes ++ [1, 2, 3])).2.stream.incoming = [1, 2, 3] := by
  let _ := Aead.tagging
  let _ := Hashes.folding
  obtain ⟨packet, sent, run, _⟩ := lastMoment_ok
  obtain ⟨urlPath, derived⟩ : ∃ urlPath, Kdf.deriveUrlPath "key" = .ok urlPath := ⟨_, rfl⟩
  let cfg := sampleConfig ⟨200, 300⟩
  have bucket : (10000 : Int).tdiv cfg.protocol.maxConnectDelay.toNat -
      (9999 : Int).tdiv cfg.protocol.maxConnectDelay.toNat ∈ [0, 1] := by decide
  let state : Tunnelling Bool Unit := ⟨Concurrent.unresolved, (), []⟩
  have connected : Proxy.connect lineNetwork peer "a.org" (some urlPath) state =
      (.ok (.ugradeStream peer "a.org" urlPath), { state with attempts := [peer] }) := rfl
  have opens : strLen "a.org" ≤ maxUpgradeHost →
      (openProxied urlPath (packet.bytes ++ [1, 2, 3])).2.stream = ⟨[1, 2, 3], Upgrading.response⟩ ∧
        ∃ tunnel, (openProxied urlPath (packet.bytes ++ [1, 2, 3])).1 = .ok (some tunnel) ∧
          tunnel.host = "a.org:80" :=
    (startTunnel_https Aead.tagging_correct .release lineNetwork_lines (httpsServer_init derived)
      connected rfl derived (by decide) (by decide) (by decide) bucket run (lastMoment_closed run)
      rfl (by simp) rfl [1, 2, 3] () []).1
  obtain ⟨stream, tunnel, opened, host⟩ := opens (by decide)
  exact ⟨packet, urlPath, tunnel, by rw [run], opened, host, congrArg Loaded.incoming stream⟩

end CovertConnect.Tunnel
