import CovertConnect.Crypto.Stream.Duplex
import CovertConnect.Crypto.Stream.EndOfStream
import CovertConnect.Data.Pipe
import CovertConnect.Tunnel.RoundTrip

namespace CovertConnect.Tunnel

open CovertConnect.Data CovertConnect.Data.Exec
open CovertConnect.Crypto CovertConnect.Crypto.Connection
open CovertConnect.Client CovertConnect.Server

/-! # What is said through a tunnel

Behind the header both ends run `copy_bidirectional` between their stream and a
plain socket: the application's at the near end, the target's at the far end.
In which order its reads, writes and flushes come, and what each of them moves,
is left open. -/

/-- A plain peer, and the two directions of the relay between it and the
stream of its end. -/
structure Side where
  written : Bytes
  up : Pipe UInt8
  down : Pipe UInt8

structure Conversation (N F : Type) where
  duplex : Duplex N F
  near : Side
  far : Side

inductive SideEvent where
  /-- The plain peer writes. -/
  | speak (bytes : Bytes)
  /-- The relay reads from the plain peer. -/
  | pull (count : Nat)
  | push (replies : List WriteReply)
  | flush (replies : List WriteReply) (reply : Poll (Except IoError Unit))
  | shutdown (replies : List WriteReply) (reply : Poll (Except IoError Unit))
  /-- The transport brings bytes to the other end. -/
  | carry (count : Nat)
  | poll (remaining : Nat) (replies : List ReadReply)
  /-- The relay writes to the plain peer. -/
  | hand (count : Nat)

inductive TalkEvent where
  | near (event : SideEvent)
  | far (event : SideEvent)

namespace Side

def silent : Side where
  written := []
  up := .empty
  down := .empty

def speak (this : Side) (bytes : Bytes) : Side :=
  { this with written := this.written ++ bytes }

def pull (this : Side) (count : Nat) : Side :=
  { this with up := this.up.take ((this.written.drop this.up.taken.length).take count) }

/-- The relay of this side has its bytes from the peer, has handed the first of
them to the stream, and holds what the stream returned. -/
structure Inv (side : Side) (sent received : Traffic) : Prop where
  source : side.up.taken <+: side.written
  sent : sent.accepted = side.up.passed
  received : side.down.taken = received.returned

theorem pull_inv {side : Side} {sent received : Traffic} (inv : side.Inv sent received)
    (count : Nat) : (side.pull count).Inv sent received := by
  obtain ⟨source, accepted, returned⟩ := inv
  refine ⟨?_, accepted, returned⟩
  obtain ⟨rest, whole⟩ := source
  change side.up.taken ++ _ <+: side.written
  rw [← whole, List.drop_left]
  exact (List.prefix_append_right_inj _).mpr (List.take_prefix _ _)

end Side

namespace Conversation

variable {N F : Type}

def start (near : EncryptedStream Endpoint N) (far : EncryptedStream Endpoint F) :
    Conversation N F where
  duplex := .start near far
  near := .silent
  far := .silent

def swap (this : Conversation N F) : Conversation F N where
  duplex := this.duplex.swap
  near := this.far
  far := this.near

variable [Aead] [Rng N] [Rng F]

def nearStep (this : Conversation N F) : SideEvent → Conversation N F
  | .speak bytes => { this with near := this.near.speak bytes }
  | .pull count => { this with near := this.near.pull count }
  | .push replies =>
      { this with
        duplex := this.duplex.step (.out (.write this.near.up.held replies))
        near := { this.near with
          up := this.near.up.pass (this.duplex.link.accepts this.near.up.held replies) } }
  | .flush replies reply =>
      { this with duplex := this.duplex.step (.out (.flush replies reply)) }
  | .shutdown replies reply =>
      { this with duplex := this.duplex.step (.out (.shutdown replies reply)) }
  | .carry count => { this with duplex := this.duplex.step (.out (.carry count)) }
  | .poll remaining replies =>
      { this with
        duplex := this.duplex.step (.back (.read remaining replies))
        near := { this.near with
          down := this.near.down.take
            (EncryptedStream.delivered (this.duplex.swap.link.pollReader remaining replies).1) } }
  | .hand count => { this with near := { this.near with down := this.near.down.pass count } }

def step (this : Conversation N F) : TalkEvent → Conversation N F
  | .near event => this.nearStep event
  | .far event => (this.swap.nearStep event).swap

def run (this : Conversation N F) (events : List TalkEvent) : Conversation N F :=
  events.foldl step this

/-- The two streams and what is between them, after an event of a side. -/
theorem nearStep_duplex (this : Conversation N F) (event : SideEvent) :
    (this.nearStep event).duplex = this.duplex ∨
      ∃ next, (this.nearStep event).duplex = this.duplex.step next := by
  cases event with
  | speak | pull | hand => exact .inl rfl
  | push replies => exact .inr ⟨.out (.write this.near.up.held replies), rfl⟩
  | flush replies reply => exact .inr ⟨.out (.flush replies reply), rfl⟩
  | shutdown replies reply => exact .inr ⟨.out (.shutdown replies reply), rfl⟩
  | carry count => exact .inr ⟨.out (.carry count), rfl⟩
  | poll remaining replies => exact .inr ⟨.back (.read remaining replies), rfl⟩

structure Inv (codec codec' : Codec) (this : Conversation N F) : Prop where
  duplex : this.duplex.Inv codec codec'
  near : this.near.Inv this.duplex.out this.duplex.back
  far : this.far.Inv this.duplex.back this.duplex.out

omit [Rng N] [Rng F] in
theorem Inv.swap {codec codec' : Codec} {this : Conversation N F} (inv : this.Inv codec codec') :
    this.swap.Inv codec' codec := ⟨inv.duplex.swap, inv.far, inv.near⟩

theorem nearStep_inv (correct : Aead.Correct) {codec codec' : Codec} {this : Conversation N F}
    (inv : this.Inv codec codec') (event : SideEvent) :
    (this.nearStep event).Inv codec codec' := by
  obtain ⟨duplex, near, far⟩ := inv
  have stepped := fun event => Duplex.step_inv correct duplex event
  -- a call that adds nothing to what either end has seen
  have quiet : ∀ event, (this.duplex.link.step event).accepted = this.duplex.out.accepted ∧
      (this.duplex.link.step event).returned = this.duplex.out.returned →
      ({ this with duplex := this.duplex.step (.out event) } : Conversation N F).Inv codec
        codec' := by
    intro event same
    exact ⟨stepped (.out event), ⟨near.source, same.1.trans near.sent, near.received⟩,
      ⟨far.source, far.sent, far.received.trans same.2.symm⟩⟩
  cases event with
  | speak bytes =>
      exact ⟨duplex, ⟨near.source.trans (List.prefix_append _ _), near.sent, near.received⟩, far⟩
  | pull count => exact ⟨duplex, Side.pull_inv near count, far⟩
  | push replies =>
      have accepted := this.duplex.link.write_accepted this.near.up.held replies
      have returned := this.duplex.link.write_returned this.near.up.held replies
      refine ⟨stepped (.out (.write this.near.up.held replies)), ⟨near.source, ?_, near.received⟩,
        ⟨far.source, far.sent, far.received.trans returned.symm⟩⟩
      change _ = this.near.up.passed ++ _
      rw [← near.sent]
      exact accepted
  | flush replies reply => exact quiet _ (this.duplex.link.through_logs _ replies reply)
  | shutdown replies reply => exact quiet _ (this.duplex.link.through_logs _ replies reply)
  | carry count => exact quiet _ ⟨rfl, rfl⟩
  | poll remaining replies =>
      refine ⟨stepped (.back (.read remaining replies)), ⟨near.source, near.sent, ?_⟩,
        ⟨far.source, far.sent, far.received⟩⟩
      change this.near.down.taken ++ _ = _
      rw [near.received]
      rfl
  | hand count => exact ⟨duplex, ⟨near.source, near.sent, near.received⟩, far⟩

theorem step_inv (correct : Aead.Correct) {codec codec' : Codec} {this : Conversation N F}
    (inv : this.Inv codec codec') (event : TalkEvent) : (this.step event).Inv codec codec' := by
  cases event with
  | near event => exact nearStep_inv correct inv event
  | far event => exact (nearStep_inv correct inv.swap event).swap

theorem run_inv (correct : Aead.Correct) {codec codec' : Codec} {this : Conversation N F}
    (inv : this.Inv codec codec') (events : List TalkEvent) : (this.run events).Inv codec codec' :=
  List.foldlRecOn events step inv fun _ kept event _ => step_inv correct kept event

/-- Nothing of what the near peer wrote is still on its way to the far peer. -/
structure Delivered (this : Conversation N F) : Prop where
  read : this.near.up.taken = this.near.written
  pushed : this.near.up.held = []
  drained : this.duplex.link.Drained
  handed : this.far.down.held = []

omit [Rng N] [Rng F] in
/-- What the far peer gets is at every moment a prefix of what the near peer
wrote, and all of it once nothing is on its way. -/
theorem Inv.out_transparent {codec codec' : Codec} {this : Conversation N F}
    (inv : this.Inv codec codec') :
    this.far.down.passed <+: this.near.written ∧
      (this.Delivered → this.far.down.passed = this.near.written) := by
  obtain ⟨owed, split, _⟩ := inv.duplex.out.owed
  let link : Pipe UInt8 := ⟨this.duplex.out.accepted, this.duplex.out.returned, owed, split⟩
  have row : List.IsChain Pipe.Feeds [this.near.up, link, this.far.down] :=
    .cons_cons inv.near.sent (.cons_cons inv.far.received (.singleton _))
  have ends : [this.near.up, link, this.far.down].getLast? = some this.far.down := rfl
  refine ⟨(Pipe.row_prefix row ends).trans inv.near.source, ?_⟩
  intro delivered
  have all : this.duplex.out.returned = this.duplex.out.accepted :=
    inv.duplex.out.returned_all delivered.drained
  have empty : owed = [] := by
    have whole := split
    change this.duplex.out.accepted = this.duplex.out.returned ++ owed at whole
    rw [all] at whole
    exact List.append_right_eq_self.mp whole.symm
  rw [← delivered.read]
  apply Pipe.row_all row ends
  intro stage inRow
  simp only [List.mem_cons, List.not_mem_nil, or_false] at inRow
  rcases inRow with rfl | rfl | rfl
  · exact delivered.pushed
  · exact empty
  · exact delivered.handed

omit [Rng N] [Rng F] in
/-- Streams whose ciphers are in step both ways and whose headers are of one
kind, put on the ends of a fresh transport. -/
theorem start_inv (near far : Cipher × Cipher) (out : near.2.InStep far.1)
    (back : far.2.InStep near.1) {padding padding' : DataPadding}
    (needed : padding'.needed = padding.needed) (encLimit : Nat) (rng : N) (rng' : F) :
    ∃ codec codec', (start (.fromStream .empty near.1 near.2 padding encLimit rng)
      (.fromStream .empty far.1 far.2 padding' encLimit rng')).Inv codec codec' := by
  have silent : ∀ sent received : Traffic, sent.accepted = [] → received.returned = [] →
      Side.silent.Inv sent received := by
    intro sent received nothing nothing'
    exact ⟨List.nil_prefix, nothing, nothing'.symm⟩
  exact ⟨_, _, ⟨Link.start_inv out near.1 far.2 needed encLimit rng rng',
    Link.start_inv back far.1 near.2 needed.symm encLimit rng' rng⟩, silent _ _ rfl rfl,
    silent _ _ rfl rfl⟩

end Conversation

/-- `reduce` settles on the first IPv4 address, or else on the first address. -/
theorem preferIpv4_eq (addresses : List SocketAddr) :
    preferIpv4 addresses =
      (addresses.find? (IpAddr.isIpv4 ·.ip)).or addresses.head? := by
  have settled : ∀ (others : List SocketAddr) (acc : SocketAddr),
      others.foldl (fun acc value =>
        if !IpAddr.isIpv4 acc.ip && IpAddr.isIpv4 value.ip then value else acc) acc =
      ((acc :: others).find? (IpAddr.isIpv4 ·.ip)).getD acc := by
    intro others
    induction others with
    | nil =>
        intro acc
        cases version : IpAddr.isIpv4 acc.ip <;> simp [version]
    | cons value others ih =>
        intro acc
        rw [List.foldl_cons, ih]
        cases version : IpAddr.isIpv4 acc.ip
        · cases version' : IpAddr.isIpv4 value.ip <;> simp [version, version']
        · simp [version]
  cases addresses with
  | nil => rfl
  | cons first others =>
      rw [preferIpv4, settled]
      cases List.find? (fun address => IpAddr.isIpv4 address.ip) (first :: others) <;> rfl

section Opened

variable {S R S' R' : Type} [Socket S] [Rng R] [Socket S'] [Rng R'] [Aead] [Hashes]
  {holds : S → Bytes → Prop}

omit [Socket S] [Rng R] [Aead] in
/-- The address that a tunnel is opened to. -/
theorem openTunnel_addr {lookup : String → Except IoError (List SocketAddr)} {cfg : AppConfig}
    {nonce : Bytes} {header : TunnelHeader} {host : String} {addresses : List SocketAddr}
    {tunnel : Tunnel S R} {connection after : Connection S R}
    (resolved : lookup host = .ok addresses)
    (run : openTunnel lookup cfg nonce header host connection = (.ok tunnel, after)) :
    preferIpv4 addresses = some tunnel.addr := by
  rw [openTunnel, resolved] at run
  dsimp only at run
  cases preferred : preferIpv4 addresses with
  | none =>
      rw [preferred] at run
      cases run
  | some addr =>
      rw [preferred] at run
      dsimp only at run
      cases derived : Cipher.newClientServer cfg.protocol.cipher cfg.protocol.kdf
          (utf8Bytes cfg.protocol.key) header.salt with
      | err error =>
          rw [derived] at run
          cases run
      | panic reason =>
          rw [derived] at run
          cases run
      | ok ciphers =>
          rw [derived, mapErr, lift_ok_bind] at run
          cases run
          rfl

/-- The stream of the client, with the ciphers of the salt that was sent. -/
theorem processTunnel_stream {build : Build} {protocol : ProtocolConfig} {host : String}
    {now : Int} {connection after : Connection S R} {stream : EncryptedStream S R}
    (run : processTunnel build protocol host now connection = (.ok stream, after)) :
    ∃ packet sent ciphers, tunnelPacket build protocol host now connection = (.ok packet, sent) ∧
      Cipher.newClientServer protocol.cipher protocol.kdf (utf8Bytes protocol.key) packet.salt =
        .ok ciphers ∧
      stream = .fromStream stream.inner ciphers.2 ciphers.1 protocol.dataPadding
        protocol.encryptionLimit.toNat stream.rng := by
  rw [processTunnel] at run
  obtain ⟨packet, sent, packed, run⟩ := bind_eq_ok.mp run
  obtain ⟨_, written, writing, run⟩ := bind_eq_ok.mp run
  obtain ⟨_, flushed, flushing, run⟩ := bind_eq_ok.mp run
  cases derived : Cipher.newClientServer protocol.cipher protocol.kdf (utf8Bytes protocol.key)
      packet.salt with
  | ok ciphers =>
      rw [derived, mapErr, lift_ok_bind] at run
      cases run
      exact ⟨packet, sent, ciphers, packed, derived, rfl⟩
  | err error =>
      rw [derived] at run
      cases run
  | panic reason =>
      rw [derived] at run
      cases run

omit [Socket S] in
theorem tunnelPacket_salt {build : Build} {protocol : ProtocolConfig} {host : String} {now : Int}
    {sender sent : Connection S R} {packet : TunnelPacket}
    (built : tunnelPacket build protocol host now sender = (.ok packet, sent)) :
    packet.salt.length = 32 := by
  obtain ⟨headerKey, hostLen, _, _, _, packed, _⟩ := tunnelPacket_inv built
  rw [packed]
  exact (Draws.salt_length : (tunnelDraws protocol sender.rng).salt.length = 32)

/-- What both ends say through a tunnel that was opened with this packet. -/
def talked (near : EncryptedStream S' R') (far : EncryptedStream S R) (events : List TalkEvent) :
    Conversation R' R :=
  (Conversation.start (near.mapInner fun _ => .empty) (far.mapInner fun _ => .empty)).run events

omit [Socket S'] in
/-- The server opens the tunnel that a client's packet asks for, with the
ciphers of its salt. -/
theorem startTunnel_packet (correct : Aead.Correct) (buffered : Buffered holds) (build : Build)
    (lookup : String → Except IoError (List SocketAddr)) {cfg : AppConfig} {host : String}
    {clientTime serverTime : Int} {sender sent : Connection S' R'} {packet : TunnelPacket}
    {connection ready : Connection S R} {rest : Bytes}
    (long : minHostLen ≤ strLen host) (short : strLen host ≤ 259)
    (positive : cfg.protocol.maxConnectDelay.toNat ≠ 0)
    (bucket : serverTime.tdiv cfg.protocol.maxConnectDelay.toNat -
      clientTime.tdiv cfg.protocol.maxConnectDelay.toNat ∈ [0, 1])
    (built : tunnelPacket build cfg.protocol host clientTime sender = (.ok packet, sent))
    (wrong : ∀ record, .sealed record ∈ sent.history → ∀ other,
      cfg.protocol.kdf.deriveKeyFromTimestamp (utf8Bytes cfg.protocol.key)
        (serverTime.tdiv cfg.protocol.maxConnectDelay.toNat) = .ok other → record.FailsUnder other)
    {ciphers : Cipher × Cipher} (both : Cipher.newClientServer cfg.protocol.cipher cfg.protocol.kdf
      (utf8Bytes cfg.protocol.key) packet.salt = .ok ciphers)
    {addresses : List SocketAddr} (resolved : lookup host = .ok addresses)
    (found : addresses ≠ []) {socketAddr : SocketAddr} {urlPath : String} {upgradeSupport : Bool}
    (upgraded : acceptUpgrade socketAddr cfg urlPath upgradeSupport connection = (.ok (), ready))
    (waiting : holds ready.stream (packet.bytes ++ rest)) :
    ∃ tunnel next, startTunnel lookup socketAddr serverTime cfg urlPath upgradeSupport connection =
        (.ok (some tunnel), next) ∧ holds next.stream rest ∧ tunnel.host = host ∧
      some tunnel.addr = (addresses.find? (IpAddr.isIpv4 ·.ip)).or addresses.head? ∧
      tunnel.client.mapInner (fun _ => Endpoint.empty) = .fromStream .empty ciphers.1 ciphers.2
        cfg.protocol.dataPadding cfg.protocol.encryptionLimit.toNat ready.rng := by
  -- the server reads the header of the packet
  obtain ⟨headerKey, hostLen, derived, filled, sized, rfl, history⟩ := tunnelPacket_inv built
  have fits : Sendable cfg.protocol (tunnelDraws cfg.protocol sender.rng) host :=
    tunnelDraws_sendable filled long short
  rw [hostLenByte_ok build long] at sized
  cases sized
  have recorded : .sealed (headerRecord cfg.protocol headerKey
      (tunnelDraws cfg.protocol sender.rng) (hostByte host)) ∈ sent.history := by
    simp [history]
  let draws := tunnelDraws cfg.protocol sender.rng
  let header := sentHeader cfg.protocol headerKey draws host
  obtain ⟨stream, decoded, left⟩ : ∃ stream, readHeader lookup serverTime cfg ready =
      (openTunnel lookup cfg draws.nonce.bytes header host >>= fun tunnel => pure (some tunnel))
        { ready with stream } ∧ holds stream rest :=
    fits.readHeader_packet correct buffered rfl positive (bucket_cases bucket) derived
      (wrong _ recorded) waiting
  -- both ends have the ciphers of its salt
  obtain ⟨tunnel, accepted⟩ : ∃ tunnel, openTunnel lookup cfg draws.nonce.bytes header host
      { ready with stream } = (.ok tunnel, { ready with stream }) :=
    openTunnel_ok resolved found both
  obtain ⟨hostEq, _, _, ⟨ciphers', derived', tunnelEq⟩, _⟩ := openTunnel_inv accepted
  obtain rfl := Outcome.ok.inj (derived'.symm.trans both)
  refine ⟨tunnel, { ready with stream }, ?_, left, hostEq, ?_, by rw [tunnelEq]; rfl⟩
  · rw [startTunnel, bind_ok upgraded, decoded, bind_ok accepted]
    rfl
  · rw [← preferIpv4_eq]
    exact (openTunnel_addr resolved accepted).symm

omit [Socket S] [Socket S'] [Hashes] in
/-- What both ends of a conversation get, when the headers are of one kind. -/
theorem talked_transparent (correct : Aead.Correct) {near : EncryptedStream S' R'}
    {far : EncryptedStream S R} {ciphers : Cipher × Cipher} {padding padding' : DataPadding}
    (needed : padding'.needed = padding.needed) {encLimit : Nat} {rng : R'} {rng' : R}
    (nearEq : near.mapInner (fun _ => Endpoint.empty) =
      .fromStream .empty ciphers.2 ciphers.1 padding encLimit rng)
    (farEq : far.mapInner (fun _ => Endpoint.empty) =
      .fromStream .empty ciphers.1 ciphers.2 padding' encLimit rng')
    (events : List TalkEvent) : let talk := talked near far events
      talk.far.down.passed <+: talk.near.written ∧ talk.near.down.passed <+: talk.far.written ∧
      (talk.Delivered → talk.far.down.passed = talk.near.written) ∧
      (talk.swap.Delivered → talk.near.down.passed = talk.far.written) := by
  intro talk
  obtain ⟨codec, codec', begun⟩ := Conversation.start_inv (ciphers.2, ciphers.1) ciphers
    ⟨rfl, rfl, rfl⟩ ⟨rfl, rfl, rfl⟩ needed encLimit rng rng'
  have inv : talk.Inv codec codec' := by
    apply Conversation.run_inv correct
    rw [nearEq, farEq]
    exact begun
  obtain ⟨out, outAll⟩ := inv.out_transparent
  obtain ⟨back, backAll⟩ := inv.swap.out_transparent
  exact ⟨out, back, outAll, backAll⟩

/-- The server opens the tunnel to the host that the client asked for, at the
first IPv4 address of it or else at the first address.  Whatever the two plain
peers write into it and however the calls of both ends come, each of them gets
a prefix of what the other one wrote, and all of it once nothing is on its
way. -/
theorem tunnel_transparent (correct : Aead.Correct) (buffered : Buffered holds) (build : Build)
    (lookup : String → Except IoError (List SocketAddr)) {cfg : AppConfig} {host : String}
    {clientTime serverTime : Int}
    {sender sent after : Connection S' R'} {packet : TunnelPacket}
    {clientStream : EncryptedStream S' R'} {connection ready : Connection S R} {rest : Bytes}
    (long : minHostLen ≤ strLen host) (short : strLen host ≤ 259)
    (positive : cfg.protocol.maxConnectDelay.toNat ≠ 0)
    (bucket : serverTime.tdiv cfg.protocol.maxConnectDelay.toNat -
      clientTime.tdiv cfg.protocol.maxConnectDelay.toNat ∈ [0, 1])
    (built : tunnelPacket build cfg.protocol host clientTime sender = (.ok packet, sent))
    (ran : processTunnel build cfg.protocol host clientTime sender = (.ok clientStream, after))
    (wrong : ∀ record, .sealed record ∈ sent.history → ∀ other,
      cfg.protocol.kdf.deriveKeyFromTimestamp (utf8Bytes cfg.protocol.key)
        (serverTime.tdiv cfg.protocol.maxConnectDelay.toNat) = .ok other → record.FailsUnder other)
    {addresses : List SocketAddr} (resolved : lookup host = .ok addresses)
    (found : addresses ≠ []) {socketAddr : SocketAddr} {urlPath : String} {upgradeSupport : Bool}
    (upgraded : acceptUpgrade socketAddr cfg urlPath upgradeSupport connection = (.ok (), ready))
    (waiting : holds ready.stream (packet.bytes ++ rest)) :
    ∃ tunnel next, startTunnel lookup socketAddr serverTime cfg urlPath upgradeSupport connection =
        (.ok (some tunnel), next) ∧ holds next.stream rest ∧ tunnel.host = host ∧
      some tunnel.addr = (addresses.find? (IpAddr.isIpv4 ·.ip)).or addresses.head? ∧
      ∀ events, let talk := talked clientStream tunnel.client events
        talk.far.down.passed <+: talk.near.written ∧ talk.near.down.passed <+: talk.far.written ∧
        (talk.Delivered → talk.far.down.passed = talk.near.written) ∧
        (talk.swap.Delivered → talk.near.down.passed = talk.far.written) := by
  obtain ⟨packet, next, ciphers, packed, both, clientEq⟩ := processTunnel_stream ran
  obtain rfl := Outcome.ok.inj (Prod.mk.inj (packed.symm.trans built)).1
  obtain ⟨tunnel, next, accepted, left, hostEq, addr, tunnelEq⟩ :=
    startTunnel_packet correct buffered build lookup long short positive bucket built wrong both
      resolved found upgraded waiting
  have nearEq : clientStream.mapInner (fun _ => Endpoint.empty) = .fromStream .empty ciphers.2
      ciphers.1 cfg.protocol.dataPadding cfg.protocol.encryptionLimit.toNat clientStream.rng := by
    rw [clientEq]
    rfl
  exact ⟨tunnel, next, accepted, left, hostEq, addr,
    talked_transparent correct rfl nearEq tunnelEq⟩

end Opened

section Runs

variable [Hashes]

/-- Both directions of a pair. -/
theorem newClientServer_keys {kind : CipherType} {kdf : Kdf} {pass salt : Bytes}
    {ciphers : Cipher × Cipher} (sized : salt.length = 32)
    (built : Cipher.newClientServer kind kdf pass salt = .ok ciphers) :
    (kdf.deriveClientKey pass salt = .ok ciphers.1.key ∧ ciphers.1.Unused) ∧
      kdf.deriveServerKey pass salt = .ok ciphers.2.key ∧ ciphers.2.Unused := by
  obtain ⟨server, _, unused⟩ := Cipher.newClientServer_server sized built
  refine ⟨?_, server, unused⟩
  cases client : kdf.deriveClientKey pass salt with
  | error message =>
      rw [Cipher.newClientServer, client] at built
      cases built
  | ok clientKey =>
      rw [Cipher.newClientServer_ok sized client server] at built
      have first := congrArg Prod.fst (Outcome.ok.inj built)
      rw [← first]
      exact ⟨rfl, rfl, rfl⟩

variable [Aead] {S R S' R' : Type} [Rng R] [Rng R']

/-- The stream of a server that opened a tunnel with this salt. -/
def ServerSide (protocol : ProtocolConfig) (salt : Bytes) (stream : EncryptedStream S' R') : Prop :=
  ∃ inner ciphers rng, Cipher.newClientServer protocol.cipher protocol.kdf (utf8Bytes protocol.key)
      salt = .ok ciphers ∧
    stream = .fromStream inner ciphers.1 ciphers.2 protocol.dataPadding
      protocol.encryptionLimit.toNat rng

theorem startTunnel_serverSide [Socket S'] {lookup : String → Except IoError (List SocketAddr)}
    {socketAddr : SocketAddr} {connectTime : Int} {cfg : AppConfig} {urlPath : String}
    {upgradeSupport : Bool} {tunnel : Tunnel S' R'} {connection after : Connection S' R'}
    (run : startTunnel lookup socketAddr connectTime cfg urlPath upgradeSupport connection =
      (.ok (some tunnel), after)) : ServerSide cfg.protocol tunnel.header.salt tunnel.client := by
  obtain ⟨⟨front, _, accepted⟩, _⟩ := startTunnel_inv run
  exact accepted.client

/-- A tunnel: what the client ran, the stream of a server with the same salt,
and how the calls of both ends came. -/
structure TunnelRun (protocol : ProtocolConfig) (S R S' R' : Type) [Socket S] [Rng R] where
  build : Build
  host : String
  now : Int
  clock : -2 ^ 63 ≤ now ∧ now < 2 ^ 63
  sender : Connection S R
  packet : TunnelPacket
  sent : Connection S R
  built : tunnelPacket build protocol host now sender = (.ok packet, sent)
  client : EncryptedStream S R
  after : Connection S R
  ran : processTunnel build protocol host now sender = (.ok client, after)
  server : EncryptedStream S' R'
  salted : ServerSide protocol packet.salt server
  events : List TalkEvent

namespace TunnelRun

variable [Socket S] {protocol : ProtocolConfig}

def talk (run : TunnelRun protocol S R S' R') : Conversation R R' :=
  talked run.client run.server run.events

variable (run : TunnelRun protocol S R S' R')

omit [Rng R'] in
theorem salt_length : run.packet.salt.length = 32 := tunnelPacket_salt run.built

omit [Rng R'] in
/-- Both streams start with the ciphers of the salt. -/
theorem begins : ∃ ciphers rng, Cipher.newClientServer protocol.cipher protocol.kdf
      (utf8Bytes protocol.key) run.packet.salt = .ok ciphers ∧
    run.client.mapInner (fun _ => Endpoint.empty) = .fromStream .empty ciphers.2 ciphers.1
      protocol.dataPadding protocol.encryptionLimit.toNat run.client.rng ∧
    run.server.mapInner (fun _ => Endpoint.empty) = .fromStream .empty ciphers.1 ciphers.2
      protocol.dataPadding protocol.encryptionLimit.toNat rng := by
  obtain ⟨packet, sent, ciphers, packed, both, client⟩ := processTunnel_stream run.ran
  obtain rfl := Outcome.ok.inj (Prod.mk.inj (packed.symm.trans run.built)).1
  obtain ⟨inner, ciphers', rng, both', server⟩ := run.salted
  obtain rfl := Outcome.ok.inj (both'.symm.trans both)
  exact ⟨ciphers', rng, both, by rw [client]; rfl, by rw [server]; rfl⟩

omit [Hashes] [Rng R] [Rng R'] in
/-- Streams that start with both ciphers are in step both ways. -/
theorem starts_inv (ciphers : Cipher × Cipher) (padding : DataPadding) (encLimit : Nat) (rng : R)
    (rng' : R') : ∃ codec codec',
      (Conversation.start (.fromStream .empty ciphers.2 ciphers.1 padding encLimit rng)
        (.fromStream .empty ciphers.1 ciphers.2 padding encLimit rng')).Inv codec codec' :=
  Conversation.start_inv (ciphers.2, ciphers.1) ciphers ⟨rfl, rfl, rfl⟩ ⟨rfl, rfl, rfl⟩ rfl
    encLimit rng rng'

end TunnelRun

end Runs

def peerV6 : SocketAddr where
  ip := .v6 (Vector.replicate 8 0)
  port := 80

/-- The tunnel of the last moment, to a host with an address of either kind. -/
def openBoth (incoming : Bytes) :
    Outcome Error (Option (Tunnel Loaded Unit)) × Connection Loaded Unit :=
  @startTunnel Loaded Unit _ _ Aead.tagging Hashes.folding (fun _ => .ok [peerV6, peer]) peer 10000
    (sampleConfig ⟨200, 300⟩) "" false ⟨⟨incoming, []⟩, (), []⟩

def lastStream : Outcome Error (EncryptedStream Loaded Unit) × Connection Loaded Unit :=
  @processTunnel Loaded Unit Aead.tagging Hashes.folding _ _ .release
    (sampleConfig ⟨200, 300⟩).protocol "a.org:80" 9999 ⟨⟨[], []⟩, (), []⟩

theorem lastStream_ok : ∃ stream after, lastStream = (.ok stream, after) := by
  have opened : lastStream.1.isOkAnd (fun _ => true) = true := by decide +kernel
  obtain ⟨stream, ran, _⟩ := Outcome.isOkAnd_eq_true.mp opened
  exact ⟨stream, lastStream.2, Prod.ext ran (Eq.refl lastStream.2)⟩

theorem tunnel_transparent_sample : ∃ packet tunnel stream, lastMoment.1 = .ok packet ∧
    (openBoth packet.bytes).1 = .ok (some tunnel) ∧ tunnel.host = "a.org:80" ∧ tunnel.addr = peer ∧
    lastStream.1 = .ok stream ∧ ∀ events,
      (@talked _ _ _ _ _ _ Aead.tagging stream tunnel.client events).far.down.passed <+:
        (@talked _ _ _ _ _ _ Aead.tagging stream tunnel.client events).near.written := by
  let _ := Aead.tagging
  let _ := Hashes.folding
  obtain ⟨packet, sent, run, _⟩ := lastMoment_ok
  obtain ⟨stream, after, ran⟩ := lastStream_ok
  let cfg := sampleConfig ⟨200, 300⟩
  let connection : Connection Loaded Unit := ⟨⟨packet.bytes, []⟩, (), []⟩
  have bucket : (10000 : Int).tdiv cfg.protocol.maxConnectDelay.toNat -
      (9999 : Int).tdiv cfg.protocol.maxConnectDelay.toNat ∈ [0, 1] := by decide
  have upgraded : acceptUpgrade peer cfg "" false connection = (.ok (), connection) := rfl
  have waiting : connection.stream.incoming = packet.bytes ++ [] := (List.append_nil _).symm
  obtain ⟨tunnel, next, accepted, _, host, addr, transparent⟩ :=
    tunnel_transparent Aead.tagging_correct loaded_buffered .release
      (fun _ => .ok [peerV6, peer]) (by decide) (by decide) (by decide) bucket run ran
      (lastMoment_closed run) rfl (by simp) upgraded waiting
  exact ⟨packet, tunnel, stream, by rw [run], congrArg Prod.fst accepted, host,
    Option.some.inj addr, by rw [ran], fun events => (transparent events).1⟩

/-- The application and the target each write something, and both get it. -/
def bothTalk : List TalkEvent :=
  let accept : List WriteReply := [.accept 1000, .accept 1000]
  let ready : List ReadReply := List.replicate 8 (.upTo 1000)
  [.near (.speak [1, 2, 3]), .far (.speak [9]), .near (.pull 2), .near (.push accept),
    .near (.carry 9), .far (.poll 100 ready), .near (.pull 5), .near (.push accept),
    .near (.flush accept (.ready (.ok ()))), .near (.carry 1000), .far (.poll 1 ready),
    .far (.pull 100), .far (.push accept), .far (.carry 1000), .near (.poll 100 ready),
    .far (.hand 1), .far (.poll 100 ready), .far (.poll 100 ready), .near (.hand 100),
    .far (.hand 100)]

def sampleProtocol : ProtocolConfig := (sampleConfig ⟨200, 300⟩).protocol

def SampleTunnel : Type :=
  @TunnelRun Hashes.folding Aead.tagging sampleProtocol Loaded Unit Loaded Unit _ _

def SampleTunnel.events (tunnel : SampleTunnel) : List TalkEvent :=
  @TunnelRun.events Hashes.folding Aead.tagging _ _ _ _ _ _ _ tunnel

/-- A run of the last moment, in which both talk. -/
def sampleTunnel {packet : TunnelPacket} {sent after : Connection Loaded Unit}
    {stream : EncryptedStream Loaded Unit} {ciphers : Cipher × Cipher}
    (built : lastMoment = (.ok packet, sent)) (ran : lastStream = (.ok stream, after))
    (both : @Cipher.newClientServer Hashes.folding sampleProtocol.cipher sampleProtocol.kdf
      (utf8Bytes sampleProtocol.key) packet.salt = .ok ciphers) : SampleTunnel :=
  let _ := Hashes.folding
  let _ := Aead.tagging
  { build := .release
    host := "a.org:80"
    now := 9999
    clock := by decide
    sender := ⟨⟨[], []⟩, (), []⟩
    packet := packet
    sent := sent
    built := built
    client := stream
    after := after
    ran := ran
    server := .fromStream ⟨[], []⟩ ciphers.1 ciphers.2 sampleProtocol.dataPadding
      sampleProtocol.encryptionLimit.toNat ()
    salted := ⟨_, ciphers, _, both, rfl⟩
    events := bothTalk }

def sampleTalk : Option (Bytes × Bytes) :=
  match lastStream.1, lastMoment.1 with
  | .ok stream, .ok packet =>
      match (openBoth packet.bytes).1 with
      | .ok (some tunnel) =>
          let talk := @talked _ _ _ _ _ _ Aead.tagging stream tunnel.client bothTalk
          some (talk.far.down.passed, talk.near.down.passed)
      | _ => none
  | _, _ => none

example : sampleTalk = some ([1, 2, 3], [9]) := by
  decide +kernel

end CovertConnect.Tunnel
