import CovertConnect.Crypto.Stream.Mismatch
import CovertConnect.Flutter.Restart
import CovertConnect.Tunnel.Conversation

namespace CovertConnect.Tunnel

open CovertConnect.Data CovertConnect.Data.Exec
open CovertConnect.Crypto CovertConnect.Crypto.Connection
open CovertConnect.Client CovertConnect.Server
open CovertConnect.Flutter (Wrappers.ProtocolConfig Wrappers.ServerConfig restartedServer
  withoutMark)

/-! # Tunnels after a restart

The user interface keeps the rate of the data padding and drops its size, and
the server is not told.  The header of the tunnel names no data padding, so the
server opens the tunnel all the same. -/

namespace Conversation

variable {N F : Type} [Aead]

/-- Both ends are deaf and have returned nothing. -/
structure Mute (this : Conversation N F) : Prop where
  duplex : this.duplex.Deaf
  near : this.near.down.taken = []
  far : this.far.down.taken = []

theorem Mute.passed {this : Conversation N F} (mute : this.Mute) :
    this.near.down.passed = [] ∧ this.far.down.passed = [] := by
  have near := this.near.down.whole
  have far := this.far.down.whole
  rw [mute.near] at near
  rw [mute.far] at far
  exact ⟨(List.append_eq_nil_iff.mp near.symm).1, (List.append_eq_nil_iff.mp far.symm).1⟩

theorem Mute.swap {this : Conversation N F} (mute : this.Mute) : this.swap.Mute :=
  ⟨mute.duplex.swap, mute.far, mute.near⟩

variable [Rng N] [Rng F] {codec codec' : Codec} {start start' : Place} {count : Nat}

theorem nearStep_sent (this : Conversation N F)
    (sent : this.duplex.Sent codec codec' start start' count) (event : SideEvent) :
    (this.nearStep event).duplex.Sent codec codec' start start' (count + 1) := by
  rcases this.nearStep_duplex event with same | ⟨next, stepped⟩
  · rw [same]
    exact ⟨sent.near.later, sent.far.later⟩
  · rw [stepped]
    exact Duplex.step_sent sent next

theorem step_sent (this : Conversation N F)
    (sent : this.duplex.Sent codec codec' start start' count) (event : TalkEvent) :
    (this.step event).duplex.Sent codec codec' start start' (count + 1) := by
  cases event with
  | near event => exact this.nearStep_sent sent event
  | far event => exact (this.swap.nearStep_sent sent.swap event).swap

theorem run_sent (this : Conversation N F)
    (sent : this.duplex.Sent codec codec' start start' count) (events : List TalkEvent) :
    (this.run events).duplex.Sent codec codec' start start' (count + events.length) := by
  induction events generalizing this count with
  | nil => exact sent
  | cons event events ih =>
      have rest := ih _ (this.step_sent sent event)
      rwa [Nat.add_right_comm] at rest

theorem nearStep_mute (this : Conversation N F)
    (sent : this.duplex.Sent codec codec' start start' count) (mute : this.Mute)
    (event : SideEvent) : (this.nearStep event).Mute := by
  have deaf : (this.nearStep event).duplex.Deaf := by
    rcases this.nearStep_duplex event with same | ⟨next, stepped⟩
    · rw [same]
      exact mute.duplex
    · rw [stepped]
      exact Duplex.step_deaf sent mute.duplex next
  cases event with
  | poll remaining replies =>
      refine ⟨deaf, ?_, mute.far⟩
      have scripted : (Link.scripted this.duplex.near replies).Deaf :=
        mute.duplex.near.refill _ mute.duplex.near.short
      change this.near.down.taken ++ EncryptedStream.delivered _ = []
      rw [mute.near]
      exact (scripted.pollRead remaining).2
  | speak _ | pull _ | push _ | flush _ _ | shutdown _ _ | carry _ | hand _ =>
      exact ⟨deaf, mute.near, mute.far⟩

theorem run_mute (this : Conversation N F)
    (sent : this.duplex.Sent codec codec' start start' count) (mute : this.Mute)
    (events : List TalkEvent) : (this.run events).Mute := by
  induction events generalizing this count with
  | nil => exact mute
  | cons event events ih =>
      refine ih _ (this.step_sent sent event) ?_
      cases event with
      | near event => exact this.nearStep_mute sent mute event
      | far event => exact (this.swap.nearStep_mute sent.swap mute.swap event).swap

/-- Ends whose headers are of different kinds, when each of them is the only one
that seals under its key. -/
theorem start_mute (near far : Cipher × Cipher) (out : near.2.InStep far.1)
    (back : far.2.InStep near.1) (unused : near.2.Unused) (unused' : far.2.Unused)
    {padding padding' : DataPadding} (differ : padding'.needed ≠ padding.needed) (encLimit : Nat)
    (rng : N) (rng' : F) {events : List TalkEvent} (few : events.length < 2 ^ 80) :
    let ended := (Conversation.start (.fromStream .empty near.1 near.2 padding encLimit rng)
      (.fromStream .empty far.1 far.2 padding' encLimit rng')).run events
    ended.duplex.near.writeCipher.OpensOwn → ended.duplex.far.writeCipher.OpensOwn →
      ended.Mute := by
  intro ended ideal ideal'
  let begun := Conversation.start (.fromStream .empty near.1 near.2 padding encLimit rng)
    (.fromStream .empty far.1 far.2 padding' encLimit rng')
  have sent : begun.duplex.Sent ⟨near.2.kind, near.2.key, padding.needed, encLimit⟩
      ⟨far.2.kind, far.2.key, padding'.needed, encLimit⟩ ⟨near.2.nonce, 0⟩ ⟨far.2.nonce, 0⟩ 0 :=
    ⟨⟨[], Nat.le_refl 0, Sender.fresh_sent unused _ _ _ _ _⟩,
      ⟨[], Nat.le_refl 0, Sender.fresh_sent unused' _ _ _ _ _⟩⟩
  have last : ended.duplex.Sent _ _ _ _ _ := begun.run_sent sent events
  rw [Nat.zero_add] at last
  have deaf : begun.duplex.Deaf :=
    ⟨last.far.deaf few ideal' back.kind back.key back.nonce differ.symm _ _ _ _,
      last.near.deaf few ideal out.kind out.key out.nonce differ _ _ _ _⟩
  exact begun.run_mute sent ⟨deaf, rfl, rfl⟩ events

end Conversation

/-- The size of the data padding has become its rate. -/
def restarted (protocol : ProtocolConfig) : ProtocolConfig :=
  { protocol with
    dataPadding := { protocol.dataPadding with max := protocol.dataPadding.rate.toUInt16 } }

section Restarted

variable [Hashes]

theorem restartedServer_protocol (lookup : String → Except IoError (List SocketAddr)) {srv : Server}
    (unmarked : withoutMark srv.config.protocol.key = srv.config.protocol.key) :
    (restartedServer lookup srv).config.protocol = restarted srv.config.protocol := by
  let config := (Wrappers.ServerConfig.ofClient srv.config).reopened.into
  have same : (config.initOrKeep lookup).protocol = config.protocol := by
    cases found : config.init lookup with
    | error error => rw [ServerConfig.initOrKeep_error found]
    | ok initialized =>
        obtain ⟨connCfg, _, rfl⟩ := ServerConfig.init_inv found
        rw [ServerConfig.initOrKeep_ok found]
  refine same.trans ?_
  change (Wrappers.ProtocolConfig.ofCrypto srv.config.protocol).reopened.into = _
  rw [Wrappers.ProtocolConfig.reopened, Wrappers.ProtocolConfig.into,
    Wrappers.ProtocolConfig.ofCrypto, unmarked]
  rfl

omit [Hashes] in
/-- Without a size there was no padding, whatever the rate. -/
theorem restarted_needed (protocol : ProtocolConfig) :
    (restarted protocol).dataPadding.needed = protocol.dataPadding.needed ↔
      ¬(protocol.dataPadding.max = 0 ∧ 0 < protocol.dataPadding.rate) := by
  change DataPadding.needed ⟨protocol.dataPadding.rate.toUInt16, protocol.dataPadding.rate⟩ =
    protocol.dataPadding.needed ↔ _
  obtain ⟨max, rate⟩ := protocol.dataPadding
  have sized : 0 < rate.toUInt16 ↔ 0 < rate := by
    rw [UInt16.lt_iff_toNat_lt, UInt8.lt_iff_toNat_lt, UInt8.toNat_toUInt16]
    rfl
  have unsized : max = 0 ↔ ¬0 < max := by
    rw [UInt16.lt_iff_toNat_lt, ← UInt16.toNat_inj]
    exact (Nat.not_lt.trans Nat.le_zero).symm
  simp only [DataPadding.needed, gt_iff_lt, sized, unsized]
  by_cases rated : 0 < rate <;> by_cases has : 0 < max <;> simp [rated, has]

variable {S R S' R' : Type} [Socket S] [Rng R] [Socket S'] [Rng R'] [Aead]
  {holds : S → Bytes → Prop}

/-- The stream that a restarted client puts on the tunnel. -/
theorem restarted_stream {build : Build} {protocol : ProtocolConfig} {host : String} {now : Int}
    {sender sent after : Connection S' R'} {packet : TunnelPacket} {client : EncryptedStream S' R'}
    (built : tunnelPacket build (restarted protocol) host now sender = (.ok packet, sent))
    (ran : processTunnel build (restarted protocol) host now sender = (.ok client, after)) :
    ∃ ciphers, Cipher.newClientServer protocol.cipher protocol.kdf (utf8Bytes protocol.key)
        packet.salt = .ok ciphers ∧
      client.mapInner (fun _ => Endpoint.empty) = .fromStream .empty ciphers.2 ciphers.1
        (restarted protocol).dataPadding protocol.encryptionLimit.toNat client.rng := by
  obtain ⟨packet, sent, ciphers, packed, both, stream⟩ := processTunnel_stream ran
  obtain rfl := Outcome.ok.inj (Prod.mk.inj (packed.symm.trans built)).1
  refine ⟨ciphers, both, ?_⟩
  rw [stream]
  rfl

/-- A client that was restarted goes on as before, unless its data padding had
a rate and no size. -/
theorem restarted_transparent (correct : Aead.Correct) (buffered : Buffered holds) (build : Build)
    (lookup lookup' : String → Except IoError (List SocketAddr)) {srv : Client.Server}
    {cfg : AppConfig} (configured : srv.config.protocol = cfg.protocol)
    (unmarked : withoutMark cfg.protocol.key = cfg.protocol.key)
    (sized : ¬(cfg.protocol.dataPadding.max = 0 ∧ 0 < cfg.protocol.dataPadding.rate))
    {host : String} {clientTime serverTime : Int} {sender sent after : Connection S' R'}
    {packet : TunnelPacket} {client : EncryptedStream S' R'} {connection ready : Connection S R}
    {rest : Bytes} (long : minHostLen ≤ strLen host) (short : strLen host ≤ 259)
    (positive : cfg.protocol.maxConnectDelay.toNat ≠ 0)
    (bucket : serverTime.tdiv cfg.protocol.maxConnectDelay.toNat -
      clientTime.tdiv cfg.protocol.maxConnectDelay.toNat ∈ [0, 1])
    (built : tunnelPacket build (restartedServer lookup' srv).config.protocol host clientTime
      sender = (.ok packet, sent))
    (ran : processTunnel build (restartedServer lookup' srv).config.protocol host clientTime
      sender = (.ok client, after))
    (wrong : ∀ record, .sealed record ∈ sent.history → ∀ other,
      cfg.protocol.kdf.deriveKeyFromTimestamp (utf8Bytes cfg.protocol.key)
        (serverTime.tdiv cfg.protocol.maxConnectDelay.toNat) = .ok other → record.FailsUnder other)
    {addresses : List SocketAddr} (resolved : lookup host = .ok addresses)
    (found : addresses ≠ []) {socketAddr : SocketAddr} {urlPath : String} {upgradeSupport : Bool}
    (upgraded : acceptUpgrade socketAddr cfg urlPath upgradeSupport connection = (.ok (), ready))
    (waiting : holds ready.stream (packet.bytes ++ rest)) :
    ∃ tunnel next, startTunnel lookup socketAddr serverTime cfg urlPath upgradeSupport connection =
        (.ok (some tunnel), next) ∧ holds next.stream rest ∧ tunnel.host = host ∧
      ∀ events, let talk := talked client tunnel.client events
        talk.far.down.passed <+: talk.near.written ∧ talk.near.down.passed <+: talk.far.written ∧
        (talk.Delivered → talk.far.down.passed = talk.near.written) ∧
        (talk.swap.Delivered → talk.near.down.passed = talk.far.written) := by
  rw [restartedServer_protocol lookup' (configured ▸ unmarked), configured] at built ran
  obtain ⟨ciphers, both, clientEq⟩ := restarted_stream built ran
  -- the packet is the one of the protocol as it was
  have built : tunnelPacket build cfg.protocol host clientTime sender = (.ok packet, sent) := built
  obtain ⟨tunnel, next, accepted, left, hostEq, _, tunnelEq⟩ :=
    startTunnel_packet correct buffered build lookup long short positive bucket built wrong both
      resolved found upgraded waiting
  exact ⟨tunnel, next, accepted, left, hostEq, talked_transparent correct
    ((restarted_needed cfg.protocol).mpr sized).symm clientEq tunnelEq⟩

omit [Socket S] in
/-- Otherwise nothing comes through in either direction, whatever the two peers
write and however the calls come. -/
theorem restarted_mute (build : Build) (lookup : String → Except IoError (List SocketAddr))
    {srv : Client.Server} {protocol : ProtocolConfig}
    (configured : srv.config.protocol = protocol)
    (unmarked : withoutMark protocol.key = protocol.key) (unsized : protocol.dataPadding.max = 0)
    (rated : 0 < protocol.dataPadding.rate) {host : String} {now : Int}
    {sender sent after : Connection S' R'} {packet : TunnelPacket} {client : EncryptedStream S' R'}
    {server : EncryptedStream S R}
    (built : tunnelPacket build (restartedServer lookup srv).config.protocol host now sender =
      (.ok packet, sent))
    (ran : processTunnel build (restartedServer lookup srv).config.protocol host now sender =
      (.ok client, after))
    (salted : ServerSide protocol packet.salt server) {events : List TalkEvent}
    (few : events.length < 2 ^ 80)
    (ideal : (talked client server events).duplex.near.writeCipher.OpensOwn)
    (ideal' : (talked client server events).duplex.far.writeCipher.OpensOwn) :
    (talked client server events).near.down.passed = [] ∧
      (talked client server events).far.down.passed = [] := by
  subst configured
  rw [restartedServer_protocol lookup unmarked] at built ran
  obtain ⟨ciphers, both, clientEq⟩ := restarted_stream built ran
  obtain ⟨inner, ciphers', rng, both', serverEq⟩ := salted
  obtain rfl := Outcome.ok.inj (both'.symm.trans both)
  obtain ⟨⟨_, unused⟩, _, unused'⟩ := newClientServer_keys (tunnelPacket_salt built) both
  have differ : srv.config.protocol.dataPadding.needed ≠
      (restarted srv.config.protocol).dataPadding.needed := fun same =>
    (restarted_needed srv.config.protocol).mp same.symm ⟨unsized, rated⟩
  have mute : (talked client server events).Mute := by
    have begun : Conversation.start (client.mapInner fun _ => Endpoint.empty)
        (server.mapInner fun _ => Endpoint.empty) = Conversation.start _ _ :=
      congrArg₂ Conversation.start clientEq (by rw [serverEq])
    rw [talked, begun] at ideal ideal' ⊢
    exact Conversation.start_mute (ciphers'.2, ciphers'.1) ciphers' ⟨rfl, rfl, rfl⟩
      ⟨rfl, rfl, rfl⟩ unused unused' differ _ _ rng few ideal ideal'
  exact mute.passed

end Restarted

/-- The sample configuration with this data padding. -/
def paddedConfig (max : UInt16) (rate : UInt8) : AppConfig :=
  { sampleConfig ⟨200, 300⟩ with
    protocol := { (sampleConfig ⟨200, 300⟩).protocol with dataPadding := ⟨max, rate⟩ } }

def keptServer (max : UInt16) (rate : UInt8) : Client.Server :=
  { idleServer "example.org" true with
    config :=
      { (idleServer "example.org" true).config with protocol := (paddedConfig max rate).protocol } }

def idleSender : Connection Loaded Unit := ⟨⟨[], []⟩, (), []⟩

def reopenedStream (aead : Aead) (max : UInt16) (rate : UInt8) :
    Outcome Error (EncryptedStream Loaded Unit) × Connection Loaded Unit :=
  @processTunnel Loaded Unit aead Hashes.folding _ _ .release
    (restarted (paddedConfig max rate).protocol) "a.org:80" 9999 idleSender

/-- A padding of 200 bytes has become one of 50 bytes. -/
theorem restarted_transparent_sample : ∃ stream after packet tunnel next,
    reopenedStream Aead.tagging 200 50 = (.ok stream, after) ∧ stream.padding = ⟨50, 50⟩ ∧
    lastMoment.1 = .ok packet ∧
    @startTunnel Loaded Unit _ _ Aead.tagging Hashes.folding (fun _ => .ok [peer]) peer 10000
      (paddedConfig 200 50) "" false ⟨⟨packet.bytes, []⟩, (), []⟩ = (.ok (some tunnel), next) ∧
    ∀ events, (@talked _ _ _ _ _ _ Aead.tagging stream tunnel.client events).far.down.passed <+:
      (@talked _ _ _ _ _ _ Aead.tagging stream tunnel.client events).near.written := by
  let _ := Aead.tagging
  let _ := Hashes.folding
  obtain ⟨packet, sent, run, _⟩ := lastMoment_ok
  have opened : (reopenedStream Aead.tagging 200 50).1.isOkAnd (·.padding == ⟨50, 50⟩) = true := by
    decide +kernel
  obtain ⟨stream, ran, padding⟩ := Outcome.isOkAnd_eq_true.mp opened
  let cfg := paddedConfig 200 50
  let connection : Connection Loaded Unit := ⟨⟨packet.bytes, []⟩, (), []⟩
  have bucket : (10000 : Int).tdiv cfg.protocol.maxConnectDelay.toNat -
      (9999 : Int).tdiv cfg.protocol.maxConnectDelay.toNat ∈ [0, 1] := by decide
  have upgraded : acceptUpgrade peer cfg "" false connection = (.ok (), connection) := rfl
  have waiting : connection.stream.incoming = packet.bytes ++ [] := (List.append_nil _).symm
  have unmarked : withoutMark cfg.protocol.key = cfg.protocol.key := by decide
  have protocol := restartedServer_protocol (fun _ => .ok [peer])
    (show withoutMark (keptServer 200 50).config.protocol.key = _ from unmarked)
  have built : tunnelPacket .release (restartedServer (fun _ => .ok [peer])
      (keptServer 200 50)).config.protocol "a.org:80" 9999 idleSender = (.ok packet, sent) := by
    rw [protocol]
    exact run
  have ran' : processTunnel .release (restartedServer (fun _ => .ok [peer])
      (keptServer 200 50)).config.protocol "a.org:80" 9999 idleSender =
        (.ok stream, (reopenedStream Aead.tagging 200 50).2) := by
    rw [protocol]
    exact Prod.ext ran rfl
  obtain ⟨tunnel, next, accepted, _, _, transparent⟩ :=
    restarted_transparent Aead.tagging_correct loaded_buffered .release (fun _ => .ok [peer])
      (fun _ => .ok [peer]) rfl unmarked (by decide) (by decide) (by decide) (by decide) bucket
      built ran' (lastMoment_closed run) rfl (by simp) upgraded waiting
  exact ⟨stream, _, packet, tunnel, next, Prod.ext ran rfl, eq_of_beq padding, by rw [run],
    accepted, fun events => (transparent events).1⟩

/-- The application writes, and what it wrote is brought to the other end. -/
def lostTalk : List TalkEvent :=
  [.near (.speak [1, 2, 3]), .near (.pull 5), .near (.push [.accept 1000, .accept 1000]),
    .near (.carry 1000), .far (.poll 100 (List.replicate 4 (.upTo 1000))), .far (.hand 100)]

/-- A server that still goes by what was configured, with the salt of the client. -/
def unsizedPeer (client : EncryptedStream Loaded Unit) : EncryptedStream Loaded Unit :=
  .fromStream ⟨[], []⟩ client.writeCipher client.readCipher (paddedConfig 0 50).protocol.dataPadding
    (paddedConfig 0 50).protocol.encryptionLimit.toNat ()

def lostLog : List SealRecord :=
  match (reopenedStream Aead.tagging 0 50).1 with
  | .ok client =>
      (@talked _ _ _ _ _ _ Aead.tagging client (unsizedPeer client)
        lostTalk).duplex.near.writeCipher.sealed
  | _ => []

/-- The stream took all that the application wrote and sealed what is in the
log, which has nothing under the key of the server. -/
def lostEnd (client : EncryptedStream Loaded Unit) : Bool :=
  let ended := @talked _ _ _ _ _ _ (Aead.ledger lostLog) client (unsizedPeer client) lostTalk
  ended.near.up.passed == [1, 2, 3] && ended.duplex.near.writeCipher.sealed == lostLog &&
    lostLog.all (·.key != ended.duplex.far.writeCipher.key)

theorem restarted_mute_sample : ∃ stream after,
    reopenedStream (Aead.ledger lostLog) 0 50 = (.ok stream, after) ∧
      let ended := @talked _ _ _ _ _ _ (Aead.ledger lostLog) stream (unsizedPeer stream) lostTalk
      ended.near.up.passed = [1, 2, 3] ∧ ended.far.down.passed = [] := by
  let _ := Aead.ledger lostLog
  let _ := Hashes.folding
  have opened : (reopenedStream (Aead.ledger lostLog) 0 50).1.isOkAnd lostEnd = true := by
    decide +kernel
  obtain ⟨stream, ran, ends⟩ := Outcome.isOkAnd_eq_true.mp opened
  rw [lostEnd, Bool.and_eq_true, Bool.and_eq_true] at ends
  obtain ⟨⟨took, logged⟩, others⟩ := ends
  let ended := talked stream (unsizedPeer stream) lostTalk
  have unmarked : withoutMark (paddedConfig 0 50).protocol.key =
      (paddedConfig 0 50).protocol.key := by decide
  have protocol := restartedServer_protocol (fun _ => .ok [peer])
    (show withoutMark (keptServer 0 50).config.protocol.key = _ from unmarked)
  have ran' : processTunnel .release (restartedServer (fun _ => .ok [peer])
      (keptServer 0 50)).config.protocol "a.org:80" 9999 idleSender =
        (.ok stream, (reopenedStream (Aead.ledger lostLog) 0 50).2) := by
    rw [protocol]
    exact Prod.ext ran rfl
  obtain ⟨packet, sent, ciphers, built, both, streamEq⟩ := processTunnel_stream ran'
  rw [protocol] at both streamEq
  have salted : ServerSide (paddedConfig 0 50).protocol packet.salt (unsizedPeer stream) :=
    ⟨_, ciphers, (), both, by rw [streamEq]; rfl⟩
  have ideal : ended.duplex.near.writeCipher.OpensOwn := by
    rw [Cipher.OpensOwn, eq_of_beq logged]
    exact Aead.ledger_opensOnly _ _ lostLog
  have ideal' : ended.duplex.far.writeCipher.OpensOwn := by
    intro nonce data tag plain opened
    obtain ⟨listed, _⟩ := Aead.ledger_opensOnly _ _ lostLog nonce data tag plain opened
    have other := List.all_eq_true.mp others _ listed
    exact absurd rfl (bne_iff_ne.mp other)
  have mute := restarted_mute .release (fun _ => .ok [peer]) rfl unmarked rfl (by decide) built ran'
    salted (by decide) ideal ideal'
  exact ⟨stream, _, Prod.ext ran rfl, eq_of_beq took, mute.2⟩

end CovertConnect.Tunnel
