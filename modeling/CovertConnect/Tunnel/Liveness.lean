import CovertConnect.Crypto.Stream.Progress
import CovertConnect.Tunnel.Conversation

namespace CovertConnect.Tunnel

open CovertConnect.Data CovertConnect.Data.Exec
open CovertConnect.Crypto CovertConnect.Crypto.Connection
open CovertConnect.Client CovertConnect.Server

/-! # A tunnel never wedges

Whatever has happened in a tunnel, events that only move bytes on can bring
everything that was written to the peer that it is for. -/

/-- The event moves bytes from the near peer towards the far one. -/
def TalkEvent.Outward : TalkEvent → Prop
  | .near (.pull _) | .near (.push _) | .near (.flush _ _) | .near (.carry _) => True
  | .far (.poll _ _) | .far (.hand _) => True
  | _ => False

def TalkEvent.swap : TalkEvent → TalkEvent
  | .near event => .far event
  | .far event => .near event

@[simp] theorem TalkEvent.swap_swap (event : TalkEvent) : event.swap.swap = event := by
  cases event <;> rfl

/-- The event moves bytes from the far peer towards the near one. -/
def TalkEvent.Inward (event : TalkEvent) : Prop := event.swap.Outward

namespace Conversation

variable {N F : Type} [Aead] [Rng N] [Rng F] {codec codec' : Codec}

theorem step_swap (this : Conversation N F) (event : TalkEvent) :
    this.swap.step event = (this.step event.swap).swap := by
  cases event <;> rfl

theorem reaches_swap {this : Conversation N F} {after : Conversation F N}
    (reaches : Reaches step TalkEvent.Outward this.swap after) :
    Reaches step TalkEvent.Inward this after.swap := by
  obtain ⟨events, outward, rfl⟩ := reaches
  refine ⟨events.map TalkEvent.swap, ?_, ?_⟩
  · intro event found
    obtain ⟨event, member, rfl⟩ := List.mem_map.mp found
    rw [TalkEvent.Inward, TalkEvent.swap_swap]
    exact outward event member
  · clear outward
    induction events generalizing this with
    | nil => rfl
    | cons event events ih =>
        rw [List.map_cons, List.foldl_cons, List.foldl_cons, ih, step_swap]

/-- What is moved outward leaves what both peers wrote, and what the near one
has, as they are. -/
structure Outside (this after : Conversation N F) : Prop where
  near : after.near.written = this.near.written
  far : after.far.written = this.far.written
  down : after.near.down = this.near.down

theorem step_outside (this : Conversation N F) {event : TalkEvent} (outward : event.Outward) :
    Outside this (this.step event) := by
  cases event with
  | near event =>
      cases event with
      | speak _ | shutdown _ _ | poll _ _ | hand _ => exact absurd outward id
      | pull _ | push _ | flush _ _ | carry _ => exact ⟨rfl, rfl, rfl⟩
  | far event =>
      cases event with
      | speak _ | shutdown _ _ | pull _ | push _ | flush _ _ | carry _ => exact absurd outward id
      | poll _ _ | hand _ => exact ⟨rfl, rfl, rfl⟩

theorem reaches_outside {this after : Conversation N F}
    (reaches : Reaches step TalkEvent.Outward this after) : Outside this after :=
  reaches.keeps (Outside this) ⟨rfl, rfl, rfl⟩ fun _ _ kept outward =>
    let moved := step_outside _ outward
    ⟨moved.near.trans kept.near, moved.far.trans kept.far, moved.down.trans kept.down⟩

/-- The relay of the near end has read all that its peer wrote. -/
def Pulled (this : Conversation N F) : Prop :=
  this.near.up.taken = this.near.written

/-- The near stream has all of it too. -/
structure Pushed (this : Conversation N F) : Prop where
  pulled : this.Pulled
  held : this.near.up.held = []

/-- And nothing is left on this side of the far stream. -/
structure Arrived (this : Conversation N F) : Prop where
  pushed : this.Pushed
  unsent : this.duplex.link.writer.unsent = []
  underway : this.duplex.link.underway = []

theorem pulls {this : Conversation N F} (inv : this.Inv codec codec') :
    (this.step (.near (.pull this.near.written.length))).Pulled := by
  obtain ⟨rest, whole⟩ := inv.near.source
  change this.near.up.taken ++ ((this.near.written.drop this.near.up.taken.length).take
    this.near.written.length) = this.near.written
  rw [List.take_of_length_le (by rw [List.length_drop]; omega), ← whole, List.drop_left]

omit [Rng F] in
theorem accepts_prompt {this : Conversation N F} (inv : this.Inv codec codec') :
    this.duplex.link.accepts this.near.up.held this.duplex.link.promptly =
      min maxPacketSize this.near.up.held.length := by
  rw [Link.accepts, EncryptedStream.pollWrite_prompt
    (show (Link.withReplies this.duplex.link.writer this.duplex.link.promptly .pending).writePos ≤ _
      from inv.duplex.out.inside) rfl (Nat.le_succ this.duplex.link.writer.unsent.length)]

/-- The relay pushes as long as it holds something. -/
theorem pushes (correct : Aead.Correct) {this : Conversation N F} (inv : this.Inv codec codec')
    (pulled : this.Pulled) : ∃ after, Reaches step TalkEvent.Outward this after ∧
      after.Inv codec codec' ∧ after.Pushed := by
  have progress : ∀ this : Conversation N F, this.Inv codec codec' ∧ this.Pulled →
      ¬ this.near.up.held = [] → ∃ event : TalkEvent, event.Outward ∧
        ((this.step event).Inv codec codec' ∧ (this.step event).Pulled) ∧
        (this.step event).near.up.held.length < this.near.up.held.length := by
    intro this sound some
    obtain ⟨inv, pulled⟩ := sound
    refine ⟨.near (.push this.duplex.link.promptly), trivial, ⟨step_inv correct inv _, pulled⟩, ?_⟩
    change (this.near.up.held.drop _).length < _
    have positive := List.length_pos_iff.mpr some
    have room : 0 < maxPacketSize := by decide
    rw [accepts_prompt inv, List.length_drop]
    omega
  obtain ⟨after, reaches, ⟨inv', pulled'⟩, held⟩ :=
    Reaches.attains (fun this : Conversation N F => this.Inv codec codec' ∧ this.Pulled)
      (fun this => this.near.up.held = []) (fun this => this.near.up.held.length) progress
      ⟨inv, pulled⟩
  exact ⟨after, reaches, inv', pulled', held⟩

/-- A flush and the transport bring it to the far stream. -/
theorem arrives (correct : Aead.Correct) {this : Conversation N F} (inv : this.Inv codec codec')
    (pushed : this.Pushed) : ∃ after, Reaches step TalkEvent.Outward this after ∧
      after.Inv codec codec' ∧ after.Arrived := by
  let flushed := this.step (.near (.flush this.duplex.link.promptly (.ready (.ok ()))))
  have inv₁ : flushed.Inv codec codec' := step_inv correct inv _
  have unsent : flushed.duplex.link.writer.unsent = [] :=
    inv₁.duplex.out.flushed (this.duplex.link.flush_prompt inv.duplex.out.inside)
  let carried := flushed.step (.near (.carry flushed.duplex.link.underway.length))
  have underway : carried.duplex.link.underway = [] :=
    Link.carry_all inv₁.duplex.out.carried_le
  refine ⟨carried, (Reaches.single this trivial).trans (Reaches.single flushed trivial),
    step_inv correct inv₁ _, ⟨pushed.pulled, pushed.held⟩, unsent, underway⟩

/-- The far stream is polled until it owes nothing. -/
theorem polls (correct : Aead.Correct) {this : Conversation N F} (inv : this.Inv codec codec')
    (arrived : this.Arrived) : ∃ after, Reaches step TalkEvent.Outward this after ∧
      (after.Inv codec codec' ∧ after.Arrived) ∧
      after.duplex.link.returned = after.duplex.link.accepted := by
  refine Reaches.attains _ _ (fun this => this.duplex.link.reader.ahead) ?_ ⟨inv, arrived⟩
  intro this sound owed
  obtain ⟨inv, arrived⟩ := sound
  obtain ⟨room, less⟩ := Link.read_prompt correct inv.duplex.out arrived.unsent arrived.underway owed
  exact ⟨.far (.poll (room + 1) (List.replicate 3
    (.upTo this.duplex.link.reader.inner.incoming.length))), trivial,
    ⟨step_inv correct inv _, ⟨arrived.pushed.pulled, arrived.pushed.held⟩, arrived.unsent,
      arrived.underway⟩, less⟩

/-- The far relay hands on all that it holds. -/
theorem hands (this : Conversation N F) :
    (this.step (.far (.hand this.far.down.held.length))).far.down.passed = this.far.down.taken := by
  change this.far.down.passed ++ this.far.down.held.take this.far.down.held.length = _
  rw [List.take_length, ← this.far.down.whole]

/-- Outward events can bring the far peer all that the near one wrote. -/
theorem delivers (correct : Aead.Correct) {this : Conversation N F} (inv : this.Inv codec codec') :
    ∃ after, Reaches step TalkEvent.Outward this after ∧ after.Inv codec codec' ∧
      after.far.down.passed = this.near.written := by
  have inv₁ := step_inv correct inv (.near (.pull this.near.written.length))
  obtain ⟨pushed, pushing, inv₂, pushed₂⟩ := pushes correct inv₁ (pulls inv)
  obtain ⟨arrived, arriving, inv₃, arrived₃⟩ := arrives correct inv₂ pushed₂
  obtain ⟨polled, polling, ⟨inv₄, arrived₄⟩, all⟩ := polls correct inv₃ arrived₃
  have reaches : Reaches step TalkEvent.Outward this polled :=
    (Reaches.single this trivial).trans (pushing.trans (arriving.trans polling))
  refine ⟨polled.step (.far (.hand polled.far.down.held.length)),
    reaches.trans (Reaches.single polled trivial), step_inv correct inv₄ _, ?_⟩
  have passed : polled.near.up.taken = polled.near.up.passed := by
    rw [polled.near.up.whole, arrived₄.pushed.held, List.append_nil]
  calc (polled.step (.far (.hand polled.far.down.held.length))).far.down.passed
      = polled.far.down.taken := polled.hands
    _ = polled.duplex.out.returned := inv₄.far.received
    _ = polled.duplex.out.accepted := all
    _ = polled.near.up.passed := inv₄.near.sent
    _ = polled.near.up.taken := passed.symm
    _ = polled.near.written := arrived₄.pushed.pulled
    _ = this.near.written := (reaches_outside reaches).near

/-- Nobody writes anything new. -/
def Moves (event : TalkEvent) : Prop := event.Outward ∨ event.Inward

/-- Both peers can get all that was written for them. -/
theorem settles (correct : Aead.Correct) {this : Conversation N F} (inv : this.Inv codec codec') :
    ∃ after, Reaches step Moves this after ∧ after.near.written = this.near.written ∧
      after.far.written = this.far.written ∧ after.far.down.passed = this.near.written ∧
      after.near.down.passed = this.far.written := by
  obtain ⟨middle, outward, inv', there⟩ := delivers correct inv
  obtain ⟨after, inward, _, back⟩ := delivers correct inv'.swap
  have kept := reaches_outside inward
  have same := reaches_outside outward
  refine ⟨after.swap, ?_, kept.far.trans same.near, kept.near.trans same.far, ?_, ?_⟩
  · exact (outward.imp fun _ => .inl).trans ((reaches_swap inward).imp fun _ => .inr)
  · rw [← there]
    exact congrArg Pipe.passed kept.down
  · rw [← same.far]
    exact back

end Conversation

section Runs

variable [Hashes] [Aead] {S R S' R' : Type} [Socket S] [Rng R] [Rng R'] {protocol : ProtocolConfig}

/-- A tunnel never wedges: from every state that its ends, its transport and its
relays can get into, however they got there, they can go on so that both peers
have all that was written for them. -/
theorem tunnel_live (correct : Aead.Correct) (run : TunnelRun protocol S R S' R') :
    ∃ more : List TalkEvent, (∀ event ∈ more, Conversation.Moves event) ∧
      let later := talked run.client run.server (run.events ++ more)
      later.near.written = run.talk.near.written ∧ later.far.written = run.talk.far.written ∧
        later.far.down.passed = later.near.written ∧
        later.near.down.passed = later.far.written := by
  obtain ⟨ciphers, rng, _, client, server⟩ := run.begins
  obtain ⟨codec, codec', begun⟩ := TunnelRun.starts_inv ciphers protocol.dataPadding
    protocol.encryptionLimit.toNat run.client.rng rng
  have inv : run.talk.Inv codec codec' := by
    rw [TunnelRun.talk, talked, client, server]
    exact Conversation.run_inv correct begun run.events
  obtain ⟨after, ⟨more, moves, rfl⟩, near, far, there, back⟩ := Conversation.settles correct inv
  have goesOn : talked run.client run.server (run.events ++ more) =
      more.foldl Conversation.step run.talk := List.foldl_append
  refine ⟨more, moves, ?_⟩
  rw [goesOn]
  exact ⟨near, far, there.trans near.symm, back.trans far.symm⟩

end Runs

/-- What the two peers have after a sample and more events. -/
def SampleTunnel.received (tunnel : SampleTunnel) (more : List TalkEvent) : Bytes × Bytes :=
  let _ := Hashes.folding
  let _ := Aead.tagging
  let run : TunnelRun sampleProtocol Loaded Unit Loaded Unit := tunnel
  let later := talked run.client run.server (run.events ++ more)
  (later.far.down.passed, later.near.down.passed)

/-- What both have written is under way, and neither of them has got anything. -/
theorem tunnel_live_sample : ∃ (tunnel : SampleTunnel) (more : List TalkEvent),
    tunnel.events = bothTalk.take 15 ∧ tunnel.received [] = ([], []) ∧
      (∀ event ∈ more, Conversation.Moves event) ∧ tunnel.received more = ([1, 2, 3], [9]) := by
  let _ := Hashes.folding
  let _ := Aead.tagging
  obtain ⟨packet, sent, built, _⟩ := lastMoment_ok
  obtain ⟨stream, after, ran⟩ := lastStream_ok
  obtain ⟨ciphers, both⟩ := tunnelPacket_ciphers built
  let whole : TunnelRun sampleProtocol Loaded Unit Loaded Unit := sampleTunnel built ran both
  let stopped : TunnelRun sampleProtocol Loaded Unit Loaded Unit :=
    { whole with events := bothTalk.take 15 }
  obtain ⟨more, moves, near, far, there, back⟩ := tunnel_live Aead.tagging_correct stopped
  exact ⟨stopped, more, rfl, rfl, moves, Prod.ext (there.trans near) (back.trans far)⟩

end CovertConnect.Tunnel
