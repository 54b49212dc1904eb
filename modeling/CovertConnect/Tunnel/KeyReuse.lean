import CovertConnect.Crypto.KeySeparation
import CovertConnect.Server.Sealing
import CovertConnect.Tunnel.Conversation
import CovertConnect.Tunnel.ProtocolRoundTrip

namespace CovertConnect.Tunnel

open CovertConnect.Data CovertConnect.Data.Exec
open CovertConnect.Crypto CovertConnect.Crypto.Connection
open CovertConnect.Client CovertConnect.Server

/-! # One password for everything

Headers are sealed under the key of a moment, streams and answers under keys of
a salt.  Only headers of one moment can meet in a slot. -/

/-- A record, and what its key is for. -/
structure Sealing where
  use : KeyUse
  record : SealRecord

namespace Sealing

def slot (this : Sealing) : CipherType × Bytes × Nonce :=
  Server.slot this.record

def mark (this : Sealing) : KeyUse × CipherType × Nonce :=
  (this.use, this.record.kind, this.record.nonce)

variable [Hashes]

structure Keyed (pass : Bytes) (this : Sealing) : Prop where
  sized : this.use.purpose.Sized
  derived : this.use.derive pass = .ok this.record.key

theorem slot_eq_iff {pass : Bytes} {uses : List KeyUse} {first second : Sealing}
    (separate : NoCollision (uses.flatMap (KeyUse.inputs pass))) (used : first.use ∈ uses)
    (used' : second.use ∈ uses) (keyed : first.Keyed pass) (keyed' : second.Keyed pass) :
    first.slot = second.slot ↔ first.mark = second.mark := by
  simp only [slot, Server.slot, mark, Prod.mk.injEq]
  constructor
  · intro same
    obtain ⟨kind, key, nonce⟩ := same
    have derived := keyed'.derived
    rw [← key] at derived
    exact ⟨KeyUse.derive_injective separate used used' keyed.sized keyed'.sized keyed.derived
      derived,
      kind, nonce⟩
  · intro same
    obtain ⟨use, kind, nonce⟩ := same
    have derived := keyed.derived
    rw [use, keyed'.derived] at derived
    exact ⟨kind, (Except.ok.inj derived).symm, nonce⟩

/-- No two records share a slot where no two share their use and nonce. -/
theorem slots_nodup_iff {pass : Bytes} {uses : List KeyUse} {sealings : List Sealing}
    (separate : NoCollision (uses.flatMap (KeyUse.inputs pass)))
    (used : ∀ sealing ∈ sealings, sealing.use ∈ uses)
    (keyed : ∀ sealing ∈ sealings, sealing.Keyed pass) :
    (sealings.map slot).Nodup ↔ (sealings.map mark).Nodup := by
  rw [List.Nodup, List.Nodup, List.pairwise_map, List.pairwise_map]
  apply List.Pairwise.iff_of_mem
  intro first second found found'
  exact not_congr (slot_eq_iff separate (used first found) (used second found')
    (keyed first found) (keyed second found'))

/-- The record belongs to a salt, for this purpose. -/
def IsSalted (label : KeyLabel) (salt : Bytes) (this : Sealing) : Prop :=
  this.use.purpose = .salted label salt

omit [Hashes] in
/-- Records of different salts share no mark. -/
theorem salted_marks_nodup {α : Type} {runs : List α} {label : KeyLabel} {salt : α → Bytes}
    {sealed : α → List Sealing} (salts : (runs.map salt).Nodup)
    (salted : ∀ run, ∀ sealing ∈ sealed run, sealing.IsSalted label (salt run))
    (each : ∀ run ∈ runs, ((sealed run).map mark).Nodup) :
    ((runs.flatMap sealed).map mark).Nodup := by
  rw [List.map_flatMap, List.nodup_flatMap]
  refine ⟨each, ?_⟩
  have apart : runs.Pairwise fun first second => salt first ≠ salt second :=
    List.pairwise_map.mp salts
  apply apart.imp
  intro first second different shared marked marked'
  obtain ⟨sealing, found, rfl⟩ := List.mem_map.mp marked
  obtain ⟨sealing', found', same⟩ := List.mem_map.mp marked'
  have uses : sealing'.use = sealing.use := congrArg Prod.fst same
  have purposes : KeyPurpose.salted label (salt second) = .salted label (salt first) := by
    rw [← salted second sealing' found', ← salted first sealing found, uses]
  exact different (KeyPurpose.salted.inj purposes).2.symm

omit [Hashes] in
/-- Lists whose records are for different purposes share no mark. -/
theorem marks_append_nodup {first second : List Sealing} (apart : ∀ sealing ∈ first,
      ∀ sealing' ∈ second, sealing.use.purpose ≠ sealing'.use.purpose) :
    ((first ++ second).map mark).Nodup ↔ (first.map mark).Nodup ∧ (second.map mark).Nodup := by
  rw [List.map_append, List.nodup_append]
  constructor
  · intro given
    exact ⟨given.1, given.2.1⟩
  · intro given
    refine ⟨given.1, given.2, ?_⟩
    intro shared marked _ marked' same
    obtain ⟨sealing, found, rfl⟩ := List.mem_map.mp marked
    obtain ⟨sealing', found', rfl⟩ := List.mem_map.mp marked'
    exact apart sealing found sealing' found'
      (congrArg KeyUse.purpose (congrArg Prod.fst same : sealing.use = sealing'.use))

end Sealing

section Streams

variable {N F : Type} [Aead] [Rng N] [Rng F]

namespace Conversation

theorem nearStep_sealed (correct : Aead.Correct) {codec codec' : Codec} {near far : Cipher}
    {count : Nat} {this : Conversation N F} (inv : this.Inv codec codec')
    (sealed : this.duplex.Sealed near far count) (event : SideEvent) :
    (this.nearStep event).duplex.Sealed near far (count + 1) := by
  rcases this.nearStep_duplex event with still | ⟨next, moved⟩
  · rw [still]
    exact ⟨sealed.1.later, sealed.2.later⟩
  · rw [moved]
    exact Duplex.step_sealed correct inv.duplex sealed next

theorem step_sealed (correct : Aead.Correct) {codec codec' : Codec} {near far : Cipher}
    {count : Nat} {this : Conversation N F} (inv : this.Inv codec codec')
    (sealed : this.duplex.Sealed near far count) (event : TalkEvent) :
    (this.step event).duplex.Sealed near far (count + 1) := by
  cases event with
  | near event => exact nearStep_sealed correct inv sealed event
  | far event => exact (nearStep_sealed correct inv.swap sealed.symm event).symm

theorem run_sealed (correct : Aead.Correct) {codec codec' : Codec} {near far : Cipher}
    {this : Conversation N F} {count : Nat} (inv : this.Inv codec codec')
    (sealed : this.duplex.Sealed near far count) (events : List TalkEvent) :
    (this.run events).duplex.Sealed near far (count + events.length) := by
  induction events generalizing this count with
  | nil => exact sealed
  | cons event events ih =>
      have next := ih (step_inv correct inv event) (step_sealed correct inv sealed event)
      rw [List.length_cons, Nat.add_comm events.length, ← Nat.add_assoc]
      exact next

end Conversation

end Streams

section Runs

variable [Hashes]

variable [Aead] {S R S' R' : Type} [Rng R] [Rng R']

namespace TunnelRun

variable [Socket S] {protocol : ProtocolConfig}

def headerUse (run : TunnelRun protocol S R S' R') : KeyUse :=
  ⟨protocol.kdf, .time (run.now.tdiv protocol.maxConnectDelay.toNat)⟩

def streamUse (run : TunnelRun protocol S R S' R') (label : KeyLabel) : KeyUse :=
  ⟨protocol.kdf, .salted label run.packet.salt⟩

def uses (run : TunnelRun protocol S R S' R') : List KeyUse :=
  [run.headerUse, run.streamUse .client, run.streamUse .server]

def headers (run : TunnelRun protocol S R S' R') : List Sealing :=
  (sealedRecords (run.sent.history.drop run.sender.history.length)).map (.mk run.headerUse)

def up (run : TunnelRun protocol S R S' R') : List Sealing :=
  run.talk.duplex.near.writeCipher.sealed.map (.mk (run.streamUse .client))

def down (run : TunnelRun protocol S R S' R') : List Sealing :=
  run.talk.duplex.far.writeCipher.sealed.map (.mk (run.streamUse .server))

end TunnelRun

/-- A get-protocol request, and what the server seals to answer it. -/
structure RequestRun (protocol : ProtocolConfig) (S R R' : Type) [Rng R] where
  now : Int
  clock : -2 ^ 63 ≤ now ∧ now < 2 ^ 63
  sender : Connection S R
  request : ProtocolRequest
  sent : Connection S R
  ran : protocolRequest protocol.key now sender = (.ok request, sent)
  answer : List SealRecord
  answers : answer = [] ∨ AnswersTo R' protocol request.salt answer

namespace RequestRun

variable {protocol : ProtocolConfig}

def headerUse (run : RequestRun protocol S R R') : KeyUse :=
  ⟨.argon2, .time (run.now.tdiv getProtocolMaxConnectDelay)⟩

def answerUse (run : RequestRun protocol S R R') : KeyUse :=
  ⟨.argon2, .salted .protocolResponse run.request.salt⟩

def uses (run : RequestRun protocol S R R') : List KeyUse :=
  [run.headerUse, run.answerUse]

def headers (run : RequestRun protocol S R R') : List Sealing :=
  (sealedRecords (run.sent.history.drop run.sender.history.length)).map (.mk run.headerUse)

def answered (run : RequestRun protocol S R R') : List Sealing :=
  run.answer.map (.mk run.answerUse)

end RequestRun

omit [Hashes] [Aead] in
theorem timestamp_sized {now : Int} (clock : -2 ^ 63 ≤ now ∧ now < 2 ^ 63) (delay : Nat) :
    (KeyPurpose.time (now.tdiv delay)).Sized := by
  change -2 ^ 63 ≤ now.tdiv delay ∧ now.tdiv delay < 2 ^ 63
  have smaller : (now.tdiv delay).natAbs ≤ now.natAbs := Int.natAbs_tdiv_le_natAbs now delay
  rcases Int.le_total 0 now with positive | negative
  · have kept := Int.tdiv_nonneg positive (Int.natCast_nonneg delay)
    omega
  · have kept := Int.tdiv_nonneg (Int.neg_nonneg.mpr negative) (Int.natCast_nonneg delay)
    rw [Int.neg_tdiv] at kept
    omega

omit [Hashes] [Aead] in
/-- The two records that a call has put behind a history. -/
theorem sealedRecords_behind {before after : List ConnectionEvent} {first second : SealRecord}
    (behind : after = before ++ [.sealed first] ++ [.sealed second]) :
    sealedRecords (after.drop before.length) = [first, second] := by
  rw [behind, List.append_assoc, List.drop_left]
  rfl

omit [Hashes] [Aead] in
theorem sealedBy_marks_nodup {start cipher : Cipher} {count : Nat} (use : KeyUse)
    (sealedBy : Duplex.SealedBy start count cipher) (few : count ≤ 2 ^ 80) :
    ((cipher.sealed.map (Sealing.mk use)).map Sealing.mark).Nodup := by
  have short := sealedBy.advanced
  apply List.Nodup.of_map fun mark : KeyUse × CipherType × Nonce => mark.2.2
  rw [List.map_map, List.map_map]
  exact sealedBy.spread.nodup (by omega)

omit [Aead] in
theorem sealedBy_keyed {start cipher : Cipher} {count : Nat} {pass : Bytes} {use : KeyUse}
    (sealedBy : Duplex.SealedBy start count cipher) (sized : use.purpose.Sized)
    (derived : use.derive pass = .ok start.key) :
    ∀ sealing ∈ cipher.sealed.map (Sealing.mk use), sealing.Keyed pass := by
  intro sealing found
  obtain ⟨record, logged, rfl⟩ := List.mem_map.mp found
  obtain ⟨_, key⟩ := sealedBy.keyed.2.2 record logged
  exact ⟨sized, by rw [key]; exact derived⟩

omit [Hashes] [Aead] in
theorem mem_map_use {use : KeyUse} {records : List SealRecord} {sealing : Sealing}
    (found : sealing ∈ records.map (Sealing.mk use)) : sealing.use = use := by
  obtain ⟨record, _, rfl⟩ := List.mem_map.mp found
  rfl

namespace TunnelRun

variable [Socket S] {protocol : ProtocolConfig} (run : TunnelRun protocol S R S' R')

omit [Rng R'] in
theorem headers_keyed : ∀ sealing ∈ run.headers, sealing.Keyed (utf8Bytes protocol.key) := by
  obtain ⟨headerKey, hostLen, derived, _, _, _, history⟩ := tunnelPacket_inv run.built
  rw [headers, sealedRecords_behind history]
  intro sealing found
  simp only [List.map_cons, List.map_nil, List.mem_cons, List.not_mem_nil, or_false] at found
  rcases found with rfl | rfl <;> exact ⟨timestamp_sized run.clock _, derived⟩

/-- Both streams started with the ciphers of the salt. -/
theorem talk_sealed (correct : Aead.Correct) : ∃ ciphers : Cipher × Cipher,
    (run.streamUse .client).derive (utf8Bytes protocol.key) = .ok ciphers.1.key ∧
      (run.streamUse .server).derive (utf8Bytes protocol.key) = .ok ciphers.2.key ∧
      run.talk.duplex.Sealed ciphers.1 ciphers.2 run.events.length := by
  obtain ⟨ciphers, rng, both, client, server⟩ := run.begins
  obtain ⟨⟨clientKey, unused⟩, serverKey, unused'⟩ := newClientServer_keys run.salt_length both
  refine ⟨ciphers, clientKey, serverKey, ?_⟩
  obtain ⟨codec, codec', begun⟩ := starts_inv ciphers protocol.dataPadding
    protocol.encryptionLimit.toNat run.client.rng rng
  have sealed := Conversation.run_sealed correct begun
    ⟨Duplex.sealedBy_unused unused, Duplex.sealedBy_unused unused'⟩ run.events
  rw [Nat.zero_add] at sealed
  rw [talk, talked, client, server]
  exact sealed

theorem up_facts (correct : Aead.Correct) (few : run.events.length ≤ 2 ^ 80) :
    (run.up.map Sealing.mark).Nodup ∧
      ∀ sealing ∈ run.up, sealing.Keyed (utf8Bytes protocol.key) := by
  obtain ⟨ciphers, clientKey, _, sealed, _⟩ := run.talk_sealed correct
  exact ⟨sealedBy_marks_nodup _ sealed few, sealedBy_keyed sealed run.salt_length clientKey⟩

theorem down_facts (correct : Aead.Correct) (few : run.events.length ≤ 2 ^ 80) :
    (run.down.map Sealing.mark).Nodup ∧
      ∀ sealing ∈ run.down, sealing.Keyed (utf8Bytes protocol.key) := by
  obtain ⟨ciphers, _, serverKey, _, sealed⟩ := run.talk_sealed correct
  exact ⟨sealedBy_marks_nodup _ sealed few, sealedBy_keyed sealed run.salt_length serverKey⟩

end TunnelRun

namespace RequestRun

variable {protocol : ProtocolConfig} (run : RequestRun protocol S R R')

omit [Rng R'] in
theorem salt_length : run.request.salt.length = 32 := by
  obtain ⟨headerKey, _, requested, _⟩ := protocolRequest_inv run.ran
  rw [requested]
  exact (Draws.salt_length : (requestDraws run.sender.rng).salt.length = 32)

omit [Rng R'] in
theorem headers_keyed : ∀ sealing ∈ run.headers, sealing.Keyed (utf8Bytes protocol.key) := by
  obtain ⟨headerKey, derived, _, history⟩ := protocolRequest_inv run.ran
  rw [headers, sealedRecords_behind history]
  intro sealing found
  simp only [List.map_cons, List.map_nil, List.mem_cons, List.not_mem_nil, or_false] at found
  rcases found with rfl | rfl <;> exact ⟨timestamp_sized run.clock _, derived⟩

omit [Rng R'] in
theorem answered_facts : (run.answered.map Sealing.mark).Nodup ∧
    ∀ sealing ∈ run.answered, sealing.Keyed (utf8Bytes protocol.key) := by
  rcases run.answers with none | answers
  · simp [answered, none]
  obtain ⟨slots, responseKey, derived, keyed⟩ := answers.slots run.salt_length
  constructor
  · rw [answered, List.map_map, List.Nodup, List.pairwise_map]
    have apart : run.answer.Pairwise fun first second => Server.slot first ≠ Server.slot second :=
      List.pairwise_map.mp slots
    refine apart.imp_of_mem ?_
    intro first second found found' different same
    obtain ⟨_, parts⟩ := Prod.mk.inj same
    obtain ⟨kind, nonce⟩ := Prod.mk.inj parts
    have keys : first.key = second.key := (keyed first found).trans (keyed second found').symm
    exact different (by rw [Server.slot, Server.slot, kind, nonce, keys])
  · intro sealing found
    obtain ⟨record, logged, rfl⟩ := List.mem_map.mp found
    exact ⟨run.salt_length, by rw [keyed record logged]; exact derived⟩

end RequestRun

section Together

variable [Socket S] {protocol : ProtocolConfig} (tunnels : List (TunnelRun protocol S R S' R'))
  (requests : List (RequestRun protocol S R R'))

def headers : List Sealing :=
  tunnels.flatMap TunnelRun.headers ++ requests.flatMap RequestRun.headers

/-- What is sealed under the keys of salts. -/
def saltedSealings : List Sealing :=
  tunnels.flatMap TunnelRun.up ++
    (tunnels.flatMap TunnelRun.down ++ requests.flatMap RequestRun.answered)

def sealings : List Sealing :=
  headers tunnels requests ++ saltedSealings tunnels requests

def keyUses : List KeyUse :=
  tunnels.flatMap TunnelRun.uses ++ requests.flatMap RequestRun.uses

variable {tunnels requests}

omit [Rng R'] in
theorem headers_time : ∀ sealing ∈ headers tunnels requests,
    ∃ timestamp, sealing.use.purpose = .time timestamp := by
  intro sealing found
  rcases List.mem_append.mp found with tunnel | request
  · obtain ⟨run, _, here⟩ := List.mem_flatMap.mp tunnel
    exact ⟨_, congrArg KeyUse.purpose (mem_map_use here)⟩
  · obtain ⟨run, _, here⟩ := List.mem_flatMap.mp request
    exact ⟨_, congrArg KeyUse.purpose (mem_map_use here)⟩

theorem up_salted (run : TunnelRun protocol S R S' R') :
    ∀ sealing ∈ run.up, sealing.IsSalted .client run.packet.salt :=
  fun _ found => congrArg KeyUse.purpose (mem_map_use found)

theorem down_salted (run : TunnelRun protocol S R S' R') :
    ∀ sealing ∈ run.down, sealing.IsSalted .server run.packet.salt :=
  fun _ found => congrArg KeyUse.purpose (mem_map_use found)

omit [Rng R'] [Socket S] in
theorem answered_salted (run : RequestRun protocol S R R') :
    ∀ sealing ∈ run.answered, sealing.IsSalted .protocolResponse run.request.salt :=
  fun _ found => congrArg KeyUse.purpose (mem_map_use found)

theorem saltedSealings_salted : ∀ sealing ∈ saltedSealings tunnels requests,
    ∃ label salt, sealing.IsSalted label salt := by
  intro sealing found
  simp only [saltedSealings, List.mem_append, List.mem_flatMap] at found
  rcases found with ⟨run, _, here⟩ | ⟨run, _, here⟩ | ⟨run, _, here⟩
  · exact ⟨_, _, up_salted run sealing here⟩
  · exact ⟨_, _, down_salted run sealing here⟩
  · exact ⟨_, _, answered_salted run sealing here⟩

/-- Streams and answers of different salts share no mark. -/
theorem saltedSealings_nodup (correct : Aead.Correct)
    (salts : (tunnels.map fun run => run.packet.salt).Nodup)
    (salts' : (requests.map fun run => run.request.salt).Nodup)
    (few : ∀ run ∈ tunnels, run.events.length ≤ 2 ^ 80) :
    ((saltedSealings tunnels requests).map Sealing.mark).Nodup := by
  have labelled : ∀ {label label' : KeyLabel} {salt salt' : Bytes} {first second : Sealing},
      first.IsSalted label salt → second.IsSalted label' salt' → label ≠ label' →
        first.use.purpose ≠ second.use.purpose := by
    intro label label' salt salt' first second salted salted' different same
    have purposes : KeyPurpose.salted label salt = .salted label' salt' := by
      rw [← salted, ← salted', same]
    exact different (KeyPurpose.salted.inj purposes).1
  rw [saltedSealings, Sealing.marks_append_nodup, Sealing.marks_append_nodup]
  · exact ⟨Sealing.salted_marks_nodup salts up_salted
        fun run found => (run.up_facts correct (few run found)).1,
      Sealing.salted_marks_nodup salts down_salted
        fun run found => (run.down_facts correct (few run found)).1,
      Sealing.salted_marks_nodup salts' answered_salted fun run _ => run.answered_facts.1⟩
  · intro first found second found'
    obtain ⟨run, _, here⟩ := List.mem_flatMap.mp found
    obtain ⟨run', _, here'⟩ := List.mem_flatMap.mp found'
    exact labelled (down_salted run first here) (answered_salted run' second here') (by decide)
  · intro first found second found'
    obtain ⟨run, _, here⟩ := List.mem_flatMap.mp found
    rcases List.mem_append.mp found' with other | other
    · obtain ⟨run', _, here'⟩ := List.mem_flatMap.mp other
      exact labelled (up_salted run first here) (down_salted run' second here') (by decide)
    · obtain ⟨run', _, here'⟩ := List.mem_flatMap.mp other
      exact labelled (up_salted run first here) (answered_salted run' second here') (by decide)

theorem sealings_used : ∀ sealing ∈ sealings tunnels requests,
    sealing.use ∈ keyUses tunnels requests := by
  intro sealing found
  simp only [sealings, headers, saltedSealings, List.mem_append, List.mem_flatMap] at found
  rw [keyUses, List.mem_append, List.mem_flatMap, List.mem_flatMap]
  rcases found with (⟨run, member, here⟩ | ⟨run, member, here⟩) |
    ⟨run, member, here⟩ | ⟨run, member, here⟩ | ⟨run, member, here⟩
  · exact .inl ⟨run, member, by simp [TunnelRun.uses, mem_map_use here]⟩
  · exact .inr ⟨run, member, by simp [RequestRun.uses, mem_map_use here]⟩
  · exact .inl ⟨run, member, by simp [TunnelRun.uses, mem_map_use here]⟩
  · exact .inl ⟨run, member, by simp [TunnelRun.uses, mem_map_use here]⟩
  · exact .inr ⟨run, member, by simp [RequestRun.uses, mem_map_use here]⟩

theorem sealings_keyed (correct : Aead.Correct)
    (few : ∀ run ∈ tunnels, run.events.length ≤ 2 ^ 80) :
    ∀ sealing ∈ sealings tunnels requests, sealing.Keyed (utf8Bytes protocol.key) := by
  intro sealing found
  simp only [sealings, headers, saltedSealings, List.mem_append, List.mem_flatMap] at found
  rcases found with (⟨run, member, here⟩ | ⟨run, member, here⟩) |
    ⟨run, member, here⟩ | ⟨run, member, here⟩ | ⟨run, member, here⟩
  · exact run.headers_keyed sealing here
  · exact run.headers_keyed sealing here
  · exact (run.up_facts correct (few run member)).2 sealing here
  · exact (run.down_facts correct (few run member)).2 sealing here
  · exact run.answered_facts.2 sealing here

theorem headers_apart : ∀ header ∈ headers tunnels requests,
    ∀ sealing ∈ saltedSealings tunnels requests, header.use.purpose ≠ sealing.use.purpose := by
  intro header found sealing found' same
  obtain ⟨timestamp, time⟩ := headers_time header found
  obtain ⟨label, salt, salted⟩ := saltedSealings_salted sealing found'
  rw [Sealing.IsSalted, ← same, time] at salted
  cases salted

/-- Any number of tunnels and requests under one password repeat an algorithm,
key and nonce exactly where two header records of one moment have one nonce:
streams and answers never do, in either direction and however their calls
come. -/
theorem sealings_distinct_iff (correct : Aead.Correct)
    (separate : NoCollision ((keyUses tunnels requests).flatMap
      (KeyUse.inputs (utf8Bytes protocol.key))))
    (salts : (tunnels.map fun run => run.packet.salt).Nodup)
    (salts' : (requests.map fun run => run.request.salt).Nodup)
    (few : ∀ run ∈ tunnels, run.events.length ≤ 2 ^ 80) :
    (((sealings tunnels requests).map Sealing.slot).Nodup ↔
        ((headers tunnels requests).map Sealing.mark).Nodup) ∧
      ((saltedSealings tunnels requests).map Sealing.slot).Nodup ∧
      ∀ header ∈ headers tunnels requests, ∀ sealing ∈ saltedSealings tunnels requests,
        header.slot ≠ sealing.slot := by
  have keyed : ∀ sealing ∈ sealings tunnels requests, sealing.Keyed (utf8Bytes protocol.key) :=
    sealings_keyed correct few
  have salted : ∀ sealing ∈ saltedSealings tunnels requests,
      sealing ∈ sealings tunnels requests := fun _ found => List.mem_append_right _ found
  have spread := saltedSealings_nodup correct salts salts' few
  refine ⟨?_, ?_, ?_⟩
  · rw [Sealing.slots_nodup_iff separate sealings_used keyed, sealings,
      Sealing.marks_append_nodup headers_apart, and_iff_left spread]
  · exact (Sealing.slots_nodup_iff separate (fun sealing found => sealings_used sealing (salted _ found))
      fun sealing found => keyed sealing (salted _ found)).mpr spread
  · intro header found sealing found' same
    have given : header ∈ sealings tunnels requests := List.mem_append_left _ found
    have marked := (Sealing.slot_eq_iff separate (sealings_used header given)
      (sealings_used sealing (salted _ found')) (keyed header given)
      (keyed sealing (salted _ found'))).mp same
    exact headers_apart header found sealing found'
      (congrArg (fun mark : KeyUse × CipherType × Nonce => mark.1.purpose) marked)

end Together

end Runs

def SampleRequest : Type :=
  let _ := Hashes.folding
  let _ := Aead.tagging
  RequestRun sampleProtocol Loaded Unit Unit

def SampleRequest.answer (request : SampleRequest) : List SealRecord :=
  @RequestRun.answer Hashes.folding Aead.tagging _ _ _ _ _ request

def sampleSealings (tunnel : SampleTunnel) (request : SampleRequest) : List Sealing :=
  @sealings Hashes.folding Aead.tagging Loaded Unit Loaded Unit _ _ _ _ [tunnel] [request]

/-- A request at another moment than that of the tunnel. -/
def laterRequest : Outcome Error ProtocolRequest × Connection Loaded Unit :=
  @protocolRequest Loaded Unit Aead.tagging Hashes.folding _ "key" 30000 ⟨⟨[], []⟩, (), []⟩

/-- The hash functions do not collide on what they are asked for with these
salts. -/
def separateSample (packet : TunnelPacket) (request : ProtocolRequest) : Bool :=
  let _ := Hashes.folding
  let uses : List KeyUse :=
    [⟨.blake3, .time 0⟩, ⟨.blake3, .salted .client packet.salt⟩,
      ⟨.blake3, .salted .server packet.salt⟩, ⟨.argon2, .time 1⟩,
      ⟨.argon2, .salted .protocolResponse request.salt⟩]
  let inputs := uses.flatMap (KeyUse.inputs (utf8Bytes "key"))
  inputs.all fun first => inputs.all fun second =>
    decide (first.output = second.output → first = second)

def sampleHeaders : List Sealing :=
  (sealedRecords lastMoment.2.history).map (.mk ⟨.blake3, .time 0⟩) ++
    (sealedRecords laterRequest.2.history).map (.mk ⟨.argon2, .time 1⟩)

theorem separateSample_holds : laterRequest.1.isOkAnd (fun request =>
    lastMoment.1.isOkAnd fun packet => separateSample packet request) = true := by
  decide +kernel

theorem sampleHeaders_apart : (sampleHeaders.map Sealing.mark).Nodup := by
  decide +kernel

theorem sealings_distinct_sample : ∃ (tunnel : SampleTunnel) (request : SampleRequest),
    tunnel.events = bothTalk ∧ request.answer.length = 4 ∧
      ((sampleSealings tunnel request).map Sealing.slot).Nodup := by
  let _ := Hashes.folding
  let _ := Aead.tagging
  obtain ⟨packet, sent, built, _⟩ := lastMoment_ok
  obtain ⟨stream, after, ran⟩ := lastStream_ok
  obtain ⟨request, asked, separate⟩ := Outcome.isOkAnd_eq_true.mp separateSample_holds
  rw [built] at separate
  have ran' : laterRequest = (.ok request, laterRequest.2) :=
    Prod.ext asked (Eq.refl laterRequest.2)
  obtain ⟨ciphers, both⟩ := tunnelPacket_ciphers built
  let tunnel := sampleTunnel built ran both
  obtain ⟨requestKey, derived, requestEq, _⟩ := protocolRequest_inv ran'
  have salted : request.salt.length = 32 := by
    rw [requestEq]
    exact (Draws.salt_length : (requestDraws ()).salt.length = 32)
  obtain ⟨ciphers', answering⟩ := responseCiphers_total derived salted
  let asking : SampleRequest :=
    { now := 30000, clock := by decide
      sender := ⟨⟨[], []⟩, (), []⟩, request := request, sent := laterRequest.2, ran := ran'
      answer := (responseOf sampleProtocol ciphers' (.from ())).records
      answers := .inr ⟨ciphers', _, answering, rfl⟩ }
  refine ⟨tunnel, asking, rfl, rfl, ?_⟩
  have separated : NoCollision ((keyUses [tunnel] [asking]).flatMap
      (KeyUse.inputs (utf8Bytes "key"))) := by
    intro first found second found'
    exact of_decide_eq_true (List.all_eq_true.mp (List.all_eq_true.mp separate first found) second
      found')
  have few : ∀ run ∈ [tunnel], run.events.length ≤ 2 ^ 80 := by
    intro run found
    rw [List.mem_singleton.mp found]
    exact (by decide : bothTalk.length ≤ 2 ^ 80)
  have salts : ([tunnel].map fun run => run.packet.salt).Nodup := List.nodup_singleton _
  have salts' : ([asking].map fun run => run.request.salt).Nodup := List.nodup_singleton _
  have apart : ((headers [tunnel] [asking]).map Sealing.mark).Nodup := by
    obtain rfl : sent = lastMoment.2 := (congrArg Prod.snd built).symm
    exact sampleHeaders_apart
  exact (sealings_distinct_iff Aead.tagging_correct separated salts salts' few).1.mpr apart

end CovertConnect.Tunnel
