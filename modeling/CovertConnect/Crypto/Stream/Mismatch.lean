import CovertConnect.Crypto.Stream.Duplex

namespace CovertConnect.Crypto

open CovertConnect.Data

/-! # Ends that disagree about the padding

Neither end says whether its headers name a padding.  A reader that expects the
other kind of header never opens one, and it does not get past the first. -/

/-- Under the key of the cipher nothing opens but what it has sealed. -/
def Cipher.OpensOwn [Aead] (cipher : Cipher) : Prop :=
  Aead.OpensOnly cipher.kind cipher.key cipher.sealed

namespace EncryptedStream

variable {S R : Type} [Aead] {this after : EncryptedStream S R}

/-- The stream waits for a header that will not open. -/
structure Deaf (this : EncryptedStream S R) : Prop where
  state : this.readState = .header
  sealed : this.readed ≤ this.encLimit
  short : this.readBuffer.length ≤ this.headerSize this.readed this.readCipher.tagSize
  closed : ∀ bytes, bytes.length = this.headerSize this.readed this.readCipher.tagSize →
    Aead.openRecord this.readCipher.kind this.readCipher.key this.readCipher.nonce bytes = none

theorem SameReader.deaf (same : this.SameReader after) (deaf : this.Deaf) : after.Deaf := by
  have size : after.headerSize after.readed after.readCipher.tagSize =
      this.headerSize this.readed this.readCipher.tagSize := by
    simp only [headerSize, same.cipher, same.readed, same.padding, same.encLimit]
  refine ⟨same.state.trans deaf.state, ?_, ?_, ?_⟩
  · rw [same.readed, same.encLimit]
    exact deaf.sealed
  · rw [size, same.buffer]
    exact deaf.short
  · rw [size, same.cipher]
    exact deaf.closed

/-- What is in the buffer of a deaf stream makes no difference. -/
theorem Deaf.refill (deaf : this.Deaf) (inner : S) {readBuffer : Bytes}
    (short : readBuffer.length ≤ this.headerSize this.readed this.readCipher.tagSize) :
    ({ this with inner, readBuffer } : EncryptedStream S R).Deaf :=
  ⟨deaf.state, deaf.sealed, short, deaf.closed⟩

theorem Deaf.readHeader [AsyncRead S] (deaf : this.Deaf) :
    ∃ poll after, this.readHeader = (some poll, after) ∧ after.Deaf ∧ delivered poll = [] := by
  unfold EncryptedStream.readHeader
  rw [deaf.state]
  dsimp only
  cases call : this.pollReadExact (this.headerSize this.readed this.readCipher.tagSize) with
  | mk answer filled =>
      obtain ⟨got, inner, _, rfl, bound, _⟩ := pollReadExact_spec call
      have kept : (this.took inner got).Deaf := deaf.refill inner (bound deaf.short)
      cases answer using Poll.threeWays with
      | pending => exact ⟨_, _, rfl, kept, rfl⟩
      | error error => exact ⟨_, _, rfl, kept, rfl⟩
      | ok _ =>
          dsimp only
          split
          · exact ⟨_, _, rfl, kept, rfl⟩
          · rename_i full
            have exactly := Nat.le_antisymm kept.short (Nat.le_of_not_lt full)
            rw [openHeader, if_pos kept.sealed, Cipher.decrypt_none (kept.closed _ exactly)]
            refine ⟨_, _, rfl, kept.refill inner ?_, rfl⟩
            rw [Aead.clobber_length]
            exact kept.short

/-- A poll of a deaf stream waits or fails, or finds the end. -/
theorem Deaf.pollRead [AsyncRead S] (deaf : this.Deaf) (remaining : Nat) :
    (this.pollRead remaining).2.Deaf ∧ delivered (this.pollRead remaining).1 = [] := by
  obtain ⟨poll, after, header, kept, nothing⟩ := deaf.readHeader
  rw [EncryptedStream.pollRead, header]
  exact ⟨kept, nothing⟩

/-- The stream has sealed up to `count` frames, from `start` on. -/
def SentBy (codec : Codec) (start : Place) (count : Nat) (this : EncryptedStream S R) : Prop :=
  ∃ frames : List (Frame codec.needed), frames.length ≤ count ∧
    ({ stream := this, wrote := payloads frames } : Sender S R).Sent codec start frames

namespace SentBy

variable {codec : Codec} {start : Place} {count : Nat}

omit [Aead] in
theorem inside (sent : this.SentBy codec start count) :
    this.writePos ≤ this.writeBuffer.length := by
  obtain ⟨_, _, sent⟩ := sent
  exact sent.inside

omit [Aead] in
theorem later (sent : this.SentBy codec start count) : this.SentBy codec start (count + 1) := by
  obtain ⟨frames, few, sent⟩ := sent
  exact ⟨frames, Nat.le_succ_of_le few, sent⟩

theorem emits {frames : List (Frame this.writeCodec.needed)} {out : Bytes}
    (sent : this.SentBy codec start count) (few : frames.length ≤ 1)
    (emits : this.Emits after frames out) : after.SentBy codec start (count + 1) := by
  obtain ⟨before, few', sent⟩ := sent
  obtain ⟨more, same, sent'⟩ := sent.emits emits _ rfl
  have length := congrArg List.length same
  rw [List.length_map, List.length_map] at length
  refine ⟨before ++ more, ?_, ?_⟩
  · rw [List.length_append]
    omega
  · have paid := sent'.wrote
    dsimp only at paid
    rwa [paid] at sent'

omit [Aead] in
theorem same (sent : this.SentBy codec start count) (same : this.SameWriter after) :
    after.SentBy codec start count := by
  obtain ⟨frames, few, sent⟩ := sent
  refine ⟨frames, few, same.writeCodec.trans sent.writeCodec, same.writePlace.trans sent.place,
    (congrArg Cipher.sealed same.cipher).trans sent.sealed,
    (congrArg Cipher.advanced same.cipher).trans sent.advanced, rfl, ?_⟩
  dsimp only
  rw [same.pos, same.buffer]
  exact sent.inside

end SentBy

omit [Aead] in
/-- A frame moves the nonce on by no more than its padding can be long. -/
theorem span_le (codec : Codec) (place : Place) (frames : List (Frame codec.needed)) :
    codec.span place frames ≤ 65536 * frames.length := by
  induction frames generalizing place with
  | nil => exact Nat.zero_le _
  | cons frame frames ih =>
      have fits := frame.padding_fits
      have rest := ih (codec.next place frame)
      rw [Codec.span, Codec.stride, List.length_cons]
      split <;> omega

/-- A fresh stream is deaf to a writer whose headers are of the other kind, if
that writer is the only one that seals under the key. -/
theorem SentBy.deaf {S' R' : Type} {codec : Codec} {start : Place} {count : Nat}
    (sent : this.SentBy codec start count) (few : count < 2 ^ 80)
    (ideal : this.writeCipher.OpensOwn) {readCipher : Cipher} (kind : readCipher.kind = codec.kind)
    (key : readCipher.key = codec.key) (nonce : readCipher.nonce = start.nonce)
    {padding : DataPadding} (differ : padding.needed ≠ codec.needed) (inner : S') (back : Cipher)
    (encLimit : Nat) (rng : R') :
    (fromStream inner readCipher back padding encLimit rng).Deaf := by
  obtain ⟨frames, bound, sent⟩ := sent
  have short : codec.span start frames < 2 ^ 96 := by
    have length := span_le codec start frames
    omega
  have logged : Aead.OpensOnly codec.kind codec.key (codec.recordsAll start frames) := by
    have kind : this.writeCipher.kind = codec.kind := congrArg Codec.kind sent.writeCodec
    have key : this.writeCipher.key = codec.key := congrArg Codec.key sent.writeCodec
    rw [← sent.sealed, ← kind, ← key]
    exact ideal
  refine ⟨rfl, Nat.zero_le _, Nat.zero_le _, fun bytes exactly => ?_⟩
  change Aead.openRecord readCipher.kind readCipher.key readCipher.nonce bytes = none
  cases opened : Aead.openRecord readCipher.kind readCipher.key readCipher.nonce bytes with
  | none => rfl
  | some plain =>
      have width := Aead.openRecord_length opened
      rw [kind, key] at opened
      obtain ⟨frame, _, _, _, header⟩ :=
        @Codec.header_at codec start [] frames _ short (logged.logged opened) nonce
      dsimp only at header
      rw [exactly, header, Codec.headerPlain_length] at width
      change 2 + (if padding.needed then 2 else 0) + 16 = _ at width
      have same : padding.needed = codec.needed := by
        cases ours : padding.needed <;> cases theirs : codec.needed <;>
          simp only [ours, theirs, if_true, if_false, Bool.false_eq_true] at width ⊢ <;> omega
      exact absurd same differ

end EncryptedStream

namespace Link

variable {W R : Type} [Aead]

theorem read_sameWriter (link : Link W R) (remaining : Nat) (replies : List ReadReply) :
    link.reader.SameWriter (link.read remaining replies).reader := by
  have polled := (scripted link.reader replies).pollRead_sameWriter remaining
  exact ⟨polled.cipher, polled.buffer, polled.pos, polled.written, polled.padding, polled.encLimit⟩

variable [Rng W]

/-- An event of a link seals at most one frame, at the end that writes. -/
theorem step_sent (link : Link W R) {codec codec' : Codec} {start start' : Place} {count : Nat}
    (writer : link.writer.SentBy codec start count)
    (reader : link.reader.SentBy codec' start' count)
    (event : Event) : (link.step event).writer.SentBy codec start (count + 1) ∧
      (link.step event).reader.SentBy codec' start' (count + 1) := by
  obtain ⟨frames, out, few, emits⟩ := link.step_emits event writer.inside
  refine ⟨writer.emits few emits, ?_⟩
  cases event with
  | write buf replies =>
      change (link.write buf replies).reader.SentBy _ _ _
      rw [(link.write_keeps buf replies writer.inside).2]
      exact reader.later
  | flush replies reply =>
      change (link.through AsyncWrite.pollFlush replies reply).reader.SentBy _ _ _
      rw [(link.through_keeps _ (fun _ => rfl) replies reply writer.inside).2]
      exact reader.later
  | shutdown replies reply =>
      change (link.through AsyncWrite.pollShutdown replies reply).reader.SentBy _ _ _
      rw [(link.through_keeps _ (fun _ => rfl) replies reply writer.inside).2]
      exact reader.later
  | carry count =>
      have same : link.reader.SameWriter (link.carry count).reader := ⟨rfl, rfl, rfl, rfl, rfl, rfl⟩
      exact (reader.same same).later
  | read remaining replies => exact (reader.same (link.read_sameWriter remaining replies)).later

/-- Deaf ends stay deaf. -/
theorem step_deaf (link : Link W R) (inside : link.writer.writePos ≤ link.writer.writeBuffer.length)
    (writer : link.writer.Deaf) (reader : link.reader.Deaf) (event : Event) :
    (link.step event).writer.Deaf ∧ (link.step event).reader.Deaf := by
  cases event with
  | write buf replies =>
      obtain ⟨keeps, same⟩ := link.write_keeps buf replies inside
      exact ⟨keeps.reader.deaf writer, same.symm ▸ reader⟩
  | flush replies reply =>
      obtain ⟨keeps, same⟩ :=
        link.through_keeps AsyncWrite.pollFlush (fun _ => rfl) replies reply inside
      exact ⟨keeps.reader.deaf writer, same.symm ▸ reader⟩
  | shutdown replies reply =>
      obtain ⟨keeps, same⟩ :=
        link.through_keeps AsyncWrite.pollShutdown (fun _ => rfl) replies reply inside
      exact ⟨keeps.reader.deaf writer, same.symm ▸ reader⟩
  | carry count => exact ⟨writer, reader.refill _ reader.short⟩
  | read remaining replies =>
      have scripted : (scripted link.reader replies).Deaf := reader.refill _ reader.short
      exact ⟨writer, (scripted.pollRead remaining).1⟩

end Link

namespace Duplex

variable {N F : Type} [Aead]

/-- Each end has sealed up to `count` frames. -/
structure Sent (codec codec' : Codec) (start start' : Place) (count : Nat) (this : Duplex N F) :
    Prop where
  near : this.near.SentBy codec start count
  far : this.far.SentBy codec' start' count

structure Deaf (this : Duplex N F) : Prop where
  near : this.near.Deaf
  far : this.far.Deaf

omit [Aead] in
theorem Sent.swap {codec codec' : Codec} {start start' : Place} {count : Nat} {this : Duplex N F}
    (sent : this.Sent codec codec' start start' count) :
    this.swap.Sent codec' codec start' start count := ⟨sent.far, sent.near⟩

theorem Deaf.swap {this : Duplex N F} (deaf : this.Deaf) : this.swap.Deaf := ⟨deaf.far, deaf.near⟩

variable [Rng N] [Rng F] {codec codec' : Codec} {start start' : Place} {count : Nat}
  {this : Duplex N F}

theorem step_sent (sent : this.Sent codec codec' start start' count) (event : Event) :
    (this.step event).Sent codec codec' start start' (count + 1) := by
  cases event with
  | out event =>
      obtain ⟨near, far⟩ := this.link.step_sent sent.near sent.far event
      exact ⟨near, far⟩
  | back event =>
      obtain ⟨far, near⟩ := this.swap.link.step_sent sent.far sent.near event
      exact ⟨near, far⟩

theorem step_deaf (sent : this.Sent codec codec' start start' count) (deaf : this.Deaf)
    (event : Event) : (this.step event).Deaf := by
  cases event with
  | out event =>
      obtain ⟨near, far⟩ := this.link.step_deaf sent.near.inside deaf.near deaf.far event
      exact ⟨near, far⟩
  | back event =>
      obtain ⟨far, near⟩ := this.swap.link.step_deaf sent.far.inside deaf.far deaf.near event
      exact ⟨near, far⟩

end Duplex

end CovertConnect.Crypto
