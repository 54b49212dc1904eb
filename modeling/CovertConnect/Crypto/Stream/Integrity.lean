import CovertConnect.Crypto.Stream.Undisturbed

namespace CovertConnect.Crypto.EncryptedStream

open CovertConnect.Data

/-! # What a reader accepts from an attacker

The inner stream of the reader is arbitrary here: it may return any bytes at
any time.  The reader is compared with the frames of the only writer that ever
sealed under its key. -/

variable {S R : Type} [Aead]

omit [Aead] in
/-- Behind the header of a frame, with the frames before it handed out. -/
structure Behind (codec : Codec) (start : Place) (this : EncryptedStream S R) (returned : Bytes)
    (front : List (Frame codec.needed)) (frame : Frame codec.needed) : Prop where
  written : (codec.advance start front).count ≤ codec.encLimit
  sealed : this.readed ≤ this.encLimit
  place : this.readPlace = codec.middle (codec.advance start front) frame.padding.length
  returned : returned = payloads front

/-- What was returned so far are the payloads of the first frames, and the
reader is in step with the writer behind them.  Padding is not compared. -/
def Follows (codec : Codec) (start : Place) (frames : List (Frame codec.needed))
    (this : EncryptedStream S R) (returned : Bytes) : Prop :=
  this.readCipher.kind = codec.kind ∧ this.readCipher.key = codec.key ∧
  match this.readState with
  | .header =>
      this.readBuffer.length ≤ this.readCodec.headerLength this.readed ∧
      ∃ front back, frames = front ++ back ∧ this.readPlace = codec.advance start front ∧
        returned = payloads front
  | .padding _ dataSize =>
      ∃ front frame back, frames = front ++ frame :: back ∧
        dataSize = frame.payload.length ∧ this.Behind codec start returned front frame
  | .data size =>
      this.readBuffer.length ≤ this.readCodec.dataLength this.readed size ∧
      ∃ front frame back, frames = front ++ frame :: back ∧
        size = frame.payload.length ∧ this.Behind codec start returned front frame
  | .ready pos =>
      ∃ front frame back, frames = front ++ frame :: back ∧ this.readBuffer = frame.payload ∧
        this.readPlace = codec.advance start (front ++ [frame]) ∧
        returned = payloads front ++ frame.payload.take pos

/-- The call ends with an error. -/
def Failed {α : Type} (result : Option (Poll (Except IoError α))) : Prop :=
  ∃ error, result = some (.ready (.error error))

section Step

variable {codec : Codec} {start : Place} {frames : List (Frame codec.needed)}
  {this after : EncryptedStream S R} {returned : Bytes}
  {result : Option (Poll (Except IoError Bytes))}

/-- A header that opens is the one of the next frame. -/
theorem openHeader_follows (short : codec.span start frames < 2 ^ 96)
    (ideal : Aead.OpensOnly codec.kind codec.key (codec.recordsAll start frames))
    (state : this.readState = .header) (guard : this.readed ≤ this.encLimit)
    (exactly : this.readBuffer.length = this.readCodec.headerLength this.readed)
    (follows : this.Follows codec start frames returned)
    (run : this.openHeader = (result, after)) :
    Failed result ∨ (result = none ∧ after.Follows codec start frames returned) := by
  obtain ⟨kind, key, kept⟩ := follows
  simp only [state] at kept
  obtain ⟨_, front, back, rfl, place, paid⟩ := kept
  rw [openHeader, if_pos guard] at run
  cases opened : Aead.openRecord this.readCipher.kind this.readCipher.key this.readCipher.nonce
      this.readBuffer with
  | none =>
      rw [Cipher.decrypt_none opened] at run
      simp only [Prod.mk.injEq] at run
      exact .inl ⟨_, run.1.symm⟩
  | some plain =>
      rw [Cipher.decrypt_some opened] at run
      simp only [Prod.mk.injEq] at run
      obtain ⟨rfl, rfl⟩ := run
      refine .inr ⟨rfl, ?_⟩
      have width := Aead.openRecord_length opened
      rw [kind, key] at opened
      obtain ⟨frame, rest, rfl, written, header⟩ :=
        Codec.header_at short (ideal.logged opened) (congrArg Place.nonce place)
      dsimp only at header
      subst header
      have needed : this.padding.needed = codec.needed := by
        rw [exactly, Codec.headerPlain_length, Codec.headerLength,
          if_pos (show this.readed ≤ this.readCodec.encLimit from guard)] at width
        change 2 + (if this.padding.needed then 2 else 0) + 16 = _ at width
        cases ours : this.padding.needed <;> cases theirs : codec.needed <;>
          simp only [ours, theirs, if_true, if_false, Bool.false_eq_true] at width ⊢ <;> omega
      obtain ⟨codecKind, codecKey, codecNeeded, codecLimit⟩ := codec
      dsimp only at needed
      subst needed
      generalize bufferEq : _ ++ List.drop (this.readBuffer.length - 16) this.readBuffer = buffer
      obtain ⟨state', place'⟩ := takeHeader_frame { this with readBuffer := buffer } frame
        bufferEq.symm
      have codec' := takeHeader_readCodec ({ this with readBuffer := buffer } :
        EncryptedStream S R)
      have behind : ({ this with readBuffer := buffer } : EncryptedStream S R).takeHeader.Behind
          ⟨codecKind, codecKey, this.padding.needed, codecLimit⟩ start returned front frame := by
        refine ⟨written, guard, ?_, paid⟩
        rw [place', ← place]
        rw [← place] at written
        exact (this.readCodec.step_sealed guard _).trans (Codec.step_sealed _ written _).symm
      refine ⟨(congrArg Codec.kind codec').trans kind, (congrArg Codec.key codec').trans key, ?_⟩
      rw [state']
      by_cases padded : this.padding.needed
      · rw [if_pos padded]
        exact ⟨front, frame, rest, rfl, rfl, behind⟩
      · rw [if_neg padded]
        exact ⟨Nat.zero_le _, front, frame, rest, rfl, rfl, behind⟩

omit [Aead] in
/-- A part of a poll may end where it is without an error. -/
theorem Follows.pauses {answer : Poll (Except IoError Bytes)}
    (follows : this.Follows codec start frames returned) (silent : delivered answer = []) :
    Failed (some answer) ∨ (this.Follows codec start frames returned ∧
      ∀ poll, some answer = some poll → delivered poll = []) := by
  refine .inr ⟨follows, ?_⟩
  intro poll same
  cases same
  exact silent

theorem readHeader_follows [AsyncRead S] (short : codec.span start frames < 2 ^ 96)
    (ideal : Aead.OpensOnly codec.kind codec.key (codec.recordsAll start frames))
    (guard : this.readState = .header → this.readed ≤ this.encLimit)
    (follows : this.Follows codec start frames returned)
    (run : this.readHeader = (result, after)) :
    Failed result ∨ (after.Follows codec start frames returned ∧
      ∀ poll, result = some poll → delivered poll = []) := by
  unfold readHeader at run
  cases state : this.readState with
  | padding _ _ | data _ | ready _ =>
      simp only [state, Prod.mk.injEq] at run
      obtain ⟨rfl, rfl⟩ := run
      exact .inr ⟨follows, by simp⟩
  | header =>
      simp only [state] at run
      have sizes : this.headerSize this.readed this.readCipher.tagSize =
          this.readCodec.headerLength this.readed := rfl
      rw [sizes] at run
      cases fill : this.pollReadExact (this.readCodec.headerLength this.readed) with
      | mk answer next =>
          obtain ⟨got, inner, _, rfl, bound, _, _⟩ := pollReadExact_spec fill
          rw [fill] at run
          have taken : (this.took inner got).Follows codec start frames returned := by
            obtain ⟨kind, key, kept⟩ := follows
            simp only [state] at kept
            refine ⟨kind, key, ?_⟩
            simp only [took_readState, state]
            exact ⟨bound kept.1, kept.2⟩
          cases answer using Poll.threeWays with
          | pending =>
              simp only [Prod.mk.injEq] at run
              obtain ⟨rfl, rfl⟩ := run
              exact taken.pauses rfl
          | error error =>
              simp only [Prod.mk.injEq] at run
              obtain ⟨rfl, rfl⟩ := run
              exact .inl ⟨error, rfl⟩
          | ok _ =>
              dsimp only at run
              by_cases less : (this.took inner got).readBuffer.length <
                  this.readCodec.headerLength this.readed
              · rw [if_pos less] at run
                simp only [Prod.mk.injEq] at run
                obtain ⟨rfl, rfl⟩ := run
                exact taken.pauses rfl
              · rw [if_neg less] at run
                have whole : (this.took inner got).readBuffer.length =
                    this.readCodec.headerLength this.readed := by
                  have kept := follows.2.2
                  simp only [state] at kept
                  exact Nat.le_antisymm (bound kept.1) (Nat.le_of_not_lt less)
                rcases openHeader_follows short ideal
                  (show (this.took inner got).readState = .header from state)
                  (guard state) whole taken run with failed | ⟨rfl, follows⟩
                · exact .inl failed
                · exact .inr ⟨follows, by simp⟩

omit [Aead] in
theorem readPadding_follows [AsyncRead S] (follows : this.Follows codec start frames returned)
    (run : this.readPadding = (result, after)) :
    Failed result ∨ (after.Follows codec start frames returned ∧
      ∀ poll, result = some poll → delivered poll = []) := by
  unfold readPadding at run
  cases state : this.readState with
  | header | data _ | ready _ =>
      simp only [state, Prod.mk.injEq] at run
      obtain ⟨rfl, rfl⟩ := run
      exact .inr ⟨follows, by simp⟩
  | padding size dataSize =>
      simp only [state] at run
      obtain ⟨kind, key, kept⟩ := follows
      simp only [state] at kept
      obtain ⟨front, frame, back, split, sized, behind⟩ := kept
      cases fill : this.pollReadExact size with
      | mk answer next =>
          obtain ⟨got, inner, _, rfl, _, _, _⟩ := pollReadExact_spec fill
          rw [fill] at run
          have behind' : (this.took inner got).Behind codec start returned front frame :=
            ⟨behind.written, behind.sealed, behind.place, behind.returned⟩
          have taken : (this.took inner got).Follows codec start frames returned := by
            refine ⟨kind, key, ?_⟩
            simp only [took_readState, state]
            exact ⟨front, frame, back, split, sized, behind'⟩
          cases answer using Poll.threeWays with
          | pending =>
              simp only [Prod.mk.injEq] at run
              obtain ⟨rfl, rfl⟩ := run
              exact taken.pauses rfl
          | error error =>
              simp only [Prod.mk.injEq] at run
              obtain ⟨rfl, rfl⟩ := run
              exact .inl ⟨error, rfl⟩
          | ok _ =>
              dsimp only at run
              by_cases less : (this.took inner got).readBuffer.length < size
              · rw [if_pos less] at run
                simp only [Prod.mk.injEq] at run
                obtain ⟨rfl, rfl⟩ := run
                exact taken.pauses rfl
              · rw [if_neg less] at run
                simp only [Prod.mk.injEq] at run
                obtain ⟨rfl, rfl⟩ := run
                refine .inr ⟨⟨kind, key, Nat.zero_le _, front, frame, back, split, sized, ?_⟩,
                  by simp⟩
                exact ⟨behind.written, behind.sealed, behind.place, behind.returned⟩

/-- A data record that opens is the one of the frame whose header was read. -/
theorem openData_follows (short : codec.span start frames < 2 ^ 96)
    (ideal : Aead.OpensOnly codec.kind codec.key (codec.recordsAll start frames)) {size : Nat}
    (state : this.readState = .data size) (follows : this.Follows codec start frames returned)
    (run : this.openData size = (result, after)) :
    Failed result ∨ (result = none ∧ after.Follows codec start frames returned) := by
  obtain ⟨kind, key, kept⟩ := follows
  simp only [state] at kept
  obtain ⟨_, front, frame, back, rfl, rfl, behind⟩ := kept
  rw [openData, if_pos behind.sealed] at run
  cases opened : Aead.openRecord this.readCipher.kind this.readCipher.key this.readCipher.nonce
      this.readBuffer with
  | none =>
      rw [Cipher.decrypt_none opened] at run
      simp only [Prod.mk.injEq] at run
      exact .inl ⟨_, run.1.symm⟩
  | some plain =>
      rw [Cipher.decrypt_some opened] at run
      simp only [Prod.mk.injEq] at run
      obtain ⟨rfl, rfl⟩ := run
      rw [kind, key] at opened
      have genuine : plain = frame.payload :=
        Codec.data_at short behind.written (ideal.logged opened)
          (congrArg Place.nonce behind.place)
      subst genuine
      refine .inr ⟨rfl, kind, key, front, frame, back, rfl, List.take_left, ?_, ?_⟩
      · have moved : Place.mk (this.readCipher.nonce.inc 1)
            (this.readed + frame.payload.length) =
            codec.finish this.readPlace frame.payload.length := by
          have within : this.readPlace.count ≤ codec.encLimit := by
            rw [behind.place]
            exact behind.written
          rw [Codec.finish, codec.step_sealed within]
          rfl
        rw [Codec.advance_append]
        exact moved.trans (by rw [behind.place]; rfl)
      · rw [behind.returned, List.take_zero, List.append_nil]

theorem readData_follows [AsyncRead S] (short : codec.span start frames < 2 ^ 96)
    (ideal : Aead.OpensOnly codec.kind codec.key (codec.recordsAll start frames))
    (follows : this.Follows codec start frames returned)
    (run : this.readData = (result, after)) :
    Failed result ∨ (after.Follows codec start frames returned ∧
      ∀ poll, result = some poll → delivered poll = []) := by
  unfold readData at run
  cases state : this.readState with
  | header | padding _ _ | ready _ =>
      simp only [state, Prod.mk.injEq] at run
      obtain ⟨rfl, rfl⟩ := run
      exact .inr ⟨follows, by simp⟩
  | data size =>
      simp only [state] at run
      have sizes : (if this.readed ≤ this.encLimit then size + this.readCipher.tagSize else size) =
          this.readCodec.dataLength this.readed size := rfl
      rw [sizes] at run
      cases fill : this.pollReadExact (this.readCodec.dataLength this.readed size) with
      | mk answer next =>
          obtain ⟨got, inner, _, rfl, bound, _, _⟩ := pollReadExact_spec fill
          rw [fill] at run
          have taken : (this.took inner got).Follows codec start frames returned := by
            obtain ⟨kind, key, kept⟩ := follows
            simp only [state] at kept
            obtain ⟨below, front, frame, back, split, sized, behind⟩ := kept
            refine ⟨kind, key, ?_⟩
            simp only [took_readState, state]
            exact ⟨bound below, front, frame, back, split, sized,
              ⟨behind.written, behind.sealed, behind.place, behind.returned⟩⟩
          cases answer using Poll.threeWays with
          | pending =>
              simp only [Prod.mk.injEq] at run
              obtain ⟨rfl, rfl⟩ := run
              exact taken.pauses rfl
          | error error =>
              simp only [Prod.mk.injEq] at run
              obtain ⟨rfl, rfl⟩ := run
              exact .inl ⟨error, rfl⟩
          | ok _ =>
              dsimp only at run
              by_cases less : (this.took inner got).readBuffer.length < size
              · rw [if_pos less] at run
                simp only [Prod.mk.injEq] at run
                obtain ⟨rfl, rfl⟩ := run
                exact taken.pauses rfl
              · rw [if_neg less] at run
                rcases openData_follows short ideal
                  (show (this.took inner got).readState = .data size from state) taken run with
                  failed | ⟨rfl, follows⟩
                · exact .inl failed
                · exact .inr ⟨follows, by simp⟩

omit [Aead] in
theorem returnBuffered_follows {remaining : Nat} {bytes : Bytes}
    (follows : this.Follows codec start frames returned)
    (run : this.returnBuffered remaining = (bytes, after)) :
    after.Follows codec start frames (returned ++ bytes) := by
  unfold returnBuffered at run
  cases state : this.readState with
  | header | padding _ _ | data _ =>
      simp only [state, Prod.mk.injEq] at run
      obtain ⟨rfl, rfl⟩ := run
      rw [List.append_nil]
      exact follows
  | ready pos =>
      obtain ⟨kind, key, kept⟩ := follows
      simp only [state] at run kept
      obtain ⟨front, frame, back, split, buffered, place, paid⟩ := kept
      have handed : returned ++ (this.readBuffer.drop pos).take remaining = payloads front ++
          frame.payload.take (pos + ((this.readBuffer.drop pos).take remaining).length) := by
        rw [paid, buffered, List.append_assoc, List.take_add]
        congr 2
        exact (List.prefix_iff_eq_take.mp (List.take_prefix _ _))
      by_cases drained : this.readBuffer.length ≤
          pos + ((this.readBuffer.drop pos).take remaining).length
      · rw [if_pos drained] at run
        simp only [Prod.mk.injEq] at run
        obtain ⟨rfl, rfl⟩ := run
        refine ⟨kind, key, Nat.zero_le _, front ++ [frame], back, ?_, place, ?_⟩
        · rw [split, List.append_assoc]
          rfl
        · rw [buffered] at drained
          rw [handed, buffered, List.take_of_length_le drained, payloads_append, payloads_cons,
            payloads_nil, List.append_nil]
      · rw [if_neg drained] at run
        simp only [Prod.mk.injEq] at run
        obtain ⟨rfl, rfl⟩ := run
        exact ⟨kind, key, front, frame, back, split, buffered, place, handed⟩

/-- One poll either fails or returns genuine bytes and keeps the reader in
step. -/
theorem pollRead_follows [AsyncRead S] (short : codec.span start frames < 2 ^ 96)
    (ideal : Aead.OpensOnly codec.kind codec.key (codec.recordsAll start frames))
    (guard : this.readState = .header → this.readed ≤ this.encLimit)
    (follows : this.Follows codec start frames returned) {remaining : Nat}
    {poll : Poll (Except IoError Bytes)} (run : this.pollRead remaining = (poll, after)) :
    (∃ error, poll = .ready (.error error)) ∨
      after.Follows codec start frames (returned ++ delivered poll) := by
  unfold pollRead at run
  cases header : this.readHeader with
  | mk first behindHeader =>
      rw [header] at run
      rcases readHeader_follows short ideal guard follows header with ⟨error, rfl⟩ | ⟨kept, quiet⟩
      · simp only [Prod.mk.injEq] at run
        exact .inl ⟨error, run.1.symm⟩
      cases first with
      | some stopped =>
          simp only [Prod.mk.injEq] at run
          obtain ⟨rfl, rfl⟩ := run
          rw [quiet _ rfl, List.append_nil]
          exact .inr kept
      | none =>
          dsimp only at run
          cases padding : behindHeader.readPadding with
          | mk second behindPadding =>
              rw [padding] at run
              rcases readPadding_follows kept padding with ⟨error, rfl⟩ | ⟨kept, quiet⟩
              · simp only [Prod.mk.injEq] at run
                exact .inl ⟨error, run.1.symm⟩
              cases second with
              | some stopped =>
                  simp only [Prod.mk.injEq] at run
                  obtain ⟨rfl, rfl⟩ := run
                  rw [quiet _ rfl, List.append_nil]
                  exact .inr kept
              | none =>
                  dsimp only at run
                  cases data : behindPadding.readData with
                  | mk third behindData =>
                      rw [data] at run
                      rcases readData_follows short ideal kept data with
                        ⟨error, rfl⟩ | ⟨kept, quiet⟩
                      · simp only [Prod.mk.injEq] at run
                        exact .inl ⟨error, run.1.symm⟩
                      cases third with
                      | some stopped =>
                          simp only [Prod.mk.injEq] at run
                          obtain ⟨rfl, rfl⟩ := run
                          rw [quiet _ rfl, List.append_nil]
                          exact .inr kept
                      | none =>
                          dsimp only at run
                          cases handed : behindData.returnBuffered remaining with
                          | mk bytes last =>
                              rw [handed] at run
                              simp only [Prod.mk.injEq] at run
                              obtain ⟨rfl, rfl⟩ := run
                              exact .inr (returnBuffered_follows kept handed)

end Step

omit [Aead] in
/-- The payloads of the first frames, and a part of the next one while that is
being drained. -/
def Cut {needed : Bool} (frames : List (Frame needed)) (last : EncryptedStream S R)
    (returned : Bytes) : Prop :=
  ∃ front back, frames = front ++ back ∧
    (returned = payloads front ∨
      ∃ frame rest pos, back = frame :: rest ∧ last.readState = .ready pos ∧
        last.readBuffer = frame.payload ∧ returned = payloads front ++ frame.payload.take pos)

omit [Aead] in
theorem Follows.cut {codec : Codec} {start : Place} {frames : List (Frame codec.needed)}
    {this : EncryptedStream S R} {returned : Bytes}
    (follows : this.Follows codec start frames returned) : Cut frames this returned := by
  obtain ⟨_, _, kept⟩ := follows
  cases state : this.readState with
  | header =>
      simp only [state] at kept
      obtain ⟨_, front, back, split, _, paid⟩ := kept
      exact ⟨front, back, split, .inl paid⟩
  | padding size dataSize =>
      simp only [state] at kept
      obtain ⟨front, frame, back, split, _, behind⟩ := kept
      exact ⟨front, frame :: back, split, .inl behind.returned⟩
  | data size =>
      simp only [state] at kept
      obtain ⟨_, front, frame, back, split, _, behind⟩ := kept
      exact ⟨front, frame :: back, split, .inl behind.returned⟩
  | ready pos =>
      simp only [state] at kept
      obtain ⟨front, frame, back, split, buffered, _, paid⟩ := kept
      exact ⟨front, frame :: back, split, .inr ⟨frame, back, pos, rfl, state, buffered, paid⟩⟩

omit [Aead] in
theorem Cut.returned_prefix {needed : Bool} {frames : List (Frame needed)} {last : EncryptedStream S R}
    {returned : Bytes} (cut : Cut frames last returned) : returned <+: payloads frames := by
  obtain ⟨front, back, rfl, rfl | ⟨frame, rest, pos, rfl, _, _, rfl⟩⟩ := cut
  · rw [payloads_append]
    exact List.prefix_append _ _
  · rw [payloads_append, payloads_cons]
    exact List.prefix_append_right_inj _ |>.mpr
      ((List.take_prefix pos _).trans (List.prefix_append _ _))

theorem readSealed_cut [AsyncRead S] {codec : Codec} {start : Place}
    {frames : List (Frame codec.needed)} {this : EncryptedStream S R} {returned : Bytes}
    (short : codec.span start frames < 2 ^ 96)
    (ideal : Aead.OpensOnly codec.kind codec.key (codec.recordsAll start frames))
    (follows : this.Follows codec start frames returned) (rooms : List Nat) :
    Cut frames (this.readSealed rooms).2 (returned ++ (this.readSealed rooms).1) := by
  induction rooms generalizing this returned with
  | nil =>
      rw [readSealed, List.append_nil]
      exact follows.cut
  | cons room rooms ih =>
      rw [readSealed]
      by_cases beyond : this.readState = .header ∧ this.encLimit < this.readed
      · rw [if_pos beyond, List.append_nil]
        exact follows.cut
      · rw [if_neg beyond]
        have guard : this.readState = .header → this.readed ≤ this.encLimit :=
          fun state => Nat.le_of_not_lt fun more => beyond ⟨state, more⟩
        cases run : this.pollRead room with
        | mk poll after =>
            have outcome := pollRead_follows short ideal guard follows run
            cases poll using Poll.threeWays with
            | error error =>
                -- A reader that is draining a frame does not fail.
                obtain ⟨front, back, split, boundary | ⟨frame, rest, pos, _, state, _, _⟩⟩ :=
                  follows.cut
                · exact ⟨front, back, split, .inl (by rw [List.append_nil]; exact boundary)⟩
                · have handed := pollRead_ready state room
                  rw [run] at handed
                  cases handed
            | pending | ok _ =>
                rcases outcome with ⟨_, impossible⟩ | kept
                · cases impossible
                · have rest := ih kept
                  rw [List.append_assoc] at rest
                  exact rest

/-- Stream integrity.  The writer is the only one that seals under the reader's
key, and its nonce has not come round; whatever is fed to the reader, it
returns payloads of the writer's frames, in order and from the first on. -/
theorem stream_integrity {S' R' : Type} [AsyncRead S'] [AsyncRead S] [AsyncWrite S] [Rng R]
    {writeCipher readCipher : Cipher} (inStep : writeCipher.InStep readCipher)
    (unused : writeCipher.Unused) (sink : S) (back back' : Cipher) (padding padding' : DataPadding)
    (encLimit encLimit' : Nat) (rng : R) (rng' : R') (calls : List Call) (source : S')
    (rooms : List Nat) :
    let sender :=
      (Sender.fresh (fromStream sink back writeCipher padding encLimit rng)).run calls
    let (returned, reader) :=
      (fromStream source readCipher back' padding' encLimit' rng').readSealed rooms
    sender.stream.writeCipher.advanced < 2 ^ 96 →
      Aead.OpensOnly writeCipher.kind writeCipher.key sender.stream.writeCipher.sealed →
      returned <+: sender.wrote ∧
        ∃ frames, sender.Sent ⟨writeCipher.kind, writeCipher.key, padding.needed, encLimit⟩
            ⟨writeCipher.nonce, 0⟩ frames ∧ Cut frames reader returned := by
  intro sender
  dsimp only
  intro short ideal
  obtain ⟨frames, sent⟩ :=
    (Sender.fresh_sent unused sink back padding encLimit rng).run calls
  rw [List.nil_append] at sent
  have follows : (fromStream source readCipher back' padding' encLimit' rng').Follows
      ⟨writeCipher.kind, writeCipher.key, padding.needed, encLimit⟩ ⟨writeCipher.nonce, 0⟩
      frames [] :=
    ⟨inStep.kind, inStep.key, Nat.zero_le _, [], frames, rfl,
      congrArg (Place.mk · 0) inStep.nonce, rfl⟩
  rw [sent.advanced] at short
  rw [sent.sealed] at ideal
  have cut := readSealed_cut short ideal follows rooms
  rw [List.nil_append] at cut
  rw [sent.wrote]
  exact ⟨cut.returned_prefix, frames, sent, cut⟩

end CovertConnect.Crypto.EncryptedStream

namespace CovertConnect.Crypto.EncryptedStream

open CovertConnect.Data

def replayCipher : Cipher where
  kind := .aes256Gcm
  key := List.replicate 32 7
  nonce := .zero
  sealed := []
  advanced := 0

def replayCodec : Codec := ⟨replayCipher.kind, replayCipher.key, DataPadding.needed ⟨0, 0⟩, 100⟩

def replayFrame : Frame replayCodec.needed :=
  ⟨[1, 2, 3], [], by decide, by decide, fun _ => rfl⟩

def replayLog : List SealRecord :=
  replayCodec.recordsAll ⟨replayCipher.nonce, 0⟩ [replayFrame]

def replayAttack : Bytes :=
  let frame := @Codec.encode replayCodec (Aead.ledger replayLog) ⟨replayCipher.nonce, 0⟩ replayFrame
  frame ++ frame

/-- A frame that is fed to the reader twice is returned once. -/
theorem stream_integrity_replayed :
    let _ : Aead := Aead.ledger replayLog
    let sender : Sender Bytes Unit :=
      (Sender.fresh (fromStream [] replayCipher replayCipher ⟨0, 0⟩ 100 ())).run [.write [1, 2, 3]]
    let returned := ((fromStream replayAttack replayCipher replayCipher ⟨0, 0⟩ 100 ()).readSealed
      [2, 2, 2, 2]).1
    returned = [1, 2, 3] ∧ returned <+: sender.wrote := by
  intro aead sender returned
  have ideal : Aead.OpensOnly replayCipher.kind replayCipher.key
      sender.stream.writeCipher.sealed := by
    have sealed : sender.stream.writeCipher.sealed = replayLog := by decide
    rw [sealed]
    exact Aead.ledger_opensOnly _ _ _
  exact ⟨by decide, (stream_integrity ⟨rfl, rfl, rfl⟩ ⟨rfl, rfl⟩ ([] : Bytes) replayCipher
    replayCipher ⟨0, 0⟩ ⟨0, 0⟩ 100 100 () () [.write [1, 2, 3]] replayAttack [2, 2, 2, 2]
    (by decide) ideal).1⟩

/-- The nonce does come round in the end: a writer that goes on for half a
round of empty frames meets the nonces of its first frame again. -/
def roundStart : Place := ⟨replayCipher.nonce, 0⟩

def roundFrame (payload : Bytes) (fits : payload.length ≤ maxPacketSize) :
    Frame replayCodec.needed where
  payload := payload
  padding := []
  payload_fits := fits
  padding_fits := Nat.zero_lt_succ _
  padding_needed := fun _ => rfl

def roundFrames (count : Nat) : List (Frame replayCodec.needed) :=
  roundFrame [7] (by decide) :: List.replicate count (roundFrame [] (by decide))

theorem roundFrames_span (place : Place) (below : place.count ≤ replayCodec.encLimit) (count : Nat) :
    replayCodec.span place (List.replicate count (roundFrame [] (by decide))) = 2 * count := by
  induction count generalizing place with
  | zero => rfl
  | succ count ih =>
      rw [List.replicate_succ, Codec.span, ih _ (by rw [Codec.next_count]; exact below),
        Codec.stride, if_pos below]
      change max 0 1 + 1 + _ = _
      omega

theorem roundFrames_payloads (count : Nat) : payloads (roundFrames count) = [7] := by
  have nothing : payloads (List.replicate count (roundFrame [] (by decide))) = [] := by
    induction count with
    | zero => rfl
    | succ count ih => rw [List.replicate_succ, payloads_cons, ih]; rfl
  rw [roundFrames, payloads_cons, nothing]
  rfl

/-- Frames without padding are known by their payload. -/
theorem roundFrames_unique {frames : List (Frame replayCodec.needed)} {count : Nat}
    (same : frames.map Frame.payload = [7] :: List.replicate count []) :
    frames = roundFrames count := by
  have injective : Function.Injective (Frame.payload : Frame replayCodec.needed → Bytes) := by
    intro given given' same
    obtain ⟨payload, padding, _, _, none⟩ := given
    obtain ⟨payload', padding', _, _, none'⟩ := given'
    have left := none rfl
    have right := none' rfl
    dsimp only at same left right
    subst same left right
    rfl
  apply injective.list_map
  rw [same, roundFrames, List.map_cons, List.map_replicate]
  rfl

/-- The log of the writer after `count` empty frames. -/
def roundLog (count : Nat) : List SealRecord :=
  replayCodec.recordsAll roundStart (roundFrames count)

def roundSender (count : Nat) : Sender Bytes Unit :=
  @Sender.run Bytes Unit _ _ _ (Aead.ledger (roundLog count))
    (.fresh (fromStream [] replayCipher replayCipher ⟨0, 0⟩ 100 ()))
    (([7] :: List.replicate count []).map .write)

/-- The frames of the writer, and then the first one once more. -/
def roundAttack (count : Nat) : Bytes :=
  @Codec.encodeAll replayCodec (Aead.ledger (roundLog count)) roundStart
    (roundFrames count ++ [roundFrame [7] (by decide)])

def roundReturned (count : Nat) : Bytes :=
  (@readSealed Bytes Unit (Aead.ledger (roundLog count)) _
    (fromStream (roundAttack count) replayCipher replayCipher ⟨0, 0⟩ 100 ())
    (List.replicate (roundFrames count ++ [roundFrame [7] (by decide)]).length 2)).1

theorem roundSender_sent (count : Nat) :
    (roundSender count).Sent replayCodec roundStart (roundFrames count) := by
  let _ := Aead.ledger (roundLog count)
  have start : (Sender.fresh (fromStream ([] : Bytes) replayCipher replayCipher ⟨0, 0⟩ 100 ())).Sent
      replayCodec roundStart [] :=
    Sender.fresh_sent ⟨rfl, rfl⟩ _ _ _ _ _
  obtain ⟨frames, payloads, sent⟩ := start.writes rfl rfl ([7] :: List.replicate count []) (by
    intro buf there
    rcases List.mem_cons.mp there with rfl | empty
    · decide
    · rw [(List.mem_replicate.mp empty).2]
      decide)
  rw [roundFrames_unique payloads, List.nil_append] at sent
  exact sent

theorem roundReturned_eq (count : Nat) (turn : 2 * (count + 1) = 2 ^ 96) :
    roundReturned count = [7, 7] := by
  let _ := Aead.ledger (roundLog count)
  have back : (replayCodec.advance roundStart (roundFrames count)).nonce = roundStart.nonce := by
    have span : replayCodec.span roundStart (roundFrames count) = 2 ^ 96 := by
      rw [roundFrames, Codec.span, roundFrames_span _ (by decide)]
      change 2 + 2 * count = 2 ^ 96
      omega
    rw [Codec.advance_nonce, span, Nonce.inc_turn]
  have once : (replayCodec.advance roundStart (roundFrames count)).count = 1 := by
    rw [Codec.advance_count, roundFrames_payloads]
    rfl
  have again : replayCodec.records (replayCodec.advance roundStart (roundFrames count))
      (roundFrame [7] (by decide)) = replayCodec.records roundStart (roundFrame [7] (by decide)) :=
    replayCodec.records_congr (by rw [once]; decide) (by decide) back _
  have logged : ∀ record ∈ replayCodec.recordsAll roundStart
      (roundFrames count ++ [roundFrame [7] (by decide)]), record ∈ roundLog count := by
    intro record there
    rw [Codec.recordsAll_append] at there
    rcases List.mem_append.mp there with first | second
    · exact first
    · rw [Codec.recordsAll, Codec.recordsAll, List.append_nil, again] at second
      exact List.mem_append_left _ second
  have paid : payloads (roundFrames count ++ [roundFrame [7] (by decide)]) = [7, 7] := by
    rw [payloads_append, roundFrames_payloads]
    rfl
  have start : (fromStream (roundAttack count) replayCipher replayCipher ⟨0, 0⟩ 100 ()).At
      replayCodec roundStart (replayCodec.encodeAll roundStart
        (roundFrames count ++ [roundFrame [7] (by decide)])) := ⟨rfl, rfl, rfl, rfl⟩
  have room : (payloads (roundFrames count ++ [roundFrame [7] (by decide)])).length ≤ 2 := by
    rw [paid]
    decide
  have read := readSealed_at (by rw [paid]; decide)
    (fun record there => Aead.ledger_opens (logged record there)) room rfl start
  exact read.trans paid

/-- Without a bound on the nonce the reader takes a replayed frame. -/
theorem stream_integrity_round :
    @Aead.OpensOnly (Aead.ledger (roundLog (2 ^ 95 - 1))) replayCipher.kind replayCipher.key
        (roundSender (2 ^ 95 - 1)).stream.writeCipher.sealed ∧
      (roundSender (2 ^ 95 - 1)).wrote = [7] ∧ roundReturned (2 ^ 95 - 1) = [7, 7] ∧
      ¬ roundReturned (2 ^ 95 - 1) <+: (roundSender (2 ^ 95 - 1)).wrote := by
  have sent := roundSender_sent (2 ^ 95 - 1)
  have wrote : (roundSender (2 ^ 95 - 1)).wrote = [7] := sent.wrote.trans (roundFrames_payloads _)
  have returned := roundReturned_eq (2 ^ 95 - 1) (by norm_num)
  refine ⟨?_, wrote, returned, ?_⟩
  · rw [sent.sealed]
    exact Aead.ledger_opensOnly _ _ _
  · rw [wrote, returned]
    decide

end CovertConnect.Crypto.EncryptedStream
