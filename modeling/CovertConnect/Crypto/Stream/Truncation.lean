import CovertConnect.Crypto.Stream.Transport
import CovertConnect.Crypto.Stream.Undisturbed

namespace CovertConnect.Crypto

open CovertConnect.Data

/-! # Streams that are cut off

The inner stream of the reader delivers the first bytes of a sequence of frames
and then ends.  `poll_read` has three checks for that, one for each part of a
frame. -/

/-- An inner stream that delivers what it has `left`, in chunks of any size and
after some waiting, and then ends. -/
structure Ending (S : Type) [AsyncRead S] where
  left : S → Bytes
  waits : S → Nat
  pending : ∀ {stream next : S} {room : Nat}, AsyncRead.pollRead stream room = (.pending, next) →
    left next = left stream ∧ waits next < waits stream
  delivers : ∀ {stream next : S} {room : Nat} {bytes : Bytes}, 0 < room →
    AsyncRead.pollRead stream room = (.ready (.ok bytes), next) →
    left stream = bytes ++ left next ∧ waits next ≤ waits stream ∧
      (bytes = [] → left stream = [])
  sound : ∀ {stream next : S} {room : Nat} {error : IoError},
    AsyncRead.pollRead stream room ≠ (.ready (.error error), next)

/-- Bytes in memory deliver everything at once. -/
def Ending.memory : Ending Bytes where
  left := id
  waits _ := 0
  pending := by
    intro stream next room poll
    cases poll
  delivers := by
    intro stream next room bytes positive poll
    cases poll
    refine ⟨(List.take_append_drop room stream).symm, Nat.le_refl 0, ?_⟩
    intro nothing
    cases stream with
    | nil => rfl
    | cons byte stream =>
        cases room with
        | zero => exact absurd positive (Nat.lt_irrefl 0)
        | succ room => cases nothing
  sound := by
    intro stream next room error poll
    cases poll

namespace EncryptedStream

variable {S R : Type}

/-- The answers to polls with the given room each. -/
def polls [AsyncRead S] [Aead] (this : EncryptedStream S R) :
    List Nat → List (Poll (Except IoError Bytes))
  | [] => []
  | room :: rooms => (this.pollRead room).1 :: (this.pollRead room).2.polls rooms

section Filling

variable [AsyncRead S] (ending : Ending S)

/-- Why filling a buffer stops: it waits, the stream ended in the middle, the
buffer is full, or the stream ended before its first byte. -/
def Filled (size : Nat) (before after : S) (buffer : Bytes) :
    Poll (Except IoError Unit) → Prop
  | .pending => ending.waits after < ending.waits before ∧ buffer.length < size
  | .ready (.error _) => buffer.length < size
  | .ready (.ok ()) => size ≤ buffer.length ∨ (buffer = [] ∧ ending.left after = [])

theorem readLoop_ending {size turns : Nat} {inner after : S} {buffer buffer' : Bytes}
    {result : Poll (Except IoError Unit)} (enough : size ≤ buffer.length + turns)
    (run : readLoop size turns inner buffer = (result, after, buffer')) :
    ∃ got, ending.left inner = got ++ ending.left after ∧ buffer' = buffer ++ got ∧
      ending.waits after ≤ ending.waits inner ∧
      (buffer.length ≤ size → buffer'.length ≤ size) ∧
      Filled ending size inner after buffer' result := by
  induction turns generalizing inner buffer with
  | zero =>
      simp only [readLoop, Prod.mk.injEq] at run
      obtain ⟨rfl, rfl, rfl⟩ := run
      exact ⟨[], rfl, (List.append_nil _).symm, Nat.le_refl _, id, .inl enough⟩
  | succ turns ih =>
      rw [readLoop] at run
      by_cases more : buffer.length < size
      · rw [if_pos more] at run
        cases poll : AsyncRead.pollRead inner (size - buffer.length) with
        | mk answer next =>
            rw [poll] at run
            cases answer using Poll.threeWays with
            | pending =>
                simp only [Prod.mk.injEq] at run
                obtain ⟨rfl, rfl, rfl⟩ := run
                obtain ⟨same, waited⟩ := ending.pending poll
                exact ⟨[], same.symm, (List.append_nil _).symm, Nat.le_of_lt waited, id,
                  waited, more⟩
            | error error => exact absurd poll ending.sound
            | ok bytes =>
                have room : 0 < size - buffer.length := by omega
                obtain ⟨split, waited, last⟩ := ending.delivers room poll
                have fits := AsyncRead.pollRead_fits _ _ _ _ poll
                by_cases ended : bytes.length = 0
                · have nothing := List.eq_nil_of_length_eq_zero ended
                  subst nothing
                  have drained : ending.left next = [] := by
                    rw [← List.nil_append (ending.left next), ← split]
                    exact last rfl
                  simp only [if_pos ended] at run
                  by_cases partly : buffer.length ≠ 0
                  · simp only [if_pos partly, Prod.mk.injEq] at run
                    obtain ⟨rfl, rfl, rfl⟩ := run
                    exact ⟨[], split, (List.append_nil _).symm, waited, id, more⟩
                  · simp only [if_neg partly, Prod.mk.injEq] at run
                    obtain ⟨rfl, rfl, rfl⟩ := run
                    have emptyBuffer : buffer = [] :=
                      List.eq_nil_of_length_eq_zero (Decidable.not_not.mp partly)
                    exact ⟨[], split, (List.append_nil _).symm, waited, id,
                      .inr ⟨emptyBuffer, drained⟩⟩
                · simp only [if_neg ended] at run
                  obtain ⟨got, split', grown, waited', bound, filled⟩ :=
                    ih (by rw [List.length_append]; omega) run
                  refine ⟨bytes ++ got, ?_, ?_, Nat.le_trans waited' waited, ?_, ?_⟩
                  · rw [split, split', List.append_assoc]
                  · rw [grown, List.append_assoc]
                  · intro _
                    apply bound
                    rw [List.length_append]
                    omega
                  · cases result using Poll.threeWays with
                    | pending => exact ⟨Nat.lt_of_lt_of_le filled.1 waited, filled.2⟩
                    | error _ => exact filled
                    | ok _ => exact filled
      · rw [if_neg more] at run
        simp only [Prod.mk.injEq] at run
        obtain ⟨rfl, rfl, rfl⟩ := run
        exact ⟨[], rfl, (List.append_nil _).symm, Nat.le_refl _, id, .inl (Nat.le_of_not_lt more)⟩

theorem pollReadExact_ending {this after : EncryptedStream S R} {size : Nat}
    {result : Poll (Except IoError Unit)} (run : this.pollReadExact size = (result, after)) :
    ∃ got inner, ending.left this.inner = got ++ ending.left inner ∧
      after = this.took inner got ∧ ending.waits inner ≤ ending.waits this.inner ∧
      (this.readBuffer.length ≤ size → (this.readBuffer ++ got).length ≤ size) ∧
      Filled ending size this.inner inner (this.readBuffer ++ got) result := by
  unfold pollReadExact at run
  cases loop : readLoop size (size - this.readBuffer.length) this.inner this.readBuffer with
  | mk answer rest =>
      obtain ⟨inner, buffer⟩ := rest
      obtain ⟨got, split, rfl, waited, bound, filled⟩ :=
        readLoop_ending ending (by omega) loop
      rw [loop] at run
      simp only [Prod.mk.injEq] at run
      obtain ⟨rfl, rfl⟩ := run
      exact ⟨got, inner, split, rfl, waited, bound, filled⟩

end Filling

section Tracking

variable [Aead]

/-- The reader is behind `front`, in the first frame of `back`, and `rest` is
what it has not taken yet. -/
def Tracks (codec : Codec) (start : Place) (this : EncryptedStream S R)
    (front back : List (Frame codec.needed)) (rest : Bytes) : Prop :=
  this.readCodec = codec ∧
  match this.readState with
  | .header =>
      this.readPlace = codec.advance start front ∧
      this.readBuffer.length ≤ codec.headerLength this.readed ∧
      this.readBuffer ++ rest = codec.encodeAll this.readPlace back
  | .padding size dataSize =>
      ∃ frame more, back = frame :: more ∧ size = frame.padding.length ∧
        dataSize = frame.payload.length ∧
        this.readPlace = codec.middle (codec.advance start front) frame.padding.length ∧
        this.readBuffer.length ≤ size ∧
        this.readBuffer ++ rest = frame.padding ++ (codec.record this.readPlace frame.payload ++
          codec.encodeAll (codec.advance start (front ++ [frame])) more)
  | .data size =>
      ∃ frame more, back = frame :: more ∧ size = frame.payload.length ∧
        this.readPlace = codec.middle (codec.advance start front) frame.padding.length ∧
        this.readBuffer.length ≤ codec.dataLength this.readed size ∧
        this.readBuffer ++ rest = codec.record this.readPlace frame.payload ++
          codec.encodeAll (codec.advance start (front ++ [frame])) more
  | .ready pos =>
      ∃ frame more, back = frame :: more ∧ this.readBuffer = frame.payload ∧
        (pos = 0 ∨ pos < frame.payload.length) ∧
        this.readPlace = codec.advance start (front ++ [frame]) ∧
        rest = codec.encodeAll this.readPlace more

/-- How much of the current frame was handed out. -/
def handedOut (this : EncryptedStream S R) : Nat :=
  match this.readState with
  | .ready pos => pos
  | _ => 0

omit [Aead] in
theorem advance_snoc (codec : Codec) (start : Place) (front : List (Frame codec.needed))
    (frame : Frame codec.needed) :
    codec.advance start (front ++ [frame]) = codec.next (codec.advance start front) frame := by
  rw [Codec.advance_append, Codec.advance_cons, Codec.advance_nil]

/-- A complete header leads on to the padding or to the data of its frame. -/
theorem openHeader_frame (correct : Aead.Correct) (this : EncryptedStream S R)
    {frame : Frame this.readCodec.needed}
    (buffered : this.readBuffer =
      this.readCodec.record this.readPlace (this.readCodec.headerPlain frame)) :
    ∃ after, this.openHeader = (none, after) ∧ after.inner = this.inner ∧
      after.readBuffer = [] ∧ after.readCodec = this.readCodec ∧
      after.readPlace = this.readCodec.middle this.readPlace frame.padding.length ∧
      after.readState =
        if this.readCodec.needed then .padding frame.padding.length frame.payload.length
        else .data frame.payload.length := by
  unfold openHeader
  by_cases within : this.readed ≤ this.encLimit
  · have sealed : this.readBuffer = Aead.sealRecord this.readCipher.kind this.readCipher.key
        this.readCipher.nonce (this.readCodec.headerPlain frame) := by
      rw [buffered, Codec.record, if_pos (show this.readPlace.count ≤ this.readCodec.encLimit
        from within)]
      rfl
    have opened := Cipher.decrypt_sealRecord correct this.readCipher
      (this.readCodec.headerPlain frame)
    rw [← sealed] at opened
    rw [if_pos within, opened]
    obtain ⟨state, place⟩ := takeHeader_frame
      { this with
        readBuffer := this.readCodec.headerPlain frame ++
          Aead.sealTag this.readCipher.kind this.readCipher.key this.readCipher.nonce
            (this.readCodec.headerPlain frame) } frame rfl
    exact ⟨_, rfl, rfl, rfl, takeHeader_readCodec _, place, state⟩
  · have plain : this.readBuffer = this.readCodec.headerPlain frame ++ [] := by
      rw [buffered, Codec.record, if_neg (show ¬ this.readPlace.count ≤ this.readCodec.encLimit
        from within), List.append_nil]
    obtain ⟨state, place⟩ := takeHeader_frame this frame plain
    rw [if_neg within]
    exact ⟨_, rfl, rfl, rfl, takeHeader_readCodec _, place, state⟩

/-- A complete data record leaves its payload in the buffer. -/
theorem openData_frame (correct : Aead.Correct) (this : EncryptedStream S R) {data : Bytes}
    (buffered : this.readBuffer = this.readCodec.record this.readPlace data) :
    ∃ after, this.openData data.length = (none, after) ∧ after.inner = this.inner ∧
      after.readBuffer = data ∧ after.readCodec = this.readCodec ∧
      after.readPlace = this.readCodec.finish this.readPlace data.length ∧
      after.readState = .ready 0 := by
  unfold openData
  by_cases within : this.readed ≤ this.encLimit
  · have sealed : this.readBuffer = Aead.sealRecord this.readCipher.kind this.readCipher.key
        this.readCipher.nonce data := by
      rw [buffered, Codec.record, if_pos (show this.readPlace.count ≤ this.readCodec.encLimit
        from within)]
      rfl
    have opened := Cipher.decrypt_sealRecord correct this.readCipher data
    rw [← sealed] at opened
    rw [if_pos within, opened]
    refine ⟨_, rfl, rfl, List.take_left, rfl, ?_, rfl⟩
    simp [Codec.finish, Codec.step, readCodec, readPlace, within]
  · have plain : this.readBuffer = data := by
      rw [buffered, Codec.record, if_neg (show ¬ this.readPlace.count ≤ this.readCodec.encLimit
        from within)]
    rw [if_neg within]
    refine ⟨_, rfl, rfl, plain, rfl, ?_, rfl⟩
    simp [Codec.finish, Codec.step, readCodec, readPlace, within]

/-- With nothing in the buffer a sealed record does not open. -/
theorem openData_nothing {this : EncryptedStream S R} (nothing : this.readBuffer = [])
    (within : this.readed ≤ this.encLimit) (size : Nat) :
    this.openData size =
      (some (.ready (.error (.invalidData "decrypt data failed"))), this) := by
  have failed : Aead.openRecord this.readCipher.kind this.readCipher.key this.readCipher.nonce
      this.readBuffer = none := by
    rw [nothing]
    rfl
  have kept : Aead.clobber this.readCipher.kind this.readCipher.key this.readCipher.nonce
      this.readBuffer = this.readBuffer := by
    have width := Aead.clobber_length this.readCipher.kind this.readCipher.key
      this.readCipher.nonce this.readBuffer
    rw [nothing] at width ⊢
    exact List.eq_nil_of_length_eq_zero width
  rw [openData, if_pos within, Cipher.decrypt_none failed, kept]

/-- Bytes that the inner stream delivered are in the buffer. -/
theorem Tracks.took {codec : Codec} {start : Place} {this : EncryptedStream S R}
    {front back : List (Frame codec.needed)} {got tail : Bytes}
    (tracks : this.Tracks codec start front back (got ++ tail)) (inner : S)
    (waiting : this.phase < 3) (resting : (this.took inner got).Resting) :
    (this.took inner got).Tracks codec start front back tail := by
  obtain ⟨rfl, kept⟩ := tracks
  refine ⟨rfl, ?_⟩
  simp only [Resting, took_readState, took_readBuffer, took_readed, took_readCodec,
    took_readPlace] at resting ⊢
  cases state : this.readState with
  | header =>
      simp only [state] at kept resting ⊢
      obtain ⟨place, _, bytes⟩ := kept
      refine ⟨place, Nat.le_of_lt resting, ?_⟩
      rw [List.append_assoc, bytes]
  | padding size dataSize =>
      simp only [state] at kept resting ⊢
      obtain ⟨frame, more, rfl, paddingSize, dataLength, place, _, bytes⟩ := kept
      refine ⟨frame, more, rfl, paddingSize, dataLength, place, Nat.le_of_lt resting, ?_⟩
      rw [List.append_assoc, bytes]
  | data size =>
      simp only [state] at kept resting ⊢
      obtain ⟨frame, more, rfl, dataLength, place, _, bytes⟩ := kept
      refine ⟨frame, more, rfl, dataLength, place, Nat.le_of_lt resting, ?_⟩
      rw [List.append_assoc, bytes]
  | ready pos =>
      simp only [phase, state] at waiting
      exact absurd waiting (Nat.lt_irrefl 3)

/-- Where the bytes of some frames may be missing when the reader takes their
end for the end of the stream. -/
inductive Stop (codec : Codec) (start : Place) (frames : List (Frame codec.needed))
    (missing : Bytes) : Prop where
  | boundary {front back} (split : frames = front ++ back)
      (rest : missing = codec.encodeAll (codec.advance start front) back)
  | behindHeader {front frame back} (split : frames = front ++ frame :: back)
      (padded : frame.padding ≠ [])
      (rest : missing = frame.padding ++ (codec.record
        (codec.middle (codec.advance start front) frame.padding.length) frame.payload ++
          codec.encodeAll (codec.advance start (front ++ [frame])) back))
  | behindPadding {front frame back} (split : frames = front ++ frame :: back)
      (something : frame.payload ≠ [])
      (rest : missing = codec.record
        (codec.middle (codec.advance start front) frame.padding.length) frame.payload ++
          codec.encodeAll (codec.advance start (front ++ [frame])) back)
  | emptyFrame {front frame back left} (split : frames = front ++ frame :: back)
      (nothing : frame.payload = [])
      (rest : left ++ missing = codec.encodeAll (codec.advance start (front ++ [frame])) back)

variable [AsyncRead S] (ending : Ending S)

/-- How a part of a poll can end while `missing` will never come. -/
def Passed (codec : Codec) (start : Place) (front back : List (Frame codec.needed))
    (missing : Bytes) (this after : EncryptedStream S R) :
    Option (Poll (Except IoError Bytes)) → Prop
  | none | some (.ready (.error _)) =>
      after.Tracks codec start front back (ending.left after.inner ++ missing) ∧
        after.handedOut = this.handedOut
  | some .pending =>
      (after.Tracks codec start front back (ending.left after.inner ++ missing) ∧
        after.handedOut = this.handedOut) ∧
        ending.waits after.inner < ending.waits this.inner
  | some (.ready (.ok bytes)) => bytes = [] ∧ Stop codec start (front ++ back) missing

/-- A part of a poll that ends while its buffer is being filled leaves the
reader in the frame where it was. -/
theorem Tracks.interrupted {codec : Codec} {start : Place} {this : EncryptedStream S R}
    {front back : List (Frame codec.needed)} {got missing : Bytes} {inner : S} {size : Nat}
    {answer : Poll (Except IoError Unit)}
    (tracks : this.Tracks codec start front back (got ++ (ending.left inner ++ missing)))
    (waiting : this.phase < 3)
    (rests : (this.readBuffer ++ got).length < size → (this.took inner got).Resting)
    (filled : Filled ending size this.inner inner (this.readBuffer ++ got) answer) :
    match answer with
    | .pending =>
        Passed ending codec start front back missing this (this.took inner got) (some .pending)
    | .ready (.error error) =>
        Passed ending codec start front back missing this (this.took inner got)
          (some (.ready (.error error)))
    | .ready (.ok ()) => True := by
  cases answer using Poll.threeWays with
  | pending =>
      obtain ⟨waited, less⟩ := filled
      exact ⟨⟨tracks.took inner waiting (rests less), rfl⟩, waited⟩
  | error _ => exact ⟨tracks.took inner waiting (rests filled), rfl⟩
  | ok _ => trivial

omit [AsyncRead S] in
/-- Behind a header, the reader is in its frame and has taken nothing of the rest. -/
theorem tracks_behind_header {codec : Codec} {start : Place} {next : EncryptedStream S R}
    {front more : List (Frame codec.needed)} {frame : Frame codec.needed} {rest : Bytes}
    (codecs : next.readCodec = codec) (cleared : next.readBuffer = [])
    (places : next.readPlace = codec.middle (codec.advance start front) frame.padding.length)
    (states : next.readState =
      if codec.needed then .padding frame.padding.length frame.payload.length
      else .data frame.payload.length)
    (bytes : rest = frame.padding ++
      (codec.record (codec.middle (codec.advance start front) frame.padding.length) frame.payload ++
        codec.encodeAll (codec.next (codec.advance start front) frame) more)) :
    next.Tracks codec start front (frame :: more) rest ∧ next.handedOut = 0 ∧ 1 ≤ next.phase := by
  have onward := advance_snoc codec start front frame
  by_cases needed : codec.needed
  · rw [if_pos needed] at states
    refine ⟨⟨codecs, ?_⟩, by simp [handedOut, states], by simp [phase, states]⟩
    simp only [states]
    refine ⟨frame, more, rfl, rfl, rfl, places, ?_, ?_⟩
    · rw [cleared]
      exact Nat.zero_le _
    · rw [cleared, onward, places, List.nil_append, bytes]
  · rw [if_neg needed] at states
    refine ⟨⟨codecs, ?_⟩, by simp [handedOut, states], by simp [phase, states]⟩
    simp only [states]
    refine ⟨frame, more, rfl, rfl, places, ?_, ?_⟩
    · rw [cleared]
      exact Nat.zero_le _
    · rw [cleared, onward, places, List.nil_append, bytes,
        frame.padding_needed (by simpa using needed), List.nil_append]

theorem readHeader_tracks (correct : Aead.Correct) {codec : Codec} {start : Place}
    {front back : List (Frame codec.needed)} {missing : Bytes} {this after : EncryptedStream S R}
    {result : Option (Poll (Except IoError Bytes))}
    (tracks : this.Tracks codec start front back (ending.left this.inner ++ missing))
    (run : this.readHeader = (result, after)) :
    ending.waits after.inner ≤ ending.waits this.inner ∧
      Passed ending codec start front back missing this after result ∧
      (result = none → 1 ≤ after.phase) := by
  unfold readHeader at run
  cases state : this.readState with
  | padding _ _ | data _ | ready _ =>
      simp only [state, Prod.mk.injEq] at run
      obtain ⟨rfl, rfl⟩ := run
      exact ⟨Nat.le_refl _, ⟨tracks, rfl⟩, fun _ => by simp [phase, state]⟩
  | header =>
      simp only [state] at run
      have sizes : this.headerSize this.readed this.readCipher.tagSize =
          this.readCodec.headerLength this.readed := rfl
      rw [sizes] at run
      have positive : 0 < this.readCodec.headerLength this.readed := by
        unfold Codec.headerLength
        omega
      have begun : this.phase < 3 := by simp [phase, state]
      have none : this.handedOut = 0 := by simp [handedOut, state]
      cases fill : this.pollReadExact (this.readCodec.headerLength this.readed) with
      | mk answer next =>
          obtain ⟨got, inner, split, rfl, waited, bound, filled⟩ := pollReadExact_ending ending fill
          rw [fill] at run
          rw [split, List.append_assoc] at tracks
          have rests : (this.readBuffer ++ got).length < this.readCodec.headerLength this.readed →
              (this.took inner got).Resting := by
            intro less
            simp only [Resting, took_readState, state]
            exact less
          have interrupted := tracks.interrupted ending begun rests filled
          cases answer using Poll.threeWays with
          | pending | error _ =>
              simp only [Prod.mk.injEq] at run
              obtain ⟨rfl, rfl⟩ := run
              exact ⟨waited, interrupted, by simp⟩
          | ok _ =>
              dsimp only at run
              obtain ⟨rfl, kept⟩ := tracks
              simp only [state] at kept
              obtain ⟨place, below, bytes⟩ := kept
              by_cases less : (this.took inner got).readBuffer.length <
                  this.readCodec.headerLength this.readed
              · rw [if_pos less] at run
                simp only [Prod.mk.injEq] at run
                obtain ⟨rfl, rfl⟩ := run
                obtain ⟨nothing, ended⟩ := filled.resolve_left (Nat.not_le_of_lt less)
                refine ⟨waited, ⟨rfl, .boundary rfl ?_⟩, by simp⟩
                rw [← place, ← bytes, ← List.append_assoc, nothing, ended]
                rfl
              · rw [if_neg less] at run
                have exactly : (this.readBuffer ++ got).length =
                    this.readCodec.headerLength this.readed :=
                  Nat.le_antisymm (bound below) (Nat.le_of_not_lt less)
                rw [← List.append_assoc] at bytes
                cases back with
                | nil =>
                    have width := congrArg List.length bytes
                    simp only [Codec.encodeAll, List.length_append, List.length_nil] at width
                    rw [List.length_append] at exactly
                    omega
                | cons frame more =>
                    have header := this.readCodec.headerRecord_length this.readPlace frame
                    rw [Codec.encodeAll_cons] at bytes
                    obtain ⟨buffered, rest⟩ := List.append_inj bytes (exactly.trans header.symm)
                    obtain ⟨next, opened, source, cleared, codecs, places, states⟩ :=
                      openHeader_frame correct (this.took inner got) buffered
                    rw [opened] at run
                    simp only [Prod.mk.injEq] at run
                    obtain ⟨rfl, rfl⟩ := run
                    have places : next.readPlace =
                        this.readCodec.middle this.readPlace frame.padding.length := places
                    have source : next.inner = inner := source
                    have states : next.readState =
                        if this.readCodec.needed then
                          .padding frame.padding.length frame.payload.length
                        else .data frame.payload.length := states
                    rw [place] at places rest
                    obtain ⟨tracks, unread, begun⟩ :=
                      tracks_behind_header codecs cleared places states rest
                    refine ⟨by rw [source]; exact waited, ⟨?_, unread.trans none.symm⟩,
                      fun _ => begun⟩
                    rw [source]
                    exact tracks

theorem readPadding_tracks {codec : Codec} {start : Place} {front back : List (Frame codec.needed)}
    {missing : Bytes} {this after : EncryptedStream S R}
    {result : Option (Poll (Except IoError Bytes))} (begun : 1 ≤ this.phase)
    (tracks : this.Tracks codec start front back (ending.left this.inner ++ missing))
    (run : this.readPadding = (result, after)) :
    ending.waits after.inner ≤ ending.waits this.inner ∧
      Passed ending codec start front back missing this after result ∧
      (result = none → 2 ≤ after.phase) := by
  unfold readPadding at run
  cases state : this.readState with
  | header | data _ | ready _ =>
      simp only [state, Prod.mk.injEq] at run
      obtain ⟨rfl, rfl⟩ := run
      exact ⟨Nat.le_refl _, ⟨tracks, rfl⟩, fun _ => by simp_all [phase]⟩
  | padding size dataSize =>
      simp only [state] at run
      have waiting : this.phase < 3 := by simp [phase, state]
      have none : this.handedOut = 0 := by simp [handedOut, state]
      cases fill : this.pollReadExact size with
      | mk answer next =>
          obtain ⟨got, inner, split, rfl, waited, bound, filled⟩ := pollReadExact_ending ending fill
          rw [fill] at run
          rw [split, List.append_assoc] at tracks
          have rests : (this.readBuffer ++ got).length < size →
              (this.took inner got).Resting := by
            intro less
            simp only [Resting, took_readState, state]
            exact less
          have interrupted := tracks.interrupted ending waiting rests filled
          cases answer using Poll.threeWays with
          | pending | error _ =>
              simp only [Prod.mk.injEq] at run
              obtain ⟨rfl, rfl⟩ := run
              exact ⟨waited, interrupted, by simp⟩
          | ok _ =>
              dsimp only at run
              obtain ⟨rfl, kept⟩ := tracks
              simp only [state] at kept
              obtain ⟨frame, more, rfl, rfl, rfl, place, below, bytes⟩ := kept
              rw [← List.append_assoc] at bytes
              by_cases less : (this.took inner got).readBuffer.length < frame.padding.length
              · rw [if_pos less] at run
                simp only [Prod.mk.injEq] at run
                obtain ⟨rfl, rfl⟩ := run
                obtain ⟨nothing, ended⟩ := filled.resolve_left (Nat.not_le_of_lt less)
                refine ⟨waited, ⟨rfl, .behindHeader rfl ?_ ?_⟩, by simp⟩
                · exact List.length_pos_iff.mp (Nat.lt_of_le_of_lt (Nat.zero_le _) less)
                · rw [nothing, ended, List.nil_append, List.nil_append, place] at bytes
                  exact bytes
              · rw [if_neg less] at run
                simp only [Prod.mk.injEq] at run
                obtain ⟨rfl, rfl⟩ := run
                have exactly : (this.readBuffer ++ got).length = frame.padding.length :=
                  Nat.le_antisymm (bound below) (Nat.le_of_not_lt less)
                obtain ⟨_, rest⟩ := List.append_inj bytes exactly
                refine ⟨waited, ⟨⟨rfl, frame, more, rfl, rfl, place, Nat.zero_le _, rest⟩, ?_⟩,
                  fun _ => Nat.le_refl 2⟩
                rw [none]
                rfl

theorem readData_tracks (correct : Aead.Correct) {codec : Codec} {start : Place}
    {front back : List (Frame codec.needed)} {missing : Bytes} {this after : EncryptedStream S R}
    {result : Option (Poll (Except IoError Bytes))} (begun : 2 ≤ this.phase)
    (tracks : this.Tracks codec start front back (ending.left this.inner ++ missing))
    (run : this.readData = (result, after)) :
    ending.waits after.inner ≤ ending.waits this.inner ∧
      Passed ending codec start front back missing this after result ∧
      (result = none → 3 ≤ after.phase) := by
  unfold readData at run
  cases state : this.readState with
  | header | padding _ _ | ready _ =>
      simp only [state, Prod.mk.injEq] at run
      obtain ⟨rfl, rfl⟩ := run
      exact ⟨Nat.le_refl _, ⟨tracks, rfl⟩, fun _ => by simp_all [phase]⟩
  | data size =>
      simp only [state] at run
      have waiting : this.phase < 3 := by simp [phase, state]
      have none : this.handedOut = 0 := by simp [handedOut, state]
      have sizes : (if this.readed ≤ this.encLimit then size + this.readCipher.tagSize else size) =
          this.readCodec.dataLength this.readed size := rfl
      rw [sizes] at run
      cases fill : this.pollReadExact (this.readCodec.dataLength this.readed size) with
      | mk answer next =>
          obtain ⟨got, inner, split, rfl, waited, bound, filled⟩ := pollReadExact_ending ending fill
          rw [fill] at run
          rw [split, List.append_assoc] at tracks
          have rests : (this.readBuffer ++ got).length < this.readCodec.dataLength this.readed size →
              (this.took inner got).Resting := by
            intro less
            simp only [Resting, took_readState, state]
            exact less
          have interrupted := tracks.interrupted ending waiting rests filled
          cases answer using Poll.threeWays with
          | pending | error _ =>
              simp only [Prod.mk.injEq] at run
              obtain ⟨rfl, rfl⟩ := run
              exact ⟨waited, interrupted, by simp⟩
          | ok _ =>
              dsimp only at run
              by_cases whole : this.readCodec.dataLength this.readed size ≤
                  (this.took inner got).readBuffer.length
              · have enough : size ≤ this.readCodec.dataLength this.readed size := by
                  unfold Codec.dataLength
                  split <;> omega
                rw [if_neg (Nat.not_lt_of_le (Nat.le_trans enough whole))] at run
                obtain ⟨rfl, kept⟩ := tracks
                simp only [state] at kept
                obtain ⟨frame, more, rfl, rfl, place, below, bytes⟩ := kept
                have exactly : (this.readBuffer ++ got).length =
                    (this.readCodec.record this.readPlace frame.payload).length := by
                  rw [Codec.record_length]
                  exact Nat.le_antisymm (bound below) whole
                rw [← List.append_assoc] at bytes
                obtain ⟨buffered, rest⟩ := List.append_inj bytes exactly
                obtain ⟨next, opened, source, payload, codecs, places, states⟩ :=
                  openData_frame correct (this.took inner got) buffered
                rw [opened] at run
                simp only [Prod.mk.injEq] at run
                obtain ⟨rfl, rfl⟩ := run
                have source : next.inner = inner := source
                have places : next.readPlace =
                    this.readCodec.advance start (front ++ [frame]) := by
                  rw [advance_snoc, Codec.next, ← place]
                  exact places
                refine ⟨by rw [source]; exact waited, ⟨⟨codecs, ?_⟩, ?_⟩, fun _ => ?_⟩
                · simp only [states]
                  refine ⟨frame, more, rfl, payload, .inl trivial, places, ?_⟩
                  rw [source, places, rest]
                · rw [none, handedOut, states]
                · rw [phase, states]
              · obtain ⟨nothing, ended⟩ := filled.resolve_left whole
                have resting := rests (Nat.lt_of_not_le whole)
                by_cases less : (this.took inner got).readBuffer.length < size
                · rw [if_pos less] at run
                  simp only [Prod.mk.injEq] at run
                  obtain ⟨rfl, rfl⟩ := run
                  obtain ⟨rfl, kept⟩ := tracks
                  simp only [state] at kept
                  obtain ⟨frame, more, rfl, rfl, place, _, bytes⟩ := kept
                  rw [← List.append_assoc, nothing, ended, List.nil_append, List.nil_append,
                    place] at bytes
                  refine ⟨waited, ⟨rfl, .behindPadding rfl ?_ bytes⟩, by simp⟩
                  exact List.length_pos_iff.mp (Nat.lt_of_le_of_lt (Nat.zero_le _) less)
                · -- The tag alone is missing, and that is noticed.
                  rw [if_neg less] at run
                  have within : this.readed ≤ this.encLimit := by
                    by_contra beyond
                    rw [Codec.dataLength, if_neg (show ¬ this.readed ≤ this.readCodec.encLimit
                      from beyond)] at whole
                    exact whole (Nat.le_of_not_lt less)
                  rw [openData_nothing (show (this.took inner got).readBuffer = [] from nothing)
                    within] at run
                  simp only [Prod.mk.injEq] at run
                  obtain ⟨rfl, rfl⟩ := run
                  exact ⟨waited, ⟨tracks.took inner waiting resting, rfl⟩, by simp⟩

/-- What is still to be handed out. -/
def owed {needed : Bool} (this : EncryptedStream S R) (back : List (Frame needed)) : Nat :=
  (payloads back).length - this.handedOut

/-- How a whole poll can end while `missing` will never come. -/
def Polled (codec : Codec) (start : Place) (frames back : List (Frame codec.needed))
    (missing : Bytes) (this after : EncryptedStream S R) :
    Poll (Except IoError Bytes) → Prop
  | .ready (.error _) =>
      ∃ front back', frames = front ++ back' ∧
        after.Tracks codec start front back' (ending.left after.inner ++ missing)
  | .pending =>
      ∃ front back', frames = front ++ back' ∧
        after.Tracks codec start front back' (ending.left after.inner ++ missing) ∧
        after.owed back' + ending.waits after.inner < this.owed back + ending.waits this.inner
  | .ready (.ok bytes) =>
      (bytes = [] ∧ Stop codec start frames missing) ∨
        ∃ front back', frames = front ++ back' ∧ bytes ≠ [] ∧
          after.Tracks codec start front back' (ending.left after.inner ++ missing) ∧
          after.owed back' + ending.waits after.inner < this.owed back + ending.waits this.inner

theorem returnBuffered_tracks {codec : Codec} {start : Place}
    {front back : List (Frame codec.needed)} {missing : Bytes} {this after : EncryptedStream S R}
    {room : Nat} {bytes : Bytes} (positive : 0 < room) (done : 3 ≤ this.phase)
    (tracks : this.Tracks codec start front back (ending.left this.inner ++ missing))
    (run : this.returnBuffered room = (bytes, after)) :
    Polled ending codec start (front ++ back) back missing this after (.ready (.ok bytes)) := by
  obtain ⟨rfl, kept⟩ := tracks
  unfold returnBuffered at run
  cases state : this.readState with
  | header | padding _ _ | data _ =>
      simp only [phase, state] at done
      omega
  | ready pos =>
      simp only [state] at run kept
      obtain ⟨frame, more, rfl, buffered, within, place, rest⟩ := kept
      have taken : this.handedOut = pos := by simp [handedOut, state]
      have width : ((this.readBuffer.drop pos).take room).length =
          min room (frame.payload.length - pos) := by
        rw [List.length_take, List.length_drop, buffered]
      by_cases drained : this.readBuffer.length ≤
          pos + ((this.readBuffer.drop pos).take room).length
      · rw [if_pos drained] at run
        simp only [Prod.mk.injEq] at run
        obtain ⟨rfl, rfl⟩ := run
        rw [width, buffered] at drained
        by_cases nothing : (this.readBuffer.drop pos).take room = []
        · have none := congrArg List.length nothing
          rw [width, List.length_nil] at none
          refine .inl ⟨nothing, .emptyFrame rfl ?_ (rest.trans (by rw [place]))⟩
          apply List.eq_nil_of_length_eq_zero
          omega
        · have some := List.length_pos_iff.mpr nothing
          rw [width] at some
          refine .inr ⟨front ++ [frame], more, ?_, nothing, ⟨rfl, place, Nat.zero_le _, rest⟩, ?_⟩
          · rw [List.append_assoc, List.singleton_append]
          · simp only [owed, handedOut, state, payloads_cons, List.length_append]
            omega
      · rw [if_neg drained] at run
        simp only [Prod.mk.injEq] at run
        obtain ⟨rfl, rfl⟩ := run
        rw [buffered] at drained
        rw [buffered] at width
        have some : 0 < ((this.readBuffer.drop pos).take room).length := by
          rw [buffered, width]
          omega
        refine .inr ⟨front, frame :: more, rfl, List.length_pos_iff.mp some,
          ⟨rfl, frame, more, rfl, buffered, .inr ?_, place, rest⟩, ?_⟩
        · rw [buffered]
          omega
        · simp only [owed, handedOut, state, payloads_cons, List.length_append]
          rw [buffered] at some ⊢
          omega

/-- One poll of a reader that will get no more than `missing` leaves over. -/
theorem pollRead_tracks (correct : Aead.Correct) {codec : Codec} {start : Place}
    {front back : List (Frame codec.needed)} {missing : Bytes} {this after : EncryptedStream S R}
    {room : Nat} {result : Poll (Except IoError Bytes)} (positive : 0 < room)
    (tracks : this.Tracks codec start front back (ending.left this.inner ++ missing))
    (run : this.pollRead room = (result, after)) :
    Polled ending codec start (front ++ back) back missing this after result := by
  -- A part of the poll that returns ends the whole poll.
  have returns : ∀ {middle : EncryptedStream S R} {answer : Poll (Except IoError Bytes)},
      middle.handedOut = this.handedOut →
      ending.waits middle.inner ≤ ending.waits this.inner →
      Passed ending codec start front back missing middle after (some answer) →
      Polled ending codec start (front ++ back) back missing this after answer := by
    intro middle answer same waited passed
    cases answer using Poll.threeWays with
    | pending =>
        refine ⟨front, back, rfl, passed.1.1, ?_⟩
        have kept := passed.1.2
        have less := passed.2
        simp only [owed, kept, same]
        omega
    | error _ => exact ⟨front, back, rfl, passed.1⟩
    | ok _ => exact .inl passed
  unfold pollRead at run
  cases header : this.readHeader with
  | mk first behindHeader =>
      obtain ⟨waited₁, passed₁, begun₁⟩ := readHeader_tracks ending correct tracks header
      rw [header] at run
      cases first with
      | some poll =>
          simp only [Prod.mk.injEq] at run
          obtain ⟨rfl, rfl⟩ := run
          exact returns rfl (Nat.le_refl _) passed₁
      | none =>
          dsimp only at run
          cases padding : behindHeader.readPadding with
          | mk second behindPadding =>
              obtain ⟨waited₂, passed₂, begun₂⟩ :=
                readPadding_tracks ending (begun₁ rfl) passed₁.1 padding
              rw [padding] at run
              cases second with
              | some poll =>
                  simp only [Prod.mk.injEq] at run
                  obtain ⟨rfl, rfl⟩ := run
                  exact returns passed₁.2 waited₁ passed₂
              | none =>
                  dsimp only at run
                  have same := passed₂.2.trans passed₁.2
                  have waited := Nat.le_trans waited₂ waited₁
                  cases data : behindPadding.readData with
                  | mk third behindData =>
                      obtain ⟨waited₃, passed₃, begun₃⟩ :=
                        readData_tracks ending correct (begun₂ rfl) passed₂.1 data
                      rw [data] at run
                      cases third with
                      | some poll =>
                          simp only [Prod.mk.injEq] at run
                          obtain ⟨rfl, rfl⟩ := run
                          exact returns same waited passed₃
                      | none =>
                          cases handed : behindData.returnBuffered room with
                          | mk bytes last =>
                              simp only [handed, Prod.mk.injEq] at run
                              obtain ⟨rfl, rfl⟩ := run
                              have polled := returnBuffered_tracks ending positive (begun₃ rfl)
                                passed₃.1 handed
                              rcases polled with stopped | ⟨front', back', split, some, after, less⟩
                              · exact .inl stopped
                              · refine .inr ⟨front', back', split, some, after, ?_⟩
                                have kept := passed₃.2.trans same
                                simp only [owed, kept] at less ⊢
                                omega

/-- Unless the missing bytes start at such a place, no poll reports the end of
the stream, and an error comes after finitely many of them. -/
theorem polls_tracks (correct : Aead.Correct) {codec : Codec} {start : Place}
    {frames : List (Frame codec.needed)} {missing : Bytes}
    (noticed : ¬ Stop codec start frames missing) (rooms : List Nat)
    (positive : ∀ room ∈ rooms, 0 < room) {this : EncryptedStream S R}
    {front back : List (Frame codec.needed)} (split : frames = front ++ back)
    (tracks : this.Tracks codec start front back (ending.left this.inner ++ missing)) :
    .ready (.ok []) ∉ this.polls rooms ∧
      (this.owed back + ending.waits this.inner < rooms.length →
        ∃ error, .ready (.error error) ∈ this.polls rooms) := by
  induction rooms generalizing this front back with
  | nil => exact ⟨by simp [polls], fun short => absurd short (Nat.not_lt_zero _)⟩
  | cons room rooms ih =>
      have later : ∀ other ∈ rooms, 0 < other :=
        fun other member => positive other (List.mem_cons_of_mem _ member)
      cases poll : this.pollRead room with
      | mk result after =>
          have polled := pollRead_tracks ending correct (positive room List.mem_cons_self) tracks poll
          rw [← split] at polled
          simp only [polls, poll, List.mem_cons, List.length_cons, not_or]
          cases result using Poll.threeWays with
          | error error =>
              obtain ⟨front', back', split', after'⟩ := polled
              obtain ⟨silent, _⟩ := ih later split' after'
              exact ⟨⟨by simp, silent⟩, fun _ => ⟨error, .inl rfl⟩⟩
          | pending =>
              obtain ⟨front', back', split', after', less⟩ := polled
              obtain ⟨silent, fails⟩ := ih later split' after'
              refine ⟨⟨by simp, silent⟩, fun short => ?_⟩
              obtain ⟨error, found⟩ := fails (by omega)
              exact ⟨error, .inr found⟩
          | ok bytes =>
              rcases polled with ⟨_, stop⟩ | ⟨front', back', split', something, after', less⟩
              · exact absurd stop noticed
              · obtain ⟨silent, fails⟩ := ih later split' after'
                refine ⟨⟨?_, silent⟩, fun short => ?_⟩
                · simp only [Poll.ready.injEq, Except.ok.injEq]
                  exact fun same => something same.symm
                · obtain ⟨error, found⟩ := fails (by omega)
                  exact ⟨error, .inr found⟩

end Tracking

section Memory

variable [Aead] {codec : Codec} {place : Place} {rest : Bytes} {this : EncryptedStream Bytes R}

theorem readHeader_whole (correct : Aead.Correct) {frame : Frame codec.needed}
    (state : this.readState = .header)
    (here : this.At codec place (codec.record place (codec.headerPlain frame) ++ rest)) :
    ∃ after, this.readHeader = (none, after) ∧
      after.At codec (codec.middle place frame.padding.length) rest ∧
      after.readState =
        if codec.needed then .padding frame.padding.length frame.payload.length
        else .data frame.payload.length := by
  obtain ⟨cleared, rfl, rfl, source⟩ := here
  have width := this.readCodec.headerRecord_length this.readPlace frame
  have sizes : this.headerSize this.readed this.readCipher.tagSize =
      (this.readCodec.record this.readPlace (this.readCodec.headerPlain frame)).length :=
    width.symm
  have fill := pollReadExact_bytes cleared source
  obtain ⟨after, opened, source', cleared', codecs, places, states⟩ := openHeader_frame correct
    { this with
      inner := rest
      readBuffer := this.readCodec.record this.readPlace (this.readCodec.headerPlain frame) } rfl
  simp only [readHeader, state]
  rw [sizes, fill]
  simp only [Nat.lt_irrefl, if_false, opened]
  exact ⟨after, rfl, ⟨cleared', codecs, places, source'⟩, states⟩

theorem readData_whole (correct : Aead.Correct) {frame : Frame codec.needed}
    (state : this.readState = .data frame.payload.length)
    (here : this.At codec place (codec.record place frame.payload ++ rest)) :
    ∃ after, this.readData = (none, after) ∧ after.inner = rest ∧ after.readState = .ready 0 ∧
      after.readBuffer = frame.payload ∧ after.readCodec = codec ∧
      after.readPlace = codec.finish place frame.payload.length := by
  obtain ⟨cleared, rfl, rfl, source⟩ := here
  have sizes : (if this.readed ≤ this.encLimit then
      frame.payload.length + this.readCipher.tagSize else frame.payload.length) =
      (this.readCodec.record this.readPlace frame.payload).length :=
    (this.readCodec.record_length this.readPlace frame.payload).symm
  have enough : ¬ (this.readCodec.record this.readPlace frame.payload).length <
      frame.payload.length := by
    rw [Codec.record_length, Codec.dataLength]
    split <;> omega
  have fill := pollReadExact_bytes cleared source
  obtain ⟨after, opened, source', payload, codecs, places, states⟩ := openData_frame correct
    { this with
      inner := rest
      readBuffer := this.readCodec.record this.readPlace frame.payload } rfl
  simp only [readData, state]
  rw [sizes, fill]
  simp only [if_neg enough, opened]
  exact ⟨after, rfl, source', states, payload, codecs, places⟩

theorem pollRead_whole (correct : Aead.Correct) {frame : Frame codec.needed}
    (state : this.readState = .header) (here : this.At codec place (codec.encode place frame ++ rest)) :
    ∃ after, this.pollRead maxPacketSize = (.ready (.ok frame.payload), after) ∧
      after.At codec (codec.next place frame) rest ∧ after.readState = .header := by
  rw [Codec.encode, List.append_assoc, List.append_assoc] at here
  obtain ⟨behindHeader, header, here, state⟩ := readHeader_whole correct state here
  obtain ⟨behindPadding, padding, here, state⟩ := readPadding_at state here
  obtain ⟨behindData, data, source, state, buffered, codecs, place⟩ :=
    readData_whole correct state here
  have handed : behindData.returnBuffered maxPacketSize =
      (frame.payload, { behindData with readBuffer := [], readState := .header }) := by
    have whole : (behindData.readBuffer.drop 0).take maxPacketSize = frame.payload := by
      rw [buffered, List.drop_zero, List.take_of_length_le frame.payload_fits]
    simp only [returnBuffered, state, whole]
    rw [if_pos (by rw [buffered]; omega)]
  simp only [pollRead, header, padding, data, handed]
  exact ⟨_, rfl, ⟨rfl, codecs, place, source⟩, rfl⟩

theorem polls_whole (correct : Aead.Correct) (frames : List (Frame codec.needed))
    (state : this.readState = .header)
    (here : this.At codec place (codec.encodeAll place frames ++ rest)) :
    ∃ after : EncryptedStream Bytes R,
      after.At codec (codec.advance place frames) rest ∧ after.readState = .header ∧
      ∀ rooms, this.polls (List.replicate frames.length maxPacketSize ++ rooms) =
        frames.map (fun frame => .ready (.ok frame.payload)) ++ after.polls rooms := by
  induction frames generalizing place this with
  | nil => exact ⟨this, here, state, fun _ => rfl⟩
  | cons frame frames ih =>
      rw [Codec.encodeAll, List.append_assoc] at here
      obtain ⟨middle, poll, there, state'⟩ := pollRead_whole correct state here
      obtain ⟨after, behind, state'', others⟩ := ih state' there
      refine ⟨after, behind, state'', fun rooms => ?_⟩
      rw [List.length_cons, List.replicate_succ, List.cons_append, polls, poll, others]
      rfl

omit [Aead] in
theorem pollReadExact_nothing (cleared : this.readBuffer = []) (source : this.inner = [])
    (size : Nat) : this.pollReadExact size = (.ready (.ok ()), this) := by
  obtain ⟨inner, _, buffer, _, _, _, _, _, _, _, _, _⟩ := this
  cases cleared
  cases source
  cases size with
  | zero => rfl
  | succ size => rfl

omit [Aead] in
theorem readPadding_nothing {size dataSize : Nat} (padded : 0 < size)
    (state : this.readState = .padding size dataSize) (here : this.At codec place []) :
    this.readPadding = (some (.ready (.ok [])), this) := by
  simp only [readPadding, state, pollReadExact_nothing here.cleared here.source]
  rw [here.cleared, List.length_nil, if_pos padded]

theorem readData_nothing {size : Nat} (something : 0 < size) (state : this.readState = .data size)
    (here : this.At codec place []) : this.readData = (some (.ready (.ok [])), this) := by
  simp only [readData, state, pollReadExact_nothing here.cleared here.source]
  rw [here.cleared, List.length_nil, if_pos something]

theorem pollRead_behindHeader (correct : Aead.Correct) {frame : Frame codec.needed}
    (padded : frame.padding ≠ []) (state : this.readState = .header)
    (here : this.At codec place (codec.record place (codec.headerPlain frame))) (room : Nat) :
    (this.pollRead room).1 = .ready (.ok []) := by
  rw [← List.append_nil (codec.record _ _)] at here
  obtain ⟨behindHeader, header, here, state⟩ := readHeader_whole correct state here
  have needed : codec.needed = true := by
    by_contra unneeded
    exact padded (frame.padding_needed (by simpa using unneeded))
  rw [if_pos needed] at state
  simp only [pollRead, header, readPadding_nothing (List.length_pos_iff.mpr padded) state here]

theorem pollRead_behindPadding (correct : Aead.Correct) {frame : Frame codec.needed}
    (something : frame.payload ≠ []) (state : this.readState = .header)
    (here : this.At codec place (codec.record place (codec.headerPlain frame) ++ frame.padding))
    (room : Nat) : (this.pollRead room).1 = .ready (.ok []) := by
  obtain ⟨behindHeader, header, here, state⟩ := readHeader_whole correct state here
  rw [← List.append_nil frame.padding] at here
  obtain ⟨behindPadding, padding, here, state⟩ := readPadding_at state here
  simp only [pollRead, header, padding,
    readData_nothing (List.length_pos_iff.mpr something) state here]

end Memory

end EncryptedStream

/-- The frames that a stream with this cipher, padding and limit reads. -/
abbrev Cipher.codec (cipher : Cipher) (padding : DataPadding) (encLimit : Nat) : Codec where
  kind := cipher.kind
  key := cipher.key
  needed := padding.needed
  encLimit := encLimit

/-- Where its first frame starts. -/
abbrev Cipher.place (cipher : Cipher) : Place where
  nonce := cipher.nonce
  count := 0

namespace Codec

variable [Aead] (codec : Codec) (start : Place)

/-- `cut` bytes are some of the frames and nothing of the next one. -/
def BoundaryAt (frames : List (Frame codec.needed)) (cut : Nat) : Prop :=
  ∃ front back, frames = front ++ back ∧ cut = (codec.encodeAll start front).length

/-- How many bytes the frames of `front` and the next header take. -/
def headerEnd (front : List (Frame codec.needed)) : Nat :=
  (codec.encodeAll start front).length +
    codec.headerLength (codec.advance start front).count

/-- A cut that a reader takes for the end of the stream at some poll: it lies
right behind a header that announced padding, or right behind the padding of a
frame with data, or an empty frame was complete before it. -/
def UnnoticedAt (frames : List (Frame codec.needed)) (cut : Nat) : Prop :=
  ∃ front frame back, frames = front ++ frame :: back ∧
    ((frame.padding ≠ [] ∧ cut = codec.headerEnd start front) ∨
      (frame.payload ≠ [] ∧ cut = codec.headerEnd start front + frame.padding.length) ∨
      (frame.payload = [] ∧ (codec.encodeAll start (front ++ [frame])).length ≤ cut))

variable {codec start}

theorem encodeAll_split (front : List (Frame codec.needed)) (frame : Frame codec.needed)
    (back : List (Frame codec.needed)) :
    codec.encodeAll start (front ++ frame :: back) =
      (codec.encodeAll start front ++ codec.record (codec.advance start front)
        (codec.headerPlain frame)) ++ (frame.padding ++ (codec.record
          (codec.middle (codec.advance start front) frame.padding.length) frame.payload ++
            codec.encodeAll (codec.advance start (front ++ [frame])) back)) := by
  rw [encodeAll_append, encodeAll_cons, EncryptedStream.advance_snoc, List.append_assoc]

theorem headerEnd_eq (front : List (Frame codec.needed)) (frame : Frame codec.needed) :
    codec.headerEnd start front = (codec.encodeAll start front ++ codec.record
      (codec.advance start front) (codec.headerPlain frame)).length := by
  rw [List.length_append, headerRecord_length]
  rfl

theorem encodeAll_split_length (front : List (Frame codec.needed)) (frame : Frame codec.needed)
    (back : List (Frame codec.needed)) :
    (codec.encodeAll start (front ++ frame :: back)).length =
      codec.headerEnd start front + (frame.padding.length + (codec.record
        (codec.middle (codec.advance start front) frame.padding.length) frame.payload ++
          codec.encodeAll (codec.advance start (front ++ [frame])) back).length) := by
  rw [encodeAll_split, List.length_append, ← headerEnd_eq, List.length_append]

/-- Where the reader stops, in terms of the cut. -/
theorem stop_cut {frames : List (Frame codec.needed)} {cut : Nat}
    (inside : cut ≤ (codec.encodeAll start frames).length)
    (stop : EncryptedStream.Stop codec start frames ((codec.encodeAll start frames).drop cut)) :
    codec.BoundaryAt start frames cut ∨ codec.UnnoticedAt start frames cut := by
  have missing : ((codec.encodeAll start frames).drop cut).length =
      (codec.encodeAll start frames).length - cut := List.length_drop
  cases stop with
  | @boundary front back split rest =>
      left
      refine ⟨front, back, split, ?_⟩
      rw [rest] at missing
      rw [split, encodeAll_append, List.length_append] at missing inside
      omega
  | @behindHeader front frame back split padded rest =>
      right
      refine ⟨front, frame, back, split, .inl ⟨padded, ?_⟩⟩
      rw [rest, List.length_append] at missing
      rw [split, encodeAll_split_length] at missing inside
      omega
  | @behindPadding front frame back split something rest =>
      right
      refine ⟨front, frame, back, split, .inr (.inl ⟨something, ?_⟩)⟩
      rw [rest] at missing
      rw [split, encodeAll_split_length] at missing inside
      omega
  | @emptyFrame front frame back left split nothing rest =>
      right
      refine ⟨front, frame, back, split, .inr (.inr ⟨nothing, ?_⟩)⟩
      have behind := congrArg List.length rest
      rw [List.length_append] at behind
      have whole : codec.encodeAll start frames = codec.encodeAll start (front ++ [frame]) ++
          codec.encodeAll (codec.advance start (front ++ [frame])) back := by
        rw [← encodeAll_append, List.append_assoc, List.singleton_append, ← split]
      have total := congrArg List.length whole
      rw [List.length_append] at total
      omega

end Codec

namespace EncryptedStream

variable [Aead]

/-- What a reader of `frames` that end after `cut` bytes should do, whatever
the inner stream and the sizes of the caller's buffers are: report the end of
the stream only between two frames, and fail otherwise. -/
def DetectsCut (readCipher : Cipher) (padding : DataPadding) (encLimit : Nat)
    (frames : List (Frame padding.needed)) (cut : Nat) : Prop :=
  let codec := readCipher.codec padding encLimit
  ∀ (S R : Type) [AsyncRead S] (ending : Ending S) (inner : S) (back : Cipher) (rng : R),
    ending.left inner = (codec.encodeAll readCipher.place frames).take cut →
    let reader := fromStream inner readCipher back padding encLimit rng
    (∀ rooms, (∀ room ∈ rooms, 0 < room) → .ready (.ok []) ∈ reader.polls rooms →
      codec.BoundaryAt readCipher.place frames cut) ∧
    (¬ codec.BoundaryAt readCipher.place frames cut →
      ∃ enough, ∀ rooms, (∀ room ∈ rooms, 0 < room) → enough ≤ rooms.length →
        ∃ error, .ready (.error error) ∈ reader.polls rooms)

/-- A reader over bytes in memory comes to an unnoticed cut. -/
theorem polls_unnoticed (correct : Aead.Correct) {codec : Codec} {start : Place}
    {frames : List (Frame codec.needed)} {cut : Nat}
    (unnoticed : codec.UnnoticedAt start frames cut) {R : Type} (this : EncryptedStream Bytes R)
    (state : this.readState = .header)
    (here : this.At codec start ((codec.encodeAll start frames).take cut)) :
    ∃ rooms : List Nat, (∀ room ∈ rooms, 0 < room) ∧ .ready (.ok []) ∈ this.polls rooms := by
  obtain ⟨front, frame, back, rfl, place⟩ := unnoticed
  have positive : ∀ room ∈ List.replicate front.length maxPacketSize ++ [maxPacketSize],
      0 < room := by
    intro room member
    rcases List.mem_append.mp member with member | member
    · rw [List.eq_of_mem_replicate member]
      decide
    · rw [List.mem_singleton.mp member]
      decide
  refine ⟨_, positive, ?_⟩
  -- All cases come down to one poll at the frame.
  have reduced : ∀ rest, (codec.encodeAll start (front ++ frame :: back)).take cut =
        codec.encodeAll start front ++ rest →
      (∀ after : EncryptedStream Bytes R, after.readState = .header →
        after.At codec (codec.advance start front) rest →
          (after.pollRead maxPacketSize).1 = .ready (.ok [])) →
      .ready (.ok []) ∈ this.polls (List.replicate front.length maxPacketSize ++ [maxPacketSize]) := by
    intro rest bytes silent
    rw [bytes] at here
    obtain ⟨after, there, state', others⟩ := polls_whole correct front state here
    rw [others, polls, silent after state' there]
    exact List.mem_append_right _ List.mem_cons_self
  rcases place with ⟨padded, rfl⟩ | ⟨something, rfl⟩ | ⟨nothing, enough⟩
  · apply reduced (codec.record (codec.advance start front) (codec.headerPlain frame))
    · rw [Codec.encodeAll_split, Codec.headerEnd_eq front frame, List.take_left]
    · intro after state' there
      exact pollRead_behindHeader correct padded state' there _
  · apply reduced (codec.record (codec.advance start front) (codec.headerPlain frame) ++
      frame.padding)
    · rw [Codec.encodeAll_split, Codec.headerEnd_eq front frame, ← List.append_assoc,
        ← List.length_append, List.take_left, List.append_assoc]
    · intro after state' there
      exact pollRead_behindPadding correct something state' there _
  · have whole : codec.encodeAll start (front ++ frame :: back) =
        codec.encodeAll start (front ++ [frame]) ++
          codec.encodeAll (codec.advance start (front ++ [frame])) back := by
      rw [← Codec.encodeAll_append, List.append_assoc, List.singleton_append]
    apply reduced (codec.encode (codec.advance start front) frame ++
      (codec.encodeAll (codec.advance start (front ++ [frame])) back).take
        (cut - (codec.encodeAll start (front ++ [frame])).length))
    · rw [whole, List.take_append, List.take_of_length_le enough, Codec.encodeAll_append]
      simp only [Codec.encodeAll, List.append_nil, List.append_assoc]
    · intro after state' there
      obtain ⟨_, poll, _⟩ := pollRead_whole correct state' there
      rw [poll, nothing]

/-- A cut is detected unless it lies at one of two places inside a frame, or
an empty frame came before it. -/
theorem detectsCut_iff (correct : Aead.Correct) (readCipher : Cipher) (padding : DataPadding)
    (encLimit : Nat) (frames : List (Frame padding.needed)) (cut : Nat)
    (inside : cut ≤
      ((readCipher.codec padding encLimit).encodeAll readCipher.place frames).length) :
    DetectsCut readCipher padding encLimit frames cut ↔
      ((readCipher.codec padding encLimit).BoundaryAt readCipher.place frames cut ∨
        ¬ (readCipher.codec padding encLimit).UnnoticedAt readCipher.place frames cut) := by
  constructor
  · intro detects
    by_contra neither
    obtain ⟨between, unnoticed⟩ := not_or.mp neither
    obtain ⟨rooms, positive, silent⟩ := polls_unnoticed correct (not_not.mp unnoticed)
      (fromStream (((readCipher.codec padding encLimit).encodeAll readCipher.place
        frames).take cut) readCipher readCipher padding encLimit ()) rfl ⟨rfl, rfl, rfl, rfl⟩
    exact between ((detects Bytes Unit Ending.memory _ readCipher () rfl).1 rooms positive silent)
  · intro given S R _ ending inner back rng delivered
    rcases given with between | noticed
    · exact ⟨fun _ _ _ => between, fun inFrame => absurd between inFrame⟩
    · by_cases between : (readCipher.codec padding encLimit).BoundaryAt readCipher.place frames cut
      · exact ⟨fun _ _ _ => between, fun inFrame => absurd between inFrame⟩
      · have never : ¬ Stop (readCipher.codec padding encLimit) readCipher.place frames
            (((readCipher.codec padding encLimit).encodeAll readCipher.place frames).drop cut) := by
          intro stop
          rcases Codec.stop_cut inside stop with at_ | at_
          · exact between at_
          · exact noticed at_
        have begun : (fromStream inner readCipher back padding encLimit rng).Tracks
            (readCipher.codec padding encLimit) readCipher.place [] frames
            (ending.left inner ++ ((readCipher.codec padding encLimit).encodeAll
              readCipher.place frames).drop cut) := by
          refine ⟨rfl, rfl, Nat.zero_le _, ?_⟩
          rw [delivered, List.take_append_drop]
          rfl
        have outcome := fun rooms positive =>
          polls_tracks ending correct never rooms positive rfl begun
        refine ⟨fun rooms positive silent => absurd silent (outcome rooms positive).1, fun _ =>
          ⟨_, fun rooms positive enough => (outcome rooms positive).2 enough⟩⟩

end EncryptedStream

namespace Truncation

/-- Four bytes with three bytes of padding, as a writer with room for nine and
a rate of 100 percent can draw them. -/
def padded : Frame true where
  payload := [1, 2, 3, 4]
  padding := [9, 9, 9]
  payload_fits := by decide
  padding_fits := by decide
  padding_needed := by simp

theorem boundaryAt_single [Aead] {codec : Codec} {start : Place} {frame : Frame codec.needed}
    {cut : Nat} (between : codec.BoundaryAt start [frame] cut) :
    cut = 0 ∨ cut = (codec.encodeAll start [frame]).length := by
  obtain ⟨front, back, split, rfl⟩ := between
  rcases List.singleton_eq_append_iff.mp split with ⟨rfl, _⟩ | ⟨rfl, _⟩
  · exact .inl rfl
  · exact .inr rfl

/-- A cut within the padding makes the reader fail. -/
theorem detectsCut_in_padding :
    @EncryptedStream.DetectsCut Aead.tagging Link.sampleCipher ⟨9, 100⟩ 100 [padded] 21 := by
  let _ := Aead.tagging
  refine (EncryptedStream.detectsCut_iff Aead.tagging_correct Link.sampleCipher ⟨9, 100⟩ 100
    [padded] 21 (by decide +kernel)).mpr (.inr ?_)
  intro given
  obtain ⟨front, frame, back, split, at_⟩ := given
  rcases List.singleton_eq_append_iff.mp split with ⟨rfl, single⟩ | ⟨_, more⟩
  · cases single
    rcases at_ with ⟨_, at_⟩ | ⟨_, at_⟩ | ⟨nothing, _⟩
    · exact absurd at_ (by decide +kernel)
    · exact absurd at_ (by decide +kernel)
    · cases nothing
  · cases more

/-- A cut right behind the header passes for the end of the stream. -/
theorem cut_behind_header_unnoticed :
    ¬ @EncryptedStream.DetectsCut Aead.tagging Link.sampleCipher ⟨9, 100⟩ 100 [padded] 20 := by
  let _ := Aead.tagging
  intro detects
  have silent := (detects Bytes Unit Ending.memory _ Link.sampleCipher () rfl).1 [5] (by simp)
    (by decide +kernel)
  rcases boundaryAt_single silent with at_ | at_
  · exact absurd at_ (by decide)
  · exact absurd at_ (by decide +kernel)

end Truncation

end CovertConnect.Crypto
