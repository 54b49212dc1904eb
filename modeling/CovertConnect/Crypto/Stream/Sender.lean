import CovertConnect.Crypto.Stream.Nonces
import CovertConnect.Crypto.Stream.Writer

namespace CovertConnect.Crypto

open CovertConnect.Data

/-! # Everything a stream ever seals

A stream is used in both directions at once.  Over any run of calls the records
it seals are those of one sequence of frames. -/

namespace EncryptedStream

variable {S R : Type}

/-- Nothing of the writing direction differs. -/
structure SameWriter (this after : EncryptedStream S R) : Prop where
  cipher : after.writeCipher = this.writeCipher
  buffer : after.writeBuffer = this.writeBuffer
  pos : after.writePos = this.writePos
  written : after.written = this.written
  padding : after.padding = this.padding
  encLimit : after.encLimit = this.encLimit

namespace SameWriter

variable {this middle after : EncryptedStream S R}

theorem refl : this.SameWriter this := ⟨rfl, rfl, rfl, rfl, rfl, rfl⟩

theorem trans (first : this.SameWriter middle) (second : middle.SameWriter after) :
    this.SameWriter after :=
  ⟨second.cipher.trans first.cipher, second.buffer.trans first.buffer, second.pos.trans first.pos,
    second.written.trans first.written, second.padding.trans first.padding,
    second.encLimit.trans first.encLimit⟩

theorem writeCodec (same : this.SameWriter after) : after.writeCodec = this.writeCodec := by
  simp only [EncryptedStream.writeCodec, same.cipher, same.padding, same.encLimit]

theorem writePlace (same : this.SameWriter after) : after.writePlace = this.writePlace := by
  simp only [EncryptedStream.writePlace, same.cipher, same.written]

end SameWriter

section Reading

variable [Aead]

omit [Aead] in
theorem pollReadExact_sameWriter [AsyncRead S] (this : EncryptedStream S R) (size : Nat) :
    this.SameWriter (this.pollReadExact size).2 := ⟨rfl, rfl, rfl, rfl, rfl, rfl⟩

omit [Aead] in
theorem takeHeader_sameWriter (this : EncryptedStream S R) :
    this.SameWriter this.takeHeader := ⟨rfl, rfl, rfl, rfl, rfl, rfl⟩

theorem openHeader_sameWriter (this : EncryptedStream S R) :
    this.SameWriter this.openHeader.2 := by
  unfold openHeader
  split
  · split
    · exact ⟨rfl, rfl, rfl, rfl, rfl, rfl⟩
    · exact ⟨rfl, rfl, rfl, rfl, rfl, rfl⟩
  · exact this.takeHeader_sameWriter

theorem readHeader_sameWriter [AsyncRead S] (this : EncryptedStream S R) :
    this.SameWriter this.readHeader.2 := by
  unfold readHeader
  split
  · have filled := this.pollReadExact_sameWriter (this.headerSize this.readed
      this.readCipher.tagSize)
    dsimp only
    split
    · rename_i poll
      rwa [poll] at filled
    · rename_i poll
      rwa [poll] at filled
    · rename_i poll
      rw [poll] at filled
      split
      · exact filled
      · exact filled.trans (openHeader_sameWriter _)
  · exact .refl

omit [Aead] in
theorem readPadding_sameWriter [AsyncRead S] (this : EncryptedStream S R) :
    this.SameWriter this.readPadding.2 := by
  unfold readPadding
  split
  · rename_i size dataSize _
    have filled := this.pollReadExact_sameWriter size
    split
    · rename_i poll
      rwa [poll] at filled
    · rename_i poll
      rwa [poll] at filled
    · rename_i poll
      rw [poll] at filled
      split
      · exact filled
      · exact filled.trans ⟨rfl, rfl, rfl, rfl, rfl, rfl⟩
  · exact .refl

theorem openData_sameWriter (this : EncryptedStream S R) (size : Nat) :
    this.SameWriter (this.openData size).2 := by
  unfold openData
  split
  · split <;> exact ⟨rfl, rfl, rfl, rfl, rfl, rfl⟩
  · exact ⟨rfl, rfl, rfl, rfl, rfl, rfl⟩

theorem readData_sameWriter [AsyncRead S] (this : EncryptedStream S R) :
    this.SameWriter this.readData.2 := by
  unfold readData
  split
  · rename_i size _
    have filled := this.pollReadExact_sameWriter
      (if this.readed ≤ this.encLimit then size + this.readCipher.tagSize else size)
    dsimp only
    split
    · rename_i poll
      rwa [poll] at filled
    · rename_i poll
      rwa [poll] at filled
    · rename_i poll
      rw [poll] at filled
      split
      · exact filled
      · exact filled.trans (openData_sameWriter _ _)
  · exact .refl

omit [Aead] in
theorem returnBuffered_sameWriter (this : EncryptedStream S R) (remaining : Nat) :
    this.SameWriter (this.returnBuffered remaining).2 := by
  unfold returnBuffered
  split
  · dsimp only
    split <;> exact ⟨rfl, rfl, rfl, rfl, rfl, rfl⟩
  · exact .refl

/-- Reading leaves the writing direction alone. -/
theorem pollRead_sameWriter [AsyncRead S] (this : EncryptedStream S R) (remaining : Nat) :
    this.SameWriter (this.pollRead remaining).2 := by
  have header := this.readHeader_sameWriter
  unfold pollRead
  split
  · rename_i poll
    rwa [poll] at header
  · rename_i behindHeader poll
    rw [poll] at header
    have padding := header.trans behindHeader.readPadding_sameWriter
    split
    · rename_i poll'
      rwa [poll'] at padding
    · rename_i behindPadding poll'
      rw [poll'] at padding
      have data := padding.trans behindPadding.readData_sameWriter
      split
      · rename_i poll''
        rwa [poll''] at data
      · rename_i behindData poll''
        rw [poll''] at data
        exact data.trans (behindData.returnBuffered_sameWriter remaining)

end Reading

end EncryptedStream

inductive Call where
  | write (buf : Bytes)
  | flush
  | shutdown
  | read (remaining : Nat)
deriving Repr

/-- A stream and the bytes it took from its callers, as its own counter says. -/
structure Sender (S R : Type) where
  stream : EncryptedStream S R
  wrote : Bytes

namespace Sender

variable {S R : Type} [AsyncRead S] [AsyncWrite S] [Rng R] [Aead]

def fresh (stream : EncryptedStream S R) : Sender S R where
  stream := stream
  wrote := []

def call (sender : Sender S R) : Call → Sender S R
  | .write buf =>
      let stream := (sender.stream.pollWrite buf).2
      { stream, wrote := sender.wrote ++ buf.take (stream.written - sender.stream.written) }
  | .flush => { sender with stream := sender.stream.pollFlush.2 }
  | .shutdown => { sender with stream := sender.stream.pollShutdown.2 }
  | .read remaining => { sender with stream := (sender.stream.pollRead remaining).2 }

def run (sender : Sender S R) (calls : List Call) : Sender S R :=
  calls.foldl call sender

/-- The stream has sealed and taken these frames, from `start` on. -/
structure Sent (codec : Codec) (start : Place) (sender : Sender S R)
    (frames : List (Frame codec.needed)) : Prop where
  writeCodec : sender.stream.writeCodec = codec
  place : sender.stream.writePlace = codec.advance start frames
  sealed : sender.stream.writeCipher.sealed = codec.recordsAll start frames
  advanced : sender.stream.writeCipher.advanced = codec.span start frames
  wrote : sender.wrote = payloads frames
  inside : sender.stream.writePos ≤ sender.stream.writeBuffer.length

omit [AsyncRead S] [AsyncWrite S] [Rng R] [Aead] in
theorem Sent.emits [Aead] {codec : Codec} {start : Place} {sender : Sender S R}
    {frames : List (Frame codec.needed)} (sent : sender.Sent codec start frames)
    {after : EncryptedStream S R} {more : List (Frame sender.stream.writeCodec.needed)}
    {out : Bytes} (emits : sender.stream.Emits after more out) (wrote : Bytes)
    (took : wrote = sender.wrote ++ payloads more) :
    ∃ more' : List (Frame codec.needed), more'.map Frame.payload = more.map Frame.payload ∧
      ({ stream := after, wrote } : Sender S R).Sent codec start (frames ++ more') := by
  obtain ⟨rfl, place, sealed, advanced, paid, _⟩ := sent
  obtain ⟨_, codec', place', sealed', advanced', inside⟩ := emits
  refine ⟨more, rfl, codec', ?_, ?_, ?_, ?_, inside⟩
  · rw [place', place, Codec.advance_append]
  · rw [sealed', sealed, place, Codec.recordsAll_append]
  · rw [advanced', advanced, place, Codec.span_append]
  · rw [took, paid, payloads_append]

theorem Sent.call {codec : Codec} {start : Place} {sender : Sender S R}
    {frames : List (Frame codec.needed)} (sent : sender.Sent codec start frames) (call : Call) :
    ∃ more, (sender.call call).Sent codec start (frames ++ more) := by
  cases call with
  | write buf =>
      cases poll : sender.stream.pollWrite buf with
      | mk result after =>
          obtain ⟨out, more, _, emits, _, _, took, _, _⟩ :=
            EncryptedStream.pollWrite_spec sent.inside poll
          have counted : after.written = sender.stream.written + (payloads more).length := by
            have count := congrArg Place.count emits.2.2.1
            rw [Codec.advance_count] at count
            exact count
          have took' : buf.take (after.written - sender.stream.written) = payloads more := by
            rw [counted, Nat.add_sub_cancel_left]
            exact (List.prefix_iff_eq_take.mp took).symm
          simp only [Sender.call, poll, took']
          obtain ⟨more', _, sent'⟩ := sent.emits emits _ rfl
          exact ⟨more', sent'⟩
  | flush =>
      obtain ⟨out, _, _, emits, _, _⟩ :=
        EncryptedStream.pollThrough_spec AsyncWrite.pollFlush sent.inside rfl
      obtain ⟨more', _, sent'⟩ := sent.emits emits _ (List.append_nil _).symm
      exact ⟨more', sent'⟩
  | shutdown =>
      obtain ⟨out, _, _, emits, _, _⟩ :=
        EncryptedStream.pollThrough_spec AsyncWrite.pollShutdown sent.inside rfl
      obtain ⟨more', _, sent'⟩ := sent.emits emits _ (List.append_nil _).symm
      exact ⟨more', sent'⟩
  | read remaining =>
      have same := sender.stream.pollRead_sameWriter remaining
      have codecs := same.writeCodec
      have places := same.writePlace
      refine ⟨[], ?_⟩
      rw [List.append_nil]
      refine ⟨codecs.trans sent.writeCodec, places.trans sent.place, ?_, ?_, sent.wrote, ?_⟩
      · exact (congrArg Cipher.sealed same.cipher).trans sent.sealed
      · exact (congrArg Cipher.advanced same.cipher).trans sent.advanced
      · simp only [Sender.call, same.pos, same.buffer]
        exact sent.inside

theorem Sent.run {codec : Codec} {start : Place} {sender : Sender S R}
    {frames : List (Frame codec.needed)} (sent : sender.Sent codec start frames)
    (calls : List Call) : ∃ more, (sender.run calls).Sent codec start (frames ++ more) := by
  induction calls generalizing sender frames with
  | nil => exact ⟨[], by rw [List.append_nil]; exact sent⟩
  | cons call calls ih =>
      obtain ⟨first, sent'⟩ := sent.call call
      obtain ⟨rest, sent''⟩ := ih sent'
      exact ⟨first ++ rest, by rw [← List.append_assoc]; exact sent''⟩

/-- Whether a call puts a frame into the buffer: a write does, once the buffer
is drained. -/
def assembles (sender : Sender S R) : Call → Bool
  | .write _ =>
      match (sender.stream.pollWriteBuffer false).1 with
      | .ready (.ok ()) => true
      | _ => false
  | _ => false

/-- One call moves the nonce by at most a word, and only if it puts a frame
into the buffer. -/
theorem call_advanced (sender : Sender S R)
    (inside : sender.stream.writePos ≤ sender.stream.writeBuffer.length) (call : Call) :
    (sender.call call).stream.writePos ≤ (sender.call call).stream.writeBuffer.length ∧
      (sender.call call).stream.writeCipher.advanced ≤
        sender.stream.writeCipher.advanced + 65536 * if sender.assembles call then 1 else 0 := by
  cases call with
  | write buf =>
      obtain ⟨_, frames, _, ⟨_, _, _, _, moved, inside'⟩, _, _, _, few, _⟩ :=
        EncryptedStream.pollWrite_spec inside (rfl : sender.stream.pollWrite buf = _)
      refine ⟨inside', ?_⟩
      have short : sender.stream.writeCodec.span sender.stream.writePlace frames ≤ 65536 := by
        cases frames with
        | nil => exact Nat.zero_le _
        | cons frame rest =>
            obtain rfl : rest = [] := List.eq_nil_of_length_eq_zero (by simpa using few)
            have fits := frame.padding_fits
            simp only [Codec.span, Codec.stride]
            split <;> omega
      cases drain : sender.stream.pollWriteBuffer false with
      | mk answer drained =>
          obtain ⟨_, _, _, _, rfl, _⟩ := EncryptedStream.pollWriteBuffer_spec inside drain
          cases answer using Poll.threeWays with
          | ok _ =>
              simp only [assembles, drain, if_true]
              exact Nat.le_trans (Nat.le_of_eq moved) (Nat.add_le_add_left short _)
          | pending | error _ =>
              simp only [Sender.call, EncryptedStream.pollWrite, drain]
              exact Nat.le_add_right _ _
  | flush =>
      obtain ⟨_, _, _, ⟨_, _, _, _, moved, inside'⟩, _⟩ :=
        EncryptedStream.pollThrough_spec AsyncWrite.pollFlush inside rfl
      exact ⟨inside', Nat.le_trans (Nat.le_of_eq moved) (Nat.le_add_right _ _)⟩
  | shutdown =>
      obtain ⟨_, _, _, ⟨_, _, _, _, moved, inside'⟩, _⟩ :=
        EncryptedStream.pollThrough_spec AsyncWrite.pollShutdown inside rfl
      exact ⟨inside', Nat.le_trans (Nat.le_of_eq moved) (Nat.le_add_right _ _)⟩
  | read remaining =>
      have same := sender.stream.pollRead_sameWriter remaining
      simp only [Sender.call, same.pos, same.buffer, same.cipher]
      exact ⟨inside, Nat.le_add_right _ _⟩

/-- The nonce cannot come round in fewer than `2 ^ 80` calls. -/
theorem run_advanced (sender : Sender S R)
    (inside : sender.stream.writePos ≤ sender.stream.writeBuffer.length) (calls : List Call) :
    (sender.run calls).stream.writeCipher.advanced ≤
      sender.stream.writeCipher.advanced + 65536 * calls.length := by
  induction calls generalizing sender with
  | nil => exact Nat.le_refl _
  | cons call calls ih =>
      obtain ⟨inside', moved⟩ := sender.call_advanced inside call
      have rest := ih (sender.call call) inside'
      have flag : (if sender.assembles call then 1 else 0) ≤ 1 := by split <;> decide
      rw [List.length_cons]
      change ((sender.call call).run calls).stream.writeCipher.advanced ≤ _
      omega

omit [AsyncRead S] [AsyncWrite S] [Rng R] [Aead] in
theorem fresh_sent {writeCipher : Cipher} (unused : writeCipher.Unused) (inner : S)
    (back : Cipher)
    (padding : DataPadding) (encLimit : Nat) (rng : R) :
    (fresh (.fromStream inner back writeCipher padding encLimit rng)).Sent
      { kind := writeCipher.kind, key := writeCipher.key, needed := padding.needed, encLimit }
      { nonce := writeCipher.nonce, count := 0 } [] :=
  ⟨rfl, rfl, unused.1, unused.2, rfl, Nat.le_refl 0⟩

/-- The counters are 64-bit numbers, which wrap around in a long enough connection;
the uniqueness of the nonces does not rest on them. -/
def wrapped (sender : Sender S R) : Sender S R :=
  { sender with
    stream := { sender.stream with
      written := sender.stream.written % 2 ^ 64
      readed := sender.stream.readed % 2 ^ 64 } }

def runWrapping (sender : Sender S R) : List Call → Sender S R
  | [] => sender
  | call :: calls => (sender.call call).wrapped.runWrapping calls

def framesWritten (sender : Sender S R) : List Call → Nat
  | [] => 0
  | call :: calls =>
      (if sender.assembles call then 1 else 0) +
        (sender.call call).wrapped.framesWritten calls

end Sender

/-- The records were sealed at increasing distances from `start`, all of them
before the place where the cipher is now. -/
def Cipher.Spread (start : Nonce) (cipher : Cipher) : Prop :=
  cipher.nonce = start.inc cipher.advanced ∧
  ∃ distances : List Nat, cipher.sealed.map SealRecord.nonce = distances.map start.inc ∧
    distances.Pairwise (· < ·) ∧ ∀ distance ∈ distances, distance < cipher.advanced

theorem Cipher.Spread.nodup {start : Nonce} {cipher : Cipher} (spread : cipher.Spread start)
    (short : cipher.advanced ≤ 2 ^ 96) : (cipher.sealed.map SealRecord.nonce).Nodup := by
  obtain ⟨_, distances, nonces, increasing, bounded⟩ := spread
  rw [nonces, List.Nodup, List.pairwise_map]
  apply increasing.imp_of_mem
  intro first second found found' below same
  have firstSmall := bounded first found
  have secondSmall := bounded second found'
  have equal := Nonce.inc_inj (by omega) (by omega) same
  omega

/-- All that a cipher has sealed is sealed under its own key. -/
def Cipher.Keyed (kind : CipherType) (key : Bytes) (cipher : Cipher) : Prop :=
  cipher.kind = kind ∧ cipher.key = key ∧
    ∀ record ∈ cipher.sealed, record.kind = kind ∧ record.key = key

theorem Codec.recordsAll_keyed (codec : Codec) (place : Place) (frames : List (Frame codec.needed)) :
    ∀ record ∈ codec.recordsAll place frames,
      record.kind = codec.kind ∧ record.key = codec.key := by
  induction frames generalizing place with
  | nil => simp [recordsAll]
  | cons frame frames ih =>
      intro record logged
      rcases List.mem_append.mp logged with here | later
      · rw [records] at here
        split at here
        · simp only [List.mem_cons, List.not_mem_nil, or_false] at here
          rcases here with rfl | rfl
          · exact ⟨rfl, rfl⟩
          · exact ⟨rfl, rfl⟩
        · cases here
      · exact ih _ record later

theorem EncryptedStream.Emits.keyed {S R : Type} [Aead] {this after : EncryptedStream S R}
    {frames : List (Frame this.writeCodec.needed)} {out : Bytes} {kind : CipherType} {key : Bytes}
    (emits : this.Emits after frames out) (keyed : this.writeCipher.Keyed kind key) :
    after.writeCipher.Keyed kind key := by
  obtain ⟨_, same, _, sealed, _, _⟩ := emits
  obtain ⟨rfl, rfl, before⟩ := keyed
  refine ⟨congrArg Codec.kind same, congrArg Codec.key same, ?_⟩
  intro record logged
  rw [sealed] at logged
  rcases List.mem_append.mp logged with earlier | now
  · exact before record earlier
  · exact this.writeCodec.recordsAll_keyed _ _ record now

theorem EncryptedStream.Emits.spread {S R : Type} [Aead] {this after : EncryptedStream S R}
    {frames : List (Frame this.writeCodec.needed)} {out : Bytes} {start : Nonce}
    (emits : this.Emits after frames out) (spread : this.writeCipher.Spread start) :
    after.writeCipher.Spread start := by
  obtain ⟨_, _, place, sealed, moved, _⟩ := emits
  obtain ⟨here, distances, nonces, increasing, bounded⟩ := spread
  obtain ⟨increasing', bounded'⟩ := this.writeCodec.distances_increasing this.writePlace frames
  refine ⟨?_, distances ++ (this.writeCodec.distances this.writePlace frames).map
    (this.writeCipher.advanced + ·), ?_, ?_, ?_⟩
  · calc after.writeCipher.nonce
        = (this.writeCodec.advance this.writePlace frames).nonce := congrArg Place.nonce place
      _ = this.writeCipher.nonce.inc (this.writeCodec.span this.writePlace frames) :=
        Codec.advance_nonce _ _ _
      _ = start.inc after.writeCipher.advanced := by rw [here, Nonce.inc_inc, moved]
  · have place' : this.writePlace.nonce = start.inc this.writeCipher.advanced := here
    rw [sealed, List.map_append, nonces, Codec.recordsAll_nonces, List.map_append, place',
      List.map_map]
    congr 1
    apply List.map_congr_left
    intro distance _
    exact Nonce.inc_inc _ _ _
  · apply List.pairwise_append.mpr
    refine ⟨increasing, ?_, ?_⟩
    · rw [List.pairwise_map]
      exact increasing'.imp fun below => Nat.add_lt_add_left below _
    · intro first before second behind
      obtain ⟨distance, _, rfl⟩ := List.mem_map.mp behind
      exact Nat.lt_of_lt_of_le (bounded first before) (Nat.le_add_right _ _)
  · intro distance found
    rw [moved]
    rcases List.mem_append.mp found with before | behind
    · exact Nat.lt_of_lt_of_le (bounded distance before) (Nat.le_add_right _ _)
    · obtain ⟨offset, here, rfl⟩ := List.mem_map.mp behind
      exact Nat.add_lt_add_left (bounded' offset here) _

namespace Sender

variable {S R : Type} [AsyncRead S] [AsyncWrite S] [Rng R] [Aead]

section Preserved

-- What every frame preserves of the writing cipher, every run preserves.
variable {P : Cipher → Prop}
  (kept : ∀ {this after : EncryptedStream S R} {frames : List (Frame this.writeCodec.needed)}
    {out : Bytes}, this.Emits after frames out → P this.writeCipher → P after.writeCipher)

include kept

theorem call_preserves {sender : Sender S R}
    (inside : sender.stream.writePos ≤ sender.stream.writeBuffer.length)
    (holds : P sender.stream.writeCipher) (call : Call) :
    P (sender.call call).stream.writeCipher := by
  cases call with
  | write buf =>
      obtain ⟨_, _, _, emits, _⟩ :=
        EncryptedStream.pollWrite_spec inside (rfl : sender.stream.pollWrite buf = _)
      exact kept emits holds
  | flush =>
      obtain ⟨_, _, _, emits, _⟩ :=
        EncryptedStream.pollThrough_spec AsyncWrite.pollFlush inside rfl
      exact kept emits holds
  | shutdown =>
      obtain ⟨_, _, _, emits, _⟩ :=
        EncryptedStream.pollThrough_spec AsyncWrite.pollShutdown inside rfl
      exact kept emits holds
  | read remaining =>
      have same := sender.stream.pollRead_sameWriter remaining
      simp only [Sender.call, same.cipher]
      exact holds

theorem runWrapping_preserves (sender : Sender S R)
    (inside : sender.stream.writePos ≤ sender.stream.writeBuffer.length)
    (holds : P sender.stream.writeCipher) (calls : List Call) :
    P (sender.runWrapping calls).stream.writeCipher := by
  induction calls generalizing sender with
  | nil => exact holds
  | cons call calls ih =>
      exact ih (sender.call call).wrapped (sender.call_advanced inside call).1
        (call_preserves kept inside holds call)

end Preserved

theorem runWrapping_advanced (sender : Sender S R)
    (inside : sender.stream.writePos ≤ sender.stream.writeBuffer.length) (calls : List Call) :
    (sender.runWrapping calls).stream.writeCipher.advanced ≤
      sender.stream.writeCipher.advanced + 65536 * sender.framesWritten calls := by
  induction calls generalizing sender with
  | nil => exact Nat.le_refl _
  | cons call calls ih =>
      obtain ⟨inside', moved⟩ := sender.call_advanced inside call
      have moved' := ih (sender.call call).wrapped inside'
      rw [framesWritten, Nat.mul_add, ← Nat.add_assoc]
      exact Nat.le_trans moved' (Nat.add_le_add_right moved _)

/-- What a stream seals with an unused cipher. -/
theorem unused_runWrapping {writeCipher : Cipher} (unused : writeCipher.Unused) (inner : S)
    (back : Cipher) (padding : DataPadding) (encLimit : Nat) (rng : R) (calls : List Call)
    (few : (fresh (.fromStream inner back writeCipher padding encLimit rng)).framesWritten calls <
      2 ^ 79) :
    let sealedAfter := ((fresh (.fromStream inner back writeCipher padding encLimit
      rng)).runWrapping calls).stream.writeCipher.sealed
    (sealedAfter.map SealRecord.nonce).Nodup ∧
      ∀ record ∈ sealedAfter, record.kind = writeCipher.kind ∧ record.key = writeCipher.key := by
  have start : writeCipher.Spread writeCipher.nonce := by
    refine ⟨?_, [], ?_, List.Pairwise.nil, by simp⟩
    · rw [unused.2, Nonce.inc_zero]
    · rw [unused.1]
      rfl
  have keyed : writeCipher.Keyed writeCipher.kind writeCipher.key :=
    ⟨rfl, rfl, by simp [unused.1]⟩
  let sender : Sender S R := fresh (.fromStream inner back writeCipher padding encLimit rng)
  have spread := runWrapping_preserves (fun emits => emits.spread) sender (Nat.le_refl 0) start calls
  have moved := sender.runWrapping_advanced (Nat.le_refl 0) calls
  have begun : sender.stream.writeCipher.advanced = 0 := unused.2
  rw [begun] at moved
  have few' : sender.framesWritten calls < 2 ^ 79 := few
  exact ⟨spread.nodup (by omega),
    (runWrapping_preserves (fun emits => emits.keyed) sender (Nat.le_refl 0) keyed calls).2.2⟩

/-- A stream never seals two records under one nonce, however its calls come
and whatever paddings are drawn. -/
theorem sealed_nonces_nodup (kind : CipherType) (key : Bytes) (nonce : Nonce) (inner : S)
    (back : Cipher) (padding : DataPadding) (encLimit : Nat) (rng : R) (calls : List Call)
    (few : (fresh (.fromStream inner back { kind, key, nonce, sealed := [], advanced := 0 }
      padding encLimit rng)).framesWritten calls < 2 ^ 79) :
    (((fresh (.fromStream inner back { kind, key, nonce, sealed := [], advanced := 0 }
      padding encLimit rng)).runWrapping calls).stream.writeCipher.sealed.map
        SealRecord.nonce).Nodup :=
  (unused_runWrapping ⟨rfl, rfl⟩ inner back padding encLimit rng calls few).1

end Sender

namespace Sender

/-- The last nonce before the counter comes round. -/
def lastNonce : Nonce := ⟨List.replicate 12 0xff, rfl⟩

def turningSender : Sender Bytes Nat :=
  fresh (.fromStream [] (.mk .aes256Gcm [] lastNonce [] 0)
    { kind := .aes256Gcm, key := [7], nonce := lastNonce, sealed := [], advanced := 0 } ⟨9, 100⟩ 4 3)

def turningCalls : List Call :=
  [.write [1, 2, 3, 4], .flush, .write []]

def turningNonces : List Nonce :=
  (@runWrapping _ _ _ _ _ Aead.tagging turningSender turningCalls).stream.writeCipher.sealed.map
    SealRecord.nonce

theorem sealed_nonces_nodup_turn :
    turningNonces = [lastNonce, lastNonce.inc 3, lastNonce.inc 4, lastNonce.inc 5] ∧
      turningNonces.Nodup := by
  have few : @framesWritten _ _ _ _ _ Aead.tagging turningSender turningCalls < 2 ^ 79 := by
    decide +kernel
  exact ⟨by decide +kernel, @sealed_nonces_nodup _ _ _ _ _ Aead.tagging .aes256Gcm [7] lastNonce []
    (.mk .aes256Gcm [] lastNonce [] 0) ⟨9, 100⟩ 4 3 turningCalls few⟩

end Sender

end CovertConnect.Crypto
