import CovertConnect.Crypto.Stream

namespace CovertConnect.Crypto

open CovertConnect.Data

/-! # Frames

What a direction of the stream carries, without buffers and polls: a sequence
of frames, each starting at a place given by the nonce and by the number of
payload bytes before it.  Writer and reader are both compared with this
sequence and never with each other. -/

/-- One frame as the writer drew it. -/
structure Frame (needed : Bool) where
  payload : Bytes
  padding : Bytes
  payload_fits : payload.length ≤ maxPacketSize
  padding_fits : padding.length < 65536
  padding_needed : needed = false → padding = []

/-- What both ends of a direction have to agree on. -/
structure Codec where
  kind : CipherType
  key : Bytes
  needed : Bool
  encLimit : Nat

structure Place where
  nonce : Nonce
  count : Nat

theorem Place.ext_fields {left right : Place} (nonce : left.nonce = right.nonce)
    (count : left.count = right.count) : left = right := by
  cases left
  cases right
  cases nonce
  cases count
  rfl

namespace Codec

variable (codec : Codec)

/-- Advance the nonce, if records at this place are sealed at all. -/
def step (place : Place) (value : Nat) : Place :=
  { place with nonce := if place.count ≤ codec.encLimit then place.nonce.inc value else place.nonce }

@[simp] theorem step_count (place : Place) (value : Nat) :
    (codec.step place value).count = place.count := rfl

theorem step_sealed {place : Place} (within : place.count ≤ codec.encLimit) (value : Nat) :
    codec.step place value = { place with nonce := place.nonce.inc value } := by
  rw [step, if_pos within]

/-- The place of the data record, after a header that announced `padding`
bytes. -/
def middle (place : Place) (padding : Nat) : Place :=
  codec.step place (max padding 1)

@[simp] theorem middle_count (place : Place) (padding : Nat) :
    (codec.middle place padding).count = place.count := rfl

/-- The place after a data record of `size` bytes. -/
def finish (place : Place) (size : Nat) : Place :=
  { codec.step place 1 with count := place.count + size }

@[simp] theorem finish_count (place : Place) (size : Nat) :
    (codec.finish place size).count = place.count + size := rfl

/-- How far a frame moves the nonce. -/
def stride (place : Place) (frame : Frame codec.needed) : Nat :=
  if place.count ≤ codec.encLimit then max frame.padding.length 1 + 1 else 0

def next (place : Place) (frame : Frame codec.needed) : Place :=
  codec.finish (codec.middle place frame.padding.length) frame.payload.length

def advance (place : Place) (frames : List (Frame codec.needed)) : Place :=
  frames.foldl codec.next place

@[simp] theorem advance_nil (place : Place) : codec.advance place [] = place := rfl

@[simp] theorem advance_cons (place : Place) (frame : Frame codec.needed)
    (frames : List (Frame codec.needed)) :
    codec.advance place (frame :: frames) = codec.advance (codec.next place frame) frames := rfl

/-- How far a sequence of frames moves the nonce. -/
def span : Place → List (Frame codec.needed) → Nat
  | _, [] => 0
  | place, frame :: frames => codec.stride place frame + span (codec.next place frame) frames

theorem advance_append (place : Place) (front back : List (Frame codec.needed)) :
    codec.advance place (front ++ back) = codec.advance (codec.advance place front) back :=
  List.foldl_append

def headerPlain (frame : Frame codec.needed) : Bytes :=
  beBytes 2 frame.payload.length ++
    if codec.needed then beBytes 2 frame.padding.length else []

def headerLength (count : Nat) : Nat :=
  2 + (if codec.needed then 2 else 0) + (if count ≤ codec.encLimit then 16 else 0)

def dataLength (count size : Nat) : Nat :=
  if count ≤ codec.encLimit then size + 16 else size

/-- The records sealed for a frame. -/
def records (place : Place) (frame : Frame codec.needed) : List SealRecord :=
  if place.count ≤ codec.encLimit then
    [{ kind := codec.kind, key := codec.key, nonce := place.nonce,
       plain := codec.headerPlain frame },
     { kind := codec.kind, key := codec.key,
       nonce := (codec.middle place frame.padding.length).nonce, plain := frame.payload }]
  else []

def recordsAll : Place → List (Frame codec.needed) → List SealRecord
  | _, [] => []
  | place, frame :: frames =>
      codec.records place frame ++ recordsAll (codec.next place frame) frames

theorem recordsAll_append (place : Place) (front back : List (Frame codec.needed)) :
    codec.recordsAll place (front ++ back) =
      codec.recordsAll place front ++ codec.recordsAll (codec.advance place front) back := by
  induction front generalizing place with
  | nil => rfl
  | cons frame front ih => simp [recordsAll, ih]

section Encoding

variable [Aead]

/-- A record at a place: sealed there, or as it is once the limit is passed. -/
def record (place : Place) (plain : Bytes) : Bytes :=
  if place.count ≤ codec.encLimit then
    Aead.sealRecord codec.kind codec.key place.nonce plain
  else plain

def encode (place : Place) (frame : Frame codec.needed) : Bytes :=
  codec.record place (codec.headerPlain frame) ++ (frame.padding ++
    codec.record (codec.middle place frame.padding.length) frame.payload)

def encodeAll : Place → List (Frame codec.needed) → Bytes
  | _, [] => []
  | place, frame :: frames =>
      codec.encode place frame ++ encodeAll (codec.next place frame) frames

theorem encodeAll_cons (place : Place) (frame : Frame codec.needed)
    (frames : List (Frame codec.needed)) :
    codec.encodeAll place (frame :: frames) =
      codec.record place (codec.headerPlain frame) ++ (frame.padding ++
        (codec.record (codec.middle place frame.padding.length) frame.payload ++
          codec.encodeAll (codec.next place frame) frames)) := by
  simp only [encodeAll, encode, List.append_assoc]

theorem encodeAll_append (place : Place) (front back : List (Frame codec.needed)) :
    codec.encodeAll place (front ++ back) =
      codec.encodeAll place front ++ codec.encodeAll (codec.advance place front) back := by
  induction front generalizing place with
  | nil => rfl
  | cons frame front ih => simp [encodeAll, ih, List.append_assoc]

omit [Aead] in
@[simp] theorem headerPlain_length (frame : Frame codec.needed) :
    (codec.headerPlain frame).length = 2 + if codec.needed then 2 else 0 := by
  unfold headerPlain
  split <;> simp

@[simp] theorem record_length (place : Place) (plain : Bytes) :
    (codec.record place plain).length = codec.dataLength place.count plain.length := by
  unfold record dataLength
  split <;> simp

theorem headerRecord_length (place : Place) (frame : Frame codec.needed) :
    (codec.record place (codec.headerPlain frame)).length = codec.headerLength place.count := by
  simp only [record_length, headerPlain_length, dataLength, headerLength]
  split <;> omega

end Encoding

end Codec

/-- The payload of a sequence of frames. -/
def payloads {needed : Bool} (frames : List (Frame needed)) : Bytes :=
  frames.flatMap Frame.payload

@[simp] theorem payloads_nil {needed : Bool} : payloads ([] : List (Frame needed)) = [] := rfl

@[simp] theorem payloads_cons {needed : Bool} (frame : Frame needed)
    (frames : List (Frame needed)) :
    payloads (frame :: frames) = frame.payload ++ payloads frames := rfl

@[simp] theorem payloads_append {needed : Bool} (front back : List (Frame needed)) :
    payloads (front ++ back) = payloads front ++ payloads back :=
  List.flatMap_append

namespace EncryptedStream

variable {S R : Type}

def writeCodec (this : EncryptedStream S R) : Codec where
  kind := this.writeCipher.kind
  key := this.writeCipher.key
  needed := this.padding.needed
  encLimit := this.encLimit

def writePlace (this : EncryptedStream S R) : Place where
  nonce := this.writeCipher.nonce
  count := this.written

variable [Aead]

private theorem encrypt_append (cipher : Cipher) (front plain : Bytes) :
    cipher.encrypt (front ++ plain) front.length =
      (front ++ Aead.sealRecord cipher.kind cipher.key cipher.nonce plain,
        { cipher with
          sealed := cipher.sealed ++
            [{ kind := cipher.kind, key := cipher.key, nonce := cipher.nonce, plain }] }) := by
  simp [Cipher.encrypt]

omit [Aead] in
theorem drawPadding_lt [Rng R] (this : EncryptedStream S R) (size : Nat) :
    (this.drawPadding size).1 < 65536 := by
  have wide := this.padding.max.toNat_lt
  unfold drawPadding
  dsimp only
  split
  · rename_i positive
    have bounds := Rng.genRange_bounds this.rng 0 _ positive
    omega
  · exact Nat.zero_lt_succ _

/-- One call assembles one frame at the place of the writer, and moves the
writer to the place after it. -/
theorem assembleDataToBuffer_frame [Rng R] (this : EncryptedStream S R) {buf : Bytes}
    (empty : this.writeBuffer = []) (fits : buf.length ≤ maxPacketSize) :
    ∃ frame : Frame this.writeCodec.needed, ∃ rng, frame.payload = buf ∧
      this.assembleDataToBuffer buf =
        { this with
          writeBuffer := this.writeCodec.encode this.writePlace frame
          writeCipher :=
            { this.writeCipher with
              nonce := (this.writeCodec.next this.writePlace frame).nonce
              sealed := this.writeCipher.sealed ++
                this.writeCodec.records this.writePlace frame
              advanced := this.writeCipher.advanced +
                this.writeCodec.stride this.writePlace frame }
          written := this.written + buf.length
          rng } := by
  have small : (if this.padding.needed then this.drawPadding buf.length
      else (0, this.rng)).1 < 65536 := by
    split
    · exact this.drawPadding_lt buf.length
    · exact Nat.zero_lt_succ _
  have undrawn : this.padding.needed = false →
      (if this.padding.needed then this.drawPadding buf.length else (0, this.rng)).1 = 0 := by
    intro unneeded
    simp [unneeded]
  unfold assembleDataToBuffer
  simp only [Cipher.tagSize_eq, empty, List.nil_append]
  generalize (if this.padding.needed then this.drawPadding buf.length
    else (0, this.rng)) = drawn at small undrawn ⊢
  obtain ⟨padding, rng⟩ := drawn
  dsimp only at small undrawn ⊢
  -- The random bytes land behind the header, whatever the header is.
  obtain ⟨bytes, after, sized, filled⟩ : ∃ bytes after, bytes.length = padding ∧
      ∀ buffer : Bytes, buffer.length = this.headerSize this.written 16 →
        (if 0 < padding then
          ((resize buffer (this.headerSize this.written 16 + padding)).take
            (this.headerSize this.written 16) ++ (Rng.fillBytes rng padding).1,
            (Rng.fillBytes rng padding).2)
        else (buffer, rng)) = (buffer ++ bytes, after) := by
    by_cases positive : 0 < padding
    · refine ⟨_, (Rng.fillBytes rng padding).2, Rng.fillBytes_length rng padding, ?_⟩
      intro buffer width
      rw [if_pos positive, resize_grow (by omega), ← width, List.take_left]
    · refine ⟨[], rng, by simp only [List.length_nil]; omega, ?_⟩
      intro buffer _
      rw [if_neg positive, List.append_nil]
  let frame : Frame this.writeCodec.needed :=
    { payload := buf, padding := bytes, payload_fits := fits
      padding_fits := by rw [sized]; exact small
      padding_needed := fun unneeded =>
        List.eq_nil_of_length_eq_zero (sized.trans (undrawn unneeded)) }
  refine ⟨frame, after, rfl, ?_⟩
  have plain : (if this.padding.needed then beBytes 2 buf.length ++ beBytes 2 padding
      else beBytes 2 buf.length) = this.writeCodec.headerPlain frame := by
    by_cases needed : this.padding.needed
    · simp [Codec.headerPlain, writeCodec, frame, sized, needed]
    · simp [Codec.headerPlain, writeCodec, frame, needed]
  have width : (this.writeCodec.record this.writePlace (this.writeCodec.headerPlain frame)).length =
      this.headerSize this.written 16 :=
    this.writeCodec.headerRecord_length this.writePlace frame
  have position : this.headerSize this.written 16 + padding =
      (this.writeCodec.record this.writePlace (this.writeCodec.headerPlain frame) ++
        bytes).length := by
    rw [List.length_append, width, sized]
  rw [plain]
  by_cases within : this.written ≤ this.encLimit
  · have header : this.writeCipher.encrypt (this.writeCodec.headerPlain frame) 0 =
        (this.writeCodec.record this.writePlace (this.writeCodec.headerPlain frame),
          { this.writeCipher with
            sealed := this.writeCipher.sealed ++
              [{ kind := this.writeCipher.kind, key := this.writeCipher.key,
                 nonce := this.writeCipher.nonce,
                 plain := this.writeCodec.headerPlain frame }] }) := by
      simp [Cipher.encrypt, Codec.record, writeCodec, writePlace, within]
    simp only [if_pos within, header, filled _ width]
    rw [position, encrypt_append]
    simp [Cipher.incNonce, Codec.encode, Codec.record, Codec.next, Codec.finish, Codec.middle,
      Codec.step, Codec.records, Codec.stride, Nonce.inc_inc, Nat.add_assoc, writeCodec,
      writePlace, within, frame, sized]
  · have header : this.writeCodec.headerPlain frame =
        this.writeCodec.record this.writePlace (this.writeCodec.headerPlain frame) := by
      simp [Codec.record, writeCodec, writePlace, within]
    simp only [if_neg within]
    rw [header, filled _ width]
    simp [Codec.encode, Codec.record, Codec.next, Codec.finish, Codec.middle,
      Codec.step, Codec.records, Codec.stride, writeCodec, writePlace, within, frame]

end EncryptedStream

end CovertConnect.Crypto
