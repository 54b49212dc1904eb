import CovertConnect.Crypto.Config
import CovertConnect.Data.AsyncIo

namespace CovertConnect.Crypto

open CovertConnect.Data

/-! # The encrypted stream

`EncryptedStream` turns the bytes written to it into frames (header, random
padding, data) on an inner stream, and reads such frames back.  Both directions
stop wherever the inner stream is not ready and go on from there at the next
poll. -/

def maxPacketSize : Nat := 0xFFFF

inductive ReadState where
  | header
  | padding (size dataSize : Nat)
  | data (size : Nat)
  | ready (pos : Nat)
deriving DecidableEq, Repr

/-- `readed` and `written` are taken not to wrap. -/
structure EncryptedStream (S R : Type) where
  inner : S
  readCipher : Cipher
  readBuffer : Bytes
  readState : ReadState
  readed : Nat
  writeCipher : Cipher
  writeBuffer : Bytes
  writePos : Nat
  written : Nat
  padding : DataPadding
  encLimit : Nat
  rng : R

namespace EncryptedStream

variable {S R : Type}

def fromStream (inner : S) (readCipher writeCipher : Cipher) (padding : DataPadding)
    (encLimit : Nat) (rng : R) : EncryptedStream S R where
  inner := inner
  readCipher := readCipher
  readBuffer := []
  readState := .header
  readed := 0
  writeCipher := writeCipher
  writeBuffer := []
  writePos := 0
  written := 0
  padding := padding
  encLimit := encLimit
  rng := rng

/-- The header of a frame that starts after `count` bytes. -/
def headerSize (this : EncryptedStream S R) (count tagSize : Nat) : Nat :=
  2 + (if this.padding.needed then 2 else 0) + (if count ≤ this.encLimit then tagSize else 0)

/-- The loop of `pollReadExact`.  Every further turn has added a byte, so there
are never more turns than missing bytes. -/
def readLoop [AsyncRead S] (size : Nat) :
    (turns : Nat) → S → Bytes → Poll (Except IoError Unit) × S × Bytes
  | 0, inner, buffer => (.ready (.ok ()), inner, buffer)
  | turns + 1, inner, buffer =>
      if buffer.length < size then
        match AsyncRead.pollRead inner (size - buffer.length) with
        | (.pending, inner) => (.pending, inner, buffer)
        | (.ready (.error error), inner) => (.ready (.error error), inner, buffer)
        | (.ready (.ok bytes), inner) =>
            if bytes.length = 0 then
              if buffer.length ≠ 0 then (.ready (.error .unexpectedEof), inner, buffer)
              else (.ready (.ok ()), inner, buffer)
            else readLoop size turns inner (buffer ++ bytes)
      else (.ready (.ok ()), inner, buffer)

def pollReadExact [AsyncRead S] (this : EncryptedStream S R) (size : Nat) :
    Poll (Except IoError Unit) × EncryptedStream S R :=
  let (result, inner, readBuffer) :=
    readLoop size (size - this.readBuffer.length) this.inner this.readBuffer
  (result, { this with inner, readBuffer })

/-- The loop of `pollWriteBuffer`, with `none` when the buffer ran out. -/
def writeLoop [AsyncWrite S] (noPending : Bool) (buffer : Bytes) :
    (turns : Nat) → S → (pos : Nat) → Option (Poll (Except IoError Unit)) × S × Nat
  | 0, inner, pos => (none, inner, pos)
  | turns + 1, inner, pos =>
      if pos < buffer.length then
        match AsyncWrite.pollWrite inner (buffer.drop pos) with
        | (.pending, inner) =>
            (some (if noPending then .ready (.ok ()) else .pending), inner, pos)
        | (.ready (.ok count), inner) =>
            if count = 0 then (some (.ready (.error .unexpectedEof)), inner, pos)
            else writeLoop noPending buffer turns inner (pos + count)
        | (.ready (.error error), inner) => (some (.ready (.error error)), inner, pos)
      else (none, inner, pos)

def pollWriteBuffer [AsyncWrite S] (this : EncryptedStream S R) (noPending : Bool) :
    Poll (Except IoError Unit) × EncryptedStream S R :=
  match writeLoop noPending this.writeBuffer (this.writeBuffer.length - this.writePos)
    this.inner this.writePos with
  | (some result, inner, writePos) => (result, { this with inner, writePos })
  | (none, inner, _) => (.ready (.ok ()), { this with inner, writePos := 0, writeBuffer := [] })

section Writing

variable [Aead]

/-- The draw of the padding size; an empty range is not sampled. -/
def drawPadding [Rng R] (this : EncryptedStream S R) (size : Nat) : Nat × R :=
  let paddingMax := min this.padding.max.toNat (this.padding.rate.toNat * size / 100 % 65536)
  if 0 < paddingMax then Rng.genRange this.rng 0 paddingMax else (0, this.rng)

def assembleDataToBuffer [Rng R] (this : EncryptedStream S R) (buf : Bytes) :
    EncryptedStream S R :=
  let tagSize := this.writeCipher.tagSize
  let headerSize := this.headerSize this.written tagSize
  -- header
  let buffer := this.writeBuffer ++ beBytes 2 buf.length
  let (padding, rng) := if this.padding.needed then this.drawPadding buf.length else (0, this.rng)
  let buffer := if this.padding.needed then buffer ++ beBytes 2 padding else buffer
  -- encrypt header
  let (buffer, cipher) :=
    if this.written ≤ this.encLimit then
      let (buffer, cipher) := this.writeCipher.encrypt buffer 0
      (buffer, cipher.incNonce (max padding 1))
    else (buffer, this.writeCipher)
  -- padding
  let (buffer, rng) :=
    if 0 < padding then
      let (bytes, rng) := Rng.fillBytes rng padding
      ((resize buffer (headerSize + padding)).take headerSize ++ bytes, rng)
    else (buffer, rng)
  -- data
  let buffer := buffer ++ buf
  let (buffer, cipher) :=
    if this.written ≤ this.encLimit then
      let (buffer, cipher) := cipher.encrypt buffer (headerSize + padding)
      (buffer, cipher.incNonce 1)
    else (buffer, cipher)
  { this with
    writeBuffer := buffer, writeCipher := cipher, written := this.written + buf.length, rng }

def pollWrite [AsyncWrite S] [Rng R] (this : EncryptedStream S R) (buf : Bytes) :
    Poll (Except IoError Nat) × EncryptedStream S R :=
  let buf := if maxPacketSize < buf.length then buf.take maxPacketSize else buf
  match this.pollWriteBuffer false with
  | (.pending, this) => (.pending, this)
  | (.ready (.error error), this) => (.ready (.error error), this)
  | (.ready (.ok ()), this) =>
      match (this.assembleDataToBuffer buf).pollWriteBuffer true with
      | (.pending, this) => (.pending, this)
      | (.ready (.error error), this) => (.ready (.error error), this)
      | (.ready (.ok ()), this) => (.ready (.ok buf.length), this)

end Writing

/-- `poll_flush` and `poll_shutdown`: empty the buffer, then pass the call on. -/
def pollThrough [AsyncWrite S] (call : S → Poll (Except IoError Unit) × S)
    (this : EncryptedStream S R) : Poll (Except IoError Unit) × EncryptedStream S R :=
  match this.pollWriteBuffer false with
  | (.pending, this) => (.pending, this)
  | (.ready (.error error), this) => (.ready (.error error), this)
  | (.ready (.ok ()), this) =>
      let (result, inner) := call this.inner
      (result, { this with inner })

def pollFlush [AsyncWrite S] (this : EncryptedStream S R) :
    Poll (Except IoError Unit) × EncryptedStream S R :=
  this.pollThrough AsyncWrite.pollFlush

def pollShutdown [AsyncWrite S] (this : EncryptedStream S R) :
    Poll (Except IoError Unit) × EncryptedStream S R :=
  this.pollThrough AsyncWrite.pollShutdown

section Reading

-- Each part of `poll_read` either returns from the whole call or falls through to
-- the next one, which is `none` here.
variable [Aead]

/-- The decrypted (or plain) header is in the buffer. -/
def takeHeader (this : EncryptedStream S R) : EncryptedStream S R :=
  let size := beNat (this.readBuffer.take 2)
  let padding := if this.padding.needed then beNat ((this.readBuffer.drop 2).take 2) else 0
  { this with
    readState := if this.padding.needed then .padding padding size else .data size
    readCipher :=
      if this.readed ≤ this.encLimit then this.readCipher.incNonce (max padding 1)
      else this.readCipher
    readBuffer := [] }

def openHeader (this : EncryptedStream S R) :
    Option (Poll (Except IoError Bytes)) × EncryptedStream S R :=
  if this.readed ≤ this.encLimit then
    match this.readCipher.decrypt this.readBuffer with
    | (false, readBuffer) =>
        (some (.ready (.error (.invalidData "decrypt data header failed"))),
          { this with readBuffer })
    | (true, readBuffer) => (none, { this with readBuffer }.takeHeader)
  else (none, this.takeHeader)

def readHeader [AsyncRead S] (this : EncryptedStream S R) :
    Option (Poll (Except IoError Bytes)) × EncryptedStream S R :=
  match this.readState with
  | .header =>
      let headerSize := this.headerSize this.readed this.readCipher.tagSize
      match this.pollReadExact headerSize with
      | (.pending, this) => (some .pending, this)
      | (.ready (.error error), this) => (some (.ready (.error error)), this)
      | (.ready (.ok ()), this) =>
          -- process EOF correctly
          if this.readBuffer.length < headerSize then (some (.ready (.ok [])), this)
          else this.openHeader
  | _ => (none, this)

def readPadding [AsyncRead S] (this : EncryptedStream S R) :
    Option (Poll (Except IoError Bytes)) × EncryptedStream S R :=
  match this.readState with
  | .padding size dataSize =>
      match this.pollReadExact size with
      | (.pending, this) => (some .pending, this)
      | (.ready (.error error), this) => (some (.ready (.error error)), this)
      | (.ready (.ok ()), this) =>
          -- process EOF correctly
          if this.readBuffer.length < size then (some (.ready (.ok [])), this)
          else (none, { this with readState := .data dataSize, readBuffer := [] })
  | _ => (none, this)

/-- The data record of `size` bytes is in the buffer. -/
def openData (this : EncryptedStream S R) (size : Nat) :
    Option (Poll (Except IoError Bytes)) × EncryptedStream S R :=
  if this.readed ≤ this.encLimit then
    match this.readCipher.decrypt this.readBuffer with
    | (false, readBuffer) =>
        (some (.ready (.error (.invalidData "decrypt data failed"))), { this with readBuffer })
    | (true, readBuffer) =>
        (none, { this with
          readCipher := this.readCipher.incNonce 1
          readBuffer := readBuffer.take size
          readed := this.readed + size
          readState := .ready 0 })
  else (none, { this with readed := this.readed + size, readState := .ready 0 })

def readData [AsyncRead S] (this : EncryptedStream S R) :
    Option (Poll (Except IoError Bytes)) × EncryptedStream S R :=
  match this.readState with
  | .data size =>
      let readSize := if this.readed ≤ this.encLimit then size + this.readCipher.tagSize else size
      match this.pollReadExact readSize with
      | (.pending, this) => (some .pending, this)
      | (.ready (.error error), this) => (some (.ready (.error error)), this)
      | (.ready (.ok ()), this) =>
          -- process EOF correctly
          if this.readBuffer.length < size then (some (.ready (.ok [])), this)
          else this.openData size
  | _ => (none, this)

/-- Hand out what fits into a buffer with `remaining` bytes left. -/
def returnBuffered (this : EncryptedStream S R) (remaining : Nat) :
    Bytes × EncryptedStream S R :=
  match this.readState with
  | .ready pos =>
      let consumed := (this.readBuffer.drop pos).take remaining
      let pos := pos + consumed.length
      if this.readBuffer.length ≤ pos then
        (consumed, { this with readBuffer := [], readState := .header })
      else (consumed, { this with readState := .ready pos })
  | _ => ([], this)

def pollRead [AsyncRead S] (this : EncryptedStream S R) (remaining : Nat) :
    Poll (Except IoError Bytes) × EncryptedStream S R :=
  match this.readHeader with
  | (some result, this) => (result, this)
  | (none, this) =>
      match this.readPadding with
      | (some result, this) => (result, this)
      | (none, this) =>
          match this.readData with
          | (some result, this) => (result, this)
          | (none, this) =>
              let (bytes, this) := this.returnBuffered remaining
              (.ready (.ok bytes), this)

end Reading

end EncryptedStream

end CovertConnect.Crypto
