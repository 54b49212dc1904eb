import CovertConnect.Data.Serial
import CovertConnect.Data.Utf16
import CovertConnect.Flutter.Serialization
import CovertConnect.Flutter.ServerForm

namespace CovertConnect.Flutter

open CovertConnect.Data
open CovertConnect.Data.JavaScript (utf16)
open CovertConnect.Client (ProxyState)
open CovertConnect.Crypto (Kdf CipherType)

/-! # The bridge between the user interface and the service

Each call carries its arguments and its result as bytes.  Rust and Dart have
their own types for what is carried, and each its own codec. -/

/-- The configuration as `start` takes it and `get_config` returns it. -/
structure Wrappers.ProxyConfig where
  state : ProxyState
  port : UInt16
  domains : List String
  apps : List String
  servers : List Wrappers.ServerConfig
deriving DecidableEq, Repr

class SseEncode (α : Type) where
  sseEncode : Endian → α → Bytes

/-- A reader without a value stands for a panic. -/
class SseDecode (α : Type) where
  sseDecode : Endian → Reader α

export SseEncode (sseEncode)
export SseDecode (sseDecode)

namespace Wrappers

instance : SseEncode UInt8 where
  sseEncode _ self := [self]

instance : SseDecode UInt8 where
  sseDecode _ := Reader.byte

instance : SseEncode UInt16 where
  sseEncode endian self := endian.bytes 2 self.toNat

instance : SseDecode UInt16 where
  sseDecode endian := do return UInt16.ofNat (← Reader.number endian 2)

instance : SseEncode Int32 where
  sseEncode endian self := endian.bytes 4 self.toUInt32.toNat

instance : SseDecode Int32 where
  sseDecode endian := do return (UInt32.ofNat (← Reader.number endian 4)).toInt32

/-- `usize`, which is carried with 64 bits. -/
instance : SseEncode UInt64 where
  sseEncode endian self := endian.bytes 8 self.toNat

instance : SseDecode UInt64 where
  sseDecode endian := do return UInt64.ofNat (← Reader.number endian 8)

instance : SseEncode Bool where
  sseEncode _ self := [if self then 1 else 0]

instance : SseDecode Bool where
  sseDecode _ := do return (← Reader.byte) ≠ 0

instance {α : Type} [SseEncode α] : SseEncode (List α) where
  sseEncode endian self :=
    sseEncode endian (Int32.ofNat self.length) ++ self.flatMap (sseEncode endian)

instance {α : Type} [SseDecode α] : SseDecode (List α) where
  sseDecode endian := do
    let len : Int32 ← sseDecode endian
    Reader.times (sseDecode endian) len.toNatClampNeg

instance : SseEncode String where
  sseEncode endian self := sseEncode endian (utf8Bytes self)

instance : SseDecode String where
  sseDecode endian := do
    let inner : Bytes ← sseDecode endian
    StateT.lift (fromUtf8 inner)

instance {α : Type} [SseEncode α] : SseEncode (Option α) where
  sseEncode endian self := sseEncode endian self.isSome ++ self.elim [] (sseEncode endian)

instance {α : Type} [SseDecode α] : SseDecode (Option α) where
  sseDecode endian := do
    let present : Bool ← sseDecode endian
    if present then return some (← sseDecode endian) else return none

instance : SseEncode ProxyState where
  sseEncode endian self :=
    sseEncode endian (match self with
      | .pac => 0
      | .all => 1
      | .off => 2 : Int32)

instance : SseDecode ProxyState where
  sseDecode endian := do
    let inner : Int32 ← sseDecode endian
    if inner = 0 then return .pac
    else if inner = 1 then return .all
    else if inner = 2 then return .off
    else StateT.lift none

instance : SseEncode Kdf where
  sseEncode endian self :=
    sseEncode endian (match self with
      | .argon2 => 0
      | .blake3 => 1 : Int32)

instance : SseDecode Kdf where
  sseDecode endian := do
    let inner : Int32 ← sseDecode endian
    if inner = 0 then return .argon2
    else if inner = 1 then return .blake3
    else StateT.lift none

instance : SseEncode CipherType where
  sseEncode endian self :=
    sseEncode endian (match self with
      | .aes256Gcm => 0
      | .chaCha20Poly1305 => 1 : Int32)

instance : SseDecode CipherType where
  sseDecode endian := do
    let inner : Int32 ← sseDecode endian
    if inner = 0 then return .aes256Gcm
    else if inner = 1 then return .chaCha20Poly1305
    else StateT.lift none

instance : SseEncode Crypto.DataPadding where
  sseEncode endian self := sseEncode endian self.max ++ sseEncode endian self.rate

instance : SseDecode Crypto.DataPadding where
  sseDecode endian := do
    let max ← sseDecode endian
    let rate ← sseDecode endian
    return { max, rate }

instance : SseEncode HeaderPadding where
  sseEncode endian self := sseEncode endian self.start ++ sseEncode endian self.stop

instance : SseDecode HeaderPadding where
  sseDecode endian := do
    let start ← sseDecode endian
    let stop ← sseDecode endian
    return { start, stop }

instance : SseEncode ProtocolConfig where
  sseEncode endian self :=
    sseEncode endian self.key ++ (sseEncode endian self.kdf ++ (sseEncode endian self.cipher ++
      (sseEncode endian self.maxConnectDelay ++ (sseEncode endian self.headerPadding ++
        (sseEncode endian self.dataPadding ++ sseEncode endian self.encryptionLimit)))))

instance : SseDecode ProtocolConfig where
  sseDecode endian := do
    let key ← sseDecode endian
    let kdf ← sseDecode endian
    let cipher ← sseDecode endian
    let maxConnectDelay ← sseDecode endian
    let headerPadding ← sseDecode endian
    let dataPadding ← sseDecode endian
    let encryptionLimit ← sseDecode endian
    return { key, kdf, cipher, maxConnectDelay, headerPadding, dataPadding, encryptionLimit }

instance : SseEncode ServerConfig where
  sseEncode endian self :=
    sseEncode endian self.caption ++ (sseEncode endian self.host ++
      (sseEncode endian self.weight ++ (sseEncode endian self.domains ++
        (sseEncode endian self.apps ++ (sseEncode endian self.enabled ++
          sseEncode endian self.protocol)))))

instance : SseDecode ServerConfig where
  sseDecode endian := do
    let caption ← sseDecode endian
    let host ← sseDecode endian
    let weight ← sseDecode endian
    let domains ← sseDecode endian
    let apps ← sseDecode endian
    let enabled ← sseDecode endian
    let protocol ← sseDecode endian
    return { caption, host, weight, domains, apps, enabled, protocol }

instance : SseEncode ProxyConfig where
  sseEncode endian self :=
    sseEncode endian self.state ++ (sseEncode endian self.port ++
      (sseEncode endian self.domains ++ (sseEncode endian self.apps ++
        sseEncode endian self.servers)))

instance : SseDecode ProxyConfig where
  sseDecode endian := do
    let state ← sseDecode endian
    let port ← sseDecode endian
    let domains ← sseDecode endian
    let apps ← sseDecode endian
    let servers ← sseDecode endian
    return { state, port, domains, apps, servers }

end Wrappers

section Dart

-- An `int` of Dart has 64 bits, of which the fields take as many as they have.
variable (endian : Endian)

def sseEncodeU8 (self : Int64) : Bytes :=
  [self.toUInt64.toUInt8]

def sseDecodeU8 : Reader Int64 := do
  return Int64.ofNat (← Reader.byte).toNat

def sseEncodeU16 (self : Int64) : Bytes :=
  endian.bytes 2 self.toUInt64.toUInt16.toNat

def sseDecodeU16 : Reader Int64 := do
  return Int64.ofNat (← Reader.number endian 2)

def sseEncodeI32 (self : Int64) : Bytes :=
  endian.bytes 4 self.toInt32.toUInt32.toNat

def sseDecodeI32 : Reader Int64 := do
  return (UInt32.ofNat (← Reader.number endian 4)).toInt32.toInt64

def sseEncodeUsize (self : Int) : Bytes :=
  endian.bytes 8 (self % 2 ^ 64).toNat

def sseDecodeUsize : Reader Int := do
  return (← Reader.number endian 8)

def sseEncodeBool (self : Bool) : Bytes :=
  [if self then 1 else 0]

def sseDecodeBool : Reader Bool := do
  return (← Reader.byte) ≠ 0

/-- `utf8.encoder.convert`. -/
def utf8Encode (text : Text) : Bytes :=
  utf8Bytes (String.ofList (fromUtf16 text))

/-- A byte order mark at the front of the bytes is not part of their text. -/
def dropByteOrderMark : List Char → List Char
  | [] => []
  | char :: rest => if char = Char.ofNat 0xFEFF then rest else char :: rest

/-- `utf8.decoder.convert`. -/
def utf8Decode (bytes : Bytes) : Option Text :=
  (fromUtf8 bytes).map fun text => (dropByteOrderMark text.toList).flatMap utf16

def sseEncodeString (self : Text) : Bytes :=
  sseEncodeI32 endian (Int64.ofNat (utf8Encode self).length) ++ utf8Encode self

def sseDecodeString : Reader Text := do
  let len ← sseDecodeI32 endian
  let inner ← if 0 ≤ len then Reader.exactly len.toNatClampNeg else StateT.lift none
  StateT.lift (utf8Decode inner)

def sseEncodeList {α : Type} (encode : α → Bytes) (self : List α) : Bytes :=
  sseEncodeI32 endian (Int64.ofNat self.length) ++ self.flatMap encode

def sseDecodeList {α : Type} (decode : Reader α) : Reader (List α) := do
  let len ← sseDecodeI32 endian
  Reader.times decode len.toNatClampNeg

def sseEncodeOpt {α : Type} (encode : α → Bytes) (self : Option α) : Bytes :=
  sseEncodeBool self.isSome ++ self.elim [] encode

def sseDecodeOpt {α : Type} (decode : Reader α) : Reader (Option α) := do
  if ← sseDecodeBool then return some (← decode) else return none

/-- `self.index`. -/
def sseEncodeEnum {α : Type} [DecidableEq α] (values : List α) (self : α) : Bytes :=
  sseEncodeI32 endian (Int64.ofNat (values.idxOf self))

/-- `values[inner]`. -/
def sseDecodeEnum {α : Type} (values : List α) : Reader α := do
  let inner ← sseDecodeI32 endian
  if 0 ≤ inner then StateT.lift values[inner.toNatClampNeg]? else StateT.lift none

def sseEncodeDataPadding (self : DataPadding) : Bytes :=
  sseEncodeU16 endian self.max ++ sseEncodeU8 self.rate

def sseDecodeDataPadding : Reader DataPadding := do
  let max ← sseDecodeU16 endian
  let rate ← sseDecodeU8
  return { max, rate }

def sseEncodeHeaderPadding (self : HeaderPadding) : Bytes :=
  sseEncodeU16 endian self.start ++ sseEncodeU16 endian self.stop

def sseDecodeHeaderPadding : Reader HeaderPadding := do
  let start ← sseDecodeU16 endian
  let stop ← sseDecodeU16 endian
  return { start, stop }

def sseEncodeProtocolConfig (self : ProtocolConfig) : Bytes :=
  sseEncodeString endian self.key ++ (sseEncodeEnum endian Kdf.values self.kdf ++
    (sseEncodeEnum endian CipherType.values self.cipher ++
      (sseEncodeU16 endian self.maxConnectDelay ++
        (sseEncodeHeaderPadding endian self.headerPadding ++
          (sseEncodeDataPadding endian self.dataPadding ++
            sseEncodeUsize endian self.encryptionLimit)))))

def sseDecodeProtocolConfig : Reader ProtocolConfig := do
  let key ← sseDecodeString endian
  let kdf ← sseDecodeEnum endian Kdf.values
  let cipher ← sseDecodeEnum endian CipherType.values
  let maxConnectDelay ← sseDecodeU16 endian
  let headerPadding ← sseDecodeHeaderPadding endian
  let dataPadding ← sseDecodeDataPadding endian
  let encryptionLimit ← sseDecodeUsize endian
  return { key, kdf, cipher, maxConnectDelay, headerPadding, dataPadding, encryptionLimit }

def sseEncodeServerConfig (self : ServerConfig) : Bytes :=
  sseEncodeOpt (sseEncodeString endian) self.caption ++ (sseEncodeString endian self.host ++
    (sseEncodeOpt sseEncodeU8 self.weight ++
      (sseEncodeOpt (sseEncodeList endian (sseEncodeString endian)) self.domains ++
        (sseEncodeOpt (sseEncodeList endian (sseEncodeString endian)) self.apps ++
          (sseEncodeBool self.enabled ++ sseEncodeProtocolConfig endian self.protocol)))))

def sseDecodeServerConfig : Reader ServerConfig := do
  let caption ← sseDecodeOpt (sseDecodeString endian)
  let host ← sseDecodeString endian
  let weight ← sseDecodeOpt sseDecodeU8
  let domains ← sseDecodeOpt (sseDecodeList endian (sseDecodeString endian))
  let apps ← sseDecodeOpt (sseDecodeList endian (sseDecodeString endian))
  let enabled ← sseDecodeBool
  let protocol ← sseDecodeProtocolConfig endian
  return { caption, host, weight, domains, apps, enabled, protocol }

def sseEncodeProxyConfig (self : ProxyConfig) : Bytes :=
  sseEncodeEnum endian ProxyState.values self.state ++ (sseEncodeU16 endian self.port ++
    (sseEncodeList endian (sseEncodeString endian) self.domains ++
      (sseEncodeList endian (sseEncodeString endian) self.apps ++
        sseEncodeList endian (sseEncodeServerConfig endian) self.servers)))

def sseDecodeProxyConfig : Reader ProxyConfig := do
  let state ← sseDecodeEnum endian ProxyState.values
  let port ← sseDecodeU16 endian
  let domains ← sseDecodeList endian (sseDecodeString endian)
  let apps ← sseDecodeList endian (sseDecodeString endian)
  let servers ← sseDecodeList endian (sseDecodeServerConfig endian)
  return { state, port, domains, apps, servers }

end Dart

/-- A text in Dart, and the text that a text of Dart is in Rust. -/
def textToDart (text : String) : Text :=
  (dropByteOrderMark text.toList).flatMap utf16

def textFromDart (text : Text) : String :=
  String.ofList (fromUtf16 text)

namespace Wrappers

def HeaderPadding.toDart (self : HeaderPadding) : Flutter.HeaderPadding where
  start := Int64.ofNat self.start.toNat
  stop := Int64.ofNat self.stop.toNat

def ProtocolConfig.toDart (self : ProtocolConfig) : Flutter.ProtocolConfig where
  key := textToDart self.key
  kdf := self.kdf
  cipher := self.cipher
  maxConnectDelay := Int64.ofNat self.maxConnectDelay.toNat
  headerPadding := self.headerPadding.toDart
  dataPadding := ⟨Int64.ofNat self.dataPadding.max.toNat, Int64.ofNat self.dataPadding.rate.toNat⟩
  encryptionLimit := self.encryptionLimit.toNat

def ServerConfig.toDart (self : ServerConfig) : Flutter.ServerConfig where
  caption := self.caption.map textToDart
  host := textToDart self.host
  weight := self.weight.map fun weight => Int64.ofNat weight.toNat
  domains := self.domains.map (·.map textToDart)
  apps := self.apps.map (·.map textToDart)
  enabled := self.enabled
  protocol := self.protocol.toDart

def ProxyConfig.toDart (self : ProxyConfig) : Flutter.ProxyConfig where
  state := self.state
  port := Int64.ofNat self.port.toNat
  domains := self.domains.map textToDart
  apps := self.apps.map textToDart
  servers := self.servers.map ServerConfig.toDart

end Wrappers

def HeaderPadding.fromDart (self : HeaderPadding) : Wrappers.HeaderPadding where
  start := self.start.toUInt64.toUInt16
  stop := self.stop.toUInt64.toUInt16

def ProtocolConfig.fromDart (self : ProtocolConfig) : Wrappers.ProtocolConfig where
  key := textFromDart self.key
  kdf := self.kdf
  cipher := self.cipher
  maxConnectDelay := self.maxConnectDelay.toUInt64.toUInt16
  headerPadding := self.headerPadding.fromDart
  dataPadding := ⟨self.dataPadding.max.toUInt64.toUInt16, self.dataPadding.rate.toUInt64.toUInt8⟩
  encryptionLimit := UInt64.ofNat (self.encryptionLimit % 2 ^ 64).toNat

def ServerConfig.fromDart (self : ServerConfig) : Wrappers.ServerConfig where
  caption := self.caption.map textFromDart
  host := textFromDart self.host
  weight := self.weight.map fun weight => weight.toUInt64.toUInt8
  domains := self.domains.map (·.map textFromDart)
  apps := self.apps.map (·.map textFromDart)
  enabled := self.enabled
  protocol := self.protocol.fromDart

def ProxyConfig.fromDart (self : ProxyConfig) : Wrappers.ProxyConfig where
  state := self.state
  port := self.port.toUInt64.toUInt16
  domains := self.domains.map textFromDart
  apps := self.apps.map textFromDart
  servers := self.servers.map ServerConfig.fromDart

/-- The number of bytes or items that is written in front of them. -/
def SizeFits (size : Nat) : Prop :=
  size < 2 ^ 31

instance : DecidablePred SizeFits := fun size =>
  inferInstanceAs (Decidable (size < 2 ^ 31))

def textSize (text : String) : Nat :=
  (utf8Bytes text).length

structure TextsFit (texts : List String) : Prop where
  size : SizeFits texts.length
  each : ∀ text ∈ texts, SizeFits (textSize text)

namespace Wrappers

structure ServerConfig.Fits (cfg : ServerConfig) : Prop where
  caption : ∀ caption ∈ cfg.caption, SizeFits (textSize caption)
  host : SizeFits (textSize cfg.host)
  domains : ∀ domains ∈ cfg.domains, TextsFit domains
  apps : ∀ apps ∈ cfg.apps, TextsFit apps
  key : SizeFits (textSize cfg.protocol.key)

structure ProxyConfig.Fits (cfg : ProxyConfig) : Prop where
  domains : TextsFit cfg.domains
  apps : TextsFit cfg.apps
  size : SizeFits cfg.servers.length
  servers : ∀ server ∈ cfg.servers, server.Fits

instance (texts : List String) : Decidable (TextsFit texts) :=
  decidable_of_iff (SizeFits texts.length ∧ ∀ text ∈ texts, SizeFits (textSize text))
    ⟨fun fits => ⟨fits.1, fits.2⟩, fun fits => ⟨fits.size, fits.each⟩⟩

instance (cfg : ServerConfig) : Decidable cfg.Fits :=
  decidable_of_iff ((∀ caption ∈ cfg.caption, SizeFits (textSize caption)) ∧
      SizeFits (textSize cfg.host) ∧ (∀ domains ∈ cfg.domains, TextsFit domains) ∧
      (∀ apps ∈ cfg.apps, TextsFit apps) ∧ SizeFits (textSize cfg.protocol.key))
    ⟨fun fits => ⟨fits.1, fits.2.1, fits.2.2.1, fits.2.2.2.1, fits.2.2.2.2⟩,
      fun fits => ⟨fits.caption, fits.host, fits.domains, fits.apps, fits.key⟩⟩

instance (cfg : ProxyConfig) : Decidable cfg.Fits :=
  decidable_of_iff (TextsFit cfg.domains ∧ TextsFit cfg.apps ∧ SizeFits cfg.servers.length ∧
      ∀ server ∈ cfg.servers, server.Fits)
    ⟨fun fits => ⟨fits.1, fits.2.1, fits.2.2.1, fits.2.2.2⟩,
      fun fits => ⟨fits.domains, fits.apps, fits.size, fits.servers⟩⟩

end Wrappers

section ToDart

open Wrappers

variable {endian : Endian}

theorem u8_toDart (value : UInt8) :
    Gives sseDecodeU8 (sseEncode endian value) (Int64.ofNat value.toNat) :=
  (Gives.byte value).last fun byte : UInt8 => Int64.ofNat byte.toNat

theorem u16_toDart (value : UInt16) :
    Gives (sseDecodeU16 endian) (sseEncode endian value) (Int64.ofNat value.toNat) :=
  (Gives.number endian value.toNat_lt).last Int64.ofNat

theorem usize_toDart (value : UInt64) :
    Gives (sseDecodeUsize endian) (sseEncode endian value) (value.toNat : Int) :=
  (Gives.number endian value.toNat_lt).last Int.ofNat

theorem bool_toDart (endian : Endian) (value : Bool) :
    Gives sseDecodeBool (sseEncode endian value) value := by
  cases value with
  | false => exact (Gives.byte 0).last fun byte : UInt8 => decide (byte ≠ 0)
  | true => exact (Gives.byte 1).last fun byte : UInt8 => decide (byte ≠ 0)

theorem i32_toDart (value : Int32) :
    Gives (sseDecodeI32 endian) (sseEncode endian value) value.toInt64 := by
  have small : value.toUInt32.toNat < 256 ^ 4 := value.toUInt32.toNat_lt
  have given := (Gives.number endian small).last
    fun number => (UInt32.ofNat number).toInt32.toInt64
  rw [UInt32.ofNat_toNat, Int32.toInt32_toUInt32] at given
  exact given

theorem size_clamp {size : Nat} (fits : SizeFits size) :
    (Int32.ofNat size).toInt64.toNatClampNeg = size := by
  rw [Int32.toNatClampNeg_toInt64, Int32.toNatClampNeg_ofNat_of_lt fits]

theorem size_nonneg {size : Nat} (fits : SizeFits size) : 0 ≤ (Int32.ofNat size).toInt64 := by
  rw [Int64.le_iff_toInt_le, Int32.toInt_toInt64, Int32.toInt_ofNat_of_lt fits]
  exact Int.natCast_nonneg size

theorem bytes_encode (bytes : Bytes) : bytes.flatMap (sseEncode endian) = bytes := by
  induction bytes with
  | nil => rfl
  | cons byte bytes ih =>
      rw [List.flatMap_cons, ih]
      rfl

theorem string_toDart {text : String} (fits : SizeFits (textSize text)) :
    Gives (sseDecodeString endian) (sseEncode endian text) (textToDart text) := by
  have decoded : utf8Decode (utf8Bytes text) = some (textToDart text) := by
    rw [utf8Decode, fromUtf8_utf8Bytes]
    rfl
  have inner : Gives (Reader.exactly (Int32.ofNat (textSize text)).toInt64.toNatClampNeg)
      (utf8Bytes text) (utf8Bytes text) := by
    rw [size_clamp fits]
    exact Gives.exactly _
  refine Gives.bind (i32_toDart (Int32.ofNat (textSize text))) ?_
  rw [if_pos (size_nonneg fits), bytes_encode, ← List.append_nil (utf8Bytes text)]
  refine Gives.bind inner fun rest => ?_
  change (StateT.lift (utf8Decode (utf8Bytes text)) : Reader Text).run rest = _
  rw [decoded]
  rfl

theorem list_toDart {α β : Type} [SseEncode α] {decode : Reader β} {f : α → β} {items : List α}
    (fits : SizeFits items.length)
    (each : ∀ item ∈ items, Gives decode (sseEncode endian item) (f item)) :
    Gives (sseDecodeList endian decode) (sseEncode endian items) (items.map f) := by
  refine Gives.bind (i32_toDart (Int32.ofNat items.length)) ?_
  rw [size_clamp fits]
  exact Gives.times each

theorem opt_toDart {α β : Type} [SseEncode α] {decode : Reader β} {f : α → β} {value : Option α}
    (each : ∀ item ∈ value, Gives decode (sseEncode endian item) (f item)) :
    Gives (sseDecodeOpt decode) (sseEncode endian value) (value.map f) := by
  cases value with
  | none => exact Gives.bind (bool_toDart endian false) (Gives.pure none)
  | some item =>
      exact Gives.bind (bool_toDart endian true) ((each item rfl).last some)

theorem enum_toDart {α : Type} {values : List α} {value : α} (idx : Nat) (fits : SizeFits idx)
    (found : values[idx]? = some value) :
    Gives (sseDecodeEnum endian values) (sseEncode endian (Int32.ofNat idx)) value := by
  have listed : Gives (if 0 ≤ (Int32.ofNat idx).toInt64 then
      StateT.lift values[(Int32.ofNat idx).toInt64.toNatClampNeg]? else StateT.lift none) []
        value := by
    rw [if_pos (size_nonneg fits), size_clamp fits, found]
    exact fun _ => rfl
  have both : Gives (sseDecodeEnum endian values) (sseEncode endian (Int32.ofNat idx) ++ [])
      value :=
    Gives.bind (i32_toDart (Int32.ofNat idx)) listed
  rwa [List.append_nil] at both

theorem protocolConfig_toDart {cfg : Wrappers.ProtocolConfig} (fits : SizeFits (textSize cfg.key)) :
    Gives (sseDecodeProtocolConfig endian) (sseEncode endian cfg) cfg.toDart := by
  have kdf : Gives (sseDecodeEnum endian Kdf.values) (sseEncode endian cfg.kdf) cfg.kdf := by
    cases cfg.kdf with
    | argon2 => exact enum_toDart 0 (by decide) rfl
    | blake3 => exact enum_toDart 1 (by decide) rfl
  have cipher : Gives (sseDecodeEnum endian CipherType.values) (sseEncode endian cfg.cipher)
      cfg.cipher := by
    cases cfg.cipher with
    | aes256Gcm => exact enum_toDart 0 (by decide) rfl
    | chaCha20Poly1305 => exact enum_toDart 1 (by decide) rfl
  have headerPadding : Gives (sseDecodeHeaderPadding endian) (sseEncode endian cfg.headerPadding)
      cfg.headerPadding.toDart :=
    (u16_toDart cfg.headerPadding.start).bind ((u16_toDart cfg.headerPadding.stop).last _)
  have dataPadding : Gives (sseDecodeDataPadding endian) (sseEncode endian cfg.dataPadding)
      cfg.toDart.dataPadding :=
    (u16_toDart cfg.dataPadding.max).bind ((u8_toDart cfg.dataPadding.rate).last _)
  exact (string_toDart fits).bind (kdf.bind (cipher.bind ((u16_toDart cfg.maxConnectDelay).bind
    (headerPadding.bind (dataPadding.bind ((usize_toDart cfg.encryptionLimit).last _))))))

theorem texts_toDart {texts : List String} (fits : TextsFit texts) :
    Gives (sseDecodeList endian (sseDecodeString endian)) (sseEncode endian texts)
      (texts.map textToDart) :=
  list_toDart fits.size fun text there => string_toDart (fits.each text there)

theorem serverConfig_toDart {cfg : Wrappers.ServerConfig} (fits : cfg.Fits) :
    Gives (sseDecodeServerConfig endian) (sseEncode endian cfg) cfg.toDart := by
  have caption : Gives (sseDecodeOpt (sseDecodeString endian)) (sseEncode endian cfg.caption)
      cfg.toDart.caption :=
    opt_toDart fun caption there => string_toDart (fits.caption caption there)
  have weight : Gives (sseDecodeOpt sseDecodeU8) (sseEncode endian cfg.weight) cfg.toDart.weight :=
    opt_toDart fun weight _ => u8_toDart weight
  have domains : Gives (sseDecodeOpt (sseDecodeList endian (sseDecodeString endian)))
      (sseEncode endian cfg.domains) cfg.toDart.domains :=
    opt_toDart fun domains there => texts_toDart (fits.domains domains there)
  have apps : Gives (sseDecodeOpt (sseDecodeList endian (sseDecodeString endian)))
      (sseEncode endian cfg.apps) cfg.toDart.apps :=
    opt_toDart fun apps there => texts_toDart (fits.apps apps there)
  exact caption.bind ((string_toDart fits.host).bind (weight.bind (domains.bind (apps.bind
    ((bool_toDart endian cfg.enabled).bind ((protocolConfig_toDart fits.key).last _))))))

/-- What the service returns arrives at the user interface. -/
theorem proxyConfig_toDart {cfg : Wrappers.ProxyConfig} (fits : cfg.Fits) :
    Gives (sseDecodeProxyConfig endian) (sseEncode endian cfg) cfg.toDart := by
  have state : Gives (sseDecodeEnum endian ProxyState.values) (sseEncode endian cfg.state)
      cfg.state := by
    cases cfg.state with
    | pac => exact enum_toDart 0 (by decide) rfl
    | all => exact enum_toDart 1 (by decide) rfl
    | off => exact enum_toDart 2 (by decide) rfl
  have servers : Gives (sseDecodeList endian (sseDecodeServerConfig endian))
      (sseEncode endian cfg.servers) cfg.toDart.servers :=
    list_toDart fits.size fun server there => serverConfig_toDart (fits.servers server there)
  exact state.bind ((u16_toDart cfg.port).bind ((texts_toDart fits.domains).bind
    ((texts_toDart fits.apps).bind (servers.last _))))

end ToDart

section FromDart

open Wrappers

variable {endian : Endian}

theorem u8_fromDart (value : Int64) :
    Gives (sseDecode endian) (sseEncodeU8 value) value.toUInt64.toUInt8 :=
  Gives.byte _

theorem u16_fromDart (value : Int64) :
    Gives (sseDecode endian) (sseEncodeU16 endian value) value.toUInt64.toUInt16 := by
  have small : value.toUInt64.toUInt16.toNat < 256 ^ 2 := UInt16.toNat_lt _
  have given := (Gives.number endian small).last UInt16.ofNat
  rw [UInt16.ofNat_toNat] at given
  exact given

theorem usize_fromDart (value : Int) :
    Gives (sseDecode endian) (sseEncodeUsize endian value)
      (UInt64.ofNat (value % 2 ^ 64).toNat) := by
  have small : (value % 2 ^ 64).toNat < 256 ^ 8 := by omega
  exact (Gives.number endian small).last UInt64.ofNat

theorem bool_fromDart (value : Bool) : Gives (sseDecode endian) (sseEncodeBool value) value :=
  bool_toDart endian value

theorem size_fromDart (size : Nat) :
    Gives (sseDecode endian) (sseEncodeI32 endian (Int64.ofNat size)) (Int32.ofNat size) := by
  have small : (Int32.ofNat size).toUInt32.toNat < 256 ^ 4 := UInt32.toNat_lt _
  have given := (Gives.number endian small).last fun number => (UInt32.ofNat number).toInt32
  rw [UInt32.ofNat_toNat, Int32.toInt32_toUInt32] at given
  rw [sseEncodeI32, Int64.toInt32_ofNat']
  exact given

/-- The variant of an index. -/
theorem variant_fromDart {α : Type} {next : Int32 → Reader α} {value : α} (idx : Nat)
    (chosen : Gives (next (Int32.ofNat idx)) [] value) :
    Gives (sseDecode endian >>= next) (sseEncodeI32 endian (Int64.ofNat idx)) value := by
  have both : Gives (sseDecode endian >>= next) (sseEncodeI32 endian (Int64.ofNat idx) ++ [])
      value :=
    (size_fromDart idx).bind chosen
  rwa [List.append_nil] at both

theorem list_fromDart {α β : Type} [SseDecode β] {encode : α → Bytes} {f : α → β} {items : List α}
    (fits : SizeFits items.length)
    (each : ∀ item ∈ items, Gives (sseDecode endian) (encode item) (f item)) :
    Gives (sseDecode endian) (sseEncodeList endian encode items) (items.map f) := by
  refine Gives.bind (size_fromDart items.length) ?_
  rw [Int32.toNatClampNeg_ofNat_of_lt fits]
  exact Gives.times each

theorem string_fromDart {text : Text} (fits : SizeFits (textSize (textFromDart text))) :
    Gives (sseDecode endian) (sseEncodeString endian text) (textFromDart text) := by
  have bytes : Gives (sseDecode endian) (sseEncodeString endian text) (utf8Encode text) := by
    have listed : Gives (sseDecode endian)
        (sseEncodeList endian (fun byte : UInt8 => [byte]) (utf8Encode text))
        ((utf8Encode text).map id) :=
      list_fromDart fits fun byte _ => Gives.byte byte
    rw [sseEncodeList, List.flatMap_singleton', List.map_id] at listed
    exact listed
  have decoded : Gives (StateT.lift (fromUtf8 (utf8Encode text))) [] (textFromDart text) := by
    rw [utf8Encode, fromUtf8_utf8Bytes]
    exact fun _ => rfl
  have both : Gives (sseDecode endian) (sseEncodeString endian text ++ []) (textFromDart text) :=
    bytes.bind decoded
  rwa [List.append_nil] at both

theorem opt_fromDart {α β : Type} [SseDecode β] {encode : α → Bytes} {f : α → β} {value : Option α}
    (each : ∀ item ∈ value, Gives (sseDecode endian) (encode item) (f item)) :
    Gives (sseDecode endian) (sseEncodeOpt encode value) (value.map f) := by
  cases value with
  | none => exact Gives.bind (bool_fromDart false) (Gives.pure none)
  | some item => exact Gives.bind (bool_fromDart true) ((each item rfl).last some)

theorem texts_fromDart {texts : List Text} (fits : TextsFit (texts.map textFromDart)) :
    Gives (sseDecode endian) (sseEncodeList endian (sseEncodeString endian) texts)
      (texts.map textFromDart) := by
  have size := fits.size
  rw [List.length_map] at size
  refine list_fromDart size fun text there => ?_
  exact string_fromDart (fits.each _ (List.mem_map_of_mem there))

theorem kdf_fromDart (kdf : Kdf) :
    Gives (sseDecode endian) (sseEncodeEnum endian Kdf.values kdf) kdf := by
  cases kdf with
  | argon2 => exact variant_fromDart 0 fun _ => rfl
  | blake3 => exact variant_fromDart 1 fun _ => rfl

theorem cipherType_fromDart (cipher : CipherType) :
    Gives (sseDecode endian) (sseEncodeEnum endian CipherType.values cipher) cipher := by
  cases cipher with
  | aes256Gcm => exact variant_fromDart 0 fun _ => rfl
  | chaCha20Poly1305 => exact variant_fromDart 1 fun _ => rfl

theorem proxyState_fromDart (state : ProxyState) :
    Gives (sseDecode endian) (sseEncodeEnum endian ProxyState.values state) state := by
  cases state with
  | pac => exact variant_fromDart 0 fun _ => rfl
  | all => exact variant_fromDart 1 fun _ => rfl
  | off => exact variant_fromDart 2 fun _ => rfl

theorem protocolConfig_fromDart {cfg : ProtocolConfig}
    (fits : SizeFits (textSize cfg.fromDart.key)) :
    Gives (sseDecode endian) (sseEncodeProtocolConfig endian cfg) cfg.fromDart := by
  have headerPadding : Gives (sseDecode endian) (sseEncodeHeaderPadding endian cfg.headerPadding)
      cfg.headerPadding.fromDart :=
    (u16_fromDart cfg.headerPadding.start).bind ((u16_fromDart cfg.headerPadding.stop).last _)
  have dataPadding : Gives (sseDecode endian) (sseEncodeDataPadding endian cfg.dataPadding)
      cfg.fromDart.dataPadding :=
    (u16_fromDart cfg.dataPadding.max).bind ((u8_fromDart cfg.dataPadding.rate).last _)
  exact (string_fromDart fits).bind ((kdf_fromDart cfg.kdf).bind
    ((cipherType_fromDart cfg.cipher).bind ((u16_fromDart cfg.maxConnectDelay).bind
      (headerPadding.bind (dataPadding.bind ((usize_fromDart cfg.encryptionLimit).last _))))))

theorem serverConfig_fromDart {cfg : ServerConfig} (fits : cfg.fromDart.Fits) :
    Gives (sseDecode endian) (sseEncodeServerConfig endian cfg) cfg.fromDart := by
  have caption : Gives (sseDecode endian) (sseEncodeOpt (sseEncodeString endian) cfg.caption)
      cfg.fromDart.caption :=
    opt_fromDart fun caption there =>
      string_fromDart (fits.caption _ (Option.mem_map_of_mem textFromDart there))
  have weight : Gives (sseDecode endian) (sseEncodeOpt sseEncodeU8 cfg.weight)
      cfg.fromDart.weight :=
    opt_fromDart fun weight _ => u8_fromDart weight
  have lists : ∀ texts : Option (List Text),
      (∀ list ∈ texts.map (·.map textFromDart), TextsFit list) →
        Gives (sseDecode endian)
          (sseEncodeOpt (sseEncodeList endian (sseEncodeString endian)) texts)
          (texts.map (·.map textFromDart)) :=
    fun texts fits => opt_fromDart fun list there =>
      texts_fromDart (fits _ (Option.mem_map_of_mem _ there))
  exact caption.bind ((string_fromDart fits.host).bind (weight.bind
    ((lists cfg.domains fits.domains).bind ((lists cfg.apps fits.apps).bind
      ((bool_fromDart cfg.enabled).bind ((protocolConfig_fromDart fits.key).last _))))))

/-- What the user interface sends arrives at the service. -/
theorem proxyConfig_fromDart {cfg : ProxyConfig} (fits : cfg.fromDart.Fits) :
    Gives (sseDecode endian) (sseEncodeProxyConfig endian cfg) cfg.fromDart := by
  have servers : Gives (sseDecode endian)
      (sseEncodeList endian (sseEncodeServerConfig endian) cfg.servers) cfg.fromDart.servers := by
    have size := fits.size
    rw [ProxyConfig.fromDart, List.length_map] at size
    refine list_fromDart size ?_
    exact fun server there => serverConfig_fromDart (fits.servers _ (List.mem_map_of_mem there))
  exact (proxyState_fromDart cfg.state).bind ((u16_fromDart cfg.port).bind
    ((texts_fromDart fits.domains).bind ((texts_fromDart fits.apps).bind (servers.last _))))

end FromDart

end CovertConnect.Flutter
