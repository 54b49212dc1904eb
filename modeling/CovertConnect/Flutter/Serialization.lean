import CovertConnect.Client.Proxy
import CovertConnect.Crypto.Config
import CovertConnect.Data.Json

namespace CovertConnect.Flutter

open CovertConnect.Data
open CovertConnect.Client (ProxyState)
open CovertConnect.Crypto (Kdf CipherType)

/-! # The saved configuration

The user interface keeps the configuration as a JSON text.  Strings are
sequences of UTF-16 code units and integers have 64 bits, as in Dart. -/

structure DataPadding where
  max : Int64
  rate : Int64
deriving DecidableEq, Repr

structure HeaderPadding where
  start : Int64
  stop : Int64
deriving DecidableEq, Repr

structure ProtocolConfig where
  key : Text
  kdf : Kdf
  cipher : CipherType
  maxConnectDelay : Int64
  headerPadding : HeaderPadding
  dataPadding : DataPadding
  encryptionLimit : Int
deriving DecidableEq, Repr

structure ServerConfig where
  caption : Option Text
  host : Text
  weight : Option Int64
  domains : Option (List Text)
  apps : Option (List Text)
  enabled : Bool
  protocol : ProtocolConfig
deriving DecidableEq, Repr

structure ProxyConfig where
  state : ProxyState
  port : Int64
  domains : List Text
  apps : List Text
  servers : List ServerConfig
deriving DecidableEq, Repr

inductive DartError where
  | formatException
  | typeError
  | argumentError
  | noSuchMethodError
deriving DecidableEq, Repr

def kState : Text := ascii "state"
def kPort : Text := ascii "port"
def kApps : Text := ascii "apps"
def kDomains : Text := ascii "domains"
def kServers : Text := ascii "servers"

def kCaption : Text := ascii "caption"
def kHost : Text := ascii "host"
def kWeight : Text := ascii "weight"
def kEnabled : Text := ascii "enabled"
def kProtocol : Text := ascii "protocol"

def kKey : Text := ascii "key"
def kKdf : Text := ascii "kdf"
def kCipher : Text := ascii "cipher"
def kMaxConnectDelay : Text := ascii "maxConnectDelay"
def kHPaddingStart : Text := ascii "h_start"
def kHPaddingEnd : Text := ascii "h_end"
def kDPaddingMax : Text := ascii "d_max"
def kDPaddingRate : Text := ascii "d_rate"
def kEncryptionLimit : Text := ascii "encryptionLimit"

def ProxyState.values : List ProxyState := [.pac, .all, .off]

def ProxyState.name : ProxyState → Text
  | .pac => ascii "pac"
  | .all => ascii "all"
  | .off => ascii "off"

def Kdf.values : List Kdf := [.argon2, .blake3]

def Kdf.name : Kdf → Text
  | .argon2 => ascii "argon2"
  | .blake3 => ascii "blake3"

def CipherType.values : List CipherType := [.aes256Gcm, .chaCha20Poly1305]

def CipherType.name : CipherType → Text
  | .aes256Gcm => ascii "aes256Gcm"
  | .chaCha20Poly1305 => ascii "chaCha20Poly1305"

def byName {α : Type} (values : List α) (name : α → Text) (wanted : Text) : Except DartError α :=
  match values.find? (name · = wanted) with
  | some value => .ok value
  | none => .error .argumentError

def asString : Json → Except DartError Text
  | .str value => .ok value
  | _ => .error .typeError

def asInt : Json → Except DartError Int64
  | .int value => .ok value
  | _ => .error .typeError

def asBool : Json → Except DartError Bool
  | .bool value => .ok value
  | _ => .error .typeError

def asList : Json → Except DartError (List Json)
  | .arr items => .ok items
  | _ => .error .typeError

def asMap : Json → Except DartError (List (Text × Json))
  | .obj members => .ok members
  | _ => .error .typeError

/-- A cast to a nullable type. -/
def asNullable {α : Type} (cast : Json → Except DartError α) : Json → Except DartError (Option α)
  | .null => .ok none
  | value => (cast value).map some

/-- `(json as List<dynamic>?)?.map((x) => x as String).toList()`. -/
def asNullableStrings (json : Json) : Except DartError (Option (List Text)) := do
  (← asNullable asList json).mapM (·.mapM asString)

def entry (json : List (Text × Json)) (key : Text) : Json :=
  (Json.lookup key json).getD .null

/-- `json[key]` on a dynamic value. -/
def index (json : Json) (key : Text) : Except DartError Json :=
  match json with
  | .obj members => .ok (entry members key)
  | .str _ | .arr _ => .error .typeError
  | .null | .bool _ | .int _ | .double _ => .error .noSuchMethodError

def trim (source : Text) : Text :=
  ((source.dropWhile Json.isSpace).reverse.dropWhile Json.isSpace).reverse

/-- `BigInt.parse`: decimal digits, or hexadecimal ones after `0x`. -/
def parseBigInt (source : Text) : Except DartError Int :=
  let (sign, body) := Json.takeSign [unit '+', unit '-'] (trim source)
  let signed (value : Nat) : Int := if sign = some (unit '-') then -value else value
  if body ≠ [] ∧ body.all Json.isDigit then .ok (signed (Json.digitsValue body))
  else
    match body with
    | zero :: mark :: hex =>
        match hex.mapM Json.hexValue with
        | some (first :: rest) =>
            if zero = unit '0' ∧ (mark = unit 'x' ∨ mark = unit 'X') then
              .ok (signed ((first :: rest).foldl (· * 16 + ·) 0))
            else .error .formatException
        | _ => .error .formatException
    | _ => .error .formatException

def protocolConfigFromJson (json : List (Text × Json)) : Except DartError ProtocolConfig := do
  let key ← asString (entry json kKey)
  let kdf ← byName Kdf.values Kdf.name (← asString (entry json kKdf))
  let cipher ← byName CipherType.values CipherType.name (← asString (entry json kCipher))
  let maxConnectDelay ← asInt (entry json kMaxConnectDelay)
  let headerStart ← asInt (entry json kHPaddingStart)
  let headerEnd ← asInt (entry json kHPaddingEnd)
  let dataMax ← asInt (entry json kDPaddingRate)
  let dataRate ← asInt (entry json kDPaddingRate)
  let encryptionLimit ← parseBigInt (← asString (entry json kEncryptionLimit))
  return {
    key, kdf, cipher, maxConnectDelay
    headerPadding := { start := headerStart, stop := headerEnd }
    dataPadding := { max := dataMax, rate := dataRate }
    encryptionLimit
  }

def serverConfigFromJson (json : List (Text × Json)) : Except DartError ServerConfig := do
  let caption ← asNullable asString (entry json kCaption)
  let host ← asString (entry json kHost)
  let weight ← asNullable asInt (entry json kWeight)
  let domains ← asNullableStrings (entry json kDomains)
  let apps ← asNullableStrings (entry json kApps)
  let enabled ← asBool (entry json kEnabled)
  let protocol ← protocolConfigFromJson (← asMap (entry json kProtocol))
  return { caption, host, weight, domains, apps, enabled, protocol }

/-- The servers, each of them a map. -/
def asNullableServers (json : Json) : Except DartError (Option (List ServerConfig)) := do
  (← asNullable asList json).mapM (·.mapM fun server => do serverConfigFromJson (← asMap server))

def jsonDecode (source : Text) : Except DartError Json :=
  match Json.decode source with
  | some value => .ok value
  | none => .error .formatException

def proxyConfigFromString (configStr : Text) : Except DartError ProxyConfig := do
  let json ← jsonDecode configStr
  let state ← byName ProxyState.values ProxyState.name (← asString (← index json kState))
  let port ← asInt (← index json kPort)
  let domains ← (← asList (← index json kDomains)).mapM asString
  let apps ← asNullableStrings (← index json kApps)
  let servers ← asNullableServers (← index json kServers)
  return { state, port, domains, apps := apps.getD [], servers := servers.getD [] }

def protocolConfigToJson (value : ProtocolConfig) : Json :=
  .obj [
    (kKey, .str value.key),
    (kKdf, .str (Kdf.name value.kdf)),
    (kCipher, .str (CipherType.name value.cipher)),
    (kMaxConnectDelay, .int value.maxConnectDelay),
    (kHPaddingStart, .int value.headerPadding.start),
    (kHPaddingEnd, .int value.headerPadding.stop),
    (kDPaddingMax, .int value.dataPadding.max),
    (kDPaddingRate, .int value.dataPadding.rate),
    (kEncryptionLimit, .str (Json.decimalInt value.encryptionLimit))
  ]

/-- An entry that is only written when there is a value. -/
def optionalEntry {α : Type} (key : Text) (toJson : α → Json) : Option α → List (Text × Json)
  | some value => [(key, toJson value)]
  | none => []

def stringsToJson (values : List Text) : Json :=
  .arr (values.map .str)

def serverConfigToJson (value : ServerConfig) : Json :=
  .obj (optionalEntry kCaption .str value.caption ++
    (kHost, .str value.host) :: (optionalEntry kWeight .int value.weight ++
      (optionalEntry kDomains stringsToJson value.domains ++
        (optionalEntry kApps stringsToJson value.apps ++
          [(kEnabled, .bool value.enabled),
            (kProtocol, protocolConfigToJson value.protocol)]))))

def proxyCofigToJson (value : ProxyConfig) : Json :=
  .obj [
    (kState, .str (ProxyState.name value.state)),
    (kPort, .int value.port),
    (kDomains, stringsToJson value.domains),
    (kApps, stringsToJson value.apps),
    (kServers, .arr (value.servers.map serverConfigToJson))
  ]

def jsonEncode (value : Json) : Text :=
  Json.encode value

theorem exact_strings (values : List Text) : Json.Exact (stringsToJson values) := by
  rw [stringsToJson, Json.Exact, Json.exactItems_iff]
  intro item there
  obtain ⟨value, _, rfl⟩ := List.mem_map.mp there
  trivial

theorem exact_protocolConfig (value : ProtocolConfig) : Json.Exact (protocolConfigToJson value) := by
  simp [protocolConfigToJson, Json.Exact, Json.ExactMembers]

theorem exact_optionalEntry {α : Type} {key : Text} {toJson : α → Json} {value : Option α}
    (exact : ∀ value, Json.Exact (toJson value)) :
    ∀ member ∈ optionalEntry key toJson value, Json.Exact member.2 := by
  intro member there
  cases value with
  | none => cases there
  | some value =>
      rw [List.mem_singleton.mp there]
      exact exact value

theorem exact_serverConfig (value : ServerConfig) : Json.Exact (serverConfigToJson value) := by
  rw [serverConfigToJson, Json.Exact, Json.exactMembers_iff]
  simp only [List.forall_mem_append, List.forall_mem_cons]
  have strings := exact_strings
  refine ⟨exact_optionalEntry fun _ => by simp [Json.Exact], by simp [Json.Exact],
    exact_optionalEntry fun _ => by simp [Json.Exact], exact_optionalEntry strings,
    exact_optionalEntry strings, by simp [Json.Exact], exact_protocolConfig _, by simp⟩

theorem exact_proxyConfig (value : ProxyConfig) : Json.Exact (proxyCofigToJson value) := by
  have servers : Json.ExactItems (value.servers.map serverConfigToJson) := by
    rw [Json.exactItems_iff]
    intro item there
    obtain ⟨server, _, rfl⟩ := List.mem_map.mp there
    exact exact_serverConfig server
  simp [proxyCofigToJson, Json.Exact, Json.ExactMembers, exact_strings, servers]

theorem byName_name {α : Type} {values : List α} {name : α → Text} {value : α}
    (found : values.find? (name · = name value) = some value) :
    byName values name (name value) = .ok value := by
  rw [byName, found]

theorem byName_proxyState (state : ProxyState) :
    byName ProxyState.values ProxyState.name (ProxyState.name state) = .ok state := by
  cases state <;> exact byName_name (by decide)

theorem byName_kdf (kdf : Kdf) : byName Kdf.values Kdf.name (Kdf.name kdf) = .ok kdf := by
  cases kdf <;> exact byName_name (by decide)

theorem byName_cipher (cipher : CipherType) :
    byName CipherType.values CipherType.name (CipherType.name cipher) = .ok cipher := by
  cases cipher <;> exact byName_name (by decide)

theorem mapM_ok {α β : Type} {read : α → Except DartError β} {write : β → α} (reread : β → β)
    (each : ∀ value, read (write value) = .ok (reread value)) (values : List β) :
    (values.map write).mapM read = .ok (values.map reread) := by
  induction values with
  | nil => rfl
  | cons value values ih =>
      rw [List.map_cons, List.mapM_cons, each, ih]
      rfl

theorem strings_read (values : List Text) :
    (values.map Json.str).mapM asString = .ok values := by
  have read := mapM_ok id (fun value : Text => (rfl : asString (.str value) = .ok value)) values
  rwa [List.map_id] at read

theorem digit_solid {code : UInt16} (digit : Json.isDigit code = true) :
    Json.isSpace code = false :=
  (Json.number_start (.inr digit)).1

/-- A text without space has none to lose at its ends. -/
theorem dropWhile_both_ends {isSpace : UInt16 → Bool} {source : Text}
    (solid : ∀ code ∈ source, isSpace code = false) :
    ((source.dropWhile isSpace).reverse.dropWhile isSpace).reverse = source := by
  have kept : ∀ text : Text, (∀ code ∈ text, isSpace code = false) →
      text.dropWhile isSpace = text := by
    intro text solid
    cases text with
    | nil => rfl
    | cons code rest => exact List.dropWhile_cons_of_neg (by simp [solid code List.mem_cons_self])
  rw [kept source solid, kept _ fun code there => solid code (List.mem_reverse.mp there),
    List.reverse_reverse]

theorem parseBigInt_decimalInt (value : Int) : parseBigInt (Json.decimalInt value) = .ok value := by
  have solid : ∀ code ∈ Json.decimalInt value, Json.isSpace code = false := by
    intro code there
    rw [Json.decimalInt] at there
    split at there
    · rcases List.mem_cons.mp there with rfl | digit
      · decide
      · exact digit_solid (Json.isDigit_decimal _ _ digit)
    · exact digit_solid (Json.isDigit_decimal _ _ there)
  have sign := Json.takeSign_decimalInt (List.mem_cons_of_mem (unit '+') (List.mem_singleton_self (unit '-')))
    (by decide) value []
  rw [List.append_nil, List.append_nil] at sign
  have digits : Json.decimal value.natAbs ≠ [] ∧ (Json.decimal value.natAbs).all Json.isDigit :=
    ⟨Json.decimal_ne_nil _, List.all_eq_true.mpr (Json.isDigit_decimal _)⟩
  rw [parseBigInt, trim, dropWhile_both_ends solid, sign]
  simp only [if_pos digits, Json.digitsValue_decimal, Json.signed_natAbs]

/-- What is read back of the padding: the rate is read twice. -/
def DataPadding.reread (padding : DataPadding) : DataPadding :=
  { padding with max := padding.rate }

def ProtocolConfig.reread (value : ProtocolConfig) : ProtocolConfig :=
  { value with dataPadding := value.dataPadding.reread }

def ServerConfig.reread (value : ServerConfig) : ServerConfig :=
  { value with protocol := value.protocol.reread }

def ProxyConfig.reread (value : ProxyConfig) : ProxyConfig :=
  { value with servers := value.servers.map ServerConfig.reread }

theorem ok_bind {α β : Type} (value : α) (next : α → Except DartError β) :
    (Except.ok value >>= next) = next value := rfl

theorem protocolConfig_read (value : ProtocolConfig) :
    ∃ members, protocolConfigToJson value = .obj members ∧
      protocolConfigFromJson members = .ok value.reread := by
  refine ⟨_, rfl, ?_⟩
  generalize written : [_, _, _, _, _, _, _, _, _] = members
  have texts : entry members kKey = .str value.key ∧
      entry members kKdf = .str (Kdf.name value.kdf) ∧
      entry members kCipher = .str (CipherType.name value.cipher) ∧
      entry members kEncryptionLimit = .str (Json.decimalInt value.encryptionLimit) := by
    simp +decide [entry, ← written]
  have numbers : entry members kMaxConnectDelay = .int value.maxConnectDelay ∧
      entry members kHPaddingStart = .int value.headerPadding.start ∧
      entry members kHPaddingEnd = .int value.headerPadding.stop ∧
      entry members kDPaddingRate = .int value.dataPadding.rate := by
    simp +decide [entry, ← written]
  obtain ⟨key, kdf, cipher, limit⟩ := texts
  obtain ⟨delay, start, stop, rate⟩ := numbers
  simp only [protocolConfigFromJson, key, kdf, cipher, limit, delay, start, stop, rate, asString, asInt,
    ok_bind, byName_kdf, byName_cipher, parseBigInt_decimalInt]
  rfl

theorem lookup_append (key : Text) (front back : List (Text × Json)) :
    Json.lookup key (front ++ back) = (Json.lookup key back).or (Json.lookup key front) := by
  rw [Json.lookup, Json.lookup, Json.lookup, List.reverse_append, List.find?_append, Option.map_or]

theorem lookup_optionalEntry {α : Type} (wanted key : Text) (toJson : α → Json) (value : Option α) :
    Json.lookup wanted (optionalEntry key toJson value) =
      if key = wanted then value.map toJson else none := by
  cases value with
  | none => simp [optionalEntry]
  | some value => by_cases same : key = wanted <;> simp [optionalEntry, same]

/-- A value that may be missing is written as no entry, and no entry is null. -/
theorem asNullable_optional {α : Type} {cast : Json → Except DartError α} {toJson : α → Json}
    (value : Option α) (casts : ∀ value, cast (toJson value) = .ok value)
    (notNull : ∀ value, toJson value ≠ .null) :
    asNullable cast ((value.map toJson).getD .null) = .ok value := by
  cases value with
  | none => rfl
  | some value =>
      have cast := casts value
      have notNull := notNull value
      rw [Option.map_some, Option.getD_some]
      cases written : toJson value with
      | null => exact absurd written notNull
      | _ =>
          rw [written] at cast
          simp only [asNullable, cast]
          rfl

theorem strings_asList (values : List Text) :
    asNullableStrings (stringsToJson values) = .ok (some values) := by
  change some <$> (values.map Json.str).mapM asString = _
  rw [strings_read]
  rfl

theorem nullableStrings_read (values : Option (List Text)) :
    asNullableStrings ((values.map stringsToJson).getD .null) = .ok values := by
  cases values with
  | none => rfl
  | some values => exact strings_asList values

theorem serverConfig_read (value : ServerConfig) :
    ∃ members, serverConfigToJson value = .obj members ∧
      serverConfigFromJson members = .ok value.reread := by
  obtain ⟨protocol, isObject, read⟩ := protocolConfig_read value.protocol
  refine ⟨_, rfl, ?_⟩
  rw [isObject]
  generalize written : _ ++ (_ :: _) = members
  have optional : entry members kCaption = (value.caption.map .str).getD .null ∧
      entry members kWeight = (value.weight.map .int).getD .null ∧
      entry members kDomains = (value.domains.map stringsToJson).getD .null ∧
      entry members kApps = (value.apps.map stringsToJson).getD .null := by
    simp +decide [entry, ← written, lookup_append, lookup_optionalEntry]
  have present : entry members kHost = .str value.host ∧
      entry members kEnabled = .bool value.enabled ∧ entry members kProtocol = .obj protocol := by
    simp +decide [entry, ← written, lookup_append, lookup_optionalEntry]
  obtain ⟨caption, weight, domains, apps⟩ := optional
  obtain ⟨host, enabled, inner⟩ := present
  have readCaption : asNullable asString (entry members kCaption) = .ok value.caption := by
    rw [caption]
    exact asNullable_optional _ (fun _ => rfl) (by simp)
  have readWeight : asNullable asInt (entry members kWeight) = .ok value.weight := by
    rw [weight]
    exact asNullable_optional _ (fun _ => rfl) (by simp)
  rw [serverConfigFromJson, readCaption, readWeight, host, enabled, inner, domains, apps,
    nullableStrings_read, nullableStrings_read]
  simp only [asString, asBool, asMap, ok_bind, read]
  rfl

theorem servers_read (servers : List ServerConfig) :
    asNullableServers (.arr (servers.map serverConfigToJson)) =
      .ok (some (servers.map ServerConfig.reread)) := by
  change some <$> (servers.map serverConfigToJson).mapM
    (fun server => do serverConfigFromJson (← asMap server)) = _
  rw [mapM_ok ServerConfig.reread (fun server => ?_) servers]
  · rfl
  · obtain ⟨members, isObject, read⟩ := serverConfig_read server
    rw [isObject]
    exact read

/-- Everything is read back, up to the padding of each server. -/
theorem proxyConfig_read (cfg : ProxyConfig) :
    proxyConfigFromString (jsonEncode (proxyCofigToJson cfg)) = .ok cfg.reread := by
  have decoded : jsonDecode (jsonEncode (proxyCofigToJson cfg)) = .ok (proxyCofigToJson cfg) := by
    rw [jsonDecode, jsonEncode, Json.decode_encode (exact_proxyConfig cfg)]
  rw [proxyConfigFromString, decoded, ok_bind, proxyCofigToJson]
  generalize written : [_, _, _, _, _] = members
  have fields : index (.obj members) kState = .ok (.str (ProxyState.name cfg.state)) ∧
      index (.obj members) kPort = .ok (.int cfg.port) ∧
      index (.obj members) kDomains = .ok (stringsToJson cfg.domains) ∧
      index (.obj members) kApps = .ok (stringsToJson cfg.apps) ∧
      index (.obj members) kServers = .ok (.arr (cfg.servers.map serverConfigToJson)) := by
    simp +decide [index, entry, ← written]
  obtain ⟨state, port, domains, apps, serverList⟩ := fields
  have domainsRead : asList (stringsToJson cfg.domains) = .ok (cfg.domains.map .str) := rfl
  rw [state, ok_bind, asString, ok_bind, byName_proxyState, ok_bind, port, ok_bind, asInt, ok_bind,
    domains, ok_bind, domainsRead, ok_bind, strings_read, ok_bind, apps, ok_bind, strings_asList,
    ok_bind, serverList, ok_bind, servers_read]
  rfl

/-- The configuration is read back as it was saved just when no server has a
padding whose rate is not its size. -/
theorem proxyConfig_round_trip_iff (cfg : ProxyConfig) :
    proxyConfigFromString (jsonEncode (proxyCofigToJson cfg)) = .ok cfg ↔
      ∀ server ∈ cfg.servers,
        server.protocol.dataPadding.max = server.protocol.dataPadding.rate := by
  have same : ∀ server : ServerConfig, server.reread = server ↔
      server.protocol.dataPadding.max = server.protocol.dataPadding.rate := by
    rintro ⟨caption, host, weight, domains, apps, enabled,
      ⟨key, kdf, cipher, delay, headerPadding, ⟨max, rate⟩, limit⟩⟩
    simp [ServerConfig.reread, ProtocolConfig.reread, DataPadding.reread, eq_comm]
  have list : ∀ servers : List ServerConfig, servers.map ServerConfig.reread = servers ↔
      ∀ server ∈ servers, server.reread = server := by
    intro servers
    induction servers with
    | nil => simp
    | cons server servers ih => simp [ih]
  rw [proxyConfig_read, Except.ok.injEq]
  obtain ⟨state, port, domains, apps, servers⟩ := cfg
  simp only [ProxyConfig.reread, ProxyConfig.mk.injEq, true_and, list, same]

/-- A server with at most 50 bytes of padding, at a rate of ten. -/
def paddedServer : ServerConfig where
  caption := none
  host := ascii "host"
  weight := none
  domains := none
  apps := none
  enabled := true
  protocol :=
    { key := ascii "key"
      kdf := .argon2
      cipher := .chaCha20Poly1305
      maxConnectDelay := 10000
      headerPadding := { start := 50, stop := 777 }
      dataPadding := { max := 50, rate := 10 }
      encryptionLimit := 4096 }

theorem proxyConfig_padding_lost :
    proxyConfigFromString (jsonEncode (proxyCofigToJson
        { state := .off, port := 25445, domains := [], apps := [], servers := [paddedServer] })) ≠
      .ok { state := .off, port := 25445, domains := [], apps := [], servers := [paddedServer] } := by
  rw [proxyConfig_read]
  decide

end CovertConnect.Flutter
