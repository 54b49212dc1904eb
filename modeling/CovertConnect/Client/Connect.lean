import CovertConnect.Client.SelectServer
import CovertConnect.Crypto.Deserialize
import Mathlib.Data.List.Sort

namespace CovertConnect.Client

open CovertConnect.Data CovertConnect.Crypto

/-! # Where a server is reached

The host of a configuration is a socket address or a name; a name without a
port, or with port 443, is reached through HTTPS. -/

def toDigit (radix : Nat) (char : Char) : Option Nat :=
  let digit :=
    if '0' ≤ char ∧ char ≤ '9' then some (char.toNat - '0'.toNat)
    else if 'a' ≤ char ∧ char ≤ 'z' then some (char.toNat - 'a'.toNat + 10)
    else if 'A' ≤ char ∧ char ≤ 'Z' then some (char.toNat - 'A'.toNat + 10)
    else none
  digit.filter (· < radix)

def readGivenChar (wanted : Char) : List Char → Option (List Char)
  | char :: text => if char = wanted then some text else none
  | [] => none

/-- A number up to `bound`; `maxDigits` is the longest one that is accepted. -/
def readNumber (radix : Nat) (maxDigits : Option Nat) (allowZeroPrefix : Bool) (bound : Nat)
    (text : List Char) : Option (Nat × List Char) :=
  let digits := text.takeWhile (toDigit radix · |>.isSome)
  let value := digits.foldl (fun value char => value * radix + (toDigit radix char).getD 0) 0
  if digits = [] then none
  else if maxDigits.any (· < digits.length) then none
  else if !allowZeroPrefix && digits.head? = some '0' && 1 < digits.length then none
  else if bound < value then none
  else some (value, text.drop digits.length)

/-- The separator stands before every item but the first. -/
def readSeparator {α : Type} (separator : Char) (first : Bool)
    (inner : List Char → Option (α × List Char)) (text : List Char) : Option (α × List Char) :=
  if first then inner text else (readGivenChar separator text).bind inner

def readOctet : List Char → Option (UInt8 × List Char) := fun text =>
  (readNumber 10 (some 3) false 0xFF text).map fun (octet, text) => (UInt8.ofNat octet, text)

def readIpv4Addr (text : List Char) : Option (Vector UInt8 4 × List Char) := do
  let (a, text) ← readSeparator '.' true readOctet text
  let (b, text) ← readSeparator '.' false readOctet text
  let (c, text) ← readSeparator '.' false readOctet text
  let (d, text) ← readSeparator '.' false readOctet text
  return (#v[a, b, c, d], text)

def segment (high low : UInt8) : UInt16 :=
  UInt16.ofNat (high.toNat * 256 + low.toNat)

/-- Up to `limit` groups, the last two of which may be written as an IPv4
address. -/
def readGroups : (limit : Nat) → (first : Bool) → List Char → List UInt16 × Bool × List Char
  | 0, _, text => ([], false, text)
  | limit + 1, first, text =>
      match (if 0 < limit then readSeparator ':' first readIpv4Addr text else none) with
      | some (octets, text) =>
          ([segment octets[0] octets[1], segment octets[2] octets[3]], true, text)
      | none =>
          match readSeparator ':' first (readNumber 16 (some 4) true 0xFFFF) text with
          | some (group, text) =>
              let (groups, embedded, text) := readGroups limit false text
              (UInt16.ofNat group :: groups, embedded, text)
          | none => ([], false, text)

def groupsAddr (groups : List UInt16) : Vector UInt16 8 :=
  Vector.ofFn fun idx => groups.getD idx 0

def readIpv6Addr (text : List Char) : Option (Vector UInt16 8 × List Char) :=
  let (front, embedded, text) := readGroups 8 true text
  if front.length = 8 then some (groupsAddr front, text)
  else if embedded then none
  else do
    let text ← readGivenChar ':' text
    let text ← readGivenChar ':' text
    let (back, _, text) := readGroups (7 - front.length) true text
    let zeros := List.replicate (8 - front.length - back.length) 0
    return (groupsAddr (front ++ zeros ++ back), text)

def readPort (text : List Char) : Option (UInt16 × List Char) := do
  let text ← readGivenChar ':' text
  let (port, text) ← readNumber 10 none true 0xFFFF text
  return (UInt16.ofNat port, text)

/-- A scope is read and has no place in the address. -/
def skipScopeId (text : List Char) : List Char :=
  match readGivenChar '%' text with
  | some scope => ((readNumber 10 none true 0xFFFFFFFF scope).map Prod.snd).getD text
  | none => text

def readSocketAddrV4 (text : List Char) : Option (SocketAddr × List Char) := do
  let (octets, text) ← readIpv4Addr text
  let (port, text) ← readPort text
  return ({ ip := .v4 octets, port }, text)

def readSocketAddrV6 (text : List Char) : Option (SocketAddr × List Char) := do
  let text ← readGivenChar '[' text
  let (segments, text) ← readIpv6Addr text
  let text ← readGivenChar ']' (skipScopeId text)
  let (port, text) ← readPort text
  return ({ ip := .v6 segments, port }, text)

namespace SocketAddr

def fromStr (text : String) : Option SocketAddr :=
  match (readSocketAddrV4 text.toList).or (readSocketAddrV6 text.toList) with
  | some (address, []) => some address
  | _ => none

example : fromStr "127.0.0.1:443" = some { ip := .v4 #v[127, 0, 0, 1], port := 443 } := by
  decide +kernel

example : fromStr "[1::ffff:1.2.3.4]:80" =
    some { ip := .v6 #v[1, 0, 0, 0, 0, 0xffff, 0x0102, 0x0304], port := 80 } := by
  decide +kernel

end SocketAddr

def httpsPort : String := ":443"

structure ServerConnectConfig where
  host : String
  address : SocketAddr
  urlPath : Option String
deriving DecidableEq, Repr

variable [Hashes]

/-- `lookup` is what the resolver answers to the name asked for. -/
def ServerConnectConfig.new (host key : String)
    (lookup : String → Except IoError (List SocketAddr)) : Except Error ServerConnectConfig :=
  match SocketAddr.fromStr host with
  | some address => .ok { host, address, urlPath := none }
  | none =>
      let stripped := String.ofList (stripPort host.toList)
      let (serverHost, host, addPath) :=
        if ':' ∈ host.toList then
          if stripped ++ httpsPort = host then (host, stripped, true) else (host, host, false)
        else (host ++ httpsPort, host, true)
      match lookup serverHost with
      | .error error => .error (.io error)
      | .ok [] =>
          .error (.anyhow ("ip:port or host:port required, found : " ++ serverHost))
      | .ok (address :: _) =>
          if addPath then
            match Kdf.deriveUrlPath key with
            | .error message => .error (.anyhow message)
            | .ok urlPath => .ok { host, address, urlPath := some urlPath }
          else .ok { host, address, urlPath := none }

structure ServerDocument where
  caption : Option String
  host : Option String
  weight : Option Int
  domains : Option (List String)
  apps : Option (List String)
  enabled : Option Bool
  protocol : Option ProtocolDocument
deriving DecidableEq, Repr

/-- The address and the path are found later, in `init`. -/
def ServerConfig.deserialize (document : ServerDocument) : Except String ServerConfig := do
  let host ← required "host" document.host
  let weight ← optional none (fun weight => (u8Value weight).map some) document.weight
  let protocol ← ProtocolConfig.deserialize (← required "protocol" document.protocol)
  return {
    caption := document.caption
    host, weight
    domains := document.domains
    apps := document.apps
    enabled := document.enabled.getD true
    protocol
    address := defaultServerAddress
    urlPath := none }

def sortItems : Option (List String) → Option (List String) :=
  Option.map (List.insertionSort (· ≤ ·))

def ServerConfig.init (lookup : String → Except IoError (List SocketAddr))
    (config : ServerConfig) : Except Error ServerConfig := do
  let connCfg ← ServerConnectConfig.new config.host config.protocol.key lookup
  if config.protocol.encryptionLimit = 0 ∧ connCfg.urlPath = none then
    throw (.anyhow ("Zero encryption_limit is not allowed without https tunnel. " ++
      "Remove encyption_limit or use https to connect to the server."))
  return { config with
    address := connCfg.address
    host := connCfg.host
    urlPath := connCfg.urlPath
    domains := sortItems config.domains
    apps := sortItems config.apps }

/-- What a lookup that succeeds has found out. -/
theorem ServerConfig.init_inv {lookup : String → Except IoError (List SocketAddr)}
    {config initialized : ServerConfig} (found : config.init lookup = .ok initialized) :
    ∃ connCfg, ServerConnectConfig.new config.host config.protocol.key lookup = .ok connCfg ∧
      initialized = { config with
        address := connCfg.address
        host := connCfg.host
        urlPath := connCfg.urlPath
        domains := sortItems config.domains
        apps := sortItems config.apps } := by
  rw [init] at found
  cases connects : ServerConnectConfig.new config.host config.protocol.key lookup with
  | error error =>
      rw [connects] at found
      cases found
  | ok connCfg =>
      rw [connects] at found
      by_cases refused : config.protocol.encryptionLimit = 0 ∧ connCfg.urlPath = none
      · simp [bind, Except.bind, refused, throw, throwThe, MonadExceptOf.throw] at found
      · simp only [bind, Except.bind, if_neg refused] at found
        cases found
        exact ⟨connCfg, rfl, rfl⟩

end CovertConnect.Client
