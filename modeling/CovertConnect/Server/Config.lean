import CovertConnect.Client.Connect
import CovertConnect.Crypto.Deserialize

namespace CovertConnect.Server

open CovertConnect.Crypto
open CovertConnect.Client (IpAddr SocketAddr readIpv4Addr readIpv6Addr)

/-! # The server's configuration -/

/-- `IpAddr::from_str`. -/
def ipFromStr (text : String) : Option IpAddr :=
  match ((readIpv4Addr text.toList).map fun (octets, text) => (IpAddr.v4 octets, text)).or
    ((readIpv6Addr text.toList).map fun (segments, text) => (IpAddr.v6 segments, text)) with
  | some (ip, []) => some ip
  | _ => none

def IpAddr.isIpv4 : IpAddr → Bool
  | .v4 _ => true
  | .v6 _ => false

def IpAddr.isUnspecified : IpAddr → Bool
  | .v4 octets => octets == Vector.replicate 4 0
  | .v6 segments => segments == Vector.replicate 8 0

structure AppConfig where
  address : SocketAddr
  outAddress : Option IpAddr
  protocol : ProtocolConfig
  /-- The waiting time in milliseconds before a refused connection is closed. -/
  unauthCooldown : PaddingRange
deriving DecidableEq, Repr

def defaultCooldown : PaddingRange := ⟨50, 777⟩

structure AppDocument where
  address : Option String
  outAddress : Option String
  protocol : ProtocolDocument
  unauthCooldown : Option String
deriving DecidableEq, Repr

/-- What `AppConfig::build` fails with.  The texts of the last three show the
two addresses. -/
inductive ConfigError where
  | deserialize (message : String)
  | unspecifiedAddress (ip outAddr : IpAddr)
  | addressVersion (ip outAddr : IpAddr)
  | sameAddress (ip outAddr : IpAddr)
deriving DecidableEq, Repr

namespace AppConfig

def parsed {α : Type} (expected : String) : Option α → Except String α
  | some value => .ok value
  | none => .error ("invalid " ++ expected ++ " syntax")

def deserialize (document : AppDocument) : Except String AppConfig := do
  let address ← parsed "socket address"
    (SocketAddr.fromStr (← required "address" document.address))
  let outAddress ← optional none (fun text => (parsed "IP address" (ipFromStr text)).map some)
    document.outAddress
  let protocol ← ProtocolConfig.deserialize document.protocol
  let unauthCooldown ← optional defaultCooldown rangeFromHumanReadable document.unauthCooldown
  return { address, outAddress, protocol, unauthCooldown }

def check (config : AppConfig) : Except ConfigError AppConfig :=
  match config.outAddress with
  | none => .ok config
  | some outAddr =>
      if IpAddr.isUnspecified config.address.ip then
        .error (.unspecifiedAddress config.address.ip outAddr)
      else if IpAddr.isIpv4 config.address.ip ≠ IpAddr.isIpv4 outAddr then
        .error (.addressVersion config.address.ip outAddr)
      else if config.address.ip = outAddr then
        .error (.sameAddress config.address.ip outAddr)
      else .ok config

def build (document : AppDocument) : Except ConfigError AppConfig :=
  match deserialize document with
  | .error message => .error (.deserialize message)
  | .ok config => config.check

/-- The ranges can be sampled and the delay can be divided by. -/
structure Valid (config : AppConfig) : Prop where
  delay : config.protocol.maxConnectDelay.toNat ≠ 0
  headerPadding :
    config.protocol.headerPadding.start.toNat < config.protocol.headerPadding.stop.toNat
  unauthCooldown : config.unauthCooldown.start.toNat < config.unauthCooldown.stop.toNat

end AppConfig

end CovertConnect.Server
