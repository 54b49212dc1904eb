import CovertConnect.Crypto.Config
import CovertConnect.Data.AsyncIo

namespace CovertConnect.Client

open CovertConnect.Data CovertConnect.Crypto

/-! # The servers of the client -/

inductive IpAddr where
  | v4 (octets : Vector UInt8 4)
  | v6 (segments : Vector UInt16 8)
deriving DecidableEq, Repr

structure SocketAddr where
  ip : IpAddr
  port : UInt16
deriving DecidableEq, Repr

structure ServerConfig where
  caption : Option String
  host : String
  weight : Option UInt8
  domains : Option (List String)
  apps : Option (List String)
  enabled : Bool
  protocol : ProtocolConfig
  address : SocketAddr
  urlPath : Option String
deriving DecidableEq, Repr

structure ServerState where
  rxTotal : UInt64
  txTotal : UInt64
  errCount : UInt64
  succesCount : UInt64
deriving DecidableEq, Repr

structure Server where
  config : ServerConfig
  state : ServerState
deriving DecidableEq, Repr

structure SelectedServer where
  host : String
  address : SocketAddr
  protocol : ProtocolConfig
  urlPath : Option String
  state : ServerState
deriving DecidableEq, Repr

/-- `impl From<&Server> for SelectedServer`. -/
def SelectedServer.ofServer (srv : Server) : SelectedServer where
  host := srv.config.host
  address := srv.config.address
  protocol := srv.config.protocol
  urlPath := srv.config.urlPath
  state := srv.state

def defaultServerAddress : SocketAddr where
  ip := .v4 #v[0, 0, 0, 0]
  port := 0

/-- A server that nothing is routed to. -/
def idleServer (host : String) (enabled : Bool) : Server where
  config :=
    { caption := none
      host
      weight := none
      domains := none
      apps := none
      enabled
      protocol :=
        { key := "key"
          kdf := .blake3
          cipher := .aes256Gcm
          maxConnectDelay := 10000
          headerPadding := ⟨50, 777⟩
          dataPadding := ⟨0, 0⟩
          encryptionLimit := 0 }
      address := defaultServerAddress
      urlPath := none }
  state := ⟨0, 0, 0, 0⟩

end CovertConnect.Client
