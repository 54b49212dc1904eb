import CovertConnect.Client.ServerEdits

namespace CovertConnect.Flutter

open CovertConnect.Data
open CovertConnect.Client (Server ServerState Proxy SocketAddr ServerConnectConfig
  defaultServerAddress sortItems idleServer)
open CovertConnect.Client.Concurrent (noLookup)
open CovertConnect.Crypto (Kdf CipherType Hashes)

/-! # Saving the form of a server

The page rebuilds the configuration from its fields; the service looks the new
host up and puts the result in the place of the stored configuration. -/

namespace Wrappers

structure HeaderPadding where
  start : UInt16
  stop : UInt16
deriving DecidableEq, Repr

structure ProtocolConfig where
  key : String
  kdf : Kdf
  cipher : CipherType
  maxConnectDelay : UInt16
  headerPadding : HeaderPadding
  dataPadding : Crypto.DataPadding
  encryptionLimit : UInt64
deriving DecidableEq, Repr

structure ServerConfig where
  caption : Option String
  host : String
  weight : Option UInt8
  domains : Option (List String)
  apps : Option (List String)
  enabled : Bool
  protocol : ProtocolConfig
deriving DecidableEq, Repr

structure ServerInfo where
  state : ServerState
  config : ServerConfig
deriving DecidableEq, Repr

def ProtocolConfig.into (self : ProtocolConfig) : Crypto.ProtocolConfig where
  key := self.key
  kdf := self.kdf
  cipher := self.cipher
  maxConnectDelay := self.maxConnectDelay
  headerPadding := ⟨self.headerPadding.start, self.headerPadding.stop⟩
  dataPadding := self.dataPadding
  encryptionLimit := self.encryptionLimit

def ProtocolConfig.ofCrypto (cfg : Crypto.ProtocolConfig) : ProtocolConfig where
  key := cfg.key
  kdf := cfg.kdf
  cipher := cfg.cipher
  maxConnectDelay := cfg.maxConnectDelay
  headerPadding := ⟨cfg.headerPadding.start, cfg.headerPadding.stop⟩
  dataPadding := cfg.dataPadding
  encryptionLimit := cfg.encryptionLimit

def ServerConfig.into (self : ServerConfig) : Client.ServerConfig where
  caption := self.caption
  host := self.host
  weight := self.weight
  domains := self.domains
  apps := self.apps
  enabled := self.enabled
  protocol := self.protocol.into
  urlPath := none
  address := defaultServerAddress

def ServerConfig.ofClient (cfg : Client.ServerConfig) : ServerConfig where
  caption := cfg.caption
  host := cfg.host
  weight := cfg.weight
  domains := cfg.domains
  apps := cfg.apps
  enabled := cfg.enabled
  protocol := .ofCrypto cfg.protocol

/-- A server as `get_state_full` reports it. -/
def ServerInfo.ofServer (server : Server) : ServerInfo where
  state := server.state
  config := .ofClient server.config

/-- Nothing is lost on the way to the user interface and back but what `init`
finds again. -/
theorem ServerConfig.into_ofClient (cfg : Client.ServerConfig) :
    (ofClient cfg).into = cfg.intoClient := rfl

end Wrappers

/-- A call of `ProxyServiceBase`. -/
inductive SaveCall where
  | addServer (config : Wrappers.ServerConfig)
  | updateServer (origHost : String) (newConfig : Wrappers.ServerConfig)
deriving DecidableEq, Repr

structure AddEditServerPageState where
  server : Option Wrappers.ServerInfo
  protocol : Option Wrappers.ProtocolConfig
  host : String
  name : String

/-- The configuration that the form stands for. -/
def AddEditServerPageState.newConfig (this : AddEditServerPageState)
    (protocol : Wrappers.ProtocolConfig) : Wrappers.ServerConfig where
  host := this.host
  caption := some this.name
  weight := none
  domains := this.server.bind (·.config.domains)
  apps := none
  enabled := (this.server.map (·.config.enabled)).getD true
  protocol := protocol

def AddEditServerPageState.save (this : AddEditServerPageState) : Option SaveCall :=
  this.protocol.map fun protocol =>
    match this.server with
    | some server => .updateServer server.config.host (this.newConfig protocol)
    | none => .addServer (this.newConfig protocol)

section Service

variable [Hashes]

def SaveCall.run (lookup : String → Except IoError (List SocketAddr)) :
    SaveCall → Exec Proxy Error Unit
  | .addServer config => Proxy.addServer (config.into.initOrKeep lookup)
  | .updateServer origHost newConfig =>
      Proxy.updateServer origHost (newConfig.into.initOrKeep lookup)

/-- The proxy after the button was pressed; `lookup` is what the resolver
answers to the service. -/
def AddEditServerPageState.saved (lookup : String → Except IoError (List SocketAddr))
    (this : AddEditServerPageState) (proxy : Proxy) : Proxy :=
  match this.save with
  | some call => (call.run lookup proxy).2
  | none => proxy

/-- What the form does not show is the same. -/
structure Kept (before after : Server) : Prop where
  weight : after.config.weight = before.config.weight
  domains : after.config.domains = before.config.domains
  apps : after.config.apps = before.config.apps
  enabled : after.config.enabled = before.config.enabled
  state : after.state = before.state

/-- `init` of a configuration succeeds. -/
def initializes (lookup : String → Except IoError (List SocketAddr))
    (config : Client.ServerConfig) : Bool :=
  match ServerConnectConfig.new config.host config.protocol.key lookup with
  | .ok connCfg => !(config.protocol.encryptionLimit = 0 && connCfg.urlPath = none)
  | .error _ => false

/-- The form names neither weight nor applications, and its copies of the rest
are what is stored; `init` sorts the domains. -/
structure AddEditServerPageState.Carries (lookup : String → Except IoError (List SocketAddr))
    (this : AddEditServerPageState) (protocol : Wrappers.ProtocolConfig)
    (server : Server) : Prop where
  weight : server.config.weight = none
  apps : server.config.apps = none
  enabled : server.config.enabled = (this.newConfig protocol).enabled
  domains : server.config.domains =
    if initializes lookup (this.newConfig protocol).into then
      sortItems (this.newConfig protocol).domains
    else (this.newConfig protocol).domains

theorem init_ok_iff {lookup : String → Except IoError (List SocketAddr)}
    {config : Client.ServerConfig} :
    (∃ initialized, config.init lookup = .ok initialized) ↔
      initializes lookup config = true := by
  rw [Client.ServerConfig.init, initializes]
  cases ServerConnectConfig.new config.host config.protocol.key lookup with
  | error error => simp [bind, Except.bind]
  | ok connCfg =>
      by_cases refused : config.protocol.encryptionLimit = 0 ∧ connCfg.urlPath = none
      · simp [bind, Except.bind, refused, throw, throwThe, MonadExceptOf.throw]
      · simp [bind, Except.bind, refused, pure, Except.pure, ← not_and_or]

/-- What `init` makes of the fields that the form does not show. -/
theorem initOrKeep_fields (lookup : String → Except IoError (List SocketAddr))
    (config : Client.ServerConfig) :
    (config.initOrKeep lookup).weight = config.weight ∧
      (config.initOrKeep lookup).enabled = config.enabled ∧
      (config.initOrKeep lookup).apps =
        (if initializes lookup config then sortItems config.apps else config.apps) ∧
      (config.initOrKeep lookup).domains =
        if initializes lookup config then sortItems config.domains else config.domains := by
  cases found : config.init lookup with
  | error error =>
      have failed : ¬initializes lookup config = true := by
        rw [← init_ok_iff, found]
        simp
      simp only [Client.ServerConfig.initOrKeep_error found, if_neg failed, and_self]
  | ok initialized =>
      have succeeded : initializes lookup config = true := init_ok_iff.mp ⟨initialized, found⟩
      obtain ⟨connCfg, _, rfl⟩ := Client.ServerConfig.init_inv found
      simp only [Client.ServerConfig.initOrKeep_ok found, if_pos succeeded, and_self]

namespace AddEditServerPageState

variable {this : AddEditServerPageState} {shown : Wrappers.ServerInfo} {proxy : Proxy} {pos : Nat}
  {server : Server}

/-- The stored configuration is replaced, and nothing else. -/
theorem saved_servers (lookup : String → Except IoError (List SocketAddr))
    (editing : this.server = some shown) :
    (this.saved lookup proxy).servers =
      match this.protocol, proxy.position shown.config.host with
      | some protocol, some pos =>
          proxy.servers.modify pos fun srv =>
            { srv with config := (this.newConfig protocol).into.initOrKeep lookup }
      | _, _ => proxy.servers := by
  rw [saved, save, editing]
  cases this.protocol with
  | none => rfl
  | some protocol =>
      simp only [Option.map_some, SaveCall.run, Proxy.updateServer, Proxy.changeServer]
      cases proxy.position shown.config.host with
      | none => rfl
      | some pos => rfl

/-- The configuration that is stored agrees with the former one in what the form
does not show. -/
theorem kept_iff (lookup : String → Except IoError (List SocketAddr))
    (protocol : Wrappers.ProtocolConfig) :
    Kept server { server with config := (this.newConfig protocol).into.initOrKeep lookup } ↔
      this.Carries lookup protocol server := by
  obtain ⟨weight, enabled, apps, domains⟩ :=
    initOrKeep_fields lookup (this.newConfig protocol).into
  have noApps : ((this.newConfig protocol).into.initOrKeep lookup).apps = none := by
    rw [apps]
    split <;> rfl
  refine ⟨fun kept => ?_, fun carries => ?_⟩
  · exact {
      weight := kept.weight.symm.trans weight
      apps := kept.apps.symm.trans noApps
      enabled := kept.enabled.symm.trans enabled
      domains := kept.domains.symm.trans domains }
  · exact {
      weight := weight.trans carries.weight.symm
      apps := noApps.trans carries.apps.symm
      enabled := enabled.trans carries.enabled.symm
      domains := domains.trans carries.domains.symm
      state := rfl }

/-- A page that was opened on what is stored, whose domains are in order. -/
theorem carries_fresh_iff {lookup : String → Except IoError (List SocketAddr)}
    {protocol : Wrappers.ProtocolConfig} (editing : this.server = some (.ofServer server))
    (sorted : sortItems server.config.domains = server.config.domains) :
    this.Carries lookup protocol server ↔
      server.config.weight = none ∧ server.config.apps = none := by
  refine ⟨fun carries => ⟨carries.weight, carries.apps⟩, fun unset => ?_⟩
  have enabled : (this.newConfig protocol).enabled = server.config.enabled := by
    rw [newConfig, editing]
    rfl
  have domains : (this.newConfig protocol).domains = server.config.domains := by
    rw [newConfig, editing]
    rfl
  refine {
    weight := unset.1
    apps := unset.2
    enabled := enabled.symm
    domains := ?_ }
  rw [domains, sorted, ite_self]

/-- Saving keeps what the form does not show exactly when nothing is replaced or
the form carries all of it. -/
theorem saved_keeps_iff (lookup : String → Except IoError (List SocketAddr))
    (editing : this.server = some shown) (stored : proxy.servers[pos]? = some server) :
    (∃ after, (this.saved lookup proxy).servers[pos]? = some after ∧ Kept server after) ↔
      ∀ protocol, this.protocol = some protocol →
        proxy.position shown.config.host = some pos → this.Carries lookup protocol server := by
  rw [saved_servers lookup editing]
  have unchanged : ∃ after, proxy.servers[pos]? = some after ∧ Kept server after :=
    ⟨server, stored, ⟨rfl, rfl, rfl, rfl, rfl⟩⟩
  cases loaded : this.protocol with
  | none => exact iff_of_true unchanged (by simp)
  | some protocol =>
      cases found : proxy.position shown.config.host with
      | none => exact iff_of_true unchanged (by simp)
      | some replaced =>
          by_cases here : replaced = pos
          · subst here
            simp [stored, kept_iff]
          · have there : (proxy.servers.modify replaced fun srv =>
                { srv with config := (this.newConfig protocol).into.initOrKeep lookup })[pos]? =
                  some server := by
              rw [List.getElem?_modify_ne _ _ here, stored]
            refine iff_of_true ⟨server, there, ⟨rfl, rfl, rfl, rfl, rfl⟩⟩ ?_
            intro _ _ same
            exact absurd (Option.some.inj same) here

/-- The page of a server whose host was changed. -/
def renamed (server : Server) (host : String) : AddEditServerPageState where
  server := some (.ofServer server)
  protocol := some (.ofCrypto server.config.protocol)
  host := host
  name := ""

def storing (server : Server) : Proxy :=
  (Proxy.addServer server.config (Proxy.new 25444 .off)).2

/-- A server that was switched off, with domains and traffic. -/
def busyServer : Server :=
  { idleServer "first" false with
    config.domains := some ["a.org", "b.org"]
    state := ⟨3000, 200, 1, 7⟩ }

omit [Hashes] in
theorem sorted_busyServer : sortItems busyServer.config.domains = busyServer.config.domains := by
  decide +kernel

omit [Hashes] in
theorem saved_keeps_iff_renamed :
    let _ := Hashes.folding
    ∃ after, ((renamed busyServer "second").saved noLookup
        { Proxy.new 25444 .off with servers := [busyServer] }).servers[0]? = some after ∧
      Kept busyServer after := by
  intro _
  refine (saved_keeps_iff noLookup rfl rfl).mpr fun protocol loaded found => ?_
  exact (carries_fresh_iff rfl sorted_busyServer).mpr ⟨rfl, rfl⟩

def weightedServer : Server :=
  { idleServer "first" true with config.weight := some 3 }

omit [Hashes] in
/-- The new configuration has no weight. -/
theorem weight_lost :
    let _ := Hashes.folding
    ¬ ∃ after, ((renamed weightedServer "second").saved noLookup
        (storing weightedServer)).servers[0]? = some after ∧ Kept weightedServer after := by
  intro _ given
  obtain ⟨after, found, kept⟩ := given
  rw [saved_servers noLookup rfl] at found
  cases found
  exact absurd ((kept_iff noLookup _).mp kept).weight (by decide)

end AddEditServerPageState

end Service

end CovertConnect.Flutter
