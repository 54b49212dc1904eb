import CovertConnect.Client.Config
import CovertConnect.Client.PacFileService
import Mathlib.Data.List.Sort

namespace CovertConnect.Client

open CovertConnect.Data

/-! # The proxy and its operations

Every operation is taken as a whole: the source takes its locks one after the
other, and the operations considered here do not overlap. -/

inductive ProxyState where
  | pac
  | all
  | off
deriving DecidableEq, Repr

/-- The restart channel: no sender, a sender whose `serve` loop waits, a
message that the loop has not taken yet, or a sender whose loop has ended. -/
inductive Restart where
  | absent
  | waiting
  | sent
  | gone
deriving DecidableEq, Repr

structure Proxy where
  servers : List Server
  apps : List String
  pacService : PacFileService
  proxyState : ProxyState
  initialized : Bool
  restart : Restart
deriving DecidableEq, Repr

/-- The proxy settings of the system: how each call answers, and what it
leaves. -/
class SystemProxy (S : Type) where
  setPac : S → (url : String) → Except Error Unit × S
  setProxy : S → (address : String) → Except Error Unit × S
  restore : S → Except Error Unit × S
  randomKey : S → Nat × S

/-- A system that takes every setting, or none. -/
instance : SystemProxy Bool where
  setPac willing _ := (if willing then .ok () else .error (.anyhow "refused"), willing)
  setProxy willing _ := (if willing then .ok () else .error (.anyhow "refused"), willing)
  restore willing := (if willing then .ok () else .error (.anyhow "refused"), willing)
  randomKey willing := (0, willing)

structure Session (S : Type) where
  proxy : Proxy
  system : S

/-- A domain or an app is kept in a list of its own when it is not to be proxied,
and in the list of a server when that server is to be used for it. -/
inductive ItemKind where
  | domain
  | app
deriving DecidableEq, Repr

namespace ItemKind

def notFound : ItemKind → String
  | .domain => "domain not found"
  | .app => "app not found"

def direct : ItemKind → Proxy → List String
  | .domain, proxy => proxy.pacService.domains
  | .app, proxy => proxy.apps

def withDirect : ItemKind → List String → Proxy → Proxy
  | .domain, domains, proxy =>
      { proxy with pacService := { proxy.pacService with domains } }
  | .app, apps, proxy => { proxy with apps }

def assigned : ItemKind → ServerConfig → Option (List String)
  | .domain, config => config.domains
  | .app, config => config.apps

def withAssigned : ItemKind → Option (List String) → ServerConfig → ServerConfig
  | .domain, domains, config => { config with domains }
  | .app, apps, config => { config with apps }

end ItemKind

def Server.mapItems (kind : ItemKind) (update : Option (List String) → Option (List String))
    (srv : Server) : Server :=
  { srv with config := kind.withAssigned (update (kind.assigned srv.config)) srv.config }

/-- Add to the list of a server, and keep the list sorted. -/
def addItem (item : String) : Option (List String) → Option (List String)
  | some items =>
      if item ∈ items then some items else some ((items ++ [item]).insertionSort (· ≤ ·))
  | none => some [item]

namespace Proxy

def position (proxy : Proxy) (host : String) : Option Nat :=
  proxy.servers.findIdx? (·.config.host = host)

/-- `remove_domain` of the PAC service, and `remove_app_internal`. -/
def removeDirect (kind : ItemKind) (item : String) : Exec Proxy Error Unit := fun proxy =>
  if item ∈ kind.direct proxy then
    (.ok (), kind.withDirect ((kind.direct proxy).erase item) proxy)
  else (.err (.anyhow kind.notFound), proxy)

def removeFromServers (kind : ItemKind) (item : String) : Exec Proxy Error Unit :=
  .modify fun proxy =>
    { proxy with
      servers := proxy.servers.map (Server.mapItems kind (Option.map (List.erase · item))) }

def setItem (kind : ItemKind) (item serverHost : String) : Exec Proxy Error Unit :=
  if serverHost ≠ "" then do
    let _ ← (removeDirect kind item).attempt
    let proxy ← .get
    match proxy.position serverHost with
    | some pos =>
        .modify fun proxy =>
          { proxy with servers := proxy.servers.modify pos (Server.mapItems kind (addItem item)) }
    | none => .fail (.anyhow "host not found")
  else do
    let proxy ← .get
    if item ∉ kind.direct proxy then
      .modify fun proxy => kind.withDirect (kind.direct proxy ++ [item]) proxy
    removeFromServers kind item

def removeItem (kind : ItemKind) (item : String) : Exec Proxy Error Unit := do
  removeDirect kind item
  removeFromServers kind item

def setDomain : (domain serverHost : String) → Exec Proxy Error Unit := setItem .domain

def removeDomain : (domain : String) → Exec Proxy Error Unit := removeItem .domain

def setApp : (app serverHost : String) → Exec Proxy Error Unit := setItem .app

def removeApp : (app : String) → Exec Proxy Error Unit := removeItem .app

def addServer (config : ServerConfig) : Exec Proxy Error Unit :=
  .modify fun proxy =>
    { proxy with servers := proxy.servers ++ [{ config, state := ⟨0, 0, 0, 0⟩ }] }

/-- Change the configuration of the first server of that host. -/
def changeServer (host : String) (change : ServerConfig → ServerConfig) :
    Exec Proxy Error Unit := fun proxy =>
  match proxy.position host with
  | some idx =>
      (.ok (), { proxy with
        servers := proxy.servers.modify idx fun srv => { srv with config := change srv.config } })
  | none => (.err (.anyhow "server not found"), proxy)

def setEnabled (host : String) (value : Bool) : Exec Proxy Error Unit :=
  changeServer host fun config => { config with enabled := value }

def updateServer (origHost : String) (config : ServerConfig) : Exec Proxy Error Unit :=
  changeServer origHost fun _ => config

end Proxy

namespace Session

variable {S : Type}

def onProxy (call : Exec Proxy Error Unit) : Exec (Session S) Error Unit :=
  .focus Session.proxy (fun proxy session => { session with proxy }) call

def updatePacContent : Exec (Session S) Error Unit :=
  onProxy (.modify fun proxy => { proxy with pacService := proxy.pacService.updateContent })

variable [SystemProxy S]

def callSystem (call : S → Except Error Unit × S) : Exec (Session S) Error Unit := fun session =>
  match call session.system with
  | (.ok (), system) => (.ok (), { session with system })
  | (.error error, system) => (.err error, { session with system })

def hexUpper (value : Nat) : String :=
  String.ofList ((Nat.toDigits 16 value).map Char.toUpper)

def setProxyPac : Exec (Session S) Error Unit := fun session =>
  let (key, system) := SystemProxy.randomKey session.system
  callSystem
    (SystemProxy.setPac ·
      ("http://" ++ proxyAddressText session.proxy.pacService.proxyPort ++ "/pac/" ++ hexUpper key))
    { session with system }

def setProxyAll : Exec (Session S) Error Unit := fun session =>
  callSystem
    (SystemProxy.setProxy · ("http://" ++ proxyAddressText session.proxy.pacService.proxyPort))
    session

def restoreProxy : Exec (Session S) Error Unit :=
  callSystem SystemProxy.restore

def resetProxy : Exec (Session S) Error Unit := do
  let session ← .get
  if session.proxy.proxyState = .pac then do
    updatePacContent
    setProxyPac

def setProxyStateInt : ProxyState → Exec (Session S) Error Unit
  | .all => setProxyAll
  | .pac => setProxyPac
  | .off => restoreProxy

def setProxyState (proxyState : ProxyState) : Exec (Session S) Error Unit := do
  onProxy (.modify fun proxy => { proxy with proxyState })
  setProxyStateInt proxyState

/-- Take the sender out of the channel and send. -/
def sendRestart : Exec (Session S) Error Unit := fun session =>
  match session.proxy.restart with
  | .absent | .sent => (.err (.anyhow "restart channel not initialized"), session)
  | .waiting => (.ok (), { session with proxy := { session.proxy with restart := .sent } })
  | .gone =>
      (.panic "called `Result::unwrap()` on an `Err` value: ()",
        { session with proxy := { session.proxy with restart := .absent } })

def setProxyPort (port : UInt16) : Exec (Session S) Error Unit := do
  onProxy (.modify fun proxy => { proxy with pacService := proxy.pacService.setNewPort port })
  sendRestart
  resetProxy

/-- Without servers the proxy is turned off. -/
def delServer (host : String) : Exec (Session S) Error Unit := do
  let session ← .get
  match session.proxy.position host with
  | some idx => do
      onProxy (.modify fun proxy => { proxy with servers := proxy.servers.eraseIdx idx })
      if session.proxy.servers.length = 1 then setProxyState .off
  | none => .fail (.anyhow "server not found")

end Session

end CovertConnect.Client
