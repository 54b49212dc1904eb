import CovertConnect.Client.LazyInit

namespace CovertConnect.Client

open CovertConnect.Data CovertConnect.Crypto

/-! # How the list of servers changes

The calls of the service and the lookups of servers in use, with what the
resolver answers to each of them. -/

section Init

variable [Hashes]

/-- A configuration of the user interface has no address and no path yet. -/
def ServerConfig.intoClient (config : ServerConfig) : ServerConfig :=
  { config with address := defaultServerAddress, urlPath := none }

/-- `cfg.init().await.ok()`: what cannot be looked up stays as it was. -/
def ServerConfig.initOrKeep (lookup : String → Except IoError (List SocketAddr))
    (config : ServerConfig) : ServerConfig :=
  match config.init lookup with
  | .ok initialized => initialized
  | .error _ => config

theorem ServerConfig.initOrKeep_ok {lookup : String → Except IoError (List SocketAddr)}
    {config initialized : ServerConfig} (done : config.init lookup = .ok initialized) :
    config.initOrKeep lookup = initialized := by
  delta initOrKeep
  simp only [done]

theorem ServerConfig.initOrKeep_error {lookup : String → Except IoError (List SocketAddr)}
    {config : ServerConfig} {error : Error} (failed : config.init lookup = .error error) :
    config.initOrKeep lookup = config := by
  delta initOrKeep
  simp only [failed]

/-- A name that the resolver does not know. -/
theorem ServerConfig.initOrKeep_failed {lookup : String → Except IoError (List SocketAddr)}
    {config : ServerConfig} {error : IoError} (named : SocketAddr.fromStr config.host = none)
    (failed : ∀ name, lookup name = .error error) : config.initOrKeep lookup = config := by
  have unknown : ServerConnectConfig.new config.host config.protocol.key lookup =
      .error (.io error) := by
    rw [ServerConnectConfig.new, named]
    dsimp only
    rw [failed]
  exact initOrKeep_error (by rw [init, unknown]; rfl)

end Init

/-- `start` up to the loop over its servers. -/
def Proxy.launch (cfg : ProxyConfig) : Proxy :=
  let proxyState := if cfg.servers.isEmpty then .off else cfg.state
  (((new cfg.port proxyState).addApps cfg.apps).addDomains cfg.domains).updatePacContent

theorem Proxy.start_eq (cfg : ProxyConfig) :
    start cfg = cfg.servers.foldl (fun proxy config => (addServer config proxy).2) (launch cfg) := rfl

/-- `start` adds its servers as `add_server` does.  `resume` is the next turn of
a call that waits for a lock or for the resolver. -/
inductive ServerEvent where
  | addServer (config : ServerConfig) (lookup : String → Except IoError (List SocketAddr))
  | updateServer (origHost : String) (config : ServerConfig)
      (lookup : String → Except IoError (List SocketAddr))
  | deleteServer (host : String)
  | setEnabled (host : String) (value : Bool)
  | setItem (kind : ItemKind) (item serverHost : String)
  | removeItem (kind : ItemKind) (item : String)
  | ensure (selSrv : SelectedServer)
  | resume (idx : Nat) (lookup : String → Except IoError (List SocketAddr))

def ServerEvent.lazy [Hashes] : ServerEvent → LazyEvent
  | .addServer config lookup => .call (.addServer (config.intoClient.initOrKeep lookup))
  | .updateServer origHost config lookup =>
      .call (.updateServer origHost (config.intoClient.initOrKeep lookup))
  | .deleteServer host => .call (.delServer host)
  | .setEnabled host value => .call (.setEnabled host value)
  | .setItem kind item serverHost => .call (.setItem kind item serverHost)
  | .removeItem kind item => .call (.removeItem kind item)
  | .ensure selSrv => .ensure selSrv
  | .resume idx lookup => .resume idx lookup

/-- What an edit does to the list of servers. -/
def Edit.onList : List Server → Edit → List Server
  | servers, .eraseDirect .. | servers, .addDirect .. => servers
  | servers, .assign kind item pos => servers.modify pos (Server.mapItems kind (addItem item))
  | servers, .clear kind item =>
      servers.map (Server.mapItems kind (Option.map (List.erase · item)))
  | servers, .enable pos value =>
      servers.modify pos fun srv => { srv with config := { srv.config with enabled := value } }
  | servers, .replace pos config => servers.modify pos fun srv => { srv with config }
  | servers, .push config => servers ++ [{ config, state := ⟨0, 0, 0, 0⟩ }]
  | servers, .erase pos => servers.eraseIdx pos

def Pending.serverEdit (proxy : Proxy) : Pending → Option Edit
  | .assign kind item serverHost _ => (proxy.position serverHost).map (.assign kind item)
  | .clear kind item => some (.clear kind item)
  | .writeBack host _ config => (proxy.position host).map (.replace · config)
  | .addDirect .. | .turnOff | .lookUp .. => none

theorem forall_mem_modify {α : Type} {good : α → Prop} {change : α → α} {items : List α} {pos : Nat}
    (all : ∀ item ∈ items, good item) :
    (∀ item ∈ items.modify pos change, good item) ↔
      ∀ item, items[pos]? = some item → good (change item) := by
  induction items generalizing pos with
  | nil => simp
  | cons head items ih =>
      have headGood := all head List.mem_cons_self
      have tailGood : ∀ item ∈ items, good item := fun item there =>
        all item (List.mem_cons_of_mem _ there)
      cases pos with
      | zero =>
          rw [List.modify_zero_cons, List.forall_mem_cons, and_iff_left tailGood]
          simp
      | succ pos =>
          rw [List.modify_succ_cons, List.forall_mem_cons, and_iff_right headGood, ih tailGood,
            List.getElem?_cons_succ]

namespace Concurrent

variable {S : Type}

def launched (cfg : ProxyConfig) (system : S) : Concurrent S where
  session := { proxy := Proxy.launch cfg, system }
  pending := []
  edits := []

def servers (this : Concurrent S) : List Server :=
  this.session.proxy.servers

variable [SystemProxy S] [Hashes]

def take (this : Concurrent S) (event : ServerEvent) : Concurrent S :=
  this.step event.lazy

/-- The change that an event makes to the list of servers. -/
def serverEdit (this : Concurrent S) : ServerEvent → Option Edit
  | .addServer config lookup => some (.push (config.intoClient.initOrKeep lookup))
  | .updateServer origHost config lookup =>
      (this.session.proxy.position origHost).map
        (.replace · (config.intoClient.initOrKeep lookup))
  | .deleteServer host => (this.session.proxy.position host).map .erase
  | .setEnabled host value => (this.session.proxy.position host).map (.enable · value)
  | .setItem .. | .removeItem .. | .ensure _ => none
  | .resume idx _ => this.pending[idx]?.bind (·.serverEdit this.session.proxy)

omit [SystemProxy S] [Hashes] in
theorem took_servers {this : Concurrent S} {others : List Pending} {turn : Turn S} :
    (this.took others turn).servers = turn.session.proxy.servers := rfl

omit [SystemProxy S] [Hashes] in
theorem changeServer_servers (session : Session S) (host : String)
    (change : ServerConfig → ServerConfig) (edit : Nat → Edit)
    (applied : ∀ servers pos, Edit.onList servers (edit pos) =
      servers.modify pos fun srv => { srv with config := change srv.config }) :
    (Turn.changeServer host change edit session).session.proxy.servers =
      ((session.proxy.position host).map edit).elim session.proxy.servers
        (Edit.onList session.proxy.servers) := by
  rw [Turn.changeServer]
  cases session.proxy.position host with
  | none => rfl
  | some pos => exact (applied _ pos).symm

theorem resume_servers (lookup : String → Except IoError (List SocketAddr)) (pending : Pending)
    (session : Session S) :
    (pending.resume lookup session).session.proxy.servers =
      (pending.serverEdit session.proxy).elim session.proxy.servers
        (Edit.onList session.proxy.servers) := by
  cases pending with
  | assign kind item serverHost removed =>
      rw [Pending.resume, Pending.serverEdit]
      cases session.proxy.position serverHost with
      | none => rfl
      | some pos => rfl
  | addDirect kind item => exact ItemKind.withDirect_servers kind _ _
  | clear kind item => rfl
  | turnOff =>
      have kept := congrArg Proxy.servers (Session.setProxyState_proxy .off session)
      rw [Pending.resume]
      rcases off : Session.setProxyState .off session with ⟨_ | _ | _, after⟩
      · rw [off] at kept
        exact kept
      · rw [off] at kept
        exact kept
      · rw [off] at kept
        exact kept
  | lookUp host cloned =>
      rw [Pending.resume]
      split <;> rfl
  | writeBack host cloned config =>
      simp only [Pending.resume, Session.update, Proxy.updateServer, Proxy.changeServer,
        Pending.serverEdit]
      cases session.proxy.position host with
      | none => rfl
      | some pos => rfl

/-- A step changes the list as its edit says. -/
theorem take_servers (this : Concurrent S) (event : ServerEvent) :
    (this.take event).servers =
      (this.serverEdit event).elim this.servers (Edit.onList this.servers) := by
  cases event with
  | addServer config lookup => rfl
  | updateServer origHost config lookup =>
      exact changeServer_servers this.session origHost _ _ fun _ _ => rfl
  | setEnabled host value =>
      exact changeServer_servers this.session host
        (fun config => { config with enabled := value }) _ fun _ _ => rfl
  | deleteServer host =>
      rw [take, ServerEvent.lazy, step, turn, took_servers, serverEdit, EditCall.begin]
      cases this.session.proxy.position host with
      | none => rfl
      | some pos => rfl
  | setItem kind item serverHost =>
      rw [take, ServerEvent.lazy, step, turn, took_servers, serverEdit, EditCall.begin]
      split
      · split
        · exact ItemKind.withDirect_servers kind _ _
        · rfl
      · split <;> rfl
  | removeItem kind item =>
      rw [take, ServerEvent.lazy, step, turn, took_servers, serverEdit, EditCall.begin]
      split
      · exact ItemKind.withDirect_servers kind _ _
      · rfl
  | ensure selSrv =>
      rw [take, ServerEvent.lazy, step, turn, took_servers, serverEdit, ensureConfigInitialized]
      split
      · rfl
      · split <;> rfl
  | resume idx lookup =>
      rw [take, ServerEvent.lazy, step, turn]
      cases found : this.pending[idx]? with
      | none =>
          rw [serverEdit, found]
          rfl
      | some pending =>
          rw [serverEdit, found]
          exact resume_servers lookup pending this.session

omit [SystemProxy S] in
theorem serverEdit_inside {this : Concurrent S} {event : ServerEvent} {pos : Nat}
    {config : ServerConfig} (edit : this.serverEdit event = some (.replace pos config)) :
    pos < this.servers.length := by
  have replaced : ∀ (host : String) (stored : ServerConfig),
      (this.session.proxy.position host).map (Edit.replace · stored) = some (.replace pos config) →
        pos < this.servers.length := by
    intro host stored replaced
    obtain ⟨found, known, same⟩ := Option.map_eq_some_iff.mp replaced
    cases same
    obtain ⟨front, srv, back, split, rfl, _⟩ := Proxy.position_eq_some.mp known
    rw [servers, split, List.length_append, List.length_cons]
    omega
  cases event with
  | addServer config lookup => cases edit
  | updateServer origHost config lookup => exact replaced _ _ edit
  | deleteServer host | setEnabled host value =>
      obtain ⟨_, _, same⟩ := Option.map_eq_some_iff.mp edit
      cases same
  | setItem | removeItem | ensure => cases edit
  | resume idx lookup =>
      obtain ⟨pending, _, edit⟩ := Option.bind_eq_some_iff.mp edit
      cases pending with
      | assign kind item serverHost removed =>
          obtain ⟨_, _, same⟩ := Option.map_eq_some_iff.mp edit
          cases same
      | writeBack host cloned stored => exact replaced _ _ edit
      | clear => cases edit
      | addDirect | turnOff | lookUp => cases edit

end Concurrent

end CovertConnect.Client
