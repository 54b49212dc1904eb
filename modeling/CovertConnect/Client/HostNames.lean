import CovertConnect.Client.ServerEdits
import Mathlib.Data.List.Nodup

namespace CovertConnect.Client

open CovertConnect.Data CovertConnect.Crypto

/-! # Hosts as the names of servers

A call names a server by its host, and takes the first one that has it. -/

def hosts (servers : List Server) : List String :=
  servers.map (·.config.host)

/-- The first server of a host is the only one. -/
structure UniqueHosts (proxy : Proxy) : Prop where
  nodup : (hosts proxy.servers).Nodup
  addresses : ∀ pos srv, proxy.servers[pos]? = some srv →
    proxy.position srv.config.host = some pos

theorem uniqueHosts_iff {proxy : Proxy} : UniqueHosts proxy ↔ (hosts proxy.servers).Nodup := by
  refine ⟨UniqueHosts.nodup, fun nodup => ⟨nodup, fun pos srv there => ?_⟩⟩
  obtain ⟨within, rfl⟩ := List.getElem?_eq_some_iff.mp there
  rw [Proxy.position, List.findIdx?_eq_some_iff_getElem]
  refine ⟨within, decide_eq_true rfl, ?_⟩
  intro earlier before same
  have size : (hosts proxy.servers).length = proxy.servers.length := List.length_map _
  have equal : (hosts proxy.servers)[earlier] = (hosts proxy.servers)[pos] := by
    simpa [hosts] using same
  have positions := (List.Nodup.getElem_inj_iff nodup).mp equal
  omega

theorem set_nodup_iff {items : List String} {pos : Nat} {item : String} (nodup : items.Nodup)
    (inside : pos < items.length) :
    (items.set pos item).Nodup ↔ item ∉ items.eraseIdx pos := by
  rw [(List.set_perm_cons_eraseIdx inside item).nodup_iff, List.nodup_cons]
  exact and_iff_left (nodup.sublist (List.eraseIdx_sublist _ _))

/-- What an edit does to the hosts. -/
def Edit.onHosts : List String → Edit → List String
  | hosts, .replace pos config => hosts.set pos config.host
  | hosts, .push config => hosts ++ [config.host]
  | hosts, .erase pos => hosts.eraseIdx pos
  | hosts, _ => hosts

theorem mapItems_host (kind : ItemKind) (update : Option (List String) → Option (List String))
    (srv : Server) : (srv.mapItems kind update).config.host = srv.config.host := by
  cases kind <;> rfl

/-- A change of configurations at one place is a change of hosts there. -/
theorem hosts_modify {change : Server → Server} {change' : String → String}
    (same : ∀ srv, (change srv).config.host = change' srv.config.host) (servers : List Server)
    (pos : Nat) : hosts (servers.modify pos change) = (hosts servers).modify pos change' :=
  map_modify (fun srv : Server => srv.config.host) change change' same servers pos

theorem Edit.hosts_onList (servers : List Server) (edit : Edit) :
    hosts (edit.onList servers) = edit.onHosts (hosts servers) := by
  cases edit with
  | eraseDirect kind item | addDirect kind item => rfl
  | assign kind item pos =>
      have kept : hosts (servers.modify pos (Server.mapItems kind (addItem item))) =
          (hosts servers).modify pos id :=
        hosts_modify (fun srv => mapItems_host kind (addItem item) srv) servers pos
      exact kept.trans (List.modify_id pos _)
  | enable pos value =>
      have kept : hosts (Edit.onList servers (.enable pos value)) = (hosts servers).modify pos id :=
        hosts_modify (fun _ => rfl) servers pos
      exact kept.trans (List.modify_id pos _)
  | clear kind item =>
      rw [onList, hosts, List.map_map]
      exact List.map_congr_left fun srv _ => mapItems_host kind _ srv
  | replace pos config =>
      rw [onHosts, List.set_eq_modify]
      exact hosts_modify (fun _ => rfl) servers pos
  | push config => exact List.map_append
  | erase pos => exact (List.eraseIdx_map _ _ _).symm

/-- The host of what an edit stores is not the host of another server. -/
def Edit.StoresNewHost (hosts : List String) : Edit → Prop
  | .push config => config.host ∉ hosts
  | .replace pos config => config.host ∉ hosts.eraseIdx pos
  | _ => True

theorem Edit.onHosts_nodup_iff {hosts : List String} {edit : Edit} (nodup : hosts.Nodup)
    (inside : ∀ pos config, edit = .replace pos config → pos < hosts.length) :
    (edit.onHosts hosts).Nodup ↔ edit.StoresNewHost hosts := by
  cases edit with
  | eraseDirect | addDirect | assign | clear | enable => exact iff_of_true nodup trivial
  | replace pos config => exact set_nodup_iff nodup (inside pos config rfl)
  | push config =>
      rw [onHosts, List.nodup_append_comm, List.singleton_append, List.nodup_cons]
      exact and_iff_left nodup
  | erase pos => exact iff_of_true (nodup.sublist (List.eraseIdx_sublist _ _)) trivial

namespace Concurrent

variable {S : Type}

def Unique (this : Concurrent S) : Prop :=
  UniqueHosts this.session.proxy

/-- A configuration of that host can be stored in place of the server at `pos`. -/
def Renames (this : Concurrent S) (pos : Nat) (config : ServerConfig) : Prop :=
  config.host ∉ (hosts this.servers).eraseIdx pos

variable [SystemProxy S] [Hashes]

/-- The host under which a configuration is stored is not the host of another
server. -/
def StoresNewHost (this : Concurrent S) : ServerEvent → Prop
  | .addServer config lookup => (config.intoClient.initOrKeep lookup).host ∉ hosts this.servers
  | .updateServer origHost config lookup =>
      ∀ pos, this.session.proxy.position origHost = some pos →
        this.Renames pos (config.intoClient.initOrKeep lookup)
  | .resume idx _ =>
      ∀ host cloned config, this.pending[idx]? = some (.writeBack host cloned config) →
        ∀ pos, this.session.proxy.position host = some pos → this.Renames pos config
  | _ => True

theorem take_unique_iff {this : Concurrent S} (event : ServerEvent) (unique : this.Unique) :
    (this.take event).Unique ↔ this.StoresNewHost event := by
  have stores : (hosts (this.take event).servers).Nodup ↔
      ∀ edit, this.serverEdit event = some edit → edit.StoresNewHost (hosts this.servers) := by
    rw [take_servers]
    cases edit : this.serverEdit event with
    | none => exact iff_of_true unique.nodup fun _ none => by cases none
    | some edit =>
        dsimp only [Option.elim]
        rw [Edit.hosts_onList]
        refine (Edit.onHosts_nodup_iff unique.nodup ?_).trans (by simp [servers])
        intro pos config same
        subst same
        rw [hosts, List.length_map]
        exact serverEdit_inside edit
  refine uniqueHosts_iff.trans (stores.trans ?_)
  cases event with
  | addServer config lookup => simp [serverEdit, Edit.StoresNewHost, StoresNewHost]
  | updateServer origHost config lookup =>
      simp [serverEdit, Edit.StoresNewHost, StoresNewHost, Renames]
  | deleteServer host | setEnabled host value =>
      refine iff_of_true ?_ trivial
      intro edit stored
      obtain ⟨_, _, rfl⟩ := Option.map_eq_some_iff.mp stored
      exact trivial
  | setItem | removeItem | ensure => exact iff_of_true (fun _ none => by cases none) trivial
  | resume idx lookup =>
      cases waiting : this.pending[idx]? with
      | none => simp [serverEdit, StoresNewHost, waiting]
      | some pending =>
          cases pending with
          | writeBack host cloned config =>
              simp [serverEdit, Edit.StoresNewHost, StoresNewHost, Renames, waiting,
                Pending.serverEdit]
          | assign | clear | addDirect | turnOff | lookUp =>
              simp [serverEdit, Edit.StoresNewHost, StoresNewHost, waiting, Pending.serverEdit]

/-- In every run, whatever the resolver answers and in whatever order the calls
take their turns, a host names one server just when no configuration is stored
under the host of another server. -/
theorem run_unique_iff (cfg : ProxyConfig) (system : S) (events : List ServerEvent) :
    AllStates take Unique (launched cfg system) events ↔
      AllSteps take StoresNewHost (launched cfg system) events :=
  allStates_iff (fun _ => True) (fun _ _ => True) (fun _ _ _ _ => trivial)
    (fun _ event _ unique _ => take_unique_iff event unique) trivial (uniqueHosts_iff.mpr List.nodup_nil)
    allSteps_true

omit [Hashes] in
/-- The service is started with one server, and the same server is added. -/
theorem addServer_twice :
    ¬ @AllStates _ _ (@take Bool _ Hashes.folding) Unique (launched (Service.oneServer .pac) true)
      [.addServer (idleServer "first" true).config noLookup,
        .addServer (idleServer "first" true).config noLookup] := by
  let _ := Hashes.folding
  have named : SocketAddr.fromStr "first" = none := by decide +kernel
  have kept : (idleServer "first" true).config.intoClient.initOrKeep noLookup =
      (idleServer "first" true).config :=
    ServerConfig.initOrKeep_failed named fun _ => rfl
  intro given
  obtain ⟨_, first, both⟩ := given
  refine (take_unique_iff _ first).mp both ?_
  rw [take_servers, serverEdit, kept]
  exact List.mem_cons_self

end Concurrent

end CovertConnect.Client
