import CovertConnect.Client.Atomicity
import CovertConnect.Client.Connect
import Mathlib.Data.Multiset.AddSub
import Mathlib.Logic.Function.Basic

namespace CovertConnect.Client

open CovertConnect.Data CovertConnect.Crypto

/-! # Calls that overlap with the lookup of a server

A server is looked up when it is used for the first time: its configuration is
copied, the lock is given up while the resolver works, and the copy is written
back.  Other calls come in between, and they too give up one lock before they
take the next. -/

/-- A configuration without what the lookup finds out, and without the order of
its lists. -/
structure SettingsView where
  caption : Option String
  weight : Option UInt8
  items : ItemKind → Option (Multiset String)
  enabled : Bool
  protocol : ProtocolConfig

def ServerConfig.view (config : ServerConfig) : SettingsView where
  caption := config.caption
  weight := config.weight
  items kind := (kind.assigned config).map Multiset.ofList
  enabled := config.enabled
  protocol := config.protocol

structure Visible where
  direct : ItemKind → List String
  servers : List (SettingsView × ServerState)

def Server.view (srv : Server) : SettingsView × ServerState :=
  (srv.config.view, srv.state)

def Proxy.visible (proxy : Proxy) : Visible where
  direct kind := kind.direct proxy
  servers := proxy.servers.map Server.view

/-- One change, with the place of the server it was made to. -/
inductive Edit where
  | eraseDirect (kind : ItemKind) (item : String)
  | addDirect (kind : ItemKind) (item : String)
  | assign (kind : ItemKind) (item : String) (pos : Nat)
  | clear (kind : ItemKind) (item : String)
  | enable (pos : Nat) (value : Bool)
  | replace (pos : Nat) (config : ServerConfig)
  | push (config : ServerConfig)
  | erase (pos : Nat)

def addToItems (item : String) : Option (Multiset String) → Option (Multiset String)
  | some items => if item ∈ items then some items else some (item ::ₘ items)
  | none => some {item}

namespace SettingsView

def withItems (kind : ItemKind) (update : Option (Multiset String) → Option (Multiset String))
    (settings : SettingsView) : SettingsView :=
  { settings with items := Function.update settings.items kind (update (settings.items kind)) }

end SettingsView

namespace Edit

def onServers (change : List (SettingsView × ServerState) → List (SettingsView × ServerState))
    (visible : Visible) : Visible :=
  { visible with servers := change visible.servers }

def onDirect (kind : ItemKind) (change : List String → List String) (visible : Visible) : Visible :=
  { visible with direct := Function.update visible.direct kind (change (visible.direct kind)) }

def apply : Visible → Edit → Visible
  | visible, .eraseDirect kind item => onDirect kind (·.erase item) visible
  | visible, .addDirect kind item => onDirect kind (· ++ [item]) visible
  | visible, .assign kind item pos =>
      onServers (·.modify pos (Prod.map (·.withItems kind (addToItems item)) id)) visible
  | visible, .clear kind item =>
      onServers (·.map (Prod.map (·.withItems kind (Option.map (·.erase item))) id)) visible
  | visible, .enable pos value =>
      onServers (·.modify pos (Prod.map ({ · with enabled := value }) id)) visible
  | visible, .replace pos config => onServers (·.modify pos (Prod.map (fun _ => config.view) id)) visible
  | visible, .push config => onServers (· ++ [(config.view, ⟨0, 0, 0, 0⟩)]) visible
  | visible, .erase pos => onServers (·.eraseIdx pos) visible

end Edit

theorem items_congr {left right : ServerConfig}
    (domains : left.domains.map Multiset.ofList = right.domains.map Multiset.ofList)
    (apps : left.apps.map Multiset.ofList = right.apps.map Multiset.ofList) :
    left.view.items = right.view.items := by
  funext kind
  cases kind with
  | domain => exact domains
  | app => exact apps

theorem view_withAssigned (kind : ItemKind) (config : ServerConfig)
    (update : Option (List String) → Option (List String))
    (update' : Option (Multiset String) → Option (Multiset String))
    (same : ∀ items, (update items).map Multiset.ofList = update' (items.map Multiset.ofList)) :
    (kind.withAssigned (update (kind.assigned config)) config).view =
      config.view.withItems kind update' := by
  have items : ∀ other : ItemKind,
      (other.assigned (kind.withAssigned (update (kind.assigned config)) config)).map
          Multiset.ofList =
        Function.update config.view.items kind (update' (config.view.items kind)) other := by
    intro other
    by_cases mine : other = kind
    · subst other
      rw [Function.update_self]
      cases kind <;> exact same _
    · rw [Function.update_of_ne mine]
      cases kind <;> cases other <;> first | rfl | exact absurd rfl mine
  rw [SettingsView.withItems, ← funext items]
  cases kind <;> rfl

theorem addItem_multiset (item : String) (items : Option (List String)) :
    (addItem item items).map Multiset.ofList = addToItems item (items.map Multiset.ofList) := by
  cases items with
  | none => rfl
  | some items =>
      by_cases present : item ∈ items
      · simp [addItem, addToItems, present]
      · have sorted : ((items ++ [item]).insertionSort (· ≤ ·)).Perm (item :: items) :=
          (List.perm_insertionSort _ _).trans (List.perm_append_comm)
        simp [addItem, addToItems, present, Multiset.coe_eq_coe.mpr sorted]

theorem erase_multiset (item : String) (items : Option (List String)) :
    (items.map (List.erase · item)).map Multiset.ofList =
      (items.map Multiset.ofList).map (·.erase item) := by
  cases items with
  | none => rfl
  | some items => simp

theorem map_modify {α β : Type} (view : α → β) (change : α → α) (change' : β → β)
    (same : ∀ item, view (change item) = change' (view item)) (items : List α) (pos : Nat) :
    (items.modify pos change).map view = (items.map view).modify pos change' := by
  induction items generalizing pos with
  | nil => simp
  | cons item items ih =>
      cases pos with
      | zero => simp [same]
      | succ pos => simp [ih]

theorem modify_eq_self_iff {α : Type} {change : α → α} {items : List α} {pos : Nat} :
    items.modify pos change = items ↔ ∀ item, items[pos]? = some item → change item = item := by
  induction items generalizing pos with
  | nil => simp
  | cons head items ih =>
      cases pos with
      | zero => simp
      | succ pos => simp [ih]

theorem visible_onServers (proxy : Proxy) (servers : List Server) :
    ({ proxy with servers } : Proxy).visible =
      { proxy.visible with servers := servers.map Server.view } := by
  simp [Proxy.visible]

theorem visible_withDirect (kind : ItemKind) (items : List String) (proxy : Proxy) :
    (kind.withDirect items proxy).visible =
      { proxy.visible with direct := Function.update proxy.visible.direct kind items } := by
  have direct : ∀ other : ItemKind, other.direct (kind.withDirect items proxy) =
      Function.update proxy.visible.direct kind items other := by
    intro other
    by_cases mine : other = kind
    · subst other
      rw [Function.update_self, ItemKind.direct_withDirect]
    · rw [Function.update_of_ne mine]
      cases kind <;> cases other <;> first | rfl | exact absurd rfl mine
  rw [Proxy.visible, ItemKind.withDirect_servers, funext direct]
  rfl

inductive EditCall where
  | setItem (kind : ItemKind) (item serverHost : String)
  | removeItem (kind : ItemKind) (item : String)
  | setEnabled (host : String) (value : Bool)
  | updateServer (origHost : String) (config : ServerConfig)
  | addServer (config : ServerConfig)
  | delServer (host : String)

/-- What a call still has to do.  `removed` tells that the item was taken out
of the direct list, `cloned` is the copy made before the lookup. -/
inductive Pending where
  | assign (kind : ItemKind) (item serverHost : String) (removed : Bool)
  | addDirect (kind : ItemKind) (item : String)
  | clear (kind : ItemKind) (item : String)
  | turnOff
  | lookUp (host : String) (cloned : ServerConfig)
  | writeBack (host : String) (cloned config : ServerConfig)

inductive Next where
  | waits (pending : Pending)
  | returns (answer : Except Error Unit)

/-- What is left by a call when it gives up a lock. -/
structure Turn (S : Type) where
  session : Session S
  edits : List Edit
  next : Next

section Turns

variable {S : Type}

def Session.update (change : Proxy → Proxy) (session : Session S) : Session S :=
  { session with proxy := change session.proxy }

namespace Turn

def eraseDirect (kind : ItemKind) (item : String) (session : Session S) (next : Next) : Turn S :=
  ⟨session.update fun proxy => kind.withDirect ((kind.direct proxy).erase item) proxy,
    [.eraseDirect kind item], next⟩

def refused (message : String) (session : Session S) : Turn S :=
  ⟨session, [], .returns (.error (.anyhow message))⟩

def onServers (change : List Server → List Server) (edit : Edit) (next : Next)
    (session : Session S) : Turn S :=
  ⟨session.update fun proxy => { proxy with servers := change proxy.servers }, [edit], next⟩

def changeServer (host : String) (change : ServerConfig → ServerConfig) (edit : Nat → Edit)
    (session : Session S) : Turn S :=
  match session.proxy.position host with
  | some pos =>
      onServers (·.modify pos fun srv => { srv with config := change srv.config }) (edit pos)
        (.returns (.ok ())) session
  | none => refused "server not found" session

end Turn

/-- Up to the end of the first lock. -/
def EditCall.begin : EditCall → Session S → Turn S
  | .setItem kind item serverHost, session =>
      if serverHost ≠ "" then
        if item ∈ kind.direct session.proxy then
          .eraseDirect kind item session (.waits (.assign kind item serverHost true))
        else ⟨session, [], .waits (.assign kind item serverHost false)⟩
      else if item ∈ kind.direct session.proxy then ⟨session, [], .waits (.clear kind item)⟩
      else ⟨session, [], .waits (.addDirect kind item)⟩
  | .removeItem kind item, session =>
      if item ∈ kind.direct session.proxy then
        .eraseDirect kind item session (.waits (.clear kind item))
      else .refused kind.notFound session
  | .setEnabled host value, session =>
      .changeServer host (fun config => { config with enabled := value }) (.enable · value) session
  | .updateServer origHost config, session =>
      .changeServer origHost (fun _ => config) (.replace · config) session
  | .addServer config, session =>
      .onServers (· ++ [{ config, state := ⟨0, 0, 0, 0⟩ }]) (.push config) (.returns (.ok ()))
        session
  | .delServer host, session =>
      match session.proxy.position host with
      | some idx =>
          .onServers (·.eraseIdx idx) (.erase idx)
            (if session.proxy.servers.length = 1 then .waits .turnOff else .returns (.ok ()))
            session
      | none => .refused "server not found" session

/-- `ensure_config_initialized`, up to the lookup. -/
def ensureConfigInitialized (selSrv : SelectedServer) (session : Session S) : Turn S :=
  if selSrv.address ≠ defaultServerAddress then ⟨session, [], .returns (.ok ())⟩
  else
    match session.proxy.servers.find? (·.config.host = selSrv.host) with
    | some srv => ⟨session, [], .waits (.lookUp selSrv.host srv.config)⟩
    | none => ⟨session, [], .returns (.ok ())⟩

variable [SystemProxy S] [Hashes]

/-- Up to the end of the next lock, or of the lookup. -/
def Pending.resume (lookup : String → Except IoError (List SocketAddr)) :
    Pending → Session S → Turn S
  | .assign kind item serverHost _, session =>
      match session.proxy.position serverHost with
      | some pos =>
          .onServers (·.modify pos (Server.mapItems kind (addItem item))) (.assign kind item pos)
            (.returns (.ok ())) session
      | none => .refused "host not found" session
  | .addDirect kind item, session =>
      ⟨session.update fun proxy => kind.withDirect (kind.direct proxy ++ [item]) proxy,
        [.addDirect kind item], .waits (.clear kind item)⟩
  | .clear kind item, session =>
      .onServers (·.map (Server.mapItems kind (Option.map (List.erase · item)))) (.clear kind item)
        (.returns (.ok ())) session
  | .turnOff, session =>
      match Session.setProxyState .off session with
      | (.ok (), session) => ⟨session, [], .returns (.ok ())⟩
      | (.err error, session) => ⟨session, [], .returns (.error error)⟩
      | (.panic reason, session) => .refused reason session
  | .lookUp host cloned, session =>
      match cloned.init lookup with
      | .ok config => ⟨session, [], .waits (.writeBack host cloned config)⟩
      | .error _ => ⟨session, [], .returns (.ok ())⟩
  | .writeBack host _ config, session =>
      ⟨session.update fun proxy => (Proxy.updateServer host config proxy).2, [],
        .returns (.ok ())⟩

/-- Whether a call that goes on here has changed something already. -/
def Pending.changed : Pending → Bool
  | .assign _ _ _ removed => removed
  | .addDirect .. => false
  | .clear .. => true
  | .turnOff => true
  | .lookUp .. | .writeBack .. => false

/-- The settings change as the edits say. -/
def Turn.Follows (session : Session S) (turn : Turn S) : Prop :=
  turn.session.proxy.visible = turn.edits.foldl Edit.apply session.proxy.visible

omit [SystemProxy S] [Hashes] in
theorem Turn.onServers_follows (session : Session S) (next : Next)
    {change : List Server → List Server} {edit : Edit}
    {change' : List (SettingsView × ServerState) → List (SettingsView × ServerState)}
    (applied : ∀ visible, Edit.apply visible edit = Edit.onServers change' visible)
    (same : ∀ servers, (change servers).map Server.view = change' (servers.map Server.view)) :
    (Turn.onServers change edit next session).Follows session := by
  simp only [Turn.Follows, Turn.onServers, Session.update, visible_onServers, List.foldl_cons,
    List.foldl_nil, applied, Edit.onServers, same]
  rfl

omit [SystemProxy S] [Hashes] in
theorem Turn.changeServer_follows (session : Session S) (host : String)
    {change : ServerConfig → ServerConfig} {edit : Nat → Edit}
    {change' : SettingsView → SettingsView}
    (applied : ∀ pos visible,
      Edit.apply visible (edit pos) = Edit.onServers (·.modify pos (Prod.map change' id)) visible)
    (same : ∀ config : ServerConfig, (change config).view = change' config.view) :
    (Turn.changeServer host change edit session).Follows session := by
  rw [Turn.changeServer]
  cases session.proxy.position host with
  | none => rfl
  | some pos =>
      refine Turn.onServers_follows session _ (applied pos) fun servers => ?_
      refine map_modify Server.view _ _ (fun srv => ?_) servers pos
      rw [Server.view, same]
      rfl

omit [SystemProxy S] [Hashes] in
theorem Turn.eraseDirect_follows (kind : ItemKind) (item : String) (session : Session S)
    (next : Next) : (Turn.eraseDirect kind item session next).Follows session := by
  simp only [Turn.Follows, Turn.eraseDirect, Session.update, visible_withDirect]
  rfl

omit [SystemProxy S] [Hashes] in
theorem begin_follows (request : EditCall) (session : Session S) :
    (request.begin session).Follows session := by
  cases request with
  | setItem kind item serverHost =>
      rw [EditCall.begin]
      split
      · split
        · exact Turn.eraseDirect_follows ..
        · rfl
      · split <;> rfl
  | removeItem kind item =>
      rw [EditCall.begin]
      split
      · exact Turn.eraseDirect_follows ..
      · rfl
  | setEnabled host value =>
      refine Turn.changeServer_follows session host (fun _ _ => rfl) fun config => ?_
      simp only [ServerConfig.view, SettingsView.mk.injEq, true_and, and_true]
      exact items_congr rfl rfl
  | updateServer origHost config =>
      exact Turn.changeServer_follows session origHost (fun _ _ => rfl) fun _ => rfl
  | addServer config =>
      have applied : ∀ visible, Edit.apply visible (.push config) =
          Edit.onServers (· ++ [(config.view, ⟨0, 0, 0, 0⟩)]) visible := fun _ => rfl
      refine Turn.onServers_follows session _ applied fun servers => ?_
      rw [List.map_append]
      rfl
  | delServer host =>
      rw [EditCall.begin]
      split
      · rename_i idx _
        have applied : ∀ visible, Edit.apply visible (.erase idx) =
            Edit.onServers (·.eraseIdx idx) visible := fun _ => rfl
        refine Turn.onServers_follows session _ applied fun servers => ?_
        exact (List.eraseIdx_map _ _ _).symm
      · rfl

omit [SystemProxy S] [Hashes] in
theorem ensureConfigInitialized_follows (selSrv : SelectedServer) (session : Session S) :
    (ensureConfigInitialized selSrv session).Follows session := by
  rw [ensureConfigInitialized]
  split
  · rfl
  · split <;> rfl

omit [SystemProxy S] [Hashes] in
theorem view_mapItems (kind : ItemKind) (srv : Server)
    {update : Option (List String) → Option (List String)}
    {update' : Option (Multiset String) → Option (Multiset String)}
    (same : ∀ items, (update items).map Multiset.ofList = update' (items.map Multiset.ofList)) :
    (srv.mapItems kind update).view = Prod.map (·.withItems kind update') id srv.view :=
  congrArg (·, srv.state) (view_withAssigned kind srv.config update update' same)

omit [Hashes] in
theorem setProxyState_visible (proxyState : ProxyState) (session : Session S) :
    (Session.setProxyState proxyState session).2.proxy.visible = session.proxy.visible := by
  have direct : ∀ kind : ItemKind,
      kind.direct { session.proxy with proxyState } = kind.direct session.proxy := by
    intro kind
    cases kind <;> rfl
  simp only [Session.setProxyState_proxy, Proxy.visible, direct]

/-- Every turn but the write-back does what its edits say. -/
theorem resume_follows (lookup : String → Except IoError (List SocketAddr)) (pending : Pending)
    (session : Session S) (other : ∀ host cloned config, pending ≠ .writeBack host cloned config) :
    (pending.resume lookup session).Follows session := by
  cases pending with
  | assign kind item serverHost removed =>
      rw [Pending.resume]
      split
      · rename_i pos _
        refine Turn.onServers_follows session _ (fun _ => rfl) fun servers => ?_
        exact map_modify Server.view _ _
          (fun srv => view_mapItems kind srv (addItem_multiset item)) servers pos
      · rfl
  | addDirect kind item =>
      simp only [Turn.Follows, Pending.resume, Session.update, visible_withDirect]
      rfl
  | clear kind item =>
      refine Turn.onServers_follows session _ (fun _ => rfl) fun servers => ?_
      rw [List.map_map, List.map_map]
      exact List.map_congr_left fun srv _ => view_mapItems kind srv (erase_multiset item)
  | turnOff =>
      have visible := setProxyState_visible .off session
      rw [Pending.resume]
      split <;>
        · rename_i answer
          rw [answer] at visible
          exact visible
  | lookUp host cloned =>
      rw [Pending.resume]
      split <;> rfl
  | writeBack host cloned config => exact absurd rfl (other host cloned config)

/-- A lookup keeps the settings. -/
theorem init_view {lookup : String → Except IoError (List SocketAddr)}
    {config initialized : ServerConfig} (found : config.init lookup = .ok initialized) :
    initialized.view = config.view := by
  have sorted : ∀ items, (sortItems items).map Multiset.ofList = items.map Multiset.ofList := by
    intro items
    cases items with
    | none => rfl
    | some items =>
        exact congrArg some (Multiset.coe_eq_coe.mpr (List.perm_insertionSort _ _))
  obtain ⟨connCfg, _, rfl⟩ := ServerConfig.init_inv found
  simp only [ServerConfig.view, SettingsView.mk.injEq, true_and, and_true]
  exact items_congr (sorted config.domains) (sorted config.apps)

/-- A write-back shows nowhere just when the server still has the settings of
its copy. -/
theorem writeBack_visible_iff (lookup : String → Except IoError (List SocketAddr))
    {host : String} {cloned config : ServerConfig} (kept : config.view = cloned.view)
    (session : Session S) :
    ((Pending.writeBack host cloned config).resume lookup session).session.proxy.visible =
        session.proxy.visible ↔
      ∀ pos srv, session.proxy.position host = some pos →
        session.proxy.servers[pos]? = some srv → srv.config.view = cloned.view := by
  simp only [Pending.resume, Session.update, Proxy.updateServer, Proxy.changeServer]
  cases found : session.proxy.position host with
  | none => simp
  | some pos =>
      have written : (session.proxy.servers.modify pos fun srv => { srv with config }).map
            Server.view =
          (session.proxy.servers.map Server.view).modify pos (Prod.map (fun _ => config.view) id) :=
        map_modify Server.view _ _ (fun _ => rfl) _ pos
      have same : ∀ srv : Server,
          Prod.map (fun _ => config.view) id srv.view = srv.view ↔ srv.config.view = cloned.view := by
        intro srv
        rw [← kept]
        exact ⟨fun same => (congrArg Prod.fst same).symm, fun same => congrArg (·, srv.state) same.symm⟩
      rw [visible_onServers, written]
      constructor
      · intro shown pos' srv at_ here
        cases at_
        have unmoved := modify_eq_self_iff.mp (congrArg Visible.servers shown) srv.view
        rw [List.getElem?_map, here] at unmoved
        exact (same srv).mp (unmoved rfl)
      · intro current
        have unmoved := modify_eq_self_iff.mpr (fun view here => by
          obtain ⟨srv, found, rfl⟩ := Option.map_eq_some_iff.mp ((List.getElem?_map ..).symm.trans here)
          exact (same srv).mpr (current pos srv rfl found) :
            ∀ view, (session.proxy.servers.map Server.view)[pos]? = some view →
              Prod.map (fun _ => config.view) id view = view)
        rw [unmoved]
        rfl

omit [SystemProxy S] [Hashes] in
/-- A call that fails under its first lock has changed nothing. -/
theorem begin_refused {request : EditCall} {session : Session S} {error : Error}
    (refused : (request.begin session).next = .returns (.error error)) :
    (request.begin session).edits = [] := by
  have changeServer : ∀ {host change} {edit : Nat → Edit},
      (Turn.changeServer host change edit session).next = .returns (.error error) →
        (Turn.changeServer host change edit session).edits = [] := by
    intro host change edit refused
    rw [Turn.changeServer] at refused ⊢
    cases found : session.proxy.position host with
    | none => rfl
    | some pos => simp [found, Turn.onServers] at refused
  cases request with
  | setItem kind item serverHost =>
      simp only [EditCall.begin] at refused ⊢
      split at refused
      · split at refused <;> cases refused
      · split at refused <;> cases refused
  | removeItem kind item =>
      simp only [EditCall.begin] at refused ⊢
      split at refused
      · cases refused
      · rename_i missing
        rw [if_neg missing]
        rfl
  | setEnabled host value => exact changeServer refused
  | updateServer origHost config => exact changeServer refused
  | addServer config => cases refused
  | delServer host =>
      simp only [EditCall.begin] at refused ⊢
      cases found : session.proxy.position host with
      | none => rfl
      | some pos =>
          simp only [found, Turn.onServers] at refused
          split at refused <;> cases refused

def EditCall.run : EditCall → Exec (Session S) Error Unit
  | .setItem kind item serverHost => Session.onProxy (Proxy.setItem kind item serverHost)
  | .removeItem kind item => Session.onProxy (Proxy.removeItem kind item)
  | .setEnabled host value => Session.onProxy (Proxy.setEnabled host value)
  | .updateServer origHost config => Session.onProxy (Proxy.updateServer origHost config)
  | .addServer config => Session.onProxy (Proxy.addServer config)
  | .delServer host => Session.delServer host

/-- The next turn of the same call. -/
def Turn.goOn (lookup : String → Except IoError (List SocketAddr)) (turn : Turn S) : Turn S :=
  match turn.next with
  | .waits pending => pending.resume lookup turn.session
  | .returns _ => turn

omit [SystemProxy S] [Hashes] in
def Turn.ended (turn : Turn S) : Option (Outcome Error Unit × Session S) :=
  match turn.next with
  | .waits _ => none
  | .returns (.ok ()) => some (.ok (), turn.session)
  | .returns (.error error) => some (.err error, turn.session)

omit [SystemProxy S] [Hashes] in
theorem changeServer_ended (host : String) (change : ServerConfig → ServerConfig)
    (edit : Nat → Edit) (session : Session S) :
    (Turn.changeServer host change edit session).ended =
      some (Session.onProxy (Proxy.changeServer host change) session) := by
  rw [Turn.changeServer, Session.onProxy_apply, Proxy.changeServer]
  cases session.proxy.position host with
  | none => rfl
  | some pos => rfl

theorem turnOff_ended (lookup : String → Except IoError (List SocketAddr)) (session : Session S) :
    ((Pending.turnOff.resume lookup session).goOn lookup).ended =
      some (Session.setProxyState .off session) := by
  have answer : (Session.setProxyState .off session).1 = .ok () ∨
      ∃ error, (Session.setProxyState .off session).1 = .err error :=
    setProxyStateInt_answer .off
      { session with proxy := { session.proxy with proxyState := .off } }
  rw [Pending.resume]
  rcases off : Session.setProxyState .off session with ⟨_ | _ | _, after⟩
  · rfl
  · rfl
  · simp [off] at answer

/-- Taken one after the other, the turns of a call are the call. -/
theorem turns_run (lookup : String → Except IoError (List SocketAddr)) (request : EditCall)
    (session : Session S) :
    (((request.begin session).goOn lookup).goOn lookup).ended = some (request.run session) := by
  cases request with
  | setItem kind item serverHost =>
      rw [EditCall.run, Session.onProxy_apply]
      by_cases named : serverHost ≠ ""
      · -- The first lock leaves the same proxy whether or not it finds the item.
        have first : ∃ edits removed, (EditCall.setItem kind item serverHost).begin session =
            ⟨session.update fun proxy => kind.withDirect ((kind.direct proxy).erase item) proxy,
              edits, .waits (.assign kind item serverHost removed)⟩ := by
          simp only [EditCall.begin, if_pos named]
          by_cases present : item ∈ kind.direct session.proxy
          · exact ⟨_, _, if_pos present⟩
          · refine ⟨[], false, ?_⟩
            rw [if_neg present, Session.update, List.erase_of_not_mem present,
              ItemKind.withDirect_direct]
        obtain ⟨edits, removed, first⟩ := first
        have direct : ∀ proxy : Proxy, kind.withDirect ((kind.direct proxy).erase item) proxy =
            proxy.rerouted kind ((kind.direct proxy).erase item) proxy.servers :=
          fun proxy => Proxy.withDirect_eq_rerouted kind _ proxy
        simp only [first, Turn.goOn, Pending.resume, Session.update, Proxy.position_withDirect]
        cases position : session.proxy.position serverHost with
        | none =>
            rw [Proxy.setItem_unknown named position, ← direct]
            rfl
        | some pos =>
            rw [Proxy.setItem_known named position]
            simp [Turn.onServers, Session.update, Turn.ended, Proxy.rerouted]
      · have named : serverHost = "" := not_not.mp named
        subst named
        rw [Proxy.setItem_direct]
        simp only [EditCall.begin, ne_eq, not_true_eq_false, if_false]
        by_cases present : item ∈ kind.direct session.proxy
        · simp [present, Turn.goOn, Pending.resume, Turn.onServers, Session.update, Turn.ended,
            Proxy.rerouted]
        · simp [present, Turn.goOn, Pending.resume, Turn.onServers, Session.update, Turn.ended,
            Proxy.rerouted]
  | removeItem kind item =>
      rw [EditCall.run, Session.onProxy_apply]
      by_cases present : item ∈ kind.direct session.proxy
      · rw [Proxy.removeItem_present present]
        simp [EditCall.begin, present, Turn.eraseDirect, Turn.goOn, Pending.resume, Turn.onServers,
          Session.update, Turn.ended, Proxy.rerouted]
      · rw [Proxy.removeItem_missing present]
        simp [EditCall.begin, present, Turn.refused, Turn.goOn, Turn.ended]
  | setEnabled host value | updateServer host config =>
      have goOn : ∀ {change} {edit : Nat → Edit},
          (Turn.changeServer host change edit session).goOn lookup =
            Turn.changeServer host change edit session := by
        intro change edit
        rw [Turn.changeServer]
        cases session.proxy.position host with
        | none => rfl
        | some pos => rfl
      rw [EditCall.begin, goOn, goOn]
      exact changeServer_ended ..
  | addServer config => rfl
  | delServer host =>
      simp only [EditCall.begin, EditCall.run, Session.delServer]
      rw [Exec.bind_ok (Exec.get_apply _)]
      cases position : session.proxy.position host with
      | none => rfl
      | some idx =>
          dsimp only
          rw [Session.onProxy_bind, Exec.modify_apply]
          by_cases last : session.proxy.servers.length = 1
          · simp only [if_pos last]
            exact turnOff_ended lookup _
          · simp only [if_neg last]
            rfl

end Turns

structure Concurrent (S : Type) where
  session : Session S
  pending : List Pending
  edits : List Edit

/-- `lookup` is what the resolver answers then, if this is a lookup. -/
inductive LazyEvent where
  | call (request : EditCall)
  | ensure (selSrv : SelectedServer)
  | resume (idx : Nat) (lookup : String → Except IoError (List SocketAddr))

namespace Concurrent

variable {S : Type}

/-- A call gives up its lock. -/
def took (this : Concurrent S) (others : List Pending) (turn : Turn S) : Concurrent S where
  session := turn.session
  pending := match turn.next with
    | .waits pending => others ++ [pending]
    | .returns _ => others
  edits := this.edits ++ turn.edits

variable [SystemProxy S] [Hashes]

/-- The turn that an event is, and whether its call has changed something
before. -/
def turn (this : Concurrent S) : LazyEvent → Option (Turn S × Bool)
  | .call request => some (request.begin this.session, false)
  | .ensure selSrv => some (ensureConfigInitialized selSrv this.session, false)
  | .resume idx lookup =>
      this.pending[idx]?.map fun pending => (pending.resume lookup this.session, pending.changed)

def others (this : Concurrent S) : LazyEvent → List Pending
  | .resume idx _ => this.pending.eraseIdx idx
  | _ => this.pending

def step (this : Concurrent S) (event : LazyEvent) : Concurrent S :=
  match this.turn event with
  | some (turn, _) => this.took (this.others event) turn
  | none => this

/-- The settings are the changes that the calls have made, one after the
other. -/
def Shows (start : Visible) (this : Concurrent S) : Prop :=
  this.session.proxy.visible = this.edits.foldl Edit.apply start

/-- A call that reports an error has changed nothing. -/
def OnlySuccessful (this : Concurrent S) (event : LazyEvent) : Prop :=
  ∀ turn changed error, this.turn event = some (turn, changed) →
    turn.next = .returns (.error error) → changed = false ∧ turn.edits = []

/-- A server that is written back still has the settings of its copy; a call
that has changed something does not fail. -/
def Unchanged (this : Concurrent S) : LazyEvent → Prop
  | .resume idx _ =>
      match this.pending[idx]? with
      | some (.writeBack host cloned _) =>
          ∀ pos srv, this.session.proxy.position host = some pos →
            this.session.proxy.servers[pos]? = some srv → srv.config.view = cloned.view
      | some (.assign _ _ serverHost removed) =>
          this.session.proxy.position serverHost = none → removed = false
      | some .turnOff => Takes .off this.session
      | _ => True
  | _ => True

/-- A configuration on its way back has the settings of its copy. -/
def Faithful (this : Concurrent S) : Prop :=
  ∀ host cloned config, .writeBack host cloned config ∈ this.pending → config.view = cloned.view

omit [SystemProxy S] [Hashes] in
theorem took_shows {this : Concurrent S} {start : Visible} {turn : Turn S} {others : List Pending}
    (shown : this.Shows start) (follows : turn.Follows this.session) :
    (this.took others turn).Shows start := by
  simp only [Shows, took, List.foldl_append]
  rw [← shown]
  exact follows

/-- What waits after a step has waited before, or is what the step's call goes
on with. -/
theorem step_pending {this : Concurrent S} {event : LazyEvent} {pending : Pending}
    (member : pending ∈ (this.step event).pending) :
    pending ∈ this.pending ∨
      ∃ turn changed, this.turn event = some (turn, changed) ∧ turn.next = .waits pending := by
  have others : ∀ pending ∈ this.others event, pending ∈ this.pending := by
    intro pending member
    cases event with
    | resume idx lookup => exact List.mem_of_mem_eraseIdx member
    | call request => exact member
    | ensure selSrv => exact member
  rw [step] at member
  cases taken : this.turn event with
  | none =>
      rw [taken] at member
      exact .inl member
  | some pair =>
      obtain ⟨turn, changed⟩ := pair
      simp only [taken, took] at member
      cases next : turn.next with
      | returns answer =>
          rw [next] at member
          exact .inl (others _ member)
      | waits waiting =>
          rw [next] at member
          rcases List.mem_append.mp member with old | new
          · exact .inl (others _ old)
          · cases List.mem_singleton.mp new
            exact .inr ⟨turn, changed, rfl, next⟩

/-- The only configuration that goes on its way is what a lookup made of its
copy. -/
theorem turn_writeBack {this : Concurrent S} {event : LazyEvent} {turn : Turn S} {changed : Bool}
    {host : String} {cloned config : ServerConfig} (taken : this.turn event = some (turn, changed))
    (next : turn.next = .waits (.writeBack host cloned config)) :
    ∃ lookup, cloned.init lookup = .ok config := by
  cases event with
  | call request =>
      cases taken
      cases request with
      | setItem kind item serverHost =>
          simp only [EditCall.begin] at next
          split at next
          · split at next <;> cases next
          · split at next <;> cases next
      | removeItem kind item =>
          simp only [EditCall.begin] at next
          split at next <;> cases next
      | setEnabled host value | updateServer host config =>
          simp only [EditCall.begin, Turn.changeServer] at next
          split at next <;> cases next
      | addServer config => cases next
      | delServer host =>
          simp only [EditCall.begin] at next
          split at next
          · simp only [Turn.onServers] at next
            split at next <;> cases next
          · cases next
  | ensure selSrv =>
      cases taken
      simp only [ensureConfigInitialized] at next
      split at next
      · cases next
      · split at next <;> cases next
  | resume idx lookup =>
      obtain ⟨pending, _, resumed⟩ := Option.map_eq_some_iff.mp taken
      cases resumed
      cases pending with
      | assign kind item serverHost removed =>
          simp only [Pending.resume] at next
          split at next <;> cases next
      | addDirect | clear | writeBack => cases next
      | turnOff =>
          simp only [Pending.resume] at next
          split at next <;> cases next
      | lookUp host' cloned' =>
          simp only [Pending.resume] at next
          split at next
          · rename_i found
            cases next
            exact ⟨lookup, found⟩
          · cases next

theorem step_writeBack {this : Concurrent S} {event : LazyEvent} {host : String}
    {cloned config : ServerConfig}
    (member : .writeBack host cloned config ∈ (this.step event).pending) :
    .writeBack host cloned config ∈ this.pending ∨ ∃ lookup, cloned.init lookup = .ok config := by
  rcases step_pending member with old | ⟨turn, changed, taken, next⟩
  · exact .inl old
  · exact .inr (turn_writeBack taken next)

theorem step_faithful {this : Concurrent S} (event : LazyEvent) (faithful : this.Faithful) :
    (this.step event).Faithful := by
  intro host cloned config member
  rcases step_writeBack member with old | ⟨lookup, found⟩
  · exact faithful host cloned config old
  · exact init_view found

theorem step_shows_iff {this : Concurrent S} {start : Visible} (event : LazyEvent)
    (faithful : this.Faithful) (shown : this.Shows start) :
    (this.step event).Shows start ∧ this.OnlySuccessful event ↔ this.Unchanged event := by
  cases event with
  | call request =>
      refine iff_of_true ⟨took_shows shown (begin_follows request this.session), ?_⟩ trivial
      intro turn changed error taken refused
      cases taken
      exact ⟨rfl, begin_refused refused⟩
  | ensure selSrv =>
      refine iff_of_true ⟨took_shows shown (ensureConfigInitialized_follows selSrv this.session), ?_⟩
        trivial
      intro turn changed error taken refused
      cases taken
      simp only [ensureConfigInitialized] at refused
      split at refused
      · cases refused
      · split at refused <;> cases refused
  | resume idx lookup =>
      cases found : this.pending[idx]? with
      | none =>
          have idle : this.turn (.resume idx lookup) = none := by
            rw [turn, found]
            rfl
          simp only [step, idle, Unchanged, found, iff_true]
          refine ⟨shown, ?_⟩
          intro turn changed error taken
          rw [idle] at taken
          cases taken
      | some pending =>
          have taken : this.turn (.resume idx lookup) =
              some (pending.resume lookup this.session, pending.changed) := by
            rw [turn, found]
            rfl
          have after : this.step (.resume idx lookup) =
              this.took (this.pending.eraseIdx idx) (pending.resume lookup this.session) := by
            rw [step, taken]
            rfl
          have successful : this.OnlySuccessful (.resume idx lookup) ↔
              ∀ error, (pending.resume lookup this.session).next = .returns (.error error) →
                pending.changed = false ∧ (pending.resume lookup this.session).edits = [] := by
            constructor
            · exact fun all error => all _ _ error taken
            · intro all turn changed error taken'
              rw [taken] at taken'
              cases taken'
              exact all error
          have stays : ∀ (_ : ∀ host cloned config, pending ≠ .writeBack host cloned config),
              (this.step (.resume idx lookup)).Shows start := by
            intro other
            rw [after]
            exact took_shows shown (resume_follows lookup pending this.session other)
          rw [successful]
          simp only [Unchanged, found]
          cases pending with
          | assign kind item serverHost removed =>
              rw [and_iff_right (stays (by simp)), Pending.resume, Pending.changed]
              cases position : this.session.proxy.position serverHost with
              | none => simp [Turn.refused, position]
              | some pos => simp [Turn.onServers, position]
          | addDirect kind item =>
              exact iff_of_true ⟨stays (by simp), by simp [Pending.resume]⟩ trivial
          | clear kind item =>
              exact iff_of_true ⟨stays (by simp), by simp [Pending.resume, Turn.onServers]⟩ trivial
          | turnOff =>
              rw [and_iff_right (stays (by simp)), Pending.resume, Pending.changed]
              have answer : (Session.setProxyState .off this.session).1 =
                  (Session.setProxyStateInt .off this.session).1 := takes_congr _ _ .off rfl rfl
              rw [Takes, ← answer]
              rcases Session.setProxyState .off this.session with ⟨_ | _ | _, session⟩ <;>
                simp [Turn.refused]
          | lookUp host cloned =>
              refine iff_of_true ⟨stays (by simp), ?_⟩ trivial
              intro error refused
              simp only [Pending.resume] at refused
              split at refused <;> cases refused
          | writeBack host cloned config =>
              have kept := faithful host cloned config (List.mem_of_getElem? found)
              rw [and_iff_left (by simp [Pending.resume]), after]
              refine Iff.trans ?_ (writeBack_visible_iff lookup kept this.session)
              have shown : this.session.proxy.visible = this.edits.foldl Edit.apply start := shown
              simp only [Shows, took, List.foldl_append]
              rw [← shown]
              rfl

/-- Whatever the order of their turns, the settings are at every moment the
changes of the calls that succeed, one after the other, just when no server that
is written back has been changed since it was copied, and no call fails after
its first change. -/
theorem run_shows_iff (session : Session S) (events : List LazyEvent) :
    let start : Concurrent S := { session, pending := [], edits := [] }
    AllStates step (Shows session.proxy.visible) start events ∧ AllSteps step OnlySuccessful start events ↔
      AllSteps step Unchanged start events := by
  apply allStates_and_allSteps_iff Faithful (fun _ _ => True) OnlySuccessful
  · exact fun _ event faithful _ => step_faithful event faithful
  · exact fun _ event faithful shown _ => step_shows_iff event faithful shown
  · intro host cloned config member
    cases member
  · rfl
  · exact allSteps_true

end Concurrent

namespace Concurrent

def namedServer (enabled : Bool) (address : SocketAddr) : Server where
  config :=
    { (idleServer "1.2.3.4:5" enabled).config with
      address
      protocol := { (idleServer "" true).config.protocol with encryptionLimit := 1000 } }
  state := ⟨0, 0, 0, 0⟩

def resolvedAddress : SocketAddr where
  ip := .v4 #v[1, 2, 3, 4]
  port := 5

def unresolved : Session Bool where
  proxy := { Proxy.new 25444 .off with servers := [namedServer true defaultServerAddress] }
  system := true

def noLookup (_ : String) : Except IoError (List SocketAddr) :=
  .error (.other 0)

def disabledMeanwhile : List LazyEvent :=
  [.ensure (.ofServer (namedServer true defaultServerAddress)),
    .call (.setEnabled "1.2.3.4:5" false), .resume 0 noLookup, .resume 0 noLookup]

theorem namedServer_init [Hashes] :
    (namedServer true defaultServerAddress).config.init noLookup =
      .ok (namedServer true resolvedAddress).config := by
  have parsed : SocketAddr.fromStr "1.2.3.4:5" = some resolvedAddress := by
    decide +kernel
  have connects : ServerConnectConfig.new "1.2.3.4:5" "key" noLookup =
      .ok { host := "1.2.3.4:5", address := resolvedAddress, urlPath := none } := by
    rw [ServerConnectConfig.new, parsed]
  rw [ServerConfig.init]
  change (ServerConnectConfig.new "1.2.3.4:5" "key" noLookup >>= _) = _
  rw [connects]
  rfl

def disabledServer : Server :=
  { namedServer true defaultServerAddress with
    config := { (namedServer true defaultServerAddress).config with enabled := false } }

def copied : Pending :=
  .lookUp "1.2.3.4:5" (namedServer true defaultServerAddress).config

def found : Pending :=
  .writeBack "1.2.3.4:5" (namedServer true defaultServerAddress).config
    (namedServer true resolvedAddress).config

def switchedOff : Session Bool :=
  unresolved.update fun proxy => { proxy with servers := [disabledServer] }

variable [Hashes]

theorem step_copied :
    (⟨unresolved, [], []⟩ : Concurrent Bool).step
        (.ensure (.ofServer (namedServer true defaultServerAddress))) =
      ⟨unresolved, [copied], []⟩ := by
  rfl

theorem step_switchedOff :
    (⟨unresolved, [copied], []⟩ : Concurrent Bool).step (.call (.setEnabled "1.2.3.4:5" false)) =
      ⟨switchedOff, [copied], [.enable 0 false]⟩ := by
  rfl

theorem step_found :
    (⟨switchedOff, [copied], [.enable 0 false]⟩ : Concurrent Bool).step (.resume 0 noLookup) =
      ⟨switchedOff, [found], [.enable 0 false]⟩ := by
  have resumed : copied.resume noLookup switchedOff = ⟨switchedOff, [], .waits found⟩ := by
    rw [copied, Pending.resume, namedServer_init]
    rfl
  change took _ _ (copied.resume noLookup switchedOff) = _
  rw [resumed]
  rfl

theorem step_writtenBack :
    (⟨switchedOff, [found], [.enable 0 false]⟩ : Concurrent Bool).step (.resume 0 noLookup) =
      ⟨unresolved.update fun proxy => { proxy with servers := [namedServer true resolvedAddress] },
        [], [.enable 0 false]⟩ := by
  rfl

end Concurrent

namespace Concurrent

/-- The server is switched off while it is looked up; the call succeeds, and
the write-back switches the server on again. -/
theorem setEnabled_lost :
    let _ := Hashes.folding
    let start : Concurrent Bool := { session := unresolved, pending := [], edits := [] }
    (EditCall.begin (.setEnabled "1.2.3.4:5" false) unresolved).next = .returns (.ok ()) ∧
      disabledMeanwhile.foldl step start =
        { session := unresolved.update fun proxy =>
            { proxy with servers := [namedServer true resolvedAddress] }
          pending := []
          edits := [.enable 0 false] } ∧
      ¬ (AllStates step (Shows unresolved.proxy.visible) start disabledMeanwhile ∧
        AllSteps step OnlySuccessful start disabledMeanwhile) := by
  intro _ start
  refine ⟨rfl, ?_, ?_⟩
  · simp only [disabledMeanwhile, start, List.foldl_cons, List.foldl_nil, step_copied,
      step_switchedOff, step_found, step_writtenBack]
  · intro shown
    obtain ⟨_, _, _, current, _⟩ := (run_shows_iff unresolved disabledMeanwhile).mp shown
    rw [step_copied, step_switchedOff, step_found] at current
    have enabled := congrArg SettingsView.enabled (current 0 disabledServer rfl rfl)
    cases enabled

end Concurrent

end CovertConnect.Client
