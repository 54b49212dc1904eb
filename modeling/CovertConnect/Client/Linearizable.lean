import CovertConnect.Client.HostNames
import CovertConnect.Client.Removal

namespace CovertConnect.Client

open CovertConnect.Data CovertConnect.Crypto

/-! # Routing calls that overlap

Each call first takes its turn on the direct list and then its turn on the lists
of the servers.  A run of overlapping calls amounts to the calls one after the
other, in the order of their turns on the direct list, where no call overtakes
another one on the servers in a way that shows. -/

namespace SettingsView

theorem withItems_comm {kind other : ItemKind}
    {change change' : Option (Multiset String) → Option (Multiset String)}
    (commutes : kind = other → ∀ items, change' (change items) = change (change' items))
    (settings : SettingsView) :
    (settings.withItems kind change).withItems other change' =
      (settings.withItems other change').withItems kind change := by
  by_cases same : kind = other
  · subst same
    simp only [withItems, Function.update_self, Function.update_idem, commutes rfl]
  · simp only [withItems, Function.update_of_ne same, Function.update_of_ne (Ne.symm same)]
    rw [Function.update_comm same]

end SettingsView

theorem addToItems_comm (item other : String) (items : Option (Multiset String)) :
    addToItems other (addToItems item items) = addToItems item (addToItems other items) := by
  by_cases same : item = other
  · rw [same]
  have differ : ¬ other = item := fun same' => same same'.symm
  cases items with
  | none =>
      have pair : ({other, item} : Multiset String) = {item, other} := Multiset.pair_comm other item
      simpa [addToItems, same, differ] using pair
  | some items =>
      by_cases first : item ∈ items
      · by_cases second : other ∈ items
        · simp [addToItems, first, second]
        · simp [addToItems, first, second]
      · by_cases second : other ∈ items
        · simp [addToItems, first, second]
        · simp [addToItems, first, second, same, differ, Multiset.cons_swap]

theorem addToItems_erase {item other : String} (differ : item ≠ other)
    (items : Option (Multiset String)) :
    (addToItems item items).map (·.erase other) = addToItems item (items.map (·.erase other)) := by
  cases items with
  | none => simp [addToItems, Multiset.erase_of_notMem, Ne.symm differ]
  | some items =>
      by_cases present : item ∈ items
      · simp [addToItems, present, Multiset.mem_erase_of_ne differ]
      · simp [addToItems, present, Multiset.mem_erase_of_ne differ,
          Multiset.erase_cons_tail _ differ]

namespace Edit

/-- The edits that calls make on the lists of the servers. -/
def Routes : Edit → Prop
  | .assign .. | .clear .. => True
  | _ => False

/-- What such an edit does to the server at `idx`. -/
def onServer : Edit → Nat → SettingsView → SettingsView
  | .assign kind item pos, idx, settings =>
      if idx = pos then settings.withItems kind (addToItems item) else settings
  | .clear kind item, _, settings => settings.withItems kind (Option.map (·.erase item))
  | _, _, settings => settings

/-- To give an item to a server and to take it from all servers do not
commute. -/
def Compatible : Edit → Edit → Prop
  | .assign kind item _, .clear kind' item' | .clear kind item, .assign kind' item' _ =>
      (kind, item) ≠ (kind', item')
  | _, _ => True

theorem onServer_comm {edit other : Edit} (compatible : edit.Compatible other) (idx : Nat)
    (settings : SettingsView) :
    other.onServer idx (edit.onServer idx settings) =
      edit.onServer idx (other.onServer idx settings) := by
  have mixed : ∀ (kind kind' : ItemKind) (item item' : String), (kind, item) ≠ (kind', item') →
      (settings.withItems kind (addToItems item)).withItems kind' (Option.map (·.erase item')) =
        (settings.withItems kind' (Option.map (·.erase item'))).withItems kind
          (addToItems item) := by
    intro kind kind' item item' differ
    refine SettingsView.withItems_comm (fun same items => addToItems_erase ?_ items) settings
    intro same
    subst same
    exact differ (by rw [same])
  cases edit with
  | assign kind item pos =>
      cases other with
      | assign kind' item' pos' =>
          simp only [onServer]
          split
          · split
            · exact SettingsView.withItems_comm (fun _ => addToItems_comm item item') settings
            · rfl
          · rfl
      | clear kind' item' =>
          simp only [onServer]
          split
          · exact mixed kind kind' item item' compatible
          · rfl
      | _ => rfl
  | clear kind item =>
      cases other with
      | assign kind' item' pos' =>
          simp only [onServer]
          split
          · exact (mixed kind' kind item' item fun same => compatible same.symm).symm
          · rfl
      | clear kind' item' =>
          refine SettingsView.withItems_comm (fun _ items => ?_) settings
          cases items with
          | none => rfl
          | some items => exact congrArg some (Multiset.erase_comm items item item')
      | _ => rfl
  | _ => rfl

theorem apply_routes {edit : Edit} (routes : edit.Routes) (visible : Visible) :
    Edit.apply visible edit =
      onServers (·.mapIdx fun idx => Prod.map (edit.onServer idx) id) visible := by
  have same : ∀ servers,
      servers = visible.servers.mapIdx (fun idx => Prod.map (edit.onServer idx) id) →
        onServers (fun _ => servers) visible =
          onServers (·.mapIdx fun idx => Prod.map (edit.onServer idx) id) visible := by
    intro servers same
    subst same
    rfl
  cases edit with
  | assign kind item pos =>
      refine same _ (List.ext_getElem? fun idx => ?_)
      rw [List.getElem?_modify, List.getElem?_mapIdx]
      by_cases here : pos = idx
      · subst here
        have changed : (Edit.assign kind item pos).onServer pos =
            (·.withItems kind (addToItems item)) :=
          funext fun _ => if_pos rfl
        simp only [if_true, changed]
        rfl
      · have kept : (Edit.assign kind item pos).onServer idx = id :=
          funext fun _ => if_neg (Ne.symm here)
        simp only [if_neg here, kept, Prod.map_id]
        rfl
  | clear kind item =>
      refine same _ (List.ext_getElem? fun idx => ?_)
      rw [List.getElem?_map, List.getElem?_mapIdx]
      rfl
  | _ => exact absurd routes id

theorem apply_comm {edit other : Edit} (routes : edit.Routes) (routes' : other.Routes)
    (compatible : edit.Compatible other) (visible : Visible) :
    Edit.apply (Edit.apply visible edit) other = Edit.apply (Edit.apply visible other) edit := by
  simp only [apply_routes routes, apply_routes routes', onServers, List.mapIdx_mapIdx]
  have swapped : ∀ idx, Prod.map (other.onServer idx) id ∘ Prod.map (edit.onServer idx) id =
      (Prod.map (edit.onServer idx) id ∘ Prod.map (other.onServer idx) id :
        SettingsView × ServerState → SettingsView × ServerState) := by
    intro idx
    funext entry
    cases entry with
    | mk settings state => exact congrArg (·, state) (onServer_comm compatible idx settings)
  rw [funext swapped]

/-- The edits that calls make on the direct lists. -/
def Directs : Edit → Prop
  | .eraseDirect .. | .addDirect .. => True
  | _ => False

theorem apply_directs {edit : Edit} (directs : edit.Directs) {other : Edit}
    (routes : other.Routes) (visible : Visible) :
    Edit.apply (Edit.apply visible other) edit = Edit.apply (Edit.apply visible edit) other := by
  cases edit with
  | eraseDirect kind item | addDirect kind item =>
      rw [apply_routes routes, apply_routes routes]
      rfl
  | _ => exact absurd directs id

/-- What is done to the direct lists may be done before anything is done to
the lists of the servers. -/
theorem directs_first {directs routes : List Edit} (first : ∀ edit ∈ directs, edit.Directs)
    (others : ∀ edit ∈ routes, edit.Routes) (visible : Visible) :
    directs.foldl Edit.apply (routes.foldl Edit.apply visible) =
      routes.foldl Edit.apply (directs.foldl Edit.apply visible) := by
  induction directs generalizing visible with
  | nil => rfl
  | cons edit directs ih =>
      have moved : Edit.apply (routes.foldl Edit.apply visible) edit =
          routes.foldl Edit.apply (Edit.apply visible edit) :=
        foldl_last (fun other there =>
          apply_directs (first edit List.mem_cons_self) (others other there)) visible
      rw [List.foldl_cons, List.foldl_cons, moved,
        ih fun later there => first later (List.mem_cons_of_mem _ there)]

theorem routes_direct {routes : List Edit} (all : ∀ edit ∈ routes, edit.Routes)
    (visible : Visible) : (routes.foldl Edit.apply visible).direct = visible.direct := by
  induction routes generalizing visible with
  | nil => rfl
  | cons edit routes ih =>
      rw [List.foldl_cons, ih fun later there => all later (List.mem_cons_of_mem _ there),
        apply_routes (all edit List.mem_cons_self)]
      rfl

end Edit

/-- What a call does to the direct list, and what it does then to the lists of
the servers. -/
structure Parts where
  directs : List Edit
  routes : List Edit

def setParts (kind : ItemKind) (item serverHost : String) (proxy : Proxy) : Parts :=
  if serverHost ≠ "" then
    ⟨[.eraseDirect kind item], ((proxy.position serverHost).map (.assign kind item)).toList⟩
  else if item ∈ kind.direct proxy then ⟨[], [.clear kind item]⟩
  else ⟨[.addDirect kind item], [.clear kind item]⟩

def removeParts (kind : ItemKind) (item : String) (proxy : Proxy) : Parts :=
  if item ∈ kind.direct proxy then ⟨[.eraseDirect kind item], [.clear kind item]⟩ else ⟨[], []⟩

theorem setParts_directs (kind : ItemKind) (item serverHost : String) (proxy : Proxy) :
    ∀ edit ∈ (setParts kind item serverHost proxy).directs, edit.Directs := by
  rw [setParts]
  split
  · simp [Edit.Directs]
  · split <;> simp [Edit.Directs]

theorem removeParts_directs (kind : ItemKind) (item : String) (proxy : Proxy) :
    ∀ edit ∈ (removeParts kind item proxy).directs, edit.Directs := by
  rw [removeParts]
  split <;> simp [Edit.Directs]

theorem visible_rerouted (kind : ItemKind) (direct : List String) (servers : List Server)
    (proxy : Proxy) :
    (proxy.rerouted kind direct servers).visible =
      Edit.onServers (fun _ => servers.map Server.view)
        (Edit.onDirect kind (fun _ => direct) proxy.visible) := by
  rw [Proxy.rerouted, visible_onServers, visible_withDirect]
  rfl

theorem view_assign (kind : ItemKind) (item : String) (servers : List Server) (pos : Nat) :
    (servers.modify pos (Server.mapItems kind (addItem item))).map Server.view =
      (servers.map Server.view).modify pos
        (Prod.map (·.withItems kind (addToItems item)) id) :=
  map_modify Server.view _ _ (fun srv => view_mapItems kind srv (addItem_multiset item)) servers pos

theorem view_clear (kind : ItemKind) (item : String) (servers : List Server) :
    (servers.map (Server.mapItems kind (Option.map (List.erase · item)))).map Server.view =
      (servers.map Server.view).map
        (Prod.map (·.withItems kind (Option.map (·.erase item))) id) := by
  rw [List.map_map, List.map_map]
  exact List.map_congr_left fun srv _ => view_mapItems kind srv (erase_multiset item)

theorem setItem_visible (kind : ItemKind) (item serverHost : String) (proxy : Proxy) :
    let parts := setParts kind item serverHost proxy
    (Proxy.setItem kind item serverHost proxy).2.visible =
      parts.routes.foldl Edit.apply (parts.directs.foldl Edit.apply proxy.visible) := by
  dsimp only
  by_cases named : serverHost ≠ ""
  · rw [setParts, if_pos named]
    cases known : proxy.position serverHost with
    | some pos =>
        rw [Proxy.setItem_known named known, visible_rerouted, view_assign]
        rfl
    | none =>
        rw [Proxy.setItem_unknown named known, visible_rerouted]
        rfl
  · rw [setParts, if_neg named, not_not.mp named, Proxy.setItem_direct, visible_rerouted,
      view_clear]
    by_cases present : item ∈ kind.direct proxy
    · have kept : Edit.onDirect kind (fun _ => kind.direct proxy) proxy.visible =
          proxy.visible :=
        congrArg (Visible.mk · proxy.visible.servers)
          (Function.update_eq_self kind proxy.visible.direct)
      rw [if_pos present, if_pos present, kept]
      rfl
    · rw [if_neg present, if_neg present]
      rfl

theorem removeItem_visible (kind : ItemKind) (item : String) (proxy : Proxy) :
    let parts := removeParts kind item proxy
    (Proxy.removeItem kind item proxy).2.visible =
      parts.routes.foldl Edit.apply (parts.directs.foldl Edit.apply proxy.visible) := by
  dsimp only
  by_cases present : item ∈ kind.direct proxy
  · rw [removeParts, if_pos present, Proxy.removeItem_present present, visible_rerouted, view_clear]
    rfl
  · rw [removeParts, if_neg present, Proxy.removeItem_missing present]
    rfl

/-- A host has its place by the hosts of the servers alone. -/
theorem position_congr {left right : Proxy} (same : hosts left.servers = hosts right.servers)
    (host : String) : left.position host = right.position host := by
  have byHosts : ∀ proxy : Proxy,
      proxy.position host = (hosts proxy.servers).findIdx? (· = host) := by
    intro proxy
    rw [Proxy.position, hosts, List.findIdx?_map]
    rfl
  rw [byHosts, byHosts, same]

theorem Edit.onHosts_routes {edit : Edit} (routes : edit.Routes) (hosts : List String) :
    edit.onHosts hosts = hosts := by
  cases edit with
  | assign | clear => rfl
  | _ => exact absurd routes id

namespace ItemKind

theorem setItem_hosts (kind : ItemKind) (item serverHost : String) (proxy : Proxy) :
    hosts (Proxy.setItem kind item serverHost proxy).2.servers = hosts proxy.servers := by
  by_cases named : serverHost ≠ ""
  · cases known : proxy.position serverHost with
    | some pos =>
        rw [Proxy.setItem_known named known]
        exact Edit.hosts_onList proxy.servers (.assign kind item pos)
    | none => rw [Proxy.setItem_unknown named known, Proxy.rerouted_servers]
  · rw [not_not.mp named, Proxy.setItem_direct]
    exact Edit.hosts_onList proxy.servers (.clear kind item)

theorem removeItem_hosts (kind : ItemKind) (item : String) (proxy : Proxy) :
    hosts (Proxy.removeItem kind item proxy).2.servers = hosts proxy.servers := by
  by_cases present : item ∈ kind.direct proxy
  · rw [Proxy.removeItem_present present]
    exact Edit.hosts_onList proxy.servers (.clear kind item)
  · rw [Proxy.removeItem_missing present]

end ItemKind

namespace RoutingCall

def request : RoutingCall → EditCall
  | .setDomain domain serverHost => .setItem .domain domain serverHost
  | .removeDomain domain => .removeItem .domain domain
  | .setApp app serverHost => .setItem .app app serverHost
  | .removeApp app => .removeItem .app app

def parts (proxy : Proxy) : RoutingCall → Parts
  | .setDomain domain serverHost => setParts .domain domain serverHost proxy
  | .removeDomain domain => removeParts .domain domain proxy
  | .setApp app serverHost => setParts .app app serverHost proxy
  | .removeApp app => removeParts .app app proxy

theorem parts_directs (proxy : Proxy) (call : RoutingCall) :
    ∀ edit ∈ (call.parts proxy).directs, edit.Directs := by
  cases call with
  | setDomain | setApp => exact setParts_directs _ _ _ _
  | removeDomain | removeApp => exact removeParts_directs _ _ _

theorem parts_congr {left right : Proxy} (direct : left.visible.direct = right.visible.direct)
    (same : hosts left.servers = hosts right.servers) (call : RoutingCall) :
    call.parts left = call.parts right := by
  have direct : ∀ kind : ItemKind, kind.direct left = kind.direct right := congrFun direct
  have position := position_congr same
  cases call with
  | setDomain | setApp => simp only [parts, setParts, direct, position]
  | removeDomain | removeApp => simp only [parts, removeParts, direct]

theorem after_visible (proxy : Proxy) (call : RoutingCall) :
    (after proxy call).visible = (call.parts proxy).routes.foldl Edit.apply
      ((call.parts proxy).directs.foldl Edit.apply proxy.visible) := by
  cases call with
  | setDomain | setApp => exact setItem_visible ..
  | removeDomain | removeApp => exact removeItem_visible ..

theorem after_hosts (proxy : Proxy) (call : RoutingCall) :
    hosts (after proxy call).servers = hosts proxy.servers := by
  cases call with
  | setDomain | setApp => exact ItemKind.setItem_hosts ..
  | removeDomain | removeApp => exact ItemKind.removeItem_hosts ..

theorem run_hosts (proxy : Proxy) (calls : List RoutingCall) :
    hosts (calls.foldl after proxy).servers = hosts proxy.servers := by
  induction calls generalizing proxy with
  | nil => rfl
  | cons call calls ih => rw [List.foldl_cons, ih, after_hosts]

end RoutingCall

def ItemKind.setDirectCall (item : String) : ItemKind → RoutingCall
  | .domain => .setDomain item ""
  | .app => .setApp item ""

namespace Pending

def Routing : Pending → Prop
  | .assign .. | .addDirect .. | .clear .. => True
  | _ => False

/-- The call of this turn, where it has not had its turn on the direct list. -/
def unplaced : Pending → Option RoutingCall
  | .addDirect kind item => some (kind.setDirectCall item)
  | _ => none

theorem serverEdit_routes {pending : Pending} (routing : pending.Routing) {proxy : Proxy}
    {edit : Edit} (found : pending.serverEdit proxy = some edit) : edit.Routes := by
  cases pending with
  | assign =>
      obtain ⟨pos, _, rfl⟩ := Option.map_eq_some_iff.mp found
      exact trivial
  | clear =>
      cases found
      exact trivial
  | addDirect => cases found
  | _ => exact absurd routing id

theorem serverEdit_congr {left right : Proxy} (same : hosts left.servers = hosts right.servers)
    {pending : Pending} (routing : pending.Routing) :
    pending.serverEdit left = pending.serverEdit right := by
  cases pending with
  | assign kind item serverHost =>
      exact congrArg (Option.map (Edit.assign kind item)) (position_congr same serverHost)
  | clear | addDirect => rfl
  | _ => exact absurd routing id

end Pending

section Turns

variable {S : Type}

/-- The call of this turn has had its turn on the direct list. -/
structure Turn.Placed (session : Session S) (parts : Parts) (turn : Turn S) : Prop where
  servers : turn.session.proxy.servers = session.proxy.servers
  visible : turn.session.proxy.visible = parts.directs.foldl Edit.apply session.proxy.visible
  left : (∃ pending, turn.next = .waits pending ∧ pending.Routing ∧ pending.unplaced = none ∧
      (pending.serverEdit session.proxy).toList = parts.routes) ∨
    ∃ answer, turn.next = .returns answer ∧ parts.routes = []

theorem eraseDirect_placed {kind : ItemKind} {item : String} {session : Session S}
    {pending : Pending} {routes : List Edit} (routing : pending.Routing)
    (placed : pending.unplaced = none)
    (edits : (pending.serverEdit session.proxy).toList = routes) :
    (Turn.eraseDirect kind item session (.waits pending)).Placed session
      ⟨[.eraseDirect kind item], routes⟩ where
  servers := ItemKind.withDirect_servers kind _ _
  visible := Turn.eraseDirect_follows kind item session _
  left := .inl ⟨pending, rfl, routing, placed, edits⟩

/-- The turn a call begins with is its turn on the direct list, but for an item
that is missing there. -/
theorem begin_setItem (kind : ItemKind) (item serverHost : String) (session : Session S) :
    (EditCall.begin (.setItem kind item serverHost) session).Placed session
        (setParts kind item serverHost session.proxy) ∨
      serverHost = "" ∧ EditCall.begin (.setItem kind item serverHost) session =
        ⟨session, [], .waits (.addDirect kind item)⟩ := by
  rw [EditCall.begin, setParts]
  by_cases named : serverHost ≠ ""
  · rw [if_pos named, if_pos named]
    refine .inl ?_
    by_cases present : item ∈ kind.direct session.proxy
    · rw [if_pos present]
      exact eraseDirect_placed trivial rfl rfl
    · rw [if_neg present]
      refine ⟨rfl, ?_, .inl ⟨_, rfl, trivial, rfl, rfl⟩⟩
      have kept : Function.update session.proxy.visible.direct kind
          ((kind.direct session.proxy).erase item) = session.proxy.visible.direct := by
        rw [List.erase_of_not_mem present]
        exact Function.update_eq_self kind _
      exact (congrArg (Visible.mk · session.proxy.visible.servers) kept).symm
  · rw [if_neg named, if_neg named]
    by_cases present : item ∈ kind.direct session.proxy
    · rw [if_pos present, if_pos present]
      exact .inl ⟨rfl, rfl, .inl ⟨_, rfl, trivial, rfl, rfl⟩⟩
    · rw [if_neg present, if_neg present]
      exact .inr ⟨not_not.mp named, rfl⟩

theorem begin_removeItem (kind : ItemKind) (item : String) (session : Session S) :
    (EditCall.begin (.removeItem kind item) session).Placed session
      (removeParts kind item session.proxy) := by
  rw [EditCall.begin, removeParts]
  by_cases present : item ∈ kind.direct session.proxy
  · rw [if_pos present, if_pos present]
    exact eraseDirect_placed trivial rfl rfl
  · rw [if_neg present, if_neg present]
    exact ⟨rfl, rfl, .inr ⟨_, rfl, rfl⟩⟩

theorem begin_placed (call : RoutingCall) (session : Session S) :
    (call.request.begin session).Placed session (call.parts session.proxy) ∨
      ∃ kind item, call = ItemKind.setDirectCall item kind ∧
        call.request.begin session = ⟨session, [], .waits (.addDirect kind item)⟩ := by
  cases call with
  | setDomain domain serverHost =>
      refine (begin_setItem .domain domain serverHost session).imp_right ?_
      intro given
      obtain ⟨rfl, turn⟩ := given
      exact ⟨.domain, domain, rfl, turn⟩
  | setApp app serverHost =>
      refine (begin_setItem .app app serverHost session).imp_right ?_
      intro given
      obtain ⟨rfl, turn⟩ := given
      exact ⟨.app, app, rfl, turn⟩
  | removeDomain domain => exact .inl (begin_removeItem .domain domain session)
  | removeApp app => exact .inl (begin_removeItem .app app session)

variable [SystemProxy S] [Hashes]

/-- The last turn of a call is its turn on the lists of the servers. -/
theorem resume_placed (lookup : String → Except IoError (List SocketAddr)) {pending : Pending}
    (routing : pending.Routing) (placed : pending.unplaced = none) (session : Session S) :
    (pending.resume lookup session).edits = (pending.serverEdit session.proxy).toList ∧
      ∃ answer, (pending.resume lookup session).next = .returns answer := by
  cases pending with
  | assign kind item serverHost =>
      rw [Pending.resume, Pending.serverEdit]
      cases session.proxy.position serverHost with
      | none => exact ⟨rfl, _, rfl⟩
      | some pos => exact ⟨rfl, _, rfl⟩
  | clear kind item => exact ⟨rfl, _, rfl⟩
  | addDirect => cases placed
  | _ => exact absurd routing id

end Turns

/-- Calls that have begun, with the machine they run on. -/
structure Editing (S : Type) where
  machine : Concurrent S
  calls : List RoutingCall

inductive RoutingEvent where
  | begin (call : RoutingCall)
  | resume (idx : Nat)

/-- The direct lists and the lists of the servers, without their order. -/
structure RoutingLists where
  direct : ItemKind → Multiset String
  servers : List (ItemKind → Multiset String)

def Visible.lists (visible : Visible) : RoutingLists where
  direct kind := visible.direct kind
  servers := visible.servers.map fun srv kind => (srv.1.items kind).getD 0

def Proxy.lists (proxy : Proxy) : RoutingLists where
  direct kind := kind.direct proxy
  servers := proxy.servers.map fun srv kind => kind.listed srv.config

theorem visible_lists (proxy : Proxy) : proxy.visible.lists = proxy.lists := by
  have items : ∀ (srv : Server) (kind : ItemKind),
      (srv.view.1.items kind).getD 0 = (kind.listed srv.config : Multiset String) := by
    intro srv kind
    change ((kind.assigned srv.config).map Multiset.ofList).getD 0 = _
    rw [ItemKind.listed]
    cases kind.assigned srv.config <;> rfl
  rw [Visible.lists, Proxy.lists, Proxy.visible, List.map_map]
  exact congrArg (RoutingLists.mk _) (List.map_congr_left fun srv _ => funext (items srv))

namespace Editing

variable {S : Type}

def idle (session : Session S) : Editing S :=
  ⟨⟨session, [], []⟩, []⟩

def proxy (this : Editing S) : Proxy :=
  this.machine.session.proxy

/-- Once no call is under way, the lists are those that the calls leave one
after the other, in some order. -/
def Linearizable (start : Proxy) (this : Editing S) : Prop :=
  this.machine.pending = [] →
    ∃ order : List RoutingCall, order.Perm this.calls ∧
      (order.foldl RoutingCall.after start).lists = this.proxy.lists

/-- What waits for the servers before this call does. -/
def waiting (this : Editing S) (idx : Nat) : List Edit :=
  (this.machine.pending.take idx).filterMap (·.serverEdit this.proxy)

/-- An item is added to the direct list while it is missing there, and no call
overtakes another one that takes an item away where it gives it, or the other
way round. -/
def Orderly (this : Editing S) : RoutingEvent → Prop
  | .begin _ => True
  | .resume idx =>
      match this.machine.pending[idx]? with
      | some (.addDirect kind item) => item ∉ kind.direct this.proxy
      | some pending =>
          ∀ edit, pending.serverEdit this.proxy = some edit →
            ∀ other ∈ this.waiting idx, other.Compatible edit
      | none => True

variable [SystemProxy S] [Hashes]

def step (this : Editing S) : RoutingEvent → Editing S
  | .begin call => ⟨this.machine.step (.call call.request), this.calls ++ [call]⟩
  | .resume idx => ⟨this.machine.step (.resume idx Concurrent.noLookup), this.calls⟩

/-- The calls that have had their turn on the direct list, in that order, and
what they still have to do on the servers. -/
structure Inv (start : Proxy) (order : List RoutingCall) (this : Editing S) : Prop where
  sameHosts : hosts this.proxy.servers = hosts start.servers
  routing : ∀ pending ∈ this.machine.pending, pending.Routing
  calls : (order ++ this.machine.pending.filterMap Pending.unplaced).Perm this.calls
  settled : (order.foldl RoutingCall.after start).visible =
    (this.machine.pending.filterMap (·.serverEdit start)).foldl Edit.apply this.proxy.visible

section Steps

omit [SystemProxy S] [Hashes]

variable {start : Proxy} {order : List RoutingCall} {this : Editing S}

theorem Inv.idle (session : Session S) : Inv session.proxy [] (idle session) where
  sameHosts := rfl
  routing := by
    intro pending none
    cases none
  calls := List.Perm.refl _
  settled := rfl

theorem Inv.routes (inv : Inv start order this) :
    ∀ edit ∈ this.machine.pending.filterMap (·.serverEdit start), edit.Routes := by
  intro edit found
  obtain ⟨pending, there, found⟩ := List.mem_filterMap.mp found
  exact Pending.serverEdit_routes (inv.routing pending there) found

theorem Inv.serverEdit (inv : Inv start order this) {pending : Pending}
    (routing : pending.Routing) : pending.serverEdit this.proxy = pending.serverEdit start :=
  Pending.serverEdit_congr inv.sameHosts routing

theorem Inv.linearizable (inv : Inv start order this) : this.Linearizable start := by
  intro ended
  have calls := inv.calls
  have settled := inv.settled
  rw [ended] at calls settled
  refine ⟨order, by simpa using calls, ?_⟩
  rw [← visible_lists, ← visible_lists, settled]
  rfl

/-- A call that has its turn on the direct list next is next in the order. -/
theorem Inv.placed (inv : Inv start order this) (call : RoutingCall) :
    ((order ++ [call]).foldl RoutingCall.after start).visible =
      (this.machine.pending.filterMap (·.serverEdit start) ++
          (call.parts this.proxy).routes).foldl Edit.apply
        ((call.parts this.proxy).directs.foldl Edit.apply this.proxy.visible) := by
  have same : call.parts (order.foldl RoutingCall.after start) = call.parts this.proxy := by
    refine RoutingCall.parts_congr ?_ ((RoutingCall.run_hosts start order).trans inv.sameHosts.symm) call
    rw [inv.settled, Edit.routes_direct inv.routes]
  rw [List.foldl_append, List.foldl_cons, List.foldl_nil, RoutingCall.after_visible, same,
    inv.settled, Edit.directs_first (call.parts_directs this.proxy) inv.routes, List.foldl_append]

/-- The calls of other turns than one are still calls. -/
theorem Inv.others (inv : Inv start order this) {pending : Pending} {front back : List Pending}
    (split : this.machine.pending = front ++ pending :: back) :
    ∀ other ∈ front ++ back, other.Routing := by
  intro other there
  refine inv.routing other ?_
  rw [split]
  simp only [List.mem_append, List.mem_cons] at there ⊢
  exact there.imp_right .inr

theorem Inv.placed_calls (inv : Inv start order this) (call : RoutingCall) :
    ((order ++ [call]) ++ this.machine.pending.filterMap Pending.unplaced).Perm
      (this.calls ++ [call]) := by
  have moved : (order ++ ([call] ++ this.machine.pending.filterMap Pending.unplaced)).Perm
      (order ++ (this.machine.pending.filterMap Pending.unplaced ++ [call])) :=
    List.Perm.append_left order List.perm_append_comm
  rw [← List.append_assoc, ← List.append_assoc] at moved
  exact moved.trans (inv.calls.append_right [call])

theorem filterMap_serverEdit (pending : Pending) (proxy : Proxy) :
    [pending].filterMap (·.serverEdit proxy) = (pending.serverEdit proxy).toList := by
  cases found : pending.serverEdit proxy with
  | none => rw [List.filterMap_cons_none found]; rfl
  | some edit => rw [List.filterMap_cons_some found]; rfl

variable {call : RoutingCall} {turn : Turn S}

theorem took_waits (machine : Concurrent S) (others : List Pending) {pending : Pending}
    (waits : turn.next = .waits pending) :
    (machine.took others turn).pending = others ++ [pending] := by
  rw [Concurrent.took, waits]

theorem took_returns (machine : Concurrent S) (others : List Pending) {answer : Except Error Unit}
    (returns : turn.next = .returns answer) : (machine.took others turn).pending = others := by
  rw [Concurrent.took, returns]

theorem Inv.begun (inv : Inv start order this)
    (placed : turn.Placed this.machine.session (call.parts this.proxy)) :
    Inv start (order ++ [call])
      ⟨this.machine.took this.machine.pending turn, this.calls ++ [call]⟩ := by
  have visible : turn.session.proxy.visible =
      (call.parts this.proxy).directs.foldl Edit.apply this.proxy.visible := placed.visible
  have settled := inv.placed call
  rw [← visible] at settled
  have kept : hosts turn.session.proxy.servers = hosts start.servers :=
    (congrArg hosts placed.servers).trans inv.sameHosts
  rcases placed.left with ⟨pending, waits, routing, unplaced, edits⟩ | ⟨answer, returns, edits⟩
  · have waiting := took_waits this.machine this.machine.pending waits
    have edits : (pending.serverEdit this.proxy).toList = (call.parts this.proxy).routes := edits
    refine ⟨kept, ?_, ?_, ?_⟩
    · rw [waiting]
      exact List.forall_mem_append.mpr ⟨inv.routing, by simpa using routing⟩
    · rw [waiting, List.filterMap_append, List.filterMap_cons_none unplaced, List.filterMap_nil,
        List.append_nil]
      exact inv.placed_calls call
    · rw [waiting, List.filterMap_append, filterMap_serverEdit, ← inv.serverEdit routing, edits]
      exact settled
  · have waiting := took_returns this.machine this.machine.pending returns
    rw [edits, List.append_nil] at settled
    refine ⟨kept, ?_, ?_, ?_⟩
    · rw [waiting]
      exact inv.routing
    · rw [waiting]
      exact inv.placed_calls call
    · rw [waiting]
      exact settled

/-- A call that has found its item missing waits for its turn on the direct
list. -/
theorem Inv.begun_missing (inv : Inv start order this) (kind : ItemKind) (item : String) :
    Inv start order
      ⟨this.machine.took this.machine.pending
          ⟨this.machine.session, [], .waits (.addDirect kind item)⟩,
        this.calls ++ [kind.setDirectCall item]⟩ := by
  have waiting : (this.machine.took this.machine.pending
      ⟨this.machine.session, [], .waits (.addDirect kind item)⟩).pending =
        this.machine.pending ++ [.addDirect kind item] := rfl
  refine ⟨inv.sameHosts, ?_, ?_, ?_⟩
  · rw [waiting]
    exact List.forall_mem_append.mpr ⟨inv.routing, by simp [Pending.Routing]⟩
  · rw [waiting, List.filterMap_append, ← List.append_assoc]
    exact inv.calls.append_right _
  · rw [waiting, List.filterMap_append, filterMap_serverEdit, Pending.serverEdit, Option.toList,
      List.append_nil]
    exact inv.settled

variable {pending : Pending} {front back : List Pending}

/-- An edit that commutes with those it overtakes is made out of turn. -/
theorem Inv.overtaken (inv : Inv start order this)
    (split : this.machine.pending = front ++ pending :: back)
    (compatible : ∀ edit, pending.serverEdit this.proxy = some edit →
      ∀ other ∈ front.filterMap (·.serverEdit this.proxy), other.Compatible edit) :
    (order.foldl RoutingCall.after start).visible =
      ((front ++ back).filterMap (·.serverEdit start)).foldl Edit.apply
        ((pending.serverEdit this.proxy).toList.foldl Edit.apply this.proxy.visible) := by
  have others := inv.others split
  have routing : pending.Routing := inv.routing pending (by rw [split]; simp)
  have edit := inv.serverEdit routing
  have settled := inv.settled
  rw [split, List.filterMap_append] at settled
  rw [edit, List.filterMap_append]
  cases found : pending.serverEdit start with
  | none =>
      rw [List.filterMap_cons_none found] at settled
      exact settled
  | some change =>
      rw [List.filterMap_cons_some found] at settled
      refine settled.trans (foldl_first (fun other there visible => ?_) _)
      obtain ⟨earlier, before, made⟩ := List.mem_filterMap.mp there
      have earlierRouting := others earlier (List.mem_append_left _ before)
      have now := (inv.serverEdit earlierRouting).trans made
      refine Edit.apply_comm (Pending.serverEdit_routes earlierRouting made)
        (Pending.serverEdit_routes routing found) ?_ visible
      exact compatible change (edit.trans found) other
        (List.mem_filterMap.mpr ⟨earlier, before, now⟩)

end Steps

theorem resume_hosts {pending : Pending} (routing : pending.Routing) (session : Session S) :
    hosts (pending.resume Concurrent.noLookup session).session.proxy.servers =
      hosts session.proxy.servers := by
  rw [Concurrent.resume_servers]
  cases found : pending.serverEdit session.proxy with
  | none => rfl
  | some edit =>
      have routes := Pending.serverEdit_routes routing found
      exact (Edit.hosts_onList _ edit).trans (Edit.onHosts_routes routes _)

theorem begin_inv {start : Proxy} {order : List RoutingCall} {this : Editing S}
    (inv : Inv start order this) (call : RoutingCall) :
    ∃ order, Inv start order (this.step (.begin call)) := by
  rcases begin_placed call this.machine.session with placed | ⟨kind, item, rfl, begun⟩
  · exact ⟨order ++ [call], inv.begun placed⟩
  · have next : this.step (.begin (kind.setDirectCall item)) =
        ⟨this.machine.took this.machine.pending
            ⟨this.machine.session, [], .waits (.addDirect kind item)⟩,
          this.calls ++ [kind.setDirectCall item]⟩ := by
      rw [← begun]
      rfl
    rw [next]
    exact ⟨order, inv.begun_missing kind item⟩

/-- The last turn of a call, on the lists of the servers. -/
theorem Inv.resumed {start : Proxy} {order : List RoutingCall} {this : Editing S}
    (inv : Inv start order this) {pending : Pending} {front back : List Pending}
    (split : this.machine.pending = front ++ pending :: back) (unplaced : pending.unplaced = none)
    (compatible : ∀ edit, pending.serverEdit this.proxy = some edit →
      ∀ other ∈ front.filterMap (·.serverEdit this.proxy), other.Compatible edit) :
    Inv start order
      ⟨this.machine.took (front ++ back)
        (pending.resume Concurrent.noLookup this.machine.session), this.calls⟩ := by
  have routing : pending.Routing := inv.routing pending (by rw [split]; simp)
  have notWriteBack : ∀ host cloned config, pending ≠ .writeBack host cloned config := by
    intro host cloned config same
    rw [same] at routing
    exact routing
  obtain ⟨edits, answer, returns⟩ :=
    resume_placed Concurrent.noLookup routing unplaced this.machine.session
  have visible := resume_follows Concurrent.noLookup pending this.machine.session notWriteBack
  rw [Turn.Follows, edits] at visible
  have waiting := took_returns this.machine (front ++ back) returns
  have calls := inv.calls
  rw [split, List.filterMap_append, List.filterMap_cons_none unplaced,
    ← List.filterMap_append] at calls
  refine ⟨(resume_hosts routing this.machine.session).trans inv.sameHosts, ?_, ?_, ?_⟩
  · rw [waiting]
    exact inv.others split
  · rw [waiting]
    exact calls
  · rw [waiting, inv.overtaken split compatible]
    exact congrArg (((front ++ back).filterMap (·.serverEdit start)).foldl Edit.apply) visible.symm

/-- The turn of a call on the direct list, where its item is missing. -/
theorem Inv.added {start : Proxy} {order : List RoutingCall} {this : Editing S}
    (inv : Inv start order this) {kind : ItemKind} {item : String} {front back : List Pending}
    (split : this.machine.pending = front ++ .addDirect kind item :: back)
    (missing : item ∉ kind.direct this.proxy) :
    Inv start (order ++ [kind.setDirectCall item])
      ⟨this.machine.took (front ++ back)
        ((Pending.addDirect kind item).resume Concurrent.noLookup this.machine.session),
        this.calls⟩ := by
  have parts : (kind.setDirectCall item).parts this.proxy =
      ⟨[.addDirect kind item], [.clear kind item]⟩ := by
    have direct : setParts kind item "" this.proxy =
        ⟨[.addDirect kind item], [.clear kind item]⟩ := by
      rw [setParts, if_neg (fun named => named rfl), if_neg missing]
    cases kind <;> exact direct
  have visible : Edit.apply this.proxy.visible (.addDirect kind item) =
      ((Pending.addDirect kind item).resume Concurrent.noLookup
        this.machine.session).session.proxy.visible :=
    (resume_follows Concurrent.noLookup (.addDirect kind item) this.machine.session
      (by simp)).symm
  have waiting : (this.machine.took (front ++ back) ((Pending.addDirect kind item).resume
      Concurrent.noLookup this.machine.session)).pending =
        front ++ back ++ [.clear kind item] := rfl
  have unplaced : (Pending.addDirect kind item).unplaced = some (kind.setDirectCall item) := rfl
  have placed : (Pending.clear kind item).unplaced = none := rfl
  have added : (Pending.addDirect kind item).serverEdit start = none := rfl
  have settled := inv.placed (kind.setDirectCall item)
  have calls := inv.calls
  rw [parts, split, List.filterMap_append, List.filterMap_cons_none added,
    ← List.filterMap_append] at settled
  rw [split, List.filterMap_append, List.filterMap_cons_some unplaced] at calls
  have routing : (Pending.addDirect kind item).Routing := trivial
  have kept : hosts ((Pending.addDirect kind item).resume Concurrent.noLookup
      this.machine.session).session.proxy.servers = hosts this.proxy.servers :=
    resume_hosts routing this.machine.session
  have tail : (front ++ back ++ [Pending.clear kind item]).filterMap (·.serverEdit start) =
      (front ++ back).filterMap (·.serverEdit start) ++ [Edit.clear kind item] := by
    rw [List.filterMap_append, filterMap_serverEdit]
    rfl
  refine ⟨kept.trans inv.sameHosts, ?_, ?_, ?_⟩
  · rw [waiting]
    exact List.forall_mem_append.mpr ⟨inv.others split, by simp [Pending.Routing]⟩
  · refine List.Perm.trans ?_ calls
    rw [waiting, List.append_assoc, List.filterMap_append, List.filterMap_append,
      List.filterMap_cons_none placed, List.filterMap_nil, List.append_nil, List.singleton_append]
    exact List.Perm.append_left order List.perm_middle.symm
  · rw [settled, waiting]
    change ((front ++ back).filterMap (·.serverEdit start) ++ [Edit.clear kind item]).foldl
      Edit.apply (Edit.apply this.proxy.visible (.addDirect kind item)) = _
    rw [visible, tail]
    rfl

theorem resume_inv {start : Proxy} {order : List RoutingCall} {this : Editing S}
    (inv : Inv start order this) (idx : Nat) (orderly : this.Orderly (.resume idx)) :
    ∃ order, Inv start order (this.step (.resume idx)) := by
  cases found : this.machine.pending[idx]? with
  | none =>
      have unmoved : this.step (.resume idx) = this := by
        simp only [step, Concurrent.step, Concurrent.turn, found, Option.map_none]
      exact ⟨order, unmoved.symm ▸ inv⟩
  | some pending =>
      obtain ⟨within, there⟩ := List.getElem?_eq_some_iff.mp found
      have split : this.machine.pending =
          this.machine.pending.take idx ++ pending :: this.machine.pending.drop (idx + 1) := by
        rw [← there, List.getElem_cons_drop, List.take_append_drop]
      have next : this.step (.resume idx) =
          ⟨this.machine.took
            (this.machine.pending.take idx ++ this.machine.pending.drop (idx + 1))
            (pending.resume Concurrent.noLookup this.machine.session), this.calls⟩ := by
        simp only [step, Concurrent.step, Concurrent.turn, found, Option.map_some]
        rw [← List.eraseIdx_eq_take_drop_succ]
        rfl
      rw [next]
      simp only [Orderly, found] at orderly
      have routing := inv.routing pending (List.mem_of_getElem? found)
      cases pending with
      | addDirect kind item => exact ⟨_, inv.added split orderly⟩
      | assign | clear => exact ⟨order, inv.resumed split rfl orderly⟩
      | _ => exact absurd routing id

/-- However many calls overlap, while each turn is orderly the lists are in the
end those of the same calls one after the other. -/
theorem run_linearizable (session : Session S) (events : List RoutingEvent)
    (orderly : AllSteps step Orderly (idle session) events) :
    AllStates step (Linearizable session.proxy) (idle session) events := by
  have start : ∃ order, Inv session.proxy order (idle session) := ⟨[], Inv.idle session⟩
  have next : ∀ (this : Editing S) event, (∃ order, Inv session.proxy order this) →
      this.Orderly event → ∃ order, Inv session.proxy order (this.step event) := by
    intro this event given orderly
    obtain ⟨order, inv⟩ := given
    cases event with
    | begin call => exact begin_inv inv call
    | resume idx => exact resume_inv inv idx orderly
  exact allStates_of_allSteps next (fun _ ⟨_, inv⟩ => inv.linearizable) start orderly

def oneServerSession : Session Bool :=
  ⟨Proxy.start (Service.oneServer .off), true⟩

/-- One domain goes to the server while the other one is sent directly. -/
def overlapping : List RoutingEvent :=
  [.begin (.setDomain "a.org" "first"), .begin (.setDomain "b.org" ""), .resume 1, .resume 1,
    .resume 0]

omit [Hashes] in
theorem overlapping_linearizable :
    let _ := Hashes.folding
    AllStates step (Linearizable oneServerSession.proxy) (idle oneServerSession) overlapping := by
  intro _
  have missing : "b.org" ∉ ([] : List String) := by simp
  refine run_linearizable oneServerSession overlapping ⟨trivial, trivial, missing, ?_, ?_, trivial⟩
  · intro edit none other overtaken
    cases none
    have other : other = .assign .domain "a.org" 0 := List.mem_singleton.mp overtaken
    subst other
    exact fun same => absurd (congrArg Prod.snd same) (by decide)
  · intro edit _ other overtaken
    cases overtaken

omit [Hashes] in
/-- Both calls see that the domain is missing, and both add it. -/
theorem setDomain_twice :
    let _ := Hashes.folding
    ¬ AllStates step (Linearizable oneServerSession.proxy) (idle oneServerSession)
      [.begin (.setDomain "x.org" ""), .begin (.setDomain "x.org" ""), .resume 0, .resume 0,
        .resume 0, .resume 0] := by
  intro _ all
  obtain ⟨_, _, _, _, _, _, ended⟩ := all
  obtain ⟨order, perm, lists⟩ := ended rfl
  have calls : order = List.replicate 2 (.setDomain "x.org" "") := List.perm_replicate.mp perm
  rw [calls] at lists
  have twice : (["x.org"] : Multiset String) = (["x.org", "x.org"] : List String) :=
    congrFun (congrArg RoutingLists.direct lists) .domain
  exact absurd (congrArg Multiset.card twice) (by decide)

end Editing

end CovertConnect.Client
