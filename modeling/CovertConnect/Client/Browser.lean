import CovertConnect.Client.PacVerdict
import CovertConnect.Client.SystemSettings

namespace CovertConnect.Client

open CovertConnect.Data CovertConnect.Data.JavaScript

/-! # What browsers are served

One listener takes the connections of the browsers that use the proxy and their
requests for the PAC file.  The settings of the system tell a browser where to
ask for the file, and the file tells it which hosts go to the proxy. -/

inductive Method where
  | connect
  | get
  | head
  | other
deriving DecidableEq, Repr

inductive Scheme where
  | http
  | https
  | other (name : List Char)
deriving DecidableEq, Repr

structure Uri where
  scheme : Option Scheme
  authority : Option (List Char)
  path : List Char
  query : Option (List Char)
deriving DecidableEq, Repr

structure Request where
  method : Method
  uri : Uri
deriving DecidableEq, Repr

inductive Response where
  /-- The connection is a tunnel to that host from now on. -/
  | upgraded (hostAddr : List Char)
  | badRequest
  | temporaryRedirect (location : List Char)
  | pacFile (content : List Char)
  | serviceUnavailable
  | notFound
  | methodNotAllowed
deriving DecidableEq, Repr

def Scheme.text : Scheme → List Char
  | .http => "http".toList
  | .https => "https".toList
  | .other name => name

namespace Uri

/-- What follows the scheme. -/
def afterScheme (uri : Uri) : List Char :=
  uri.authority.getD [] ++ uri.path ++ (uri.query.map ('?' :: ·)).getD []

/-- `Display for Uri`. -/
def text (uri : Uri) : List Char :=
  (uri.scheme.map fun scheme => scheme.text ++ "://".toList).getD [] ++ uri.afterScheme

end Uri

/-- `serve_proxy_connection`, up to its tunnel. -/
def serveProxyConnection (uri : Uri) : Response :=
  match uri.authority with
  | some hostAddr => .upgraded hostAddr
  | none => .badRequest

def pacRoute : List Char := "/pac/".toList

/-- `PAC_ROUTE_FULL`: the key is one segment of the path, and not empty. -/
def isPacRoute (path : List Char) : Bool :=
  pacRoute.isPrefixOf path && (path.drop pacRoute.length ≠ [] : Bool) &&
    ('/' ∉ path.drop pacRoute.length : Bool)

/-- The router with its one route, which answers `GET` and `HEAD`. -/
def pacRouter (service : PacFileService) (request : Request) : Response :=
  if isPacRoute request.uri.path then
    if request.method = .get ∨ request.method = .head then
      match service.pacHander with
      | some content => .pacFile content
      | none => .serviceUnavailable
    else .methodNotAllowed
  else .notFound

/-- The `Location` of a redirect. -/
def redirectLocation (uri : Uri) : List Char :=
  replaceAll "http".toList "https".toList uri.text

/-- `handle_request` of `serve`. -/
def handleRequest (service : PacFileService) (request : Request) : Response :=
  if request.method = .connect then serveProxyConnection request.uri
  else if request.uri.scheme = some .http then
    .temporaryRedirect (redirectLocation request.uri)
  else pacRouter service request

/-- A request in plain HTTP is sent to the same place in HTTPS just when no other
part of its address has the letters `http` in it. -/
theorem redirectLocation_iff (uri : Uri) (plain : uri.scheme = some .http) :
    redirectLocation uri = { uri with scheme := some .https }.text ↔
      ¬ "http".toList <:+: uri.afterScheme := by
  have some' : "http".toList ≠ [] := by decide
  have address : uri.text = "http".toList ++ ("://".toList ++ uri.afterScheme) := by
    rw [Uri.text, plain]
    exact List.append_assoc ..
  have secure : { uri with scheme := some .https }.text =
      "https".toList ++ ("://".toList ++ uri.afterScheme) := List.append_assoc ..
  have punctuation : replaceFrom "http".toList "https".toList ("://".toList ++ uri.afterScheme) 0 =
      "://".toList ++ replaceFrom "http".toList "https".toList uri.afterScheme 0 :=
    @replaceFrom_apart Char _ 'h' 't' ['t', 'p'] "://".toList (by decide) _ _
  rw [redirectLocation, replaceAll, address, replaceFrom_pattern some', secure, punctuation,
    List.append_cancel_left_eq, List.append_cancel_left_eq]
  constructor
  · intro same found
    obtain ⟨before, after, parts⟩ := found
    have more := count_replaceFrom some' (show 's' ∉ "http".toList by decide) "https".toList
      uri.afterScheme 0 (by simp)
    have positive : 0 < matchesFrom "http".toList uri.afterScheme 0 := by
      rw [← parts, List.append_assoc]
      exact matchesFrom_pos some' before after
    rw [same, show "https".toList.count 's' = 1 from by decide] at more
    omega
  · exact fun absent => replaceFrom_absent absent _

example : redirectLocation ⟨some .http, some "a.org".toList, "/http".toList, none⟩ =
    "https://a.org/https".toList := by
  decide

/-- What a browser asks for to get the file at an address: the server, and the
request in its origin form. -/
def requestFor (url : List Char) : Option (List Char × Request) :=
  if "http://".toList.isPrefixOf url then
    let rest := url.drop "http://".toList.length
    some (rest.takeWhile (· ≠ '/'),
      { method := .get
        uri := ⟨none, none, rest.dropWhile (· ≠ '/'), none⟩ })
  else none

/-- The address that `set_proxy_pac` gives to the system. -/
def pacUrl (port : UInt16) (key : Nat) : String :=
  "http://" ++ proxyAddressText port ++ "/pac/" ++ Session.hexUpper key

theorem mem_hexDigits {value : Nat} {char : Char} (found : char ∈ Nat.toDigits 16 value) :
    ∃ digit, digit < 16 ∧ char = digit.digitChar := by
  induction value using Nat.strongRecOn with
  | ind value ih =>
      rw [Nat.toDigits_eq_if (by decide)] at found
      split at found
      · rename_i small
        exact ⟨value, small, List.mem_singleton.mp found⟩
      · rename_i large
        rcases List.mem_append.mp found with front | last
        · exact ih (value / 16) (Nat.div_lt_self (by omega) (by decide)) front
        · exact ⟨value % 16, Nat.mod_lt _ (by decide), List.mem_singleton.mp last⟩

theorem hexUpper_segment (key : Nat) :
    (Session.hexUpper key).toList ≠ [] ∧ '/' ∉ (Session.hexUpper key).toList := by
  rw [Session.hexUpper, String.toList_ofList]
  constructor
  · exact mt List.map_eq_nil_iff.mp Nat.toDigits_ne_nil
  · intro found
    obtain ⟨char, there, upper⟩ := List.mem_map.mp found
    obtain ⟨digit, small, rfl⟩ := mem_hexDigits there
    have never : ∀ digit < 16, (Nat.digitChar digit).toUpper ≠ '/' := by decide
    exact never digit small upper

theorem proxyAddress_no_slash (port : UInt16) : '/' ∉ (proxyAddressText port).toList := by
  rw [proxyAddressText, String.toList_append, toString, instToStringNat, Nat.toList_repr,
    List.mem_append]
  intro found
  rcases found with fixed | digits
  · exact absurd fixed (by decide)
  · exact absurd (Nat.isDigit_of_mem_toDigits (by decide) (by decide) digits) (by decide)

/-- The address leads to the listener's own port and to its PAC route. -/
theorem requestFor_pacUrl (port : UInt16) (key : Nat) :
    ∃ request, requestFor (pacUrl port key).toList = some ((proxyAddressText port).toList, request) ∧
      request.method = .get ∧ request.uri.scheme = none ∧ isPacRoute request.uri.path = true := by
  obtain ⟨filled, single⟩ := hexUpper_segment key
  have parts : (pacUrl port key).toList = "http://".toList ++ ((proxyAddressText port).toList ++
      '/' :: ("pac/".toList ++ (Session.hexUpper key).toList)) := by
    simp only [pacUrl, String.toList_append, List.append_assoc]
    rfl
  have before : ∀ char ∈ (proxyAddressText port).toList, (char ≠ '/' : Bool) = true := by
    intro char there
    exact decide_eq_true fun same => proxyAddress_no_slash port (same ▸ there)
  have authority : ((proxyAddressText port).toList ++
      '/' :: ("pac/".toList ++ (Session.hexUpper key).toList)).takeWhile (· ≠ '/') =
        (proxyAddressText port).toList := by
    rw [List.takeWhile_append_of_pos before]
    simp
  have path : ((proxyAddressText port).toList ++
      '/' :: ("pac/".toList ++ (Session.hexUpper key).toList)).dropWhile (· ≠ '/') =
        pacRoute ++ (Session.hexUpper key).toList := by
    rw [List.dropWhile_append_of_pos before]
    rfl
  refine ⟨⟨.get, none, none, pacRoute ++ (Session.hexUpper key).toList, none⟩, ?_, rfl, rfl, ?_⟩
  · rw [requestFor, parts, if_pos (List.isPrefixOf_iff_prefix.mpr (List.prefix_append _ _))]
    dsimp only
    rw [List.drop_left, authority, path]
  · rw [isPacRoute, List.drop_left]
    simp [filled, single, List.isPrefixOf_iff_prefix]

namespace Session

variable {S : Type}

/-- In the PAC state the system has the address of the file at the present port. -/
def Points (session : Session (Recorded S)) : Prop :=
  session.proxy.proxyState = .pac →
    ∃ key, session.system.installed = .autoConfig (pacUrl session.port key)

theorem Points.congr {before after : Session (Recorded S)} (view : pacView after = pacView before)
    (system : after.system.installed = before.system.installed) (points : before.Points) :
    after.Points := by
  simp only [pacView, Prod.mk.injEq] at view
  rw [Points, port, view.1, view.2, system]
  exact points

/-- A call that the system refuses leaves its settings. -/
theorem callSystem_records {session : Session (Recorded S)} {installed : Installed}
    {call : Recorded S → Except Error Unit × Recorded S}
    (records : ∀ recorded, ∃ answer, call recorded = recorded.record installed answer) :
    (callSystem call session).2.system.installed = installed ∨
      (callSystem call session).1 ≠ .ok () ∧
        (callSystem call session).2.system.installed = session.system.installed := by
  obtain ⟨⟨error | value, system⟩, recorded⟩ := records session.system
  · rw [callSystem, recorded]
    exact .inr ⟨by simp [Recorded.record], rfl⟩
  · rw [callSystem, recorded]
    exact .inl rfl

variable [SystemProxy S]

theorem setProxyPac_installs (session : Session (Recorded S)) :
    (∃ key, (setProxyPac session).2.system.installed = .autoConfig (pacUrl session.port key)) ∨
      (setProxyPac session).1 ≠ .ok () ∧
        (setProxyPac session).2.system.installed = session.system.installed := by
  rcases callSystem_records (fun recorded => ⟨_, rfl⟩) with told | refused
  · exact .inl ⟨(SystemProxy.randomKey session.system).1, told⟩
  · exact .inr refused

/-- The settings follow a call that is answered, and are kept otherwise. -/
theorem setProxyPac_points (session : Session (Recorded S))
    (known : (setProxyPac session).1 = .ok () ∨ session.Points) : (setProxyPac session).2.Points := by
  have kept := setProxyStateInt_keeps .pac session
  intro state
  rw [port, show (setProxyPac session).2.proxy = session.proxy from kept]
  rcases setProxyPac_installs session with told | refused
  · exact told
  · rw [refused.2]
    exact (known.resolve_left refused.1) (kept ▸ state)

theorem setProxyStateInt_points (session : Session (Recorded S)) (proxyState : ProxyState)
    (state : session.proxy.proxyState = proxyState)
    (known : (setProxyStateInt proxyState session).1 = .ok () ∨ session.Points) :
    (setProxyStateInt proxyState session).2.Points := by
  have kept := setProxyStateInt_keeps proxyState session
  cases proxyState with
  | pac => exact setProxyPac_points session known
  | all =>
      intro pac
      rw [kept, state] at pac
      cases pac
  | off =>
      intro pac
      rw [kept, state] at pac
      cases pac

theorem resetProxy_points (session : Session (Recorded S))
    (answered : (resetProxy session).1 = .ok ()) : (resetProxy session).2.Points := by
  by_cases state : session.proxy.proxyState = .pac
  · rw [resetProxy_pac state] at answered ⊢
    exact setProxyPac_points _ (.inl answered)
  · rw [resetProxy_other state]
    exact fun pac => absurd pac state

theorem bind_resetProxy_points {call : Exec (Session (Recorded S)) Error Unit}
    {session : Session (Recorded S)}
    (answered : ((do call; resetProxy) session).1 = .ok ()) :
    ((do call; resetProxy) session).2.Points := by
  obtain ⟨_, middle, _, reset⟩ := Exec.bind_eq_ok.mp
    (Prod.ext answered (Eq.refl ((do call; resetProxy) session).2))
  have points := resetProxy_points middle (congrArg Prod.fst reset)
  rwa [reset] at points

theorem applyState_points (session : Session (Recorded S))
    (known : (applyState session).1 = .ok () ∨ session.Points) : (applyState session).2.Points := by
  rw [applyState, Exec.bind_ok (Exec.get_apply _)] at known ⊢
  by_cases on : session.proxy.proxyState = .off
  · rw [if_neg (not_not.mpr on)]
    intro pac
    exact absurd (on.symm.trans pac) (by decide)
  · rw [if_pos on] at known ⊢
    exact setProxyStateInt_points session _ rfl known

omit [SystemProxy S] in
theorem listen_system (bound : Except IoError Unit) (session : Session (Recorded S)) :
    (listen bound session).2.system = session.system := by
  cases bound <;> rfl

theorem serve_points (bound : Except IoError Unit) (session : Session (Recorded S))
    (known : (serve bound session).1 = .ok () ∨ session.Points) :
    (serve bound session).2.Points := by
  let initialized : Session (Recorded S) :=
    { session with proxy := { session.proxy with initialized := true } }
  have first : (serve bound : Exec (Session (Recorded S)) Error Unit) session =
      (applyState >>= fun _ => listen bound) initialized := rfl
  rw [first, Exec.bind_apply] at known ⊢
  rcases applied : applyState initialized with ⟨_ | error | reason, after⟩
  · have points := applyState_points initialized (.inl (by rw [applied]))
    rw [applied] at points
    exact points.congr (listen_keeps bound after)
      (congrArg Recorded.installed (listen_system bound after))
  · rw [applied] at known
    have points := applyState_points initialized (.inr (known.resolve_left (by simp)))
    rwa [applied] at points
  · rw [applied] at known
    have points := applyState_points initialized (.inr (known.resolve_left (by simp)))
    rwa [applied] at points

end Session

namespace Service

open PacScript

variable {S : Type} [SystemProxy S] {service : Service (Recorded S)}

omit [SystemProxy S] in
/-- Calls that change the proxy alone. -/
theorem onProxy_points {call : Exec Proxy Error Unit}
    (kept : Exec.Keeps (fun proxy => (proxy.pacService, proxy.proxyState)) call)
    (session : Session (Recorded S)) (points : session.Points) :
    (Session.onProxy call session).2.Points :=
  points.congr (kept session.proxy) rfl

theorem delServer_points (host : String) (session : Session (Recorded S))
    (points : session.Points) : (Session.delServer host session).2.Points := by
  rw [Session.delServer, Exec.bind_ok (Exec.get_apply _)]
  cases session.proxy.position host with
  | none => exact points
  | some idx =>
      dsimp only
      rw [Session.onProxy_bind, Exec.modify_apply]
      dsimp only
      split
      · intro pac
        rw [Session.setProxyState_proxy] at pac
        cases pac
      · exact points

theorem after_points {event : ServiceEvent} (points : service.session.Points)
    (succeeds : service.Succeeds event) : (service.after event).session.Points := by
  cases event with
  | serve bound => exact Session.serve_points bound service.session (.inr points)
  | takeRestart bound =>
      have system : (Session.takeRestart bound service.session).2.system = service.session.system := by
        rw [Session.takeRestart, Exec.bind_ok (Exec.get_apply _)]
        split
        · exact Session.listen_system bound _
        · rfl
      exact points.congr (Session.takeRestart_keeps bound service.session)
        (congrArg Recorded.installed system)
  | call request =>
      cases request with
      | setProxyState proxyState =>
          exact Session.setProxyStateInt_points
            { service.session with proxy := { service.session.proxy with proxyState } } proxyState rfl
            (.inl succeeds)
      | stop =>
          intro pac
          rw [show (service.after (.call .stop)).session.proxy = _ from
            Session.setProxyState_proxy .off service.session] at pac
          cases pac
      | setServerEnabled host value =>
          exact onProxy_points (changeServer_keeps host fun config => { config with enabled := value })
            service.session points
      | addServer config => exact points.congr rfl rfl
      | updateServer origHost newConfig =>
          exact onProxy_points (changeServer_keeps origHost fun _ => newConfig) service.session points
      | deleteServer host => exact delServer_points host service.session points
      | setDomain domain serverHost => exact Session.bind_resetProxy_points succeeds
      | removeDomain domain => exact Session.bind_resetProxy_points succeeds
      | setApp app serverHost => exact Session.bind_resetProxy_points succeeds
      | removeApp app => exact Session.bind_resetProxy_points succeeds
      | setProxyPort port =>
          obtain ⟨_, changed, _, rest⟩ := Exec.bind_eq_ok.mp
            (Prod.ext succeeds (Eq.refl (Session.setProxyPort port service.session).2))
          have points := Session.bind_resetProxy_points (congrArg Prod.fst rest)
          rwa [rest] at points

/-- The script sends the listed domains and what is below them past the proxy,
and the other hosts to it. -/
def Steers (text : List Char) (domains : List String) (port : UInt16) : Prop :=
  ∀ (others : String → List Value → Value) (url host : Text), ¬ IsQuad Octet host →
    ∃ value, (∃ enough, ∀ fuel, enough ≤ fuel → evaluate (natives others) fuel text
        "FindProxyForURL" [.text url, .text host] = .ok value) ∧
      (IsDirect value ↔ Direct domains host) ∧
      (¬ Direct domains host → value = .text (proxyVerdict port))

/-- A browser that follows the settings of the system asks the listener for the
file, and is steered by the present list and to the present port. -/
def Guided (session : Session (Recorded S)) : Prop :=
  ∃ url request text, session.system.installed = .autoConfig url ∧
    requestFor url.toList = some ((proxyAddressText session.port).toList, request) ∧
    handleRequest session.proxy.pacService request = .pacFile text ∧
    ((∀ domain ∈ session.proxy.pacService.domains, IsDomain domain) →
      Steers text session.proxy.pacService.domains session.port)

omit [SystemProxy S] in
theorem guided_of_fresh (points : service.session.Points) (fresh : service.Fresh)
    (pac : service.session.proxy.proxyState = .pac) : Guided service.session := by
  obtain ⟨key, installed⟩ := points pac
  obtain ⟨request, asked, get, origin, route⟩ := requestFor_pacUrl service.session.port key
  have served := fresh pac
  have answered : handleRequest service.session.proxy.pacService request =
      .pacFile (buildPac service.session.proxy.pacService.domains service.session.port) := by
    rw [handleRequest, if_neg (by rw [get]; decide), if_neg (by rw [origin]; decide), pacRouter,
      if_pos route, if_pos (.inl get), served]
    rfl
  refine ⟨_, request, _, installed, asked, answered, fun valid => ?_⟩
  intro others url host named
  exact decides_named valid others service.session.port url named

/-- The service after a `serve` that succeeded. -/
def served (cfg : ProxyConfig) (system : S) (bound : Except IoError Unit) : Service S :=
  (started cfg system).after (.serve bound)

/-- Once the listener is served, every moment of a run of successful calls that
finds the PAC state finds the browsers guided by the present list and port, if
the state was turned on with a text that was still right. -/
theorem run_guided {cfg : ProxyConfig} {system : Recorded S} {bound : Except IoError Unit}
    (begun : ((ServiceEvent.serve bound).run (started cfg system).session).1 = .ok ())
    {events : List ServiceEvent}
    (succeed : AllSteps after (fun service event => service.Succeeds event ∧ service.TurnsOnFresh event)
      (served cfg system bound) events) :
    AllStates after (fun service => service.session.proxy.proxyState = .pac → Guided service.session)
      (served cfg system bound) events := by
  have based : (started cfg system).Based := by
    rw [Based, started, Proxy.start_pacService]
  have fresh : (started cfg system).Fresh := by
    rw [fresh_iff based, started, Proxy.start_pacService]
    exact fun _ => rfl
  have serving : (started cfg system).Succeeds (.serve bound) := trivial
  have turned : (started cfg system).TurnsOnFresh (.serve bound) := trivial
  let Kept (service : Service (Recorded S)) : Prop :=
    service.Based ∧ service.Fresh ∧ service.session.Points
  have keeps : ∀ (service : Service (Recorded S)) (event : ServiceEvent), Kept service →
      service.Succeeds event ∧ service.TurnsOnFresh event → Kept (service.after event) :=
    fun service event kept both => ⟨after_based kept.1 both.1,
      (after_fresh_iff kept.1 kept.2.1 both.1).mpr both.2, after_points kept.2.2 both.1⟩
  have first : Kept (served cfg system bound) :=
    ⟨after_based based serving, (after_fresh_iff based fresh serving).mpr turned,
      Session.serve_points bound _ (.inl begun)⟩
  exact allStates_of_allSteps keeps (fun service kept => guided_of_fresh kept.2.2 kept.2.1) first
    succeed

/-- A domain and a new port, in the PAC state. -/
def moved : List ServiceEvent :=
  [.call (.setDomain "example.org" ""), .call (.setProxyPort 25445), .takeRestart (.ok ())]

theorem run_guided_moved :
    AllStates after (fun service => service.session.proxy.proxyState = .pac → Guided service.session)
      (served (oneServer .pac) (⟨true, .nothing⟩ : Recorded Bool) (.ok ())) moved := by
  refine run_guided rfl ⟨⟨?_, trivial⟩, ⟨?_, trivial⟩, ⟨trivial, trivial⟩, trivial⟩
  · rfl
  · rfl

end Service

end CovertConnect.Client
