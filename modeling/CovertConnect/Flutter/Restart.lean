import CovertConnect.Client.DomainLists
import CovertConnect.Data.HeaderEnd
import CovertConnect.Flutter.SseCodec

namespace CovertConnect.Flutter

open CovertConnect.Data
open CovertConnect.Client (Proxy ProxyState Server SocketAddr chooseServer selectByProcess
  selectByDomain selectByWeight effectiveWeight contains binarySearch Totals buildPac genBelow
  averageWeight hostVariants AllSearchable sortItems idleServer)
open CovertConnect.Crypto (Hashes)

/-! # Saving the configuration and starting from it again

The user interface asks the service for its configuration after each change and
keeps it as a text, from which the service is started the next time. -/

/-- A text that has come from Rust to Dart and back. -/
def withoutMark (text : String) : String :=
  String.ofList (dropByteOrderMark text.toList)

theorem textFromDart_toDart (text : String) :
    textFromDart (textToDart text) = withoutMark text := by
  rw [textFromDart, textToDart, fromUtf16_utf16, withoutMark]

theorem withoutMark_size (text : String) : textSize (withoutMark text) ≤ textSize text := by
  rw [textSize, textSize, withoutMark, utf8Bytes_flatMap, utf8Bytes_flatMap, String.toList_ofList]
  cases text.toList with
  | nil => exact Nat.le_refl _
  | cons char rest =>
      rw [dropByteOrderMark]
      split
      · rw [List.flatMap_cons, List.length_append]
        exact Nat.le_add_left _ _
      · exact Nat.le_refl _

namespace Wrappers

/-- The rate stands for the size of the padding, too. -/
def ProtocolConfig.reopened (cfg : ProtocolConfig) : ProtocolConfig :=
  { cfg with
    key := withoutMark cfg.key
    dataPadding := { cfg.dataPadding with max := cfg.dataPadding.rate.toUInt16 } }

def ServerConfig.reopened (cfg : ServerConfig) : ServerConfig :=
  { cfg with
    caption := cfg.caption.map withoutMark
    host := withoutMark cfg.host
    domains := cfg.domains.map (·.map withoutMark)
    apps := cfg.apps.map (·.map withoutMark)
    protocol := cfg.protocol.reopened }

def ProxyConfig.reopened (cfg : ProxyConfig) : ProxyConfig :=
  { cfg with
    domains := cfg.domains.map withoutMark
    apps := cfg.apps.map withoutMark
    servers := cfg.servers.map ServerConfig.reopened }

theorem texts_reopened (texts : List String) :
    (texts.map textToDart).map textFromDart = texts.map withoutMark := by
  rw [List.map_map]
  exact List.map_congr_left fun text _ => textFromDart_toDart text

theorem ProtocolConfig.fromDart_toDart (cfg : ProtocolConfig) :
    cfg.toDart.reread.fromDart = cfg.reopened := by
  have limit : UInt64.ofNat ((cfg.encryptionLimit.toNat : Int) % 2 ^ 64).toNat =
      cfg.encryptionLimit := by
    have small := cfg.encryptionLimit.toNat_lt
    rw [Int.emod_eq_of_lt (by omega) (by omega), Int.toNat_natCast, UInt64.ofNat_toNat]
  simp only [Flutter.ProtocolConfig.fromDart, Flutter.ProtocolConfig.reread, ProtocolConfig.toDart,
    Flutter.DataPadding.reread, HeaderPadding.toDart, Flutter.HeaderPadding.fromDart, reopened,
    textFromDart_toDart, limit]
  simp

theorem ServerConfig.fromDart_toDart (cfg : ServerConfig) :
    cfg.toDart.reread.fromDart = cfg.reopened := by
  obtain ⟨caption, host, weight, domains, apps, enabled, protocol⟩ := cfg
  have lists : ∀ texts : Option (List String),
      (texts.map (·.map textToDart)).map (·.map textFromDart) = texts.map (·.map withoutMark) := by
    intro texts
    cases texts with
    | none => rfl
    | some texts => exact congrArg some (texts_reopened texts)
  have weights : (weight.map fun weight => Int64.ofNat weight.toNat).map
      (fun weight => weight.toUInt64.toUInt8) = weight := by
    cases weight with
    | none => rfl
    | some weight => simp
  have captions : (caption.map textToDart).map textFromDart = caption.map withoutMark := by
    cases caption with
    | none => rfl
    | some caption => exact congrArg some (textFromDart_toDart caption)
  simp only [Flutter.ServerConfig.fromDart, Flutter.ServerConfig.reread, ServerConfig.toDart,
    reopened, captions, weights, lists, textFromDart_toDart, ProtocolConfig.fromDart_toDart]

theorem ProxyConfig.fromDart_toDart (cfg : ProxyConfig) :
    cfg.toDart.reread.fromDart = cfg.reopened := by
  have servers : ((cfg.servers.map ServerConfig.toDart).map Flutter.ServerConfig.reread).map
      Flutter.ServerConfig.fromDart = cfg.servers.map ServerConfig.reopened := by
    rw [List.map_map, List.map_map]
    exact List.map_congr_left fun server _ => server.fromDart_toDart
  simp only [Flutter.ProxyConfig.fromDart, Flutter.ProxyConfig.reread, ProxyConfig.toDart, reopened,
    texts_reopened, servers]
  simp

theorem ProxyConfig.fits_reopened {cfg : ProxyConfig} (fits : cfg.Fits) : cfg.reopened.Fits := by
  have shorter : ∀ {text : String}, SizeFits (textSize text) →
      SizeFits (textSize (withoutMark text)) :=
    fun {text} fits => Nat.lt_of_le_of_lt (withoutMark_size text) fits
  have lists : ∀ {texts : List String}, TextsFit texts → TextsFit (texts.map withoutMark) := by
    intro texts fits
    refine ⟨by rw [List.length_map]; exact fits.size, fun text there => ?_⟩
    obtain ⟨before, listed, rfl⟩ := List.mem_map.mp there
    exact shorter (fits.each before listed)
  have size : SizeFits (cfg.servers.map ServerConfig.reopened).length := by
    rw [List.length_map]
    exact fits.size
  refine ⟨lists fits.domains, lists fits.apps, size, ?_⟩
  intro server there
  obtain ⟨before, listed, rfl⟩ := List.mem_map.mp there
  have fits := fits.servers before listed
  constructor
  · intro caption there
    obtain ⟨before, listed, rfl⟩ := Option.mem_map.mp there
    exact shorter (fits.caption before listed)
  · exact shorter fits.host
  · intro domains there
    obtain ⟨before, listed, rfl⟩ := Option.mem_map.mp there
    exact lists (fits.domains before listed)
  · intro apps there
    obtain ⟨before, listed, rfl⟩ := Option.mem_map.mp there
    exact lists (fits.apps before listed)
  · exact shorter fits.key

end Wrappers

/-- `get_config`. -/
def getConfig (proxy : Proxy) : Wrappers.ProxyConfig where
  state := proxy.proxyState
  port := proxy.pacService.proxyPort
  domains := proxy.pacService.domains
  apps := proxy.apps
  servers := proxy.servers.map fun srv => .ofClient srv.config

/-- `start`, with the looking up of the servers. -/
def start [Hashes] (lookup : String → Except IoError (List SocketAddr))
    (cfg : Wrappers.ProxyConfig) : Proxy :=
  Proxy.start
    { state := cfg.state
      port := cfg.port
      domains := cfg.domains
      apps := cfg.apps
      servers := cfg.servers.map fun srv => srv.into.initOrKeep lookup }

namespace ProxyServiceImpl

def kDefaultPort : Int64 := 25445

/-- The text that is kept; a failure of the bridge keeps none. -/
def keptText (endian : Endian) (arriving : Wrappers.ProxyConfig) : Option Text := do
  let (cfg, _) ← (sseDecodeProxyConfig endian).run (sseEncode endian arriving)
  return jsonEncode (proxyCofigToJson cfg)

def saveConfig (endian : Endian) (proxy : Proxy) : Option Text :=
  keptText endian (getConfig proxy)

def loadConfig (configStr : Text) : Except DartError ProxyConfig :=
  if configStr ≠ [] then proxyConfigFromString configStr
  else .ok { state := .off, port := kDefaultPort, domains := [], apps := [], servers := [] }

/-- The service after the user interface has come up with what is kept. -/
def init [Hashes] (endian : Endian) (lookup : String → Except IoError (List SocketAddr))
    (kept : Option Text) : Option Proxy := do
  let cfg ← (loadConfig (kept.getD [])).toOption
  let (arrived, _) ← (sseDecode endian : Reader Wrappers.ProxyConfig).run
    (sseEncodeProxyConfig endian cfg)
  return start lookup arrived

theorem keptText_eq {endian : Endian} {cfg : Wrappers.ProxyConfig} (fits : cfg.Fits) :
    keptText endian cfg = some (jsonEncode (proxyCofigToJson cfg.toDart)) := by
  have arrives : (sseDecodeProxyConfig endian).run (sseEncode endian cfg ++ []) = _ :=
    proxyConfig_toDart fits []
  rw [List.append_nil] at arrives
  rw [keptText, arrives]
  rfl

/-- Whatever is kept is started from again. -/
theorem init_kept [Hashes] {endian : Endian} {cfg : Wrappers.ProxyConfig}
    (lookup : String → Except IoError (List SocketAddr)) (fits : cfg.Fits) :
    init endian lookup (keptText endian cfg) = some (start lookup cfg.reopened) := by
  have read : loadConfig (jsonEncode (proxyCofigToJson cfg.toDart)) = .ok cfg.toDart.reread := by
    have written : jsonEncode (proxyCofigToJson cfg.toDart) ≠ [] := by
      intro empty
      have nothing := proxyConfig_read cfg.toDart
      rw [empty] at nothing
      cases nothing
    rw [loadConfig, if_pos written, proxyConfig_read]
  have same : cfg.toDart.reread.fromDart = cfg.reopened := Wrappers.ProxyConfig.fromDart_toDart cfg
  have fits' : cfg.toDart.reread.fromDart.Fits := same ▸ Wrappers.ProxyConfig.fits_reopened fits
  have arrives : (sseDecode endian : Reader Wrappers.ProxyConfig).run
      (sseEncodeProxyConfig endian cfg.toDart.reread ++ []) = _ := proxyConfig_fromDart fits' []
  rw [List.append_nil, same] at arrives
  rw [keptText_eq fits, init, Option.getD_some, read]
  change ((sseDecode endian : Reader Wrappers.ProxyConfig).run
    (sseEncodeProxyConfig endian cfg.toDart.reread)).bind _ = _
  rw [arrives]
  rfl

end ProxyServiceImpl

/-- The choice does not tell the two apart. -/
structure SameRoutes (srv other : Server) : Prop where
  enabled : other.config.enabled = srv.config.enabled
  weight : other.config.weight = srv.config.weight
  apps : ∀ processName, (other.config.apps.getD []).any (contains processName) =
    (srv.config.apps.getD []).any (contains processName)
  domains : other.config.domains = srv.config.domains

section Routes

variable {f : Server → Server} {servers : List Server}

theorem selectByProcess_map (processName : String)
    (same : ∀ srv ∈ servers, SameRoutes srv (f srv)) :
    selectByProcess processName (servers.map f) = (selectByProcess processName servers).map f := by
  induction servers with
  | nil => rfl
  | cons srv servers ih =>
      have here := same srv List.mem_cons_self
      have rest := ih fun other there => same other (List.mem_cons_of_mem _ there)
      rw [List.map_cons, selectByProcess, selectByProcess, here.enabled, here.apps, rest]
      split
      · rfl
      · split
        · rfl
        · rfl

theorem selectByDomain_map (variants : List String) (totals : Totals)
    (same : ∀ srv ∈ servers, SameRoutes srv (f srv)) :
    selectByDomain variants (servers.map f) totals =
      (selectByDomain variants servers totals).map f id := by
  induction servers generalizing totals with
  | nil => rfl
  | cons srv servers ih =>
      have here := same srv List.mem_cons_self
      have rest := fun totals => ih totals fun other there =>
        same other (List.mem_cons_of_mem _ there)
      rw [List.map_cons, selectByDomain, selectByDomain, here.enabled, here.domains, here.weight,
        rest, rest]
      split
      · rfl
      · split
        · rfl
        · rfl

theorem selectByWeight_map (average drawn curWeight : Nat)
    (same : ∀ srv ∈ servers, SameRoutes srv (f srv)) :
    selectByWeight average drawn (servers.map f) curWeight =
      (selectByWeight average drawn servers curWeight).map f := by
  induction servers generalizing curWeight with
  | nil => rfl
  | cons srv servers ih =>
      have here := same srv List.mem_cons_self
      have rest := fun curWeight => ih curWeight fun other there =>
        same other (List.mem_cons_of_mem _ there)
      have weight : effectiveWeight average (f srv) = effectiveWeight average srv := by
        rw [effectiveWeight, effectiveWeight, here.weight]
      rw [List.map_cons, selectByWeight, selectByWeight, here.enabled, weight, rest, rest]
      split
      · rfl
      · split
        · rfl
        · rfl

/-- The entry of the same position is chosen, by the same draws. -/
theorem chooseServer_map {R : Type} [Rng R] (apps : List String) (targetHost processName : String)
    (same : ∀ srv ∈ servers, SameRoutes srv (f srv)) :
    (chooseServer apps (servers.map f) targetHost processName : Exec R Error (Option Server)) =
      chooseServer apps servers targetHost processName >>= fun chosen => pure (chosen.map f) := by
  rw [chooseServer, chooseServer, List.length_map, selectByProcess_map processName same,
    selectByDomain_map _ _ same]
  split
  · rfl
  · split
    · rfl
    · cases selectByProcess processName servers with
      | some srv => rfl
      | none =>
          dsimp only [Option.map_none]
          cases selectByDomain (hostVariants targetHost) servers ⟨0, 0, 0⟩ with
          | inl srv => rfl
          | inr totals =>
              dsimp only [Sum.map_inr, id]
              rw [Exec.bind_assoc]
              refine congrArg _ (funext fun average => ?_)
              rw [Exec.bind_assoc]
              refine congrArg _ (funext fun drawn => ?_)
              rw [selectByWeight_map average drawn 0 same]
              cases selectByWeight average drawn servers 0 with
              | some srv => rfl
              | none =>
                  dsimp only [Option.map_none]
                  rw [List.head?_map]
                  rfl

end Routes

namespace Wrappers

/-- No text begins with a byte order mark. -/
structure ServerConfig.Unmarked (cfg : ServerConfig) : Prop where
  caption : cfg.caption.map withoutMark = cfg.caption
  host : withoutMark cfg.host = cfg.host
  domains : cfg.domains.map (·.map withoutMark) = cfg.domains
  apps : cfg.apps.map (·.map withoutMark) = cfg.apps
  key : withoutMark cfg.protocol.key = cfg.protocol.key

structure ProxyConfig.Unmarked (cfg : ProxyConfig) : Prop where
  domains : cfg.domains.map withoutMark = cfg.domains
  apps : cfg.apps.map withoutMark = cfg.apps
  servers : ∀ server ∈ cfg.servers, server.Unmarked

/-- Only the size of the data padding is lost. -/
theorem ServerConfig.Unmarked.reopened {cfg : ServerConfig} (unmarked : cfg.Unmarked) :
    cfg.reopened =
      { cfg with
        protocol := { cfg.protocol with
          dataPadding := { cfg.protocol.dataPadding with
            max := cfg.protocol.dataPadding.rate.toUInt16 } } } := by
  obtain ⟨caption, host, domains, apps, key⟩ := unmarked
  rw [ServerConfig.reopened, caption, host, domains, apps, ProtocolConfig.reopened, key]

end Wrappers

theorem addServers_eq (configs : List Client.ServerConfig) (proxy : Proxy) :
    configs.foldl (fun proxy config => (Proxy.addServer config proxy).2) proxy =
      { proxy with
        servers := proxy.servers ++ configs.map (fun config => ⟨config, ⟨0, 0, 0, 0⟩⟩) } := by
  induction configs generalizing proxy with
  | nil => simp
  | cons config configs ih =>
      rw [List.foldl_cons, ih, Proxy.addServer, Exec.modify_apply]
      simp

theorem start_servers (cfg : Client.ProxyConfig) :
    (Proxy.start cfg).servers = cfg.servers.map (fun config => ⟨config, ⟨0, 0, 0, 0⟩⟩) ∧
      (Proxy.start cfg).apps = cfg.apps ∧
      (Proxy.start cfg).proxyState = if cfg.servers.isEmpty then .off else cfg.state := by
  rw [Proxy.start, addServers_eq]
  exact ⟨rfl, rfl, rfl⟩

section Restarted

variable [Hashes]

/-- A server after the restart; its counters start again. -/
def restartedServer (lookup : String → Except IoError (List SocketAddr)) (srv : Server) :
    Server where
  config := (Wrappers.ServerConfig.ofClient srv.config).reopened.into.initOrKeep lookup
  state := ⟨0, 0, 0, 0⟩

theorem restartedServer_sameRoutes (lookup : String → Except IoError (List SocketAddr))
    {srv : Server}
    (unmarked : (Wrappers.ServerConfig.ofClient srv.config).Unmarked)
    (searchable : srv.config.Searchable) : SameRoutes srv (restartedServer lookup srv) := by
  let config := (Wrappers.ServerConfig.ofClient srv.config).reopened.into
  obtain ⟨weight, enabled, apps, domains⟩ := initOrKeep_fields lookup config
  have sameApps : config.apps = srv.config.apps := unmarked.apps
  have sameDomains : config.domains = srv.config.domains := unmarked.domains
  refine ⟨enabled, weight, fun processName => ?_, ?_⟩
  · change ((config.initOrKeep lookup).apps.getD []).any _ = _
    rw [apps, sameApps]
    split
    · cases srv.config.apps with
      | none => rfl
      | some apps => exact (List.perm_insertionSort _ apps).any_eq
    · rfl
  · change (config.initOrKeep lookup).domains = _
    rw [domains, sameDomains]
    split
    · have sorted := searchable.sorted
      rw [Client.ItemKind.listed, Client.ItemKind.assigned] at sorted
      cases listed : srv.config.domains with
      | none => rfl
      | some domains =>
          rw [listed] at sorted
          exact congrArg some sorted.insertionSort_eq
    · rfl

theorem start_reopened (lookup : String → Except IoError (List SocketAddr)) (proxy : Proxy) :
    (start lookup (getConfig proxy).reopened).servers =
      proxy.servers.map (restartedServer lookup) := by
  refine (start_servers _).1.trans ?_
  change (((proxy.servers.map _).map _).map _).map _ = _
  rw [List.map_map, List.map_map, List.map_map]
  rfl

/-- The proxy that is started from the configuration of another one. -/
theorem start_routes {proxy : Proxy} (lookup : String → Except IoError (List SocketAddr))
    (unmarked : (getConfig proxy).Unmarked) (searchable : AllSearchable proxy.servers) :
    let again := start lookup (getConfig proxy).reopened
    again.servers = proxy.servers.map (restartedServer lookup) ∧
      again.pacService = ⟨some (buildPac proxy.pacService.domains proxy.pacService.proxyPort),
        proxy.pacService.domains, proxy.pacService.proxyPort⟩ ∧
      again.proxyState = (if proxy.servers.isEmpty then .off else proxy.proxyState) ∧
      ∀ {R : Type} [Rng R] (targetHost processName : String),
        (chooseServer again.apps again.servers targetHost processName :
            Exec R Error (Option Server)) =
          chooseServer proxy.apps proxy.servers targetHost processName >>= fun chosen =>
            pure (chosen.map (restartedServer lookup)) := by
  let cfg := (getConfig proxy).reopened
  obtain ⟨_, apps, state⟩ := start_servers
    { state := cfg.state
      port := cfg.port
      domains := cfg.domains
      apps := cfg.apps
      servers := cfg.servers.map fun srv => srv.into.initOrKeep lookup }
  have each : (start lookup cfg).servers = _ := start_reopened lookup proxy
  have same : ∀ srv ∈ proxy.servers, SameRoutes srv (restartedServer lookup srv) :=
    fun srv there => restartedServer_sameRoutes lookup
      (unmarked.servers _ (List.mem_map_of_mem there)) (searchable srv there)
  refine ⟨each, ?_, ?_, ?_⟩
  · have domains : cfg.domains = proxy.pacService.domains := unmarked.domains
    rw [start, Proxy.start_pacService]
    dsimp only
    rw [domains]
    rfl
  · refine state.trans ?_
    change (if (((proxy.servers.map _).map _).map _).isEmpty then _ else _) = _
    rw [List.isEmpty_map, List.isEmpty_map, List.isEmpty_map]
    rfl
  · intro R _ targetHost processName
    have sameApps : (start lookup cfg).apps = proxy.apps := apps.trans unmarked.apps
    rw [each, sameApps]
    exact chooseServer_map proxy.apps targetHost processName same

/-- After a restart every connection goes where it went before, by the same
draws; the script sends the browsers by the same list to the same port, and the
state is the same unless there are no servers. -/
theorem restart_routes (endian : Endian) {proxy : Proxy}
    (lookup : String → Except IoError (List SocketAddr)) (fits : (getConfig proxy).Fits)
    (unmarked : (getConfig proxy).Unmarked) (searchable : AllSearchable proxy.servers) :
    ∃ text again, ProxyServiceImpl.saveConfig endian proxy = some text ∧
      ProxyServiceImpl.init endian lookup (some text) = some again ∧
      again.servers = proxy.servers.map (restartedServer lookup) ∧
      again.pacService = ⟨some (buildPac proxy.pacService.domains proxy.pacService.proxyPort),
        proxy.pacService.domains, proxy.pacService.proxyPort⟩ ∧
      again.proxyState = (if proxy.servers.isEmpty then .off else proxy.proxyState) ∧
      ∀ {R : Type} [Rng R] (targetHost processName : String),
        (chooseServer again.apps again.servers targetHost processName :
            Exec R Error (Option Server)) =
          chooseServer proxy.apps proxy.servers targetHost processName >>= fun chosen =>
            pure (chosen.map (restartedServer lookup)) := by
  refine ⟨_, start lookup (getConfig proxy).reopened, ProxyServiceImpl.keptText_eq fits, ?_,
    start_routes lookup unmarked searchable⟩
  rw [← ProxyServiceImpl.keptText_eq fits]
  exact ProxyServiceImpl.init_kept lookup fits

end Restarted

/-- A proxy with one server for a domain, and with a direct domain and app. -/
def keptProxy : Proxy where
  servers := [{ idleServer "example.org" true with
    config := { (idleServer "example.org" true).config with domains := some ["example.com"] } }]
  apps := ["curl"]
  pacService := ⟨none, ["a.org"], 25445⟩
  proxyState := .pac
  initialized := true
  restart := .absent

theorem keptProxy_fits : (getConfig keptProxy).Fits := by
  decide

theorem keptProxy_unmarked : (getConfig keptProxy).Unmarked := by
  refine ⟨by decide, by decide, ?_⟩
  intro server there
  cases List.mem_singleton.mp there
  exact ⟨by decide, by decide, by decide, by decide, by decide⟩

theorem keptProxy_searchable : AllSearchable keptProxy.servers := by
  intro srv there
  cases List.mem_singleton.mp there
  exact Client.searchable_iff.mpr (List.pairwise_singleton _ _)

/-- The browsers are sent through the service again, and `curl` around it. -/
theorem restart_routes_kept : ∃ text again,
    ProxyServiceImpl.saveConfig .little keptProxy = some text ∧
      @ProxyServiceImpl.init Hashes.folding .little (fun _ => .ok [⟨.v4 #v[1, 2, 3, 4], 443⟩])
        (some text) = some again ∧
      again.proxyState = .pac ∧
      again.pacService = ⟨some (buildPac ["a.org"] 25445), ["a.org"], 25445⟩ ∧
      (chooseServer again.apps again.servers "example.com:443" "curl" :
        Exec Nat Error (Option Server)) = pure none := by
  let _ := Hashes.folding
  obtain ⟨text, again, saved, opened, -, pac, state, routes⟩ :=
    restart_routes .little (fun _ => .ok [⟨.v4 #v[1, 2, 3, 4], 443⟩]) keptProxy_fits
      keptProxy_unmarked keptProxy_searchable
  exact ⟨text, again, saved, opened, state, pac, routes "example.com:443" "curl"⟩

end CovertConnect.Flutter
