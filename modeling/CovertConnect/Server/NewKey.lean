import CovertConnect.Data.Replace
import CovertConnect.Server.Config

namespace CovertConnect.Server

open CovertConnect.Crypto CovertConnect.Data

/-! # A new key in the configuration file

The key is found by its value: every occurrence of the old key in the text is
replaced. -/

/-- `shellexpand::full` and the YAML source of the configuration. -/
structure Loader where
  expand : List Char → Except String (List Char)
  load : List Char → Except String AppDocument

def Loader.read (loader : Loader) (config : List Char) : Except String AppDocument := do
  loader.load (← loader.expand config)

inductive NewError where
  | read (message : String)
  | build (error : ConfigError)
deriving DecidableEq, Repr

/-- `AppConfig::new`, from the text of the file on. -/
def AppConfig.new (loader : Loader) (config : List Char) : Except NewError AppConfig :=
  match loader.read config with
  | .error message => .error (.read message)
  | .ok document =>
      match AppConfig.build document with
      | .error error => .error (.build error)
      | .ok config => .ok config

def keyLen : Nat := 32

/-- `Kdf::generate_new_key`, for the bytes that are drawn. -/
def newKey (keyData : Bytes) : List Char :=
  urlSafeNoPad keyData

/-- `generate_new_key`: the text that is written. -/
def generateNewKey (keyData : Bytes) (config : List Char) (oldKey : String) : List Char :=
  strReplace oldKey.toList (newKey keyData) config

def AppDocument.withKey (document : AppDocument) (key : String) : AppDocument :=
  { document with protocol := { document.protocol with key := some key } }

def AppConfig.withKey (config : AppConfig) (key : String) : AppConfig :=
  { config with protocol := { config.protocol with key } }

/-- The key entry of a text: what stands for its value, and how the loader reads
a new key in this place. -/
structure KeyEntry (loader : Loader) (config : List Char) where
  before : List Char
  value : List Char
  after : List Char
  asText : List Char → String
  document : AppDocument
  loaded : loader.read config = .ok document
  split : config = before ++ value ++ after
  reads : ∀ keyData, keyData.length = keyLen →
    loader.read (before ++ newKey keyData ++ after) =
      .ok (document.withKey (asText (newKey keyData)))

/-- Whatever key is drawn, it takes the place of the value of the key entry, and
nothing else changes. -/
def RotatesKey (loader : Loader) (text : List Char) (config : AppConfig) : Prop :=
  ∃ entry : KeyEntry loader text, ∀ keyData, keyData.length = keyLen →
    generateNewKey keyData text config.protocol.key =
        entry.before ++ newKey keyData ++ entry.after ∧
      AppConfig.new loader (generateNewKey keyData text config.protocol.key) =
        .ok (config.withKey (String.ofList (newKey keyData)))

/-- The old key is in the text as the value of the key entry and nowhere else, and
new keys are read in its place as they are. -/
def KeyOnce (loader : Loader) (text : List Char) (config : AppConfig) : Prop :=
  ∃ entry : KeyEntry loader text,
    strSplit config.protocol.key.toList text = [entry.before, entry.after] ∧
      ∀ keyData, keyData.length = keyLen →
        entry.asText (newKey keyData) = String.ofList (newKey keyData)

theorem ProtocolConfig.deserialize_withKey {document : ProtocolDocument} {config : ProtocolConfig}
    (read : ProtocolConfig.deserialize document = .ok config) (key : String) :
    ProtocolConfig.deserialize { document with key := some key } = .ok { config with key } := by
  rw [ProtocolConfig.deserialize] at read
  obtain ⟨old, _, read⟩ := except_bind_eq_ok.mp read
  obtain ⟨maxConnectDelay, delay, read⟩ := except_bind_eq_ok.mp read
  obtain ⟨headerPadding, header, read⟩ := except_bind_eq_ok.mp read
  obtain ⟨dataPadding, padding, read⟩ := except_bind_eq_ok.mp read
  obtain ⟨encryptionLimit, limit, read⟩ := except_bind_eq_ok.mp read
  obtain rfl := Except.ok.inj read
  simp only [ProtocolConfig.deserialize, required, delay, header, padding, limit]
  rfl

theorem AppConfig.deserialize_withKey {document : AppDocument} {config : AppConfig}
    (read : AppConfig.deserialize document = .ok config) (key : String) :
    AppConfig.deserialize (document.withKey key) = .ok (config.withKey key) := by
  rw [AppConfig.deserialize] at read
  obtain ⟨text, there, read⟩ := except_bind_eq_ok.mp read
  obtain ⟨address, parsed, read⟩ := except_bind_eq_ok.mp read
  obtain ⟨outAddress, out, read⟩ := except_bind_eq_ok.mp read
  obtain ⟨protocol, entries, read⟩ := except_bind_eq_ok.mp read
  obtain ⟨unauthCooldown, cooldown, read⟩ := except_bind_eq_ok.mp read
  obtain rfl := Except.ok.inj read
  have entries' := ProtocolConfig.deserialize_withKey entries key
  simp only [AppConfig.deserialize, AppDocument.withKey, there, out, entries', cooldown]
  simp only [bind, Except.bind, parsed]
  rfl

/-- The checks pass the configuration on, and do not look at the key. -/
theorem AppConfig.check_withKey {config checked : AppConfig} (passed : config.check = .ok checked)
    (key : String) : (config.withKey key).check = .ok (checked.withKey key) := by
  unfold AppConfig.check at passed ⊢
  cases out : config.outAddress with
  | none =>
      simp only [out, Except.ok.injEq] at passed
      obtain rfl := passed
      simp only [AppConfig.withKey, out]
  | some outAddr =>
      simp only [out] at passed
      simp only [AppConfig.withKey, out]
      split_ifs at passed ⊢
      obtain rfl := Except.ok.inj passed
      rw [out]

theorem AppConfig.build_withKey {document : AppDocument} {config : AppConfig}
    (built : AppConfig.build document = .ok config) (key : String) :
    AppConfig.build (document.withKey key) = .ok (config.withKey key) := by
  rw [AppConfig.build] at built ⊢
  cases read : AppConfig.deserialize document with
  | error message => simp [read] at built
  | ok unchecked =>
      rw [read] at built
      rw [AppConfig.deserialize_withKey read key]
      exact AppConfig.check_withKey built key

theorem AppConfig.of_new_ok {loader : Loader} {text : List Char} {config : AppConfig}
    (accepted : AppConfig.new loader text = .ok config) :
    ∃ document, loader.read text = .ok document ∧ AppConfig.build document = .ok config := by
  rw [AppConfig.new] at accepted
  cases read : loader.read text with
  | error message => simp [read] at accepted
  | ok document =>
      cases built : AppConfig.build document with
      | error error => simp [read, built] at accepted
      | ok built' =>
          simp only [read, built, Except.ok.injEq] at accepted
          exact ⟨document, rfl, accepted ▸ built⟩

/-- A new key in the place of the old one is the key that is read. -/
theorem KeyEntry.new_eq {loader : Loader} {text : List Char} {config : AppConfig}
    (entry : KeyEntry loader text) (accepted : AppConfig.new loader text = .ok config)
    {keyData : Bytes} (length : keyData.length = keyLen) :
    AppConfig.new loader (entry.before ++ newKey keyData ++ entry.after) =
      .ok (config.withKey (entry.asText (newKey keyData))) := by
  obtain ⟨document, read, built⟩ := AppConfig.of_new_ok accepted
  obtain rfl := Except.ok.inj (entry.loaded.symm.trans read)
  simp only [AppConfig.new, entry.reads keyData length, AppConfig.build_withKey built]

def templateBefore : List Char := "address: \"0.0.0.0:8387\"\nkey: \"".toList

def templateAfter : List Char := "\" \n".toList

def keySymbols : List Char :=
  "ABCDEFGHIJKLMNOPQRSTUVWXYZabcdefghijklmnopqrstuvwxyz0123456789-_".toList

def templateDocument (key : String) : AppDocument where
  address := some "0.0.0.0:8387"
  outAddress := none
  protocol := {
    key := some key
    kdf := none
    cipher := none
    maxConnectDelay := none
    headerPadding := none
    dataPadding := none
    encryptionLimit := none }
  unauthCooldown := none

/-- A loader that knows this file alone. -/
def templateLoader : Loader where
  expand text := .ok text
  load text :=
    let key := (text.drop templateBefore.length).takeWhile (· ∈ keySymbols)
    if text = templateBefore ++ key ++ templateAfter then .ok (templateDocument (String.ofList key))
    else .error "unknown"

theorem urlSafeNoPad_symbols (keyData : Bytes) : ∀ char ∈ urlSafeNoPad keyData, char ∈ keySymbols := by
  have symbol : ∀ sextet, urlSafeSymbol sextet ∈ keySymbols := by
    intro sextet
    change keySymbols.getD sextet 'A' ∈ keySymbols
    rw [List.getD_eq_getElem?_getD]
    cases found : keySymbols[sextet]? with
    | none => exact List.mem_cons_self
    | some char => exact List.mem_of_getElem? found
  fun_induction urlSafeNoPad keyData with
  | case1 => simp
  | case2 a group => simp [symbol]
  | case3 a b group => simp [symbol]
  | case4 a b c rest group ih => simpa [symbol] using ih

theorem templateLoader_read {key : List Char} (symbols : ∀ char ∈ key, char ∈ keySymbols) :
    templateLoader.read (templateBefore ++ key ++ templateAfter) =
      .ok (templateDocument (String.ofList key)) := by
  have stops : templateAfter.takeWhile (· ∈ keySymbols) = [] := by decide
  have taken : (key ++ templateAfter).takeWhile (· ∈ keySymbols) = key := by
    rw [List.takeWhile_append_of_pos (by simpa using symbols), stops, List.append_nil]
  have dropped : (templateBefore ++ key ++ templateAfter).drop templateBefore.length =
      key ++ templateAfter := by
    rw [List.append_assoc, List.drop_left]
  change templateLoader.load _ = _
  simp only [templateLoader, dropped, taken, if_true]

def templateEntry (key : List Char) (symbols : ∀ char ∈ key, char ∈ keySymbols) :
    KeyEntry templateLoader (templateBefore ++ key ++ templateAfter) where
  before := templateBefore
  value := key
  after := templateAfter
  asText := String.ofList
  document := templateDocument (String.ofList key)
  loaded := templateLoader_read symbols
  split := rfl
  reads keyData _ := templateLoader_read (urlSafeNoPad_symbols keyData)

def templateConfig (key : String) : AppConfig where
  address := ⟨.v4 (Vector.replicate 4 0), 8387⟩
  outAddress := none
  protocol := {
    key
    kdf := defaultKdf
    cipher := defaultCipher
    maxConnectDelay := defaultMaxConnectDelay
    headerPadding := defaultHeaderPadding
    dataPadding := defaultDataPadding
    encryptionLimit := defautEncryptionLimit }
  unauthCooldown := defaultCooldown

theorem templateLoader_new {key : List Char} (symbols : ∀ char ∈ key, char ∈ keySymbols) :
    AppConfig.new templateLoader (templateBefore ++ key ++ templateAfter) =
      .ok (templateConfig (String.ofList key)) := by
  have built : AppConfig.build (templateDocument "") = .ok (templateConfig "") := by
    decide +kernel
  have built' : AppConfig.build (templateDocument (String.ofList key)) =
      .ok (templateConfig (String.ofList key)) :=
    AppConfig.build_withKey built (String.ofList key)
  simp only [AppConfig.new, templateLoader_read symbols, built']

/-- Two of the keys that can be drawn. -/
theorem newKey_zeros : newKey (List.replicate 32 0) = List.replicate (42 + 1) 'A' := by
  decide +kernel

theorem newKey_fours :
    newKey ((List.replicate 10 [0x10, 0x41, 0x04]).flatten ++ [0x10, 0x41]) =
      List.replicate (42 + 1) 'E' := by
  decide +kernel

/-- The two keys show where the replacement put them, however often. -/
theorem strSplit_of_written {text before after : List Char} {oldKey : String}
    (written : ∀ keyData, keyData.length = keyLen →
      generateNewKey keyData text oldKey = before ++ newKey keyData ++ after) :
    strSplit oldKey.toList text = [before, after] := by
  have zeros := written (List.replicate 32 0) rfl
  have fours := written ((List.replicate 10 [0x10, 0x41, 0x04]).flatten ++ [0x10, 0x41]) rfl
  rw [generateNewKey, strReplace_eq_intercalate] at zeros fours
  rw [newKey_zeros] at zeros
  rw [newKey_fours] at fours
  have differ : 'A' ≠ 'E' := by decide
  exact pieces_of_joined differ zeros fours

theorem RotatesKey.text_eq {loader : Loader} {text : List Char} {config : AppConfig}
    (rotates : RotatesKey loader text config) :
    ∃ before after, text = before ++ config.protocol.key.toList ++ after := by
  obtain ⟨entry, rotates⟩ := rotates
  have pieces := strSplit_of_written fun keyData length => (rotates keyData length).1
  have joined := intercalate_strSplit config.protocol.key.toList text
  rw [pieces, List.intercalate_cons_cons, List.intercalate_singleton] at joined
  exact ⟨entry.before, entry.after, joined.symm⟩

/-- The template comes with an empty key. -/
theorem not_rotatesKey_empty {loader : Loader} {text : List Char} {config : AppConfig}
    (some' : text ≠ []) (empty : config.protocol.key = "") : ¬ RotatesKey loader text config := by
  intro ⟨entry, rotates⟩
  have pieces := strSplit_of_written fun keyData length => (rotates keyData length).1
  rw [empty, String.toList_empty, strSplit, if_pos rfl] at pieces
  have count := congrArg List.length pieces
  simp only [List.length_cons, List.length_append, List.length_map, List.length_nil] at count
  have positive := List.length_pos_iff.mpr some'
  omega

theorem rotatesKey_iff {loader : Loader} {text : List Char} {config : AppConfig}
    (accepted : AppConfig.new loader text = .ok config) :
    RotatesKey loader text config ↔ KeyOnce loader text config := by
  constructor
  · intro ⟨entry, rotates⟩
    refine ⟨entry, strSplit_of_written fun keyData length => (rotates keyData length).1, ?_⟩
    intro keyData length
    obtain ⟨written, read⟩ := rotates keyData length
    rw [written, entry.new_eq accepted length] at read
    exact congrArg (·.protocol.key) (Except.ok.inj read)
  · intro ⟨entry, once, same⟩
    refine ⟨entry, fun keyData length => ?_⟩
    have written : generateNewKey keyData text config.protocol.key =
        entry.before ++ newKey keyData ++ entry.after := by
      rw [generateNewKey, strReplace_eq_intercalate, once, List.intercalate_cons_cons,
        List.intercalate_singleton, List.append_assoc]
    rw [written, entry.new_eq accepted length, same keyData length]
    exact ⟨rfl, rfl⟩

/-- The key `abc` in the template. -/
theorem rotatesKey_template :
    RotatesKey templateLoader (templateBefore ++ "abc".toList ++ templateAfter)
      (templateConfig "abc") := by
  have subset : "abc".toList ⊆ keySymbols := by decide +kernel
  have symbols : ∀ char ∈ "abc".toList, char ∈ keySymbols := fun _ there => subset there
  have accepted := templateLoader_new symbols
  refine (rotatesKey_iff accepted).mpr ⟨templateEntry "abc".toList symbols, ?_, fun _ _ => rfl⟩
  change strSplit "abc".toList (templateBefore ++ "abc".toList ++ templateAfter) =
    [templateBefore, templateAfter]
  decide +kernel

/-- The template as it is. -/
theorem template_key_everywhere :
    AppConfig.new templateLoader (templateBefore ++ templateAfter) = .ok (templateConfig "") ∧
      ¬ RotatesKey templateLoader (templateBefore ++ templateAfter) (templateConfig "") := by
  have symbols : ∀ char ∈ ([] : List Char), char ∈ keySymbols := fun _ there => nomatch there
  have accepted := templateLoader_new symbols
  rw [List.append_nil] at accepted
  have some' : templateBefore ++ templateAfter ≠ [] := by simp [templateAfter]
  exact ⟨accepted, not_rotatesKey_empty some' rfl⟩

end CovertConnect.Server
