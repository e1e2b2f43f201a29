import LogForwarding.Proofs.Results
import LogForwarding.File.Sighting
import LogForwarding.Settings.File

/-!
# Which settings hold

Settings come from a file and from variables of the environment, and a variable goes before
the file. `Settings.effective` says so setting by setting, and the loop over the variables
comes to it.

A file of settings is checked twice: as it stands, and once more when the environment has had
its say. The second check is the one that matters for what follows. The first one looks at
values that nothing will use, so that a value which the environment puts right still makes
the program refuse the file.

## What is proved

* `Settings.value_withEnvironment`: the loop over the variables gives the effective settings.
* `Settings.effective_eq_iff`: the effective settings depend on a file through those values
  only that the environment leaves alone.
* `load_eq_ok_iff_valid`: loading gives the effective settings, and it succeeds iff both they
  and the settings of the file are without fault.
* `exists_load_error_effective_valid`: a file that is refused although the effective settings
  are without fault.
-/

namespace LogForwarding

namespace Settings

variable {settings other : Settings} {environment : Environment}

/-! ### Without fault -/

theorem checked_eq_ok_iff : settings.checked = .ok other ↔
    settings.invalid? = none ∧ settings = other := by
  unfold checked
  cases settings.invalid? with
  | none => simp
  | some fault => simp

theorem invalid?_eq_none_iff : settings.invalid? = none ↔
    settings.log.level ∈ logLevels ∧ settings.log.format ∈ logFormats
      ∧ settings.operator.operatorNamespace ≠ ""
      ∧ (settings.store.isMultiTenant → settings.store.name ≠ "") := by
  unfold invalid?
  split_ifs with hlevel hformat hnamespace hname <;> simp_all

/-! ### The environment's say -/

/-- The value of a setting that is a text: that of its variable, or else the one given. -/
def textOr (environment : Environment) (key usual : String) : String :=
  (environment.get? (variableStart ++ key)).getD usual

/-- The kind of log store that the environment names, if it names one. -/
def namedKind? (environment : Environment) : Option StoreKind :=
  (environment.get? storeKindVariable).bind StoreKind.ofTyped?

/-- The settings that hold: those of the environment, and for the rest those given. -/
def effective (settings : Settings) (environment : Environment) : Settings where
  log :=
    { level := textOr environment "GENERAL_LOG_LEVEL" settings.log.level
      format := textOr environment "GENERAL_LOG_FORMAT" settings.log.format }
  store :=
    { kind := (namedKind? environment).getD settings.store.kind
      name := textOr environment "LOG_STORE_NAME" settings.store.name
      serviceEndpoint :=
        textOr environment "LOG_STORE_SERVICE_ENDPOINT" settings.store.serviceEndpoint }
  operator :=
    { operatorNamespace :=
        textOr environment "OPERATOR_NAMESPACE" settings.operator.operatorNamespace
      collectorSecret :=
        textOr environment "OPERATOR_COLLECTOR_SECRET_NAME" settings.operator.collectorSecret
      defaultStoreUrl :=
        textOr environment "OPERATOR_DEFAULT_STORE_URL" settings.operator.defaultStoreUrl }
  secretsDirectory := textOr environment "SECRETS_DIR" settings.secretsDirectory

/-- A variable puts its value in the place of the setting that it stands for. That setting is
named by `read`: putting back what was read changes nothing. -/
theorem override_eq {change : Override} (read : Settings → String)
    (h : change.apply settings (read settings) = settings) :
    override environment settings change =
      change.apply settings (textOr environment change.key (read settings)) := by
  unfold override textOr
  cases environment.get? (variableStart ++ change.key) with
  | none => exact h.symm
  | some value => rfl

theorem value_overrideStoreKind : (overrideStoreKind environment settings).value =
    { settings with store :=
      { settings.store with kind := (namedKind? environment).getD settings.store.kind } } := by
  unfold overrideStoreKind namedKind?
  cases environment.get? storeKindVariable with
  | none => rfl
  | some typed =>
    cases h : StoreKind.ofTyped? typed with
    | none => simp [h]
    | some kind => simp [h]

/-- **The variables of the environment**, put in place one by one, give the effective
settings. -/
theorem value_withEnvironment :
    (settings.withEnvironment environment).value = settings.effective environment := by
  unfold withEnvironment textOverrides
  rw [value_overrideStoreKind]
  simp only [List.foldl_cons, List.foldl_nil]
  -- The last variable is the outermost one.
  rw [override_eq (·.secretsDirectory) rfl, override_eq (·.operator.defaultStoreUrl) rfl,
    override_eq (·.operator.collectorSecret) rfl, override_eq (·.operator.operatorNamespace) rfl,
    override_eq (·.store.serviceEndpoint) rfl, override_eq (·.store.name) rfl,
    override_eq (·.log.format) rfl, override_eq (·.log.level) rfl]
  rfl

/-! ### What the environment leaves alone -/

/-- The settings that are texts, by the keys of their variables. -/
def textSettings : List (String × (Settings → String)) :=
  [("GENERAL_LOG_LEVEL", (·.log.level)), ("GENERAL_LOG_FORMAT", (·.log.format)),
    ("LOG_STORE_NAME", (·.store.name)), ("LOG_STORE_SERVICE_ENDPOINT", (·.store.serviceEndpoint)),
    ("OPERATOR_NAMESPACE", (·.operator.operatorNamespace)),
    ("OPERATOR_COLLECTOR_SECRET_NAME", (·.operator.collectorSecret)),
    ("OPERATOR_DEFAULT_STORE_URL", (·.operator.defaultStoreUrl)),
    ("SECRETS_DIR", (·.secretsDirectory))]

/-- Settings agree on all that an environment leaves alone. -/
structure AgreesOutside (settings : Settings) (environment : Environment) (other : Settings) :
    Prop where
  /-- They have the texts in common for which there is no variable. -/
  texts : ∀ setting ∈ textSettings, environment.get? (variableStart ++ setting.1) = none →
    setting.2 settings = setting.2 other
  /-- They have the kind of log store in common if the environment names none. -/
  kind : namedKind? environment = none → settings.store.kind = other.store.kind

/-- Settings are the same if they have all their parts in common. -/
theorem eq_of_textSettings (htexts : ∀ setting ∈ textSettings, setting.2 settings = setting.2 other)
    (hkind : settings.store.kind = other.store.kind) : settings = other := by
  obtain ⟨⟨level, format⟩, ⟨kind, name, endpoint⟩, ⟨namespace', secret, url⟩, directory⟩ := settings
  obtain ⟨⟨_, _⟩, ⟨_, _, _⟩, ⟨_, _, _⟩, _⟩ := other
  simp only [textSettings, List.forall_mem_cons] at htexts
  simp_all

theorem textSetting_effective {setting : String × (Settings → String)}
    (h : setting ∈ textSettings) :
    setting.2 (settings.effective environment) =
      textOr environment setting.1 (setting.2 settings) := by
  simp only [textSettings, List.mem_cons, List.not_mem_nil, or_false] at h
  rcases h with rfl | rfl | rfl | rfl | rfl | rfl | rfl | rfl <;> rfl

theorem getD_eq_getD_iff {α : Type} {value : Option α} {a b : α} :
    value.getD a = value.getD b ↔ (value = none → a = b) := by
  cases value <;> simp

/-- **The effective settings** of two files are the same iff the files agree on all that the
environment leaves alone. -/
theorem effective_eq_iff : settings.effective environment = other.effective environment ↔
    settings.AgreesOutside environment other := by
  constructor
  · intro h
    refine ⟨fun setting hmem => ?_, ?_⟩
    · have htext := congrArg setting.2 h
      rw [textSetting_effective hmem, textSetting_effective hmem] at htext
      exact getD_eq_getD_iff.1 htext
    · exact getD_eq_getD_iff.1 (congrArg (·.store.kind) h)
  · rintro ⟨htexts, hkind⟩
    refine eq_of_textSettings (fun setting hmem => ?_) (getD_eq_getD_iff.2 hkind)
    rw [textSetting_effective hmem, textSetting_effective hmem]
    exact getD_eq_getD_iff.2 (htexts setting hmem)

/-! ### Loading -/

variable {files : Files} {path text : String} {file : Settings}

theorem finished_eq_ok_iff : (file.finished environment).value = .ok settings ↔
    (file.effective environment).invalid? = none ∧ file.effective environment = settings := by
  unfold finished
  simp only [Traced.value_bind, Traced.value_pure, value_withEnvironment, mapError_eq_ok_iff,
    checked_eq_ok_iff]

/-- A file is read iff it holds settings that are without fault as they stand. -/
theorem ofFile_eq_ok_iff : ofFile files path = .ok file ↔
    ∃ text, files.readText path = .ok text ∧ ofText text = .ok file ∧ file.invalid? = none := by
  unfold ofFile
  cases hread : files.readText path with
  | error error => cases error <;> simp
  | ok text =>
    simp only [mapError_eq_ok_iff, bind_eq_ok_iff, checked_eq_ok_iff, Except.ok.injEq,
      exists_eq_left']
    constructor
    · rintro ⟨settings, htext, hvalid, rfl⟩
      exact ⟨htext, hvalid⟩
    · rintro ⟨htext, hvalid⟩
      exact ⟨file, htext, hvalid, rfl⟩

theorem load_eq_ok_iff : (load files environment path).value = .ok settings ↔
    ∃ file, ofFile files path = .ok file ∧ (file.effective environment).invalid? = none
      ∧ file.effective environment = settings := by
  unfold load
  cases ofFile files path with
  | error error => simp
  | ok file => simp [finished_eq_ok_iff]

/-- Settings that were loaded are without fault. -/
theorem invalid?_of_load (h : (load files environment path).value = .ok settings) :
    settings.invalid? = none := by
  obtain ⟨file, -, hvalid, rfl⟩ := load_eq_ok_iff.1 h
  exact hvalid

/-- **Loading a file of settings** gives the effective settings. It succeeds iff they are
without fault and the settings of the file are, too. Of the values of the file that the
environment overrides nothing but that second fault is left: files that agree on the others
have the same effective settings. -/
theorem load_eq_ok_iff_valid (hread : files.readText path = .ok text)
    (htext : ofText text = .ok file) :
    (∀ settings, (load files environment path).value = .ok settings ↔
      file.invalid? = none ∧ (file.effective environment).invalid? = none
        ∧ settings = file.effective environment)
    ∧ ∀ other : Settings, other.AgreesOutside environment file →
      other.effective environment = file.effective environment := by
  refine ⟨fun settings => ?_, fun other hagrees => effective_eq_iff.2 hagrees⟩
  rw [load_eq_ok_iff]
  constructor
  · rintro ⟨found, hfound, hvalid, rfl⟩
    obtain ⟨_, hagain, hsame, hfile⟩ := ofFile_eq_ok_iff.1 hfound
    obtain rfl := Except.ok.inj (hread.symm.trans hagain)
    obtain rfl := Except.ok.inj (htext.symm.trans hsame)
    exact ⟨hfile, hvalid, rfl⟩
  · rintro ⟨hfile, hvalid, rfl⟩
    exact ⟨file, ofFile_eq_ok_iff.2 ⟨text, hread, htext, hfile⟩, hvalid, rfl⟩

end Settings

/-! ### Two files -/

namespace Files

/-- A file system in which there are some texts, each under its path, and nothing else. -/
def ofTexts (texts : List (String × String)) : Files where
  metadata path :=
    match texts.lookup path with
    | some text => .ok ⟨.file, text.utf8ByteSize⟩
    | none => .error .notFound
  read path :=
    match texts.lookup path with
    | some text => .ok text.toUTF8
    | none => .error .notFound
  names path := .error (if (texts.lookup path).isSome then .notDirectory else .notFound)

theorem readText_ofTexts {texts : List (String × String)} {path text : String}
    (h : texts.lookup path = some text) : (ofTexts texts).readText path = .ok text := by
  have hvalid : text.toByteArray.IsValidUTF8 := text.isValidUTF8
  simp [readText, ofTexts, h, bind, Except.bind, String.fromUTF8?, hvalid, String.fromUTF8]

end Files

/-- A settings file about a single tenant store. -/
def singleTenantText : String :=
  "[general]\nlog_level = \"debug\"\n[log_store]\ntype = \"elasticsearch\"\nname = \"es\"\n"

/-- That file in its usual place. -/
def singleTenantFiles : Files := .ofTexts [("logfwd.toml", singleTenantText)]

/-- An environment that asks for another store and another log format. -/
def multiTenantEnvironment : Environment :=
  .ofList [("LOGFWD_LOG_STORE_TYPE", "LokiStack"), ("LOGFWD_LOG_STORE_NAME", "loki"),
    ("LOGFWD_GENERAL_LOG_FORMAT", "pretty")]

/-- The environment's store takes the place of the file's, whose log level stays. -/
theorem load_singleTenantText :
    singleTenantFiles.readText "logfwd.toml" = .ok singleTenantText
    ∧ Settings.ofText singleTenantText =
      .ok { log := { level := "debug" }, store := .elasticsearch "es" }
    ∧ (Settings.load singleTenantFiles multiTenantEnvironment "logfwd.toml").value =
      .ok { log := { level := "debug", format := "pretty" }, store := .lokiStack "loki" } := by
  have hread : singleTenantFiles.readText "logfwd.toml" = .ok singleTenantText :=
    Files.readText_ofTexts rfl
  have htext : Settings.ofText singleTenantText =
    .ok { log := { level := "debug" }, store := .elasticsearch "es" } := by decide +kernel
  refine ⟨hread, htext, ?_⟩
  rw [(Settings.load_eq_ok_iff_valid hread htext).1]
  decide +kernel

/-- A settings file with a log level that there is not. -/
def verboseText : String := "[general]\nlog_level = \"verbose\"\n"

/-- That file in its usual place. -/
def verboseFiles : Files := .ofTexts [("logfwd.toml", verboseText)]

/-- An environment that sets the log level right. -/
def debugEnvironment : Environment := .ofList [("LOGFWD_GENERAL_LOG_LEVEL", "debug")]

/-- **A value that nothing will use** keeps the program from loading: the environment sets the
log level right, so that the effective settings are without fault, and yet the file is
refused for its own. -/
theorem exists_load_error_effective_valid : ∃ (files : Files) (environment : Environment)
    (path text : String) (file : Settings) (error : ServiceError),
    files.readText path = .ok text ∧ Settings.ofText text = .ok file
      ∧ (file.effective environment).invalid? = none
      ∧ (Settings.load files environment path).value = .error error := by
  have hread : verboseFiles.readText "logfwd.toml" = .ok verboseText :=
    Files.readText_ofTexts rfl
  have htext : Settings.ofText verboseText = .ok { log := { level := "verbose" } } := by decide +kernel
  refine ⟨verboseFiles, debugEnvironment, "logfwd.toml", verboseText, _,
    .settings (Settings.notOneOf "general.log_level" Settings.logLevels), hread, htext,
    by decide +kernel, ?_⟩
  simp only [Settings.load, Settings.ofFile, hread, htext, bind, Except.bind]
  decide +kernel

end LogForwarding
