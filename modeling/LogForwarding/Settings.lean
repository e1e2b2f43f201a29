import LogForwarding.Error
import LogForwarding.Journal

/-!
# Settings

Settings say how much is logged, which log store there is, where the operator runs
and where secrets are kept. They come from a file, and variables of the environment
take precedence over it. `Settings.invalid?` is the first fault of finished settings.
-/

namespace LogForwarding

/-- How the program writes its log. -/
structure LogSettings where
  /-- How much is logged. -/
  level : String := "info"
  /-- How log lines are written. -/
  format : String := "json"
  deriving DecidableEq, Repr, Inhabited

/-- The settings of the program. -/
structure Settings where
  /-- How the program writes its log. -/
  log : LogSettings := {}
  /-- The log store. -/
  store : Store := {}
  /-- Where the operator runs. -/
  operator : Operator := {}
  /-- The directory in which secrets are kept. -/
  secretsDirectory : String := "/etc/logfwd/secrets"
  deriving DecidableEq, Repr, Inhabited

/-- The variables of an environment. -/
abbrev Environment : Type := Dictionary String

namespace Settings

/-- The log store, if there is one. -/
def store? (settings : Settings) : Option Store :=
  if settings.store.isConfigured then some settings.store else none

/-- The levels at which the program can log. -/
def logLevels : List String := ["trace", "debug", "info", "warn", "error"]

/-- The ways in which log lines can be written. -/
def logFormats : List String := ["json", "pretty"]

/-- The fault of a value that is none of those allowed. -/
def notOneOf (field : String) (allowed : List String) : SettingsError :=
  .invalidValue field ("must be one of: " ++ ", ".intercalate allowed)

/-- The first fault of settings, if any. -/
def invalid? (settings : Settings) : Option SettingsError :=
  if settings.log.level ∉ logLevels then some (notOneOf "general.log_level" logLevels)
  else if settings.log.format ∉ logFormats then some (notOneOf "general.log_format" logFormats)
  else if settings.operator.operatorNamespace.isEmpty then
    some (.invalidValue "operator.namespace" "namespace must not be empty")
  else if settings.store.isMultiTenant && settings.store.name.isEmpty then
    some (.invalidValue "log_store.name" "name must not be empty for a lokistack log store")
  else none

/-- Settings without fault. -/
def checked (settings : Settings) : Except SettingsError Settings :=
  match settings.invalid? with
  | some fault => .error fault
  | none => .ok settings

/-- What the name of every variable for settings starts with. -/
def variableStart : String := "LOGFWD_"

/-- A variable of the environment and the setting that it stands for. -/
structure Override where
  /-- The variable's name without what all of them start with. -/
  key : String
  /-- Puts the variable's value in place. -/
  apply : Settings → String → Settings

/-- The variables whose value is taken as it is. -/
def textOverrides : List Override := [
  ⟨"GENERAL_LOG_LEVEL", fun settings level =>
    { settings with log := { settings.log with level } }⟩,
  ⟨"GENERAL_LOG_FORMAT", fun settings format =>
    { settings with log := { settings.log with format } }⟩,
  ⟨"LOG_STORE_NAME", fun settings name =>
    { settings with store := { settings.store with name } }⟩,
  ⟨"LOG_STORE_SERVICE_ENDPOINT", fun settings serviceEndpoint =>
    { settings with store := { settings.store with serviceEndpoint } }⟩,
  ⟨"OPERATOR_NAMESPACE", fun settings operatorNamespace =>
    { settings with operator := { settings.operator with operatorNamespace } }⟩,
  ⟨"OPERATOR_COLLECTOR_SECRET_NAME", fun settings collectorSecret =>
    { settings with operator := { settings.operator with collectorSecret } }⟩,
  ⟨"OPERATOR_DEFAULT_STORE_URL", fun settings defaultStoreUrl =>
    { settings with operator := { settings.operator with defaultStoreUrl } }⟩,
  ⟨"SECRETS_DIR", fun settings secretsDirectory => { settings with secretsDirectory }⟩]

/-- The settings with one variable put in place, if it is set. -/
def override (environment : Environment) (settings : Settings) (change : Override) : Settings :=
  match environment.get? (variableStart ++ change.key) with
  | some value => change.apply settings value
  | none => settings

/-- The variable for the kind of log store. -/
def storeKindVariable : String := variableStart ++ "LOG_STORE_TYPE"

/-- The settings with the kind of log store taken from the environment. A value that
is no kind changes nothing. -/
def overrideStoreKind (environment : Environment) (settings : Settings) : Traced Settings :=
  match environment.get? storeKindVariable with
  | none => ⟨[], settings⟩
  | some typed =>
    match StoreKind.ofTyped? typed with
    | some kind => ⟨[], { settings with store := { settings.store with kind } }⟩
    | none =>
      ⟨[.tell .warn .settings "failed to parse log store type from env var, ignoring"
          [("env_key", .text storeKindVariable), ("value", .text typed)]], settings⟩

/-- The settings with all variables of the environment put in place. -/
def withEnvironment (settings : Settings) (environment : Environment) : Traced Settings :=
  overrideStoreKind environment (textOverrides.foldl (override environment) settings)

end Settings

end LogForwarding
