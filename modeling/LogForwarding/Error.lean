import LogForwarding.Secret
import LogForwarding.Operator

/-!
# Errors

`ForwardingError` says why a specification could not be read or normalized,
`ServiceError` why a service around it failed, settings included. The texts of both
are in their `message` functions; `ServiceError.ofForwarding` carries an error of the
first kind over to the second, which keeps less of it.
-/

namespace LogForwarding

/-- Why a specification could not be read or normalized. -/
inductive ForwardingError where
  /-- Pipelines refer to the default output, but there is no log store. -/
  | noLogStore (pipelines : List String)
  /-- The secret of an output could not be looked up. -/
  | secretLookup (output secret : String) (source : SecretError)
  /-- A specification could not be read. -/
  | specLoad (path reason : String)
  /-- A setting is unusable. -/
  | setting (field reason : String)
  deriving DecidableEq, Repr, Inhabited

namespace ForwardingError

/-- The kind of an error, as counters show it. -/
def kind : ForwardingError → String
  | noLogStore _ => "no_log_store"
  | secretLookup _ _ _ => "secret_lookup"
  | specLoad _ _ => "spec_load"
  | setting _ _ => "config"

/-- The text of an error. -/
def message : ForwardingError → String
  | noLogStore pipelines =>
    "no log store configured for the default output referenced by pipelines: "
      ++ ", ".intercalate pipelines
  | secretLookup output secret source =>
    s!"secret lookup failed for output '{output}' (secret '{secret}'): {source.message}"
  | specLoad path reason => s!"spec load error: {path}: {reason}"
  | setting field reason => s!"config error: {field}: {reason}"

end ForwardingError

/-- The operator's surroundings, if they are usable. -/
def Operator.checked (operator : Operator) : Except ForwardingError Operator :=
  match operator.emptyField? with
  | some field => .error (.setting field.name "must not be empty")
  | none => .ok operator

/-- Why settings are unusable. -/
inductive SettingsError where
  /-- There is no such file. -/
  | fileNotFound (path : String)
  /-- The file is not written as settings are. -/
  | parseFailed (reason : String)
  /-- A value is not allowed. -/
  | invalidValue (field reason : String)
  deriving DecidableEq, Repr, Inhabited

namespace SettingsError

/-- The text of an error. -/
def message : SettingsError → String
  | fileNotFound path => s!"config file not found: {path}"
  | parseFailed reason => s!"failed to parse config: {reason}"
  | invalidValue field reason => s!"invalid config value for '{field}': {reason}"

end SettingsError

/-- Why a service around a specification failed. -/
inductive ServiceError where
  /-- The settings are unusable. -/
  | settings (source : SettingsError)
  /-- A specification could not be normalized for lack of a log store. -/
  | normalize (pipelines : String)
  /-- A secret could not be looked up. -/
  | secret (source : SecretError)
  /-- A specification could not be read. -/
  | specLoad (path reason : String)
  /-- Reading or writing failed. -/
  | inputOutput (reason : String)
  deriving DecidableEq, Repr, Inhabited

namespace ServiceError

/-- The text of an error. -/
def message : ServiceError → String
  | settings source => s!"config error: {source.message}"
  | normalize pipelines =>
    s!"normalize error: no log store configured for default output referenced by: {pipelines}"
  | secret source => s!"secret error: {source.message}"
  | specLoad path reason => s!"spec load error: {path}: {reason}"
  | inputOutput reason => s!"io error: {reason}"

/-- What remains of an error of a specification. -/
def ofForwarding : ForwardingError → ServiceError
  | .noLogStore pipelines => normalize (", ".intercalate pipelines)
  | .secretLookup _ _ source => secret source
  | .specLoad path reason => specLoad path reason
  | .setting field reason => settings (.invalidValue field reason)

end ServiceError

end LogForwarding
