import LogForwarding.Output
import LogForwarding.Input
import LogForwarding.Pipeline

/-!
# Forwarding specifications

A specification lists outputs, pipelines and inputs, and says what holds for the
default log store: whether it may be used without being asked for, and which
settings its output gets.
-/

namespace LogForwarding

/-- Settings for outputs that are made rather than declared. -/
structure OutputDefaults where
  /-- The settings of the default output of a single tenant store. -/
  elasticsearch : Option Tuning := none
  deriving DecidableEq, Repr, Inhabited

/-- A log forwarding specification. -/
structure Spec where
  /-- The places that logs can be sent to. -/
  outputs : List Output := []
  /-- The routes from inputs to outputs. -/
  pipelines : List Pipeline := []
  /-- The named groups of logs. -/
  inputs : List Input := []
  /-- Whether an empty specification forwards nothing instead of the usual logs. -/
  disableDefaultForwarding : Bool := false
  /-- Settings for outputs that are made. -/
  outputDefaults : Option OutputDefaults := none
  deriving DecidableEq, Repr, Inhabited

namespace Spec

/-- Whether nothing is declared. The switch for default forwarding does not count. -/
def isEmpty (spec : Spec) : Bool :=
  spec.outputs.isEmpty && spec.pipelines.isEmpty && spec.inputs.isEmpty
    && spec.outputDefaults.isNone

/-- The settings that the default output gets unless it is declared with its own. -/
def defaultTuning (spec : Spec) : Option Tuning :=
  spec.outputDefaults.bind (·.elasticsearch)

end Spec

end LogForwarding
