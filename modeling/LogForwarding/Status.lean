import LogForwarding.Input

/-!
# Status reports

A status says what became of an output or a pipeline and why. The conditions of an
entity are the reasons, in the order in which they were found; an entity without
conditions is accepted. `Status` collects the statuses of all entities together
with the kinds of logs that are forwarded.
-/

namespace LogForwarding

/-- What became of an entity. -/
inductive State where
  /-- It is used as declared. -/
  | accepted
  /-- It is used, but lost some of its outputs. Only pipelines get here. -/
  | degraded
  /-- It is left out. -/
  | dropped
  deriving DecidableEq, Repr, Inhabited

namespace State

/-- All states in their order. -/
def all : List State := [accepted, degraded, dropped]

/-- The name of a state in a report. -/
def name : State → String
  | accepted => "Accepted"
  | degraded => "Degraded"
  | dropped => "Dropped"

/-- The name of a state in a counter. -/
def label : State → String
  | accepted => "accepted"
  | degraded => "degraded"
  | dropped => "dropped"

end State

/-- The part of an entity that a condition is about. -/
inductive Aspect where
  /-- The name. -/
  | name
  /-- The kind of an output. -/
  | kind
  /-- The address of an output. -/
  | endpoint
  /-- The secret of an output. -/
  | secret
  /-- The inputs of a pipeline. -/
  | source
  /-- The outputs of a pipeline. -/
  | outputRef
  deriving DecidableEq, Repr, Inhabited

namespace Aspect

/-- All aspects in their order. -/
def all : List Aspect := [name, kind, endpoint, secret, source, outputRef]

/-- The name of an aspect in a report. -/
def label : Aspect → String
  | name => "Name"
  | kind => "Type"
  | endpoint => "Endpoint"
  | secret => "Secret"
  | source => "SourceType"
  | outputRef => "OutputRef"

end Aspect

/-- Why an entity is not used as declared. -/
inductive Reason where
  /-- It has no name. -/
  | missingName
  /-- Its name is reserved. -/
  | reservedNameConflict
  /-- An earlier output has its name. -/
  | nonUniqueName
  /-- An earlier pipeline has its name. -/
  | uniqueName
  /-- An output has no kind. -/
  | missingType
  /-- An output has an unknown kind. -/
  | unrecognizedType
  /-- An output has no address. -/
  | missingEndpoint
  /-- An output refers to a secret without a name. -/
  | missingSecretName
  /-- The secret of an output does not exist. -/
  | secretDoesNotExist
  /-- The secret of an output lacks an entry that it needs. -/
  | secretMissingSharedKey
  /-- A pipeline has no inputs. -/
  | missingSource
  /-- A pipeline refers to an input that collects nothing known. -/
  | unrecognizedSourceType
  /-- A pipeline refers to an output that was not accepted. -/
  | unrecognizedOutputRef
  /-- A pipeline lost outputs, or has none. -/
  | missingOutputs
  deriving DecidableEq, Repr, Inhabited

namespace Reason

/-- All reasons in their order. -/
def all : List Reason :=
  [missingName, reservedNameConflict, nonUniqueName, uniqueName, missingType, unrecognizedType,
    missingEndpoint, missingSecretName, secretDoesNotExist, secretMissingSharedKey, missingSource,
    unrecognizedSourceType, unrecognizedOutputRef, missingOutputs]

/-- The name of a reason in a report. -/
def label : Reason → String
  | missingName => "MissingName"
  | reservedNameConflict => "ReservedNameConflict"
  | nonUniqueName => "NonUniqueName"
  | uniqueName => "UniqueName"
  | missingType => "MissingType"
  | unrecognizedType => "UnrecognizedType"
  | missingEndpoint => "MissingEndpoint"
  | missingSecretName => "MissingSecretName"
  | secretDoesNotExist => "SecretDoesNotExist"
  | secretMissingSharedKey => "SecretMissingSharedKey"
  | missingSource => "MissingSource"
  | unrecognizedSourceType => "UnrecognizedSourceType"
  | unrecognizedOutputRef => "UnrecognizedOutputRef"
  | missingOutputs => "MissingOutputs"

/-- What a report says about a reason when nothing more is known. -/
def message : Reason → String
  | missingName => "The name is missing."
  | reservedNameConflict => "The name is reserved for operator generated entities."
  | nonUniqueName => "The output name is not unique among all defined outputs."
  | uniqueName => "The pipeline name is not unique among all defined pipelines."
  | missingType => "The output type is missing."
  | unrecognizedType => "The output type is not recognized."
  | missingEndpoint => "The output url is missing."
  | missingSecretName => "The output references a secret without a name."
  | secretDoesNotExist => "The referenced secret does not exist."
  | secretMissingSharedKey => "The referenced secret is missing the 'shared_key' entry."
  | missingSource => "The pipeline does not reference any input."
  | unrecognizedSourceType => "The pipeline references an input of unknown kind."
  | unrecognizedOutputRef => "The pipeline references an output that was not accepted."
  | missingOutputs => "The pipeline lost one or more of its outputs."

end Reason

/-- One reason why an entity is not used as declared. -/
structure Condition where
  /-- The part of the entity that is at fault. -/
  aspect : Aspect
  /-- What is wrong with it. -/
  reason : Reason
  /-- The same for a human reader. -/
  message : String := reason.message
  deriving DecidableEq, Repr, Inhabited

/-- What became of one output or pipeline. -/
structure EntityStatus where
  /-- The entity's name, or its position if the name is at fault. -/
  name : String
  /-- What became of it. -/
  state : State := .accepted
  /-- Why, in the order found. -/
  conditions : List Condition := []
  deriving DecidableEq, Repr, Inhabited

namespace EntityStatus

/-- The status with one more condition. -/
def add (status : EntityStatus) (condition : Condition) : EntityStatus :=
  { status with conditions := status.conditions ++ [condition] }

/-- Whether there is any condition. -/
def hasConditions (status : EntityStatus) : Bool := !status.conditions.isEmpty

/-- Whether some condition has the given reason. -/
def hasReason (status : EntityStatus) (reason : Reason) : Bool :=
  status.conditions.any (·.reason == reason)

/-- The reasons of all conditions. -/
def reasons (status : EntityStatus) : List Reason := status.conditions.map (·.reason)

/-- Whether the entity is used as declared. -/
def isAccepted (status : EntityStatus) : Bool := status.state == .accepted

end EntityStatus

/-- What became of a whole specification. -/
structure Status where
  /-- The kinds of logs that are forwarded. -/
  logSources : SourceSet := {}
  /-- The statuses of the outputs, in their order. -/
  outputs : List EntityStatus := []
  /-- The statuses of the pipelines, in their order. -/
  pipelines : List EntityStatus := []
  deriving DecidableEq, Repr, Inhabited

/-- How many entities ended in each state. -/
structure Summary where
  /-- Outputs that are used. -/
  outputsAccepted : Nat
  /-- Outputs that are not used. -/
  outputsDropped : Nat
  /-- Pipelines that are used as declared. -/
  pipelinesAccepted : Nat
  /-- Pipelines that are used without some of their outputs. -/
  pipelinesDegraded : Nat
  /-- Pipelines that are not used. -/
  pipelinesDropped : Nat
  deriving DecidableEq, Repr, Inhabited

namespace Status

/-- The status of the first output shown under a name. -/
def output? (status : Status) (name : String) : Option EntityStatus :=
  status.outputs.find? (·.name == name)

/-- The status of the first pipeline shown under a name. -/
def pipeline? (status : Status) (name : String) : Option EntityStatus :=
  status.pipelines.find? (·.name == name)

/-- The number of entities in a state. -/
def countState (statuses : List EntityStatus) (state : State) : Nat :=
  statuses.countP (·.state == state)

/-- The counts of all states. An output is either accepted or not. -/
def summary (status : Status) : Summary where
  outputsAccepted := countState status.outputs .accepted
  outputsDropped := status.outputs.countP (·.state != .accepted)
  pipelinesAccepted := countState status.pipelines .accepted
  pipelinesDegraded := countState status.pipelines .degraded
  pipelinesDropped := countState status.pipelines .dropped

/-- Whether every entity is used as declared. -/
def isFullyAccepted (status : Status) : Bool :=
  status.outputs.all (·.isAccepted) && status.pipelines.all (·.isAccepted)

end Status

end LogForwarding
