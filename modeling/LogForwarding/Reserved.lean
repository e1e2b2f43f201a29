import LogForwarding.Input

/-!
# Reserved names

Some names have a fixed meaning: the output `default` stands for the log store, the
inputs `application`, `infrastructure` and `audit` for all logs of their kind, and
two pipelines carry logs to the log store when nothing else is asked for. An entity
that a user declares must not take the name of a reserved output or pipeline;
`Ownership` records the reserved names that are in place rightfully.
-/

namespace LogForwarding.Reserved

/-- The output that stands for the log store. -/
def defaultOutput : String := "default"

/-- A pipeline that carries all logs of one kind to the log store. -/
structure StandardPipeline where
  /-- The reserved name. -/
  name : String
  /-- The kind of logs it carries. -/
  kind : SourceKind
  deriving DecidableEq, Repr

/-- The two standard pipelines. -/
def standardPipelines : List StandardPipeline :=
  [⟨"default-app-pipeline", .application⟩, ⟨"default-infra-pipeline", .infrastructure⟩]

/-- Whether a name is that of a standard pipeline. -/
def isPipelineName (name : String) : Bool :=
  standardPipelines.any (·.name == name)

/-- Whether a name is that of a reserved input. -/
def isInputName (name : String) : Bool :=
  (SourceKind.ofName? name).isSome

/-- What the name of a reserved input's tenant output ends in. -/
def tenantSuffix : SourceKind → String
  | .application => "loki-apps"
  | .infrastructure => "loki-infra"
  | .audit => "loki-audit"

/-- The name of the output that takes the logs of an input to its tenant. -/
def tenantOutput (input : String) : String :=
  match SourceKind.ofName? input with
  | some kind => s!"{defaultOutput}-{tenantSuffix kind}"
  | none => s!"{defaultOutput}-{input}"

/-- The entry that the secret of a Fluentd forward output must have. -/
def sharedKey : String := "shared_key"

end LogForwarding.Reserved

namespace LogForwarding

/-- The names of outputs and pipelines that were put in place for the log store. -/
structure Ownership where
  /-- Names of outputs. -/
  outputs : List String := []
  /-- Names of pipelines. -/
  pipelines : List String := []
  deriving DecidableEq, Repr, Inhabited

namespace Ownership

/-- Records the name of an output. -/
def claimOutput (owned : Ownership) (name : String) : Ownership :=
  { owned with outputs := name :: owned.outputs }

/-- Records the name of a pipeline. -/
def claimPipeline (owned : Ownership) (name : String) : Ownership :=
  { owned with pipelines := name :: owned.pipelines }

/-- Whether the name of an output is recorded. -/
def ownsOutput (owned : Ownership) (name : String) : Bool :=
  owned.outputs.contains name

/-- Whether the name of a pipeline is recorded. -/
def ownsPipeline (owned : Ownership) (name : String) : Bool :=
  owned.pipelines.contains name

@[simp] theorem ownsOutput_claimOutput {owned : Ownership} {name other : String} :
    (owned.claimOutput name).ownsOutput other = (other == name || owned.ownsOutput other) := by
  simp only [claimOutput, ownsOutput, List.contains_cons]

@[simp] theorem ownsPipeline_claimPipeline {owned : Ownership} {name other : String} :
    (owned.claimPipeline name).ownsPipeline other
      = (other == name || owned.ownsPipeline other) := by
  simp only [claimPipeline, ownsPipeline, List.contains_cons]

@[simp] theorem ownsPipeline_claimOutput {owned : Ownership} {name other : String} :
    (owned.claimOutput name).ownsPipeline other = owned.ownsPipeline other := rfl

@[simp] theorem ownsOutput_claimPipeline {owned : Ownership} {name other : String} :
    (owned.claimPipeline name).ownsOutput other = owned.ownsOutput other := rfl

end Ownership

end LogForwarding
