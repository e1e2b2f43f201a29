import LogForwarding.Document.Spec
import LogForwarding.Status

/-!
# Status reports as documents

The parts of a status report have fixed fields, and all of them have to be there.
-/

namespace LogForwarding

/-- The document of a kind of logs. -/
def SourceKind.toDocument (kind : SourceKind) : Document := .text kind.name

/-- Reads a kind of logs. -/
def SourceKind.reader (dialect : Dialect) : Reader SourceKind :=
  Reader.variant dialect (SourceKind.all.map fun kind => (kind.name, kind))

/-- The document of a state. -/
def State.toDocument (state : State) : Document := .text state.name

/-- Reads a state. -/
def State.reader (dialect : Dialect) : Reader State :=
  Reader.variant dialect (State.all.map fun state => (state.name, state))

/-- Reads an aspect. -/
def Aspect.reader (dialect : Dialect) : Reader Aspect :=
  Reader.variant dialect (Aspect.all.map fun aspect => (aspect.label, aspect))

/-- Reads a reason. -/
def Reason.reader (dialect : Dialect) : Reader Reason :=
  Reader.variant dialect (Reason.all.map fun reason => (reason.label, reason))

/-- A field that has to be there. -/
def Field.needed {ρ α : Type} (name : String) (reader : Reader α) (set : ρ → α → ρ) : Field ρ :=
  { Field.of name reader set with required := true }

/-- The document of a condition. -/
def Condition.toDocument (condition : Condition) : Document :=
  .record [("type", .text condition.aspect.label), ("reason", .text condition.reason.label),
    ("message", .text condition.message)]

/-- Reads a condition. -/
def Condition.reader (dialect : Dialect) : Reader Condition :=
  Reader.record dialect "Condition"
    [.needed "type" (Aspect.reader dialect) fun condition aspect => { condition with aspect },
      .needed "reason" (Reason.reader dialect) fun condition reason => { condition with reason },
      .needed "message" Reader.text fun condition message => { condition with message }] default

/-- The document of an entity's status. -/
def EntityStatus.toDocument (status : EntityStatus) : Document :=
  .record [("name", .text status.name), ("state", status.state.toDocument),
    ("conditions", .list (status.conditions.map (·.toDocument)))]

/-- Reads an entity's status. -/
def EntityStatus.reader (dialect : Dialect) : Reader EntityStatus :=
  Reader.record dialect "EntityStatus"
    [.needed "name" Reader.text fun status name => { status with name },
      .needed "state" (State.reader dialect) fun status state => { status with state },
      .needed "conditions" (Reader.list dialect (Condition.reader dialect))
        fun status conditions => { status with conditions }] default

/-- The document of a status report. -/
def Status.toDocument (status : Status) : Document :=
  .record [("logSources", .list (status.logSources.toList.map (·.toDocument))),
    ("outputs", .list (status.outputs.map (·.toDocument))),
    ("pipelines", .list (status.pipelines.map (·.toDocument)))]

/-- Reads a status report. -/
def Status.reader (dialect : Dialect) : Reader Status :=
  Reader.record dialect "ForwardingStatus"
    [.needed "logSources" (Reader.list dialect (SourceKind.reader dialect))
        fun status kinds => { status with logSources := .ofList kinds },
      .needed "outputs" (Reader.list dialect (EntityStatus.reader dialect))
        fun status outputs => { status with outputs },
      .needed "pipelines" (Reader.list dialect (EntityStatus.reader dialect))
        fun status pipelines => { status with pipelines }] {}

/-- The document of a summary. -/
def Summary.toDocument (summary : Summary) : Document :=
  .record [("outputs_accepted", .integer summary.outputsAccepted),
    ("outputs_dropped", .integer summary.outputsDropped),
    ("pipelines_accepted", .integer summary.pipelinesAccepted),
    ("pipelines_degraded", .integer summary.pipelinesDegraded),
    ("pipelines_dropped", .integer summary.pipelinesDropped)]

end LogForwarding
