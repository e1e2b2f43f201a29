import LogForwarding.Dictionary

/-!
# Pipelines

A pipeline sends the logs of its inputs to its outputs, both referred to by name,
and may put labels on every record.
-/

namespace LogForwarding

/-- A route from inputs to outputs. -/
structure Pipeline where
  /-- The pipeline's name. -/
  name : String := ""
  /-- The names of the inputs it takes logs from. -/
  inputRefs : List String := []
  /-- The names of the outputs it sends logs to. -/
  outputRefs : List String := []
  /-- The labels put on every record. -/
  labels : Dictionary String := .empty
  /-- How records are parsed, such as `json`. -/
  parse : Option String := none
  deriving DecidableEq, Repr, Inhabited

namespace Pipeline

/-- Whether the pipeline sends to the output of the given name. -/
def references (pipeline : Pipeline) (output : String) : Bool :=
  pipeline.outputRefs.contains output

/-- How a report names the pipeline at a position: by its name, or by the position
if it has none. -/
def displayName (pipeline : Pipeline) (index : Nat) : String :=
  if pipeline.name.isEmpty then s!"pipeline[{index}]" else pipeline.name

end Pipeline

end LogForwarding
