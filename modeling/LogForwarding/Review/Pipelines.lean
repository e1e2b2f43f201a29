import LogForwarding.Review.Outputs

/-!
# Reviewing pipelines

Each pipeline is checked for its name and its inputs; a fault in either drops it. Of
the outputs it sends to only accepted ones are kept. A pipeline that loses some is
degraded, one that is left with none is dropped. Of several pipelines with one name
the first that is kept has it.
-/

namespace LogForwarding

namespace Pipeline

/-- What is wrong with a pipeline's name, given the names kept before it. -/
def nameFault? (pipeline : Pipeline) (owned : Ownership) (kept : List String) : Option Reason :=
  if pipeline.name.isEmpty then some .missingName
  else if Reserved.isPipelineName pipeline.name && !owned.ownsPipeline pipeline.name then
    some .reservedNameConflict
  else if pipeline.name ∈ kept then some .uniqueName
  else none

/-- The condition on a pipeline's name. -/
def nameCondition? (pipeline : Pipeline) (owned : Ownership) (kept : List String) :
    Option Condition :=
  (pipeline.nameFault? owned kept).map fun reason => { aspect := .name, reason }

/-- The inputs of a pipeline that stand for no known kind of logs. -/
def unresolved (pipeline : Pipeline) (inputs : List Input) : List String :=
  pipeline.inputRefs.filter fun ref => (Input.resolve? inputs ref).isNone

/-- The kinds of logs that a pipeline carries. -/
def kinds (pipeline : Pipeline) (inputs : List Input) : List SourceKind :=
  pipeline.inputRefs.filterMap (Input.resolve? inputs)

/-- The condition on a pipeline's inputs. -/
def sourceCondition? (pipeline : Pipeline) (inputs : List Input) : Option Condition :=
  if pipeline.inputRefs.isEmpty then some { aspect := .source, reason := .missingSource }
  else if (pipeline.unresolved inputs).isEmpty then none
  else
    some { aspect := .source, reason := .unrecognizedSourceType
           message := "The pipeline references inputs of unknown kind: "
            ++ ", ".intercalate (pipeline.unresolved inputs) }

/-- The conditions that drop a pipeline whatever its outputs are. -/
def entryConditions (pipeline : Pipeline) (inputs : List Input) (owned : Ownership)
    (kept : List String) : List Condition :=
  (pipeline.nameCondition? owned kept).toList ++ (pipeline.sourceCondition? inputs).toList

/-- The references of a pipeline to accepted outputs. -/
def keptRefs (pipeline : Pipeline) (accepted : List String) : List String :=
  pipeline.outputRefs.filter (· ∈ accepted)

/-- The references of a pipeline to outputs that were not accepted. -/
def lostRefs (pipeline : Pipeline) (accepted : List String) : List String :=
  pipeline.outputRefs.filter (· ∉ accepted)

/-- The condition on a reference to an output that was not accepted. -/
def lostRefCondition (ref : String) : Condition where
  aspect := .outputRef
  reason := .unrecognizedOutputRef
  message := s!"The pipeline references an unrecognized output '{ref}'."

/-- The conditions on a pipeline's outputs: one for each that is lost, and one more if
any is lost or there are none. -/
def outputConditions (pipeline : Pipeline) (accepted : List String) : List Condition :=
  let lost := pipeline.lostRefs accepted
  lost.map lostRefCondition
    ++ if lost.isEmpty && !pipeline.outputRefs.isEmpty then []
      else [{ aspect := .outputRef, reason := .missingOutputs }]

/-- What becomes of a pipeline that is not at fault itself. -/
def outputState (pipeline : Pipeline) (accepted : List String) : State :=
  if (pipeline.keptRefs accepted).isEmpty then .dropped
  else if (pipeline.lostRefs accepted).isEmpty then .accepted
  else .degraded

/-- The status of the pipeline at a position, given the names kept before it. -/
def status (pipeline : Pipeline) (inputs : List Input) (accepted : List String)
    (owned : Ownership) (kept : List String) (position : Nat) : EntityStatus :=
  let conditions := pipeline.entryConditions inputs owned kept
  { name := if (pipeline.nameFault? owned kept).isSome then s!"pipeline[{position}]"
      else pipeline.name
    state := if conditions.isEmpty then pipeline.outputState accepted else .dropped
    conditions :=
      if conditions.isEmpty then pipeline.outputConditions accepted else conditions }

/-- A pipeline without its references to outputs that were not accepted. -/
def pruned (pipeline : Pipeline) (accepted : List String) : Pipeline :=
  { pipeline with outputRefs := pipeline.keptRefs accepted }

end Pipeline

/-- What was found about one pipeline. -/
structure PipelineReview where
  /-- The pipeline as declared. -/
  pipeline : Pipeline
  /-- Its status. -/
  status : EntityStatus
  deriving DecidableEq, Repr, Inhabited

namespace PipelineReview

/-- Whether the pipeline is used at all. -/
def isKept (review : PipelineReview) : Bool := review.status.state != .dropped

/-- What an observer sees of the review of one pipeline. -/
def journal (review : PipelineReview) : Journal :=
  let status := review.status
  [.tell .debug .pipelines "evaluated pipeline"
      [("pipeline", .text status.name), ("state", .text status.state.name),
        ("conditions", .number status.conditions.length)],
    .count (.pipelines status.state) 1]
  ++ match status.state with
    | .accepted => []
    | .degraded =>
      [.tell .warn .pipelines "pipeline degraded: some output references were dropped"
        [("pipeline", .text status.name)]]
    | .dropped =>
      [.tell .warn .pipelines "dropping pipeline"
        [("pipeline", .text status.name), ("reasons", .text status.reasonsText)]]

end PipelineReview

/-- What was found about pipelines. -/
structure PipelineReviews where
  /-- The pipelines in order. -/
  reviews : List PipelineReview := []
  /-- The inputs that they were checked against. -/
  inputs : List Input := []
  /-- The names of the outputs that were accepted. -/
  accepted : List String := []
  deriving DecidableEq, Repr, Inhabited

namespace PipelineReviews

/-- The pipelines that are used, without the references they lost. -/
def kept (found : PipelineReviews) : List Pipeline :=
  (found.reviews.filter (·.isKept)).map fun review => review.pipeline.pruned found.accepted

/-- The kinds of logs that are forwarded. -/
def logSources (found : PipelineReviews) : SourceSet :=
  .ofList (found.kept.flatMap (·.kinds found.inputs))

/-- The statuses of the pipelines. -/
def statuses (found : PipelineReviews) : List EntityStatus :=
  found.reviews.map (·.status)

/-- What an observer sees of a review. -/
def journal (found : PipelineReviews) : Journal :=
  found.reviews.flatMap (·.journal)

end PipelineReviews

/-- Reviews pipelines from a position on, given the names kept before it. -/
def reviewPipelinesFrom (inputs : List Input) (accepted : List String) (owned : Ownership) :
    List String → Nat → List Pipeline → List PipelineReview
  | _, _, [] => []
  | kept, position, pipeline :: rest =>
    let review : PipelineReview :=
      { pipeline, status := pipeline.status inputs accepted owned kept position }
    let kept := if review.isKept then pipeline.name :: kept else kept
    review :: reviewPipelinesFrom inputs accepted owned kept (position + 1) rest

/-- Reviews a list of pipelines. -/
def reviewPipelines (pipelines : List Pipeline) (inputs : List Input) (accepted : List String)
    (owned : Ownership) : PipelineReviews :=
  { reviews := reviewPipelinesFrom inputs accepted owned [] 0 pipelines, inputs, accepted }

end LogForwarding
