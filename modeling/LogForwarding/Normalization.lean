import LogForwarding.Route.Default
import LogForwarding.Review.Pipelines

/-!
# Normalization

Normalizing a specification puts the log store in the place of `default`, reviews the
outputs and then the pipelines, and keeps what is usable. The result is a
specification in which every reference has its target, with a status for every entity
of the migrated specification. Nothing is kept between runs.
-/

namespace LogForwarding

/-- A normalized specification and what became of its entities. -/
structure Normalized where
  /-- The usable part of the migrated specification. -/
  spec : Spec
  /-- What became of every entity. -/
  status : Status
  deriving DecidableEq, Repr, Inhabited

namespace Migrated

/-- The reviews of the outputs of a migrated specification. -/
def outputReviews (migrated : Migrated) (lookup : SecretLookup) : OutputReviews :=
  reviewOutputs migrated.spec.outputs migrated.owned lookup

/-- The reviews of its pipelines, given those of its outputs. -/
def pipelineReviews (migrated : Migrated) (outputs : OutputReviews) : PipelineReviews :=
  reviewPipelines migrated.spec.pipelines migrated.spec.inputs outputs.acceptedNames
    migrated.owned

/-- What remains of a migrated specification after its reviews. -/
def assemble (migrated : Migrated) (outputs : OutputReviews) (pipelines : PipelineReviews) :
    Normalized where
  spec := { migrated.spec with outputs := outputs.accepted, pipelines := pipelines.kept }
  status :=
    { logSources := pipelines.logSources
      outputs := outputs.statuses
      pipelines := pipelines.statuses }

end Migrated

/-- What an observer sees of a finished run. -/
def Normalized.journal (normalized : Normalized) (store : Option Store) : Journal :=
  let summary := normalized.status.summary
  [.tell .info .normalization "normalized forwarding spec"
    [("store", .text (Store.kindOf store).name),
      ("outputs_accepted", .number summary.outputsAccepted),
      ("outputs_dropped", .number summary.outputsDropped),
      ("pipelines_accepted", .number summary.pipelinesAccepted),
      ("pipelines_degraded", .number summary.pipelinesDegraded),
      ("pipelines_dropped", .number summary.pipelinesDropped)]]

/-- What an observer sees of a run that is given up. -/
def ForwardingError.journal (error : ForwardingError) : Journal :=
  [.count (.abortedRuns error.kind) 1,
    .tell .error .normalization "normalization aborted" [("error", .text error.message)]]

/-- Reviews a migrated specification and keeps its usable part. -/
def Migrated.review (migrated : Migrated) (store : Option Store) (lookup : SecretLookup) :
    Traced (Except ForwardingError Normalized) :=
  let outputs := migrated.outputReviews lookup
  match outputs.failure? with
  | some failure => ⟨outputs.journal, .error failure⟩
  | none =>
    let pipelines := migrated.pipelineReviews outputs
    let normalized := migrated.assemble outputs pipelines
    ⟨outputs.journal ++ pipelines.journal ++ normalized.journal store, .ok normalized⟩

/-- What an observer sees at the end of every run. -/
def runJournal (result : Except ForwardingError Normalized) : Journal :=
  .count .measuredRuns 1 :: match result with
    | .ok _ => []
    | .error error => error.journal

/-- Normalizes a specification. -/
def Spec.normalize (spec : Spec) (store : Option Store) (lookup : SecretLookup)
    (operator : Operator) : Traced (Except ForwardingError Normalized) := do
  let result ← match ← spec.migrate store operator with
    | .ok migrated => migrated.review store lookup
    | .error error => pure (.error error)
  Traced.note (runJournal result)
  return result

end LogForwarding
