import LogForwarding.Proofs.Normalization

/-!
# Full acceptance

A status is fully accepted if every output and every pipeline is used as declared. A
review is then as short as it can be: it leaves the specification as it was, and its
status says no more than the names, `Spec.acceptedStatus`.

That is what becomes of the next review. What a review leaves out takes nothing with it that
the rest needs: pipelines lose their references to dropped outputs in the same review, a name
is free once nothing has it, and inputs stay. So one round of reviews is enough.

## What is proved

* `Migrated.isFullyAccepted_reviewed_iff`: a review accepts everything iff it leaves the
  specification as it was.
* `Migrated.reviewed_of_isFullyAccepted`: what a review comes to that accepts everything.
* `acceptsAll_reviewed_again`: reviews of what reviews have left accept everything.
-/

namespace LogForwarding

/-- The status of a specification of which everything is used as declared. -/
def Spec.acceptedStatus (spec : Spec) : Status where
  logSources := .ofList (spec.pipelines.flatMap (·.kinds spec.inputs))
  outputs := spec.outputs.map fun output => { name := output.name }
  pipelines := spec.pipelines.map fun pipeline => { name := pipeline.name }

namespace Migrated

variable {migrated : Migrated} {lookup : SecretLookup}

/-- **A review accepts everything** iff it leaves the specification as it was. -/
theorem isFullyAccepted_reviewed_iff (h : (migrated.outputReviews lookup).failure? = none) :
    (migrated.reviewed lookup).status.isFullyAccepted ↔
      (migrated.reviewed lookup).spec = migrated.spec := by
  have houtputs : (migrated.reviewed lookup).status.outputs.all (·.isAccepted) ↔
      (migrated.reviewed lookup).spec.outputs = migrated.spec.outputs :=
    all_isAccepted_reviewOutputs_iff h
  have hpipelines : (migrated.reviewed lookup).status.pipelines.all (·.isAccepted) ↔
      (migrated.reviewed lookup).spec.pipelines = migrated.spec.pipelines :=
    all_isAccepted_reviewPipelines_iff
  rw [Status.isFullyAccepted, Bool.and_eq_true, houtputs, hpipelines]
  constructor
  · rintro ⟨houtputs, hpipelines⟩
    rw [spec_reviewed, houtputs, hpipelines]
  · intro hspec
    exact ⟨congrArg Spec.outputs hspec, congrArg Spec.pipelines hspec⟩

/-- Where everything is accepted, the status says no more than the names. -/
theorem status_reviewed_of_isFullyAccepted (h : (migrated.outputReviews lookup).failure? = none)
    (haccepted : (migrated.reviewed lookup).status.isFullyAccepted) :
    (migrated.reviewed lookup).status = migrated.spec.acceptedStatus := by
  have hspec := (isFullyAccepted_reviewed_iff h).1 haccepted
  rw [Status.isFullyAccepted, Bool.and_eq_true] at haccepted
  have hsources : (migrated.reviewed lookup).status.logSources =
      migrated.spec.acceptedStatus.logSources := by
    rw [← hspec]
    rfl
  have houtputs : (migrated.reviewed lookup).status.outputs =
      migrated.spec.acceptedStatus.outputs := statuses_reviewOutputs_of_all h haccepted.1
  have hpipelines : (migrated.reviewed lookup).status.pipelines =
      migrated.spec.acceptedStatus.pipelines := statuses_reviewPipelines_of_all haccepted.2
  exact congr (congr (congrArg Status.mk hsources) houtputs) hpipelines

/-- A review that accepts everything leaves the specification as it was, and its status
says no more than the names. -/
theorem reviewed_of_isFullyAccepted (h : (migrated.outputReviews lookup).failure? = none)
    (haccepted : (migrated.reviewed lookup).status.isFullyAccepted) :
    migrated.reviewed lookup = ⟨migrated.spec, migrated.spec.acceptedStatus⟩ :=
  congr (congrArg Normalized.mk ((isFullyAccepted_reviewed_iff h).1 haccepted))
    (status_reviewed_of_isFullyAccepted h haccepted)

/-- A review of a clean specification accepts everything. -/
theorem Clean.reviewed (h : migrated.Clean lookup) :
    migrated.reviewed lookup = ⟨migrated.spec, migrated.spec.acceptedStatus⟩ :=
  reviewed_of_isFullyAccepted h.failure? ((isFullyAccepted_reviewed_iff h.failure?).2 h.reviewed_eq)

/-- Where everything is accepted, the specification was clean. -/
theorem clean_of_isFullyAccepted (h : (migrated.outputReviews lookup).failure? = none)
    (haccepted : (migrated.reviewed lookup).status.isFullyAccepted) : migrated.Clean lookup := by
  have hclean := clean_reviewed h
  rw [(isFullyAccepted_reviewed_iff h).1 haccepted] at hclean
  exact hclean

end Migrated

/-! ### One round -/

/-- Whether a review of outputs finds nothing wrong: it does not fail, leaves the outputs as they
are, and shows each under its name, without a condition. -/
structure OutputReviews.AcceptsAll (found : OutputReviews) (outputs : List Output) : Prop where
  /-- No look-up fails. -/
  failure? : found.failure? = none
  /-- The outputs are used as declared. -/
  accepted : found.accepted = outputs
  /-- Every output is accepted, and nothing is said against it. -/
  statuses : found.statuses =
    outputs.map fun output => { name := output.name, state := .accepted, conditions := [] }

/-- Whether a review of pipelines finds nothing wrong: it leaves the pipelines as they are, and
shows each under its name, without a condition. -/
structure PipelineReviews.AcceptsAll (found : PipelineReviews) (pipelines : List Pipeline) :
    Prop where
  /-- The pipelines are used as declared. -/
  kept : found.kept = pipelines
  /-- Every pipeline is accepted, and nothing is said against it. -/
  statuses : found.statuses =
    pipelines.map fun pipeline => { name := pipeline.name, state := .accepted, conditions := [] }

/-- **One round of reviews is enough**: where the reviews of the outputs and the pipelines of a
specification have left some, reviews of these accept everything, and find the same names and
the same kinds of logs. -/
theorem acceptsAll_reviewed_again {spec : Spec} {owned : Ownership} {lookup : SecretLookup}
    (h : (reviewOutputs spec.outputs owned lookup).failure? = none) :
    let outputs := reviewOutputs spec.outputs owned lookup
    let pipelines := reviewPipelines spec.pipelines spec.inputs outputs.acceptedNames owned
    let outputsAgain := reviewOutputs outputs.accepted owned lookup
    let pipelinesAgain := reviewPipelines pipelines.kept spec.inputs outputsAgain.acceptedNames owned
    outputsAgain.AcceptsAll outputs.accepted
      ∧ outputsAgain.acceptedNames = outputs.acceptedNames
      ∧ pipelinesAgain.AcceptsAll pipelines.kept
      ∧ pipelinesAgain.logSources = pipelines.logSources := by
  intro outputs pipelines outputsAgain pipelinesAgain
  let left : Migrated := ⟨(Migrated.reviewed ⟨spec, owned⟩ lookup).spec, owned⟩
  have hclean : left.Clean lookup := Migrated.clean_reviewed h
  have hagain : left.reviewed lookup = ⟨left.spec, left.spec.acceptedStatus⟩ := hclean.reviewed
  refine ⟨⟨hclean.failure?, ?_, ?_⟩, ?_, ⟨?_, ?_⟩, ?_⟩
  · exact congrArg (·.spec.outputs) hagain
  · exact congrArg (·.status.outputs) hagain
  · exact congrArg (·.spec.outputNames) hagain
  · exact congrArg (·.spec.pipelines) hagain
  · exact congrArg (·.status.pipelines) hagain
  · exact congrArg (·.status.logSources) hagain

/-- Outputs with a name twice and one without an address, and pipelines with one name: the first
sends nowhere that is left, the second loses an output, the third comes too late. -/
def overgrownSpec : Spec where
  outputs :=
    [{ name := "es", kind := .elasticsearch, url := "https://es.svc:9200" },
      { name := "es", kind := .loki, url := "https://loki.svc:3100" },
      { name := "kafka", kind := .kafka }]
  pipelines :=
    [{ name := "logs", inputRefs := ["audit"], outputRefs := ["kafka"] },
      { name := "logs", inputRefs := ["team"], outputRefs := ["es", "kafka", "es"] },
      { name := "logs", inputRefs := ["application"], outputRefs := ["es"] }]
  inputs := [{ name := "team", infrastructure := true }]

/-- What is left of the overgrown specification. -/
def prunedSpec : Spec :=
  { overgrownSpec with
    outputs := [{ name := "es", kind := .elasticsearch, url := "https://es.svc:9200" }]
    pipelines := [{ name := "logs", inputRefs := ["team"], outputRefs := ["es", "es"] }] }

theorem acceptsAll_reviewed_again_overgrownSpec :
    (reviewOutputs overgrownSpec.outputs {} (fun _ => .ok none)).failure? = none
      ∧ (reviewOutputs overgrownSpec.outputs {} (fun _ => .ok none)).accepted = prunedSpec.outputs
      ∧ (reviewPipelines overgrownSpec.pipelines overgrownSpec.inputs ["es"] {}).kept =
          prunedSpec.pipelines
      ∧ (reviewOutputs prunedSpec.outputs {} (fun _ => .ok none)).AcceptsAll prunedSpec.outputs
      ∧ (reviewPipelines prunedSpec.pipelines prunedSpec.inputs ["es"] {}).AcceptsAll
          prunedSpec.pipelines
      ∧ (reviewPipelines prunedSpec.pipelines prunedSpec.inputs ["es"] {}).logSources.toList =
          [.infrastructure] :=
  have h : (reviewOutputs overgrownSpec.outputs {} (fun _ => .ok none)).failure? = none := rfl
  have hagain := acceptsAll_reviewed_again h
  ⟨h, rfl, rfl, hagain.1, hagain.2.2.1, rfl⟩

end LogForwarding
