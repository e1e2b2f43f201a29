import LogForwarding.Normalization
import LogForwarding.Proofs.Review.Outputs
import LogForwarding.Proofs.Review.Pipelines

/-!
# Normalization as one review

A normalization that succeeds is a migration followed by a review. `Migrated.reviewed`
is the outcome of that review, and `Migrated.Clean` describes a specification in which
a review finds nothing to drop, for given recorded names and secrets.

## What is proved

* `Spec.normalize_eq_ok_iff`, `Spec.normalize_eq_error_iff`: when a run succeeds, and when
  it fails.
* `Spec.journal_normalize_of_migrate`, `Spec.journal_normalize_of_error`: what an observer sees.
* `Migrated.clean_reviewed`: what a review leaves is clean. Dropping entities never
  makes another entity invalid.
* `Migrated.Clean.reviewed_eq`: a review of a clean specification leaves it as it is.
* `Migrated.Clean.of_owned`: being clean depends on the recorded names only through the
  reserved ones that are in use.
-/

namespace LogForwarding

open Reserved (defaultOutput)

/-- The names of the outputs of a specification. -/
def Spec.outputNames (spec : Spec) : List String := spec.outputs.map (·.name)

namespace Migrated

/-- What a review makes of a migrated specification, if no look-up fails. -/
def reviewed (migrated : Migrated) (lookup : SecretLookup) : Normalized :=
  let outputs := migrated.outputReviews lookup
  migrated.assemble outputs (migrated.pipelineReviews outputs)

variable {migrated : Migrated} {lookup : SecretLookup} {store : Option Store}

theorem review_of_ok (h : (migrated.outputReviews lookup).failure? = none) :
    migrated.review store lookup =
      ⟨(migrated.outputReviews lookup).journal
          ++ (migrated.pipelineReviews (migrated.outputReviews lookup)).journal
          ++ (migrated.reviewed lookup).journal store, .ok (migrated.reviewed lookup)⟩ := by
  simp only [review, h]
  rfl

theorem review_of_failure {failure : ForwardingError}
    (h : (migrated.outputReviews lookup).failure? = some failure) :
    migrated.review store lookup = ⟨(migrated.outputReviews lookup).journal, .error failure⟩ := by
  simp only [review, h]

theorem review_eq_ok_iff {normalized : Normalized} :
    (migrated.review store lookup).value = .ok normalized ↔
      (migrated.outputReviews lookup).failure? = none ∧ migrated.reviewed lookup = normalized := by
  cases h : (migrated.outputReviews lookup).failure? with
  | none => simp [review_of_ok h]
  | some failure => simp [review_of_failure h]

theorem review_eq_error_iff {error : ForwardingError} :
    (migrated.review store lookup).value = .error error ↔
      (migrated.outputReviews lookup).failure? = some error := by
  cases h : (migrated.outputReviews lookup).failure? with
  | none => simp [review_of_ok h]
  | some failure => simp [review_of_failure h]

end Migrated

/-- **A successful run** is a migration followed by a review in which no look-up fails. -/
theorem Spec.normalize_eq_ok_iff {spec : Spec} {store : Option Store} {lookup : SecretLookup}
    {operator : Operator} {normalized : Normalized} :
    (spec.normalize store lookup operator).value = .ok normalized ↔
      ∃ migrated, (spec.migrate store operator).value = .ok migrated
        ∧ (migrated.outputReviews lookup).failure? = none
        ∧ migrated.reviewed lookup = normalized := by
  unfold normalize
  simp only [Traced.value_bind]
  cases h : (spec.migrate store operator).value with
  | error error => simp
  | ok migrated => simp [Migrated.review_eq_ok_iff]

/-- **A failed run** is one whose migration fails or whose review does. -/
theorem Spec.normalize_eq_error_iff {spec : Spec} {store : Option Store} {lookup : SecretLookup}
    {operator : Operator} {error : ForwardingError} :
    (spec.normalize store lookup operator).value = .error error ↔
      (spec.migrate store operator).value = .error error
        ∨ ∃ migrated, (spec.migrate store operator).value = .ok migrated
          ∧ (migrated.outputReviews lookup).failure? = some error := by
  unfold normalize
  simp only [Traced.value_bind]
  cases h : (spec.migrate store operator).value with
  | error error => simp
  | ok migrated => simp [Migrated.review_eq_error_iff]

/-- What an observer sees of a run whose migration succeeds. -/
theorem Spec.journal_normalize_of_migrate {spec : Spec} {store : Option Store}
    {lookup : SecretLookup} {operator : Operator} {migrated : Migrated}
    (h : (spec.migrate store operator).value = .ok migrated) :
    (spec.normalize store lookup operator).journal =
      (spec.migrate store operator).journal ++ (migrated.review store lookup).journal
        ++ runJournal (migrated.review store lookup).value := by
  simp only [normalize, Traced.journal_bind, h, Traced.journal_note, Traced.journal_pure,
    List.append_nil, List.append_assoc]

/-- What an observer sees of a run whose migration fails. -/
theorem Spec.journal_normalize_of_error {spec : Spec} {store : Option Store}
    {lookup : SecretLookup} {operator : Operator} {error : ForwardingError}
    (h : (spec.migrate store operator).value = .error error) :
    (spec.normalize store lookup operator).journal =
      (spec.migrate store operator).journal ++ runJournal (.error error) := by
  simp only [normalize, Traced.journal_bind, h, Traced.value_pure, Traced.journal_note,
    Traced.journal_pure, List.append_nil, List.nil_append]

/-- Where the migration is known, only the review is left to look at. -/
theorem Spec.normalize_eq_ok_iff_of_migrate {spec : Spec} {store : Option Store}
    {lookup : SecretLookup} {operator : Operator} {migrated : Migrated} {normalized : Normalized}
    (h : (spec.migrate store operator).value = .ok migrated) :
    (spec.normalize store lookup operator).value = .ok normalized ↔
      (migrated.outputReviews lookup).failure? = none ∧ migrated.reviewed lookup = normalized := by
  rw [normalize_eq_ok_iff]
  constructor
  · rintro ⟨other, hother, hreview⟩
    obtain rfl : migrated = other := Except.ok.inj (h.symm.trans hother)
    exact hreview
  · intro hreview
    exact ⟨migrated, h, hreview⟩

namespace Migrated

variable {migrated : Migrated} {lookup : SecretLookup}

/-! ### What a review leaves -/

@[simp] theorem outputDefaults_reviewed :
    (migrated.reviewed lookup).spec.outputDefaults = migrated.spec.outputDefaults := rfl

/-- A review changes nothing but outputs and pipelines. -/
theorem spec_reviewed : (migrated.reviewed lookup).spec =
    { migrated.spec with
      outputs := (migrated.reviewed lookup).spec.outputs
      pipelines := (migrated.reviewed lookup).spec.pipelines } := rfl

/-- The outputs are reviewed without a failure iff none of them needs a look-up that
fails. -/
theorem failure?_outputReviews_eq_none_iff : (migrated.outputReviews lookup).failure? = none ↔
    ∀ output ∈ migrated.spec.outputs, output.lookupFailure? lookup = none := by
  rw [outputReviews, failure?_reviewOutputs, List.findSome?_eq_none_iff]

theorem outputs_reviewed (h : (migrated.outputReviews lookup).failure? = none) :
    (migrated.reviewed lookup).spec.outputs =
      firstHolders Output.name []
        (migrated.spec.outputs.filter (·.isSound migrated.owned lookup)) :=
  accepted_reviewOutputs h

theorem pipelines_reviewed : (migrated.reviewed lookup).spec.pipelines =
    (firstHolders Pipeline.name [] (migrated.spec.pipelines.filter fun pipeline =>
      pipeline.isEligible migrated.spec.inputs (migrated.reviewed lookup).spec.outputNames
        migrated.owned)).map (·.pruned (migrated.reviewed lookup).spec.outputNames) :=
  kept_reviewPipelines migrated.spec.pipelines

/-- A name is that of a remaining output iff some sound output has it. -/
theorem mem_outputNames_reviewed (h : (migrated.outputReviews lookup).failure? = none)
    {x : String} : x ∈ (migrated.reviewed lookup).spec.outputNames ↔
      ∃ output ∈ migrated.spec.outputs, output.isSound migrated.owned lookup ∧ output.name = x :=
  mem_acceptedNames_reviewOutputs h

/-- No output remains iff none is sound. -/
theorem outputNames_reviewed_eq_nil_iff (h : (migrated.outputReviews lookup).failure? = none) :
    (migrated.reviewed lookup).spec.outputNames = [] ↔
      ¬ ∃ output ∈ migrated.spec.outputs, output.isSound migrated.owned lookup := by
  rw [List.eq_nil_iff_forall_not_mem]
  simp only [mem_outputNames_reviewed h]
  constructor
  · rintro hall ⟨output, hmem, hsound⟩
    exact hall output.name ⟨output, hmem, hsound, rfl⟩
  · rintro hnot name ⟨output, hmem, hsound, -⟩
    exact hnot ⟨output, hmem, hsound⟩

theorem mem_outputs_of_mem_reviewed (h : (migrated.outputReviews lookup).failure? = none)
    {output : Output} (houtput : output ∈ (migrated.reviewed lookup).spec.outputs) :
    output ∈ migrated.spec.outputs ∧ output.isSound migrated.owned lookup := by
  rw [outputs_reviewed h] at houtput
  exact List.mem_filter.1 (mem_of_mem_firstHolders houtput)

/-- A remaining output is one at some position that is accepted. -/
theorem exists_position_of_mem_outputs_reviewed {output : Output}
    (h : (migrated.outputReviews lookup).failure? = none)
    (hmem : output ∈ (migrated.reviewed lookup).spec.outputs) : ∃ position : Nat,
      migrated.spec.outputs[position]? = some output
        ∧ (migrated.reviewed lookup).status.outputs[position]? = some { name := output.name } := by
  let found := reviewOutputs migrated.spec.outputs migrated.owned lookup
  have haccepted : output ∈ found.accepted := hmem
  obtain ⟨review, hreview, rfl⟩ := List.mem_map.1 haccepted
  obtain ⟨hmem, haccepted⟩ := List.mem_filter.1 hreview
  obtain ⟨position, hposition⟩ := List.getElem?_of_mem hmem
  obtain ⟨before, place, hstatus⟩ := exists_status_of_mem_reviewOutputsFrom hmem
  have hsources : migrated.spec.outputs = found.reviews.map (·.output) :=
    (map_output_reviewOutputs h).symm
  have hstatuses : (migrated.reviewed lookup).status.outputs = found.reviews.map (·.status) := rfl
  refine ⟨position, ?_, ?_⟩
  · rw [hsources, List.getElem?_map, hposition, Option.map_some]
  · rw [hstatus] at haccepted
    rw [hstatuses, List.getElem?_map, hposition, Option.map_some, hstatus,
      Output.status_eq_of_isAccepted haccepted]

/-- A name is that of a remaining pipeline iff some eligible pipeline has it. -/
theorem mem_pipelineNames_reviewed {x : String} :
    x ∈ (migrated.reviewed lookup).spec.pipelines.map (·.name) ↔
      ∃ pipeline ∈ migrated.spec.pipelines,
        pipeline.isEligible migrated.spec.inputs (migrated.reviewed lookup).spec.outputNames
          migrated.owned ∧ pipeline.name = x := by
  have hnames : (migrated.reviewed lookup).spec.pipelines.map (·.name) =
      (firstHolders Pipeline.name [] (migrated.spec.pipelines.filter fun pipeline =>
        pipeline.isEligible migrated.spec.inputs (migrated.reviewed lookup).spec.outputNames
          migrated.owned)).map Pipeline.name := by
    rw [pipelines_reviewed, List.map_map]
    rfl
  rw [hnames]
  simp [mem_map_firstHolders, and_assoc]

/-- A remaining pipeline is an eligible one without the references it lost. -/
theorem exists_of_mem_pipelines_reviewed {pipeline : Pipeline}
    (h : pipeline ∈ (migrated.reviewed lookup).spec.pipelines) :
    ∃ source ∈ migrated.spec.pipelines,
      source.isEligible migrated.spec.inputs (migrated.reviewed lookup).spec.outputNames
        migrated.owned
      ∧ pipeline = source.pruned (migrated.reviewed lookup).spec.outputNames := by
  rw [pipelines_reviewed] at h
  obtain ⟨source, hsource, rfl⟩ := List.mem_map.1 h
  obtain ⟨hmem, heligible⟩ := List.mem_filter.1 (mem_of_mem_firstHolders hsource)
  exact ⟨source, hmem, heligible, rfl⟩

/-- Every output has its status at its position, for the names of the sound outputs before it. -/
theorem exists_status_outputs_reviewed (h : (migrated.outputReviews lookup).failure? = none)
    {output : Output} {position : Nat} (houtput : migrated.spec.outputs[position]? = some output) :
    ∃ before, (migrated.reviewed lookup).status.outputs[position]? =
        some (output.status migrated.owned lookup before position)
      ∧ ∀ name, name ∈ before ↔ ∃ earlier ∈ migrated.spec.outputs.take position,
          earlier.isSound migrated.owned lookup ∧ earlier.name = name := by
  obtain ⟨before, hreview, hnames⟩ := getElem?_reviewOutputs h houtput
  have hstatuses : (migrated.reviewed lookup).status.outputs =
      (reviewOutputs migrated.spec.outputs migrated.owned lookup).reviews.map (·.status) := rfl
  refine ⟨before, ?_, hnames⟩
  rw [hstatuses, List.getElem?_map, hreview, Option.map_some]

/-- Every pipeline has its status at its position, for the names given away to eligible
pipelines before it, and remains unless it is dropped. -/
theorem exists_status_reviewed (lookup : SecretLookup) {pipeline : Pipeline} {position : Nat}
    (h : migrated.spec.pipelines[position]? = some pipeline) : ∃ before,
    let status := pipeline.status migrated.spec.inputs (migrated.reviewed lookup).spec.outputNames
      migrated.owned before position
    (migrated.reviewed lookup).status.pipelines[position]? = some status
      ∧ (status.state ≠ .dropped →
        pipeline.pruned (migrated.reviewed lookup).spec.outputNames ∈
          (migrated.reviewed lookup).spec.pipelines)
      ∧ ∀ name, name ∈ before ↔ ∃ earlier ∈ migrated.spec.pipelines.take position,
          earlier.isEligible migrated.spec.inputs (migrated.reviewed lookup).spec.outputNames
            migrated.owned ∧ earlier.name = name := by
  obtain ⟨before, hreview, hnames⟩ := getElem?_reviewPipelines migrated.spec.inputs
    (migrated.reviewed lookup).spec.outputNames migrated.owned h
  refine ⟨before, ?_, fun hkept => ?_, hnames⟩
  · have hstatuses : (migrated.reviewed lookup).status.pipelines =
        (reviewPipelines migrated.spec.pipelines migrated.spec.inputs
          (migrated.reviewed lookup).spec.outputNames migrated.owned).reviews.map (·.status) := rfl
    rw [hstatuses, List.getElem?_map, hreview]
    rfl
  · exact List.mem_map.2 ⟨_, List.mem_filter.2
      ⟨List.mem_of_getElem? hreview, PipelineReview.isKept_iff.2 hkept⟩, rfl⟩

/-- A pipeline is kept iff it is eligible, and no eligible one before it has its name. -/
theorem state_ne_dropped_iff {pipeline : Pipeline} {position : Nat} {status : EntityStatus}
    (h : migrated.spec.pipelines[position]? = some pipeline)
    (hstatus : (migrated.reviewed lookup).status.pipelines[position]? = some status) :
    status.state ≠ .dropped ↔
      pipeline.isEligible migrated.spec.inputs (migrated.reviewed lookup).spec.outputNames
          migrated.owned
        ∧ ∀ earlier ∈ migrated.spec.pipelines.take position,
          earlier.isEligible migrated.spec.inputs (migrated.reviewed lookup).spec.outputNames
            migrated.owned → earlier.name ≠ pipeline.name := by
  obtain ⟨before, hbefore, -, hnames⟩ := exists_status_reviewed lookup h
  obtain rfl := Option.some.inj (hbefore.symm.trans hstatus)
  rw [Pipeline.state_status_ne_dropped_iff, hnames]
  simp only [not_exists, not_and, ne_eq]

/-- A remaining pipeline is one at some position that is not dropped, without the
references it lost. -/
theorem exists_position_of_mem_pipelines_reviewed {pipeline : Pipeline}
    (h : pipeline ∈ (migrated.reviewed lookup).spec.pipelines) :
    ∃ (position : Nat) (source : Pipeline) (status : EntityStatus),
      migrated.spec.pipelines[position]? = some source
        ∧ (migrated.reviewed lookup).status.pipelines[position]? = some status
        ∧ status.state ≠ .dropped
        ∧ pipeline = source.pruned (migrated.reviewed lookup).spec.outputNames := by
  let found := reviewPipelines migrated.spec.pipelines migrated.spec.inputs
    (migrated.reviewed lookup).spec.outputNames migrated.owned
  have hkept : pipeline ∈ found.kept := h
  obtain ⟨review, hreview, rfl⟩ := List.mem_map.1 hkept
  obtain ⟨hmem, hreviewKept⟩ := List.mem_filter.1 hreview
  obtain ⟨position, hposition⟩ := List.getElem?_of_mem hmem
  have hsources : migrated.spec.pipelines = found.reviews.map (·.pipeline) :=
    (map_pipeline_reviewPipelines _ _ _ _).symm
  have hstatuses : (migrated.reviewed lookup).status.pipelines = found.reviews.map (·.status) :=
    rfl
  refine ⟨position, review.pipeline, review.status, ?_, ?_,
    PipelineReview.isKept_iff.1 hreviewKept, rfl⟩
  · rw [hsources, List.getElem?_map, hposition]
    rfl
  · rw [hstatuses, List.getElem?_map, hposition]
    rfl

/-- The kinds of logs that are forwarded are those of the inputs of the remaining
pipelines. -/
theorem mem_logSources_reviewed {kind : SourceKind} :
    kind ∈ (migrated.reviewed lookup).status.logSources ↔
      ∃ pipeline ∈ (migrated.reviewed lookup).spec.pipelines, ∃ ref ∈ pipeline.inputRefs,
        Input.resolve? (migrated.reviewed lookup).spec.inputs ref = some kind :=
  PipelineReviews.mem_logSources

/-! ### Clean specifications -/

/-- Nothing is wrong with a specification, for the recorded names and the secrets at
hand: a review drops nothing. -/
structure Clean (migrated : Migrated) (lookup : SecretLookup) : Prop where
  /-- Every output is sound. -/
  sound : ∀ output ∈ migrated.spec.outputs, output.isSound migrated.owned lookup
  /-- No two outputs share a name. -/
  nodup_outputs : migrated.spec.outputNames.Nodup
  /-- Every pipeline is well formed. -/
  wellFormed : ∀ pipeline ∈ migrated.spec.pipelines,
    pipeline.isWellFormed migrated.spec.inputs migrated.owned
  /-- No two pipelines share a name. -/
  nodup_pipelines : (migrated.spec.pipelines.map (·.name)).Nodup
  /-- Every pipeline sends somewhere. -/
  outputRefs_ne_nil : ∀ pipeline ∈ migrated.spec.pipelines, pipeline.outputRefs ≠ []
  /-- Every pipeline sends to declared outputs only. -/
  outputRefs_declared : ∀ pipeline ∈ migrated.spec.pipelines, ∀ ref ∈ pipeline.outputRefs,
    ref ∈ migrated.spec.outputNames

/-- **What a review leaves is clean.** -/
theorem clean_reviewed (h : (migrated.outputReviews lookup).failure? = none) :
    Clean ⟨(migrated.reviewed lookup).spec, migrated.owned⟩ lookup where
  sound := fun _ houtput => (mem_outputs_of_mem_reviewed h houtput).2
  nodup_outputs := by
    rw [Spec.outputNames, outputs_reviewed h]
    exact nodup_map_firstHolders _ _
  wellFormed := by
    intro pipeline hpipeline
    obtain ⟨source, -, heligible, rfl⟩ := exists_of_mem_pipelines_reviewed hpipeline
    rw [← Pipeline.isEligible_pruned] at heligible
    exact (Pipeline.isEligible_iff.1 heligible).1
  nodup_pipelines := by
    rw [pipelines_reviewed, List.map_map]
    exact nodup_map_firstHolders _ _
  outputRefs_ne_nil := by
    intro pipeline hpipeline
    obtain ⟨source, -, heligible, rfl⟩ := exists_of_mem_pipelines_reviewed hpipeline
    rw [← Pipeline.isEligible_pruned] at heligible
    obtain ⟨ref, href, -⟩ := (Pipeline.isEligible_iff.1 heligible).2
    exact List.ne_nil_of_mem href
  outputRefs_declared := by
    intro pipeline hpipeline ref href
    obtain ⟨source, -, -, rfl⟩ := exists_of_mem_pipelines_reviewed hpipeline
    exact of_decide_eq_true (List.mem_filter.1 href).2

/-- Where no output remains, no pipeline does. -/
theorem reviewed_of_outputNames_eq_nil (h : (migrated.outputReviews lookup).failure? = none)
    (hnil : (migrated.reviewed lookup).spec.outputNames = []) :
    (migrated.reviewed lookup).spec = { migrated.spec with outputs := [], pipelines := [] } := by
  have houtputs : (migrated.reviewed lookup).spec.outputs = [] := List.map_eq_nil_iff.1 hnil
  have hpipelines : (migrated.reviewed lookup).spec.pipelines = [] := by
    refine List.eq_nil_iff_forall_not_mem.2 fun pipeline hmem => ?_
    obtain ⟨ref, href⟩ :=
      List.exists_mem_of_ne_nil _ ((clean_reviewed h).outputRefs_ne_nil pipeline hmem)
    have hdeclared := (clean_reviewed h).outputRefs_declared pipeline hmem ref href
    exact List.not_mem_nil (hnil ▸ hdeclared)
  rw [spec_reviewed, houtputs, hpipelines]

namespace Clean

theorem failure? (h : migrated.Clean lookup) :
    (migrated.outputReviews lookup).failure? = none :=
  failure?_outputReviews_eq_none_iff.2 fun output houtput =>
    Output.lookupFailure?_of_isSound (h.sound output houtput)

theorem outputs_reviewed_eq (h : migrated.Clean lookup) :
    (migrated.reviewed lookup).spec.outputs = migrated.spec.outputs := by
  rw [outputs_reviewed h.failure?, List.filter_eq_self.2 h.sound]
  exact firstHolders_eq_self h.nodup_outputs fun _ _ => List.not_mem_nil

theorem outputNames_reviewed_eq (h : migrated.Clean lookup) :
    (migrated.reviewed lookup).spec.outputNames = migrated.spec.outputNames :=
  congrArg (List.map Output.name) h.outputs_reviewed_eq

theorem pipelines_reviewed_eq (h : migrated.Clean lookup) :
    (migrated.reviewed lookup).spec.pipelines = migrated.spec.pipelines := by
  have heligible : ∀ pipeline ∈ migrated.spec.pipelines,
      pipeline.isEligible migrated.spec.inputs migrated.spec.outputNames migrated.owned := by
    intro pipeline hpipeline
    obtain ⟨ref, href⟩ := List.exists_mem_of_ne_nil _ (h.outputRefs_ne_nil pipeline hpipeline)
    exact Pipeline.isEligible_iff.2 ⟨h.wellFormed pipeline hpipeline, ref, href,
      h.outputRefs_declared pipeline hpipeline ref href⟩
  rw [pipelines_reviewed, h.outputNames_reviewed_eq, List.filter_eq_self.2 heligible,
    firstHolders_eq_self h.nodup_pipelines fun _ _ => List.not_mem_nil]
  rw [List.map_congr_left fun pipeline hpipeline =>
    Pipeline.pruned_eq_self (h.outputRefs_declared pipeline hpipeline), List.map_id']

/-- **A review of a clean specification leaves it as it is.** -/
theorem reviewed_eq (h : migrated.Clean lookup) :
    (migrated.reviewed lookup).spec = migrated.spec := by
  rw [spec_reviewed, h.outputs_reviewed_eq, h.pipelines_reviewed_eq]

/-- Being clean depends on the recorded names only through the reserved ones in use. -/
theorem of_owned {spec : Spec} {owned other : Ownership}
    (h : Clean ⟨spec, owned⟩ lookup)
    (houtput : defaultOutput ∈ spec.outputNames → other.ownsOutput defaultOutput)
    (hpipeline : ∀ pipeline ∈ spec.pipelines, Reserved.isPipelineName pipeline.name →
      other.ownsPipeline pipeline.name) :
    Clean ⟨spec, other⟩ lookup where
  sound := by
    intro output hmem
    obtain ⟨hname, -, hrest⟩ := Output.isSound_iff.1 (h.sound output hmem)
    refine Output.isSound_iff.2 ⟨hname, fun hdefault => ?_, hrest⟩
    rw [hdefault]
    exact houtput (hdefault ▸ List.mem_map_of_mem hmem)
  nodup_outputs := h.nodup_outputs
  wellFormed := by
    intro pipeline hmem
    obtain ⟨hname, -, hrest⟩ := Pipeline.isWellFormed_iff.1 (h.wellFormed pipeline hmem)
    exact Pipeline.isWellFormed_iff.2 ⟨hname, hpipeline pipeline hmem, hrest⟩
  nodup_pipelines := h.nodup_pipelines
  outputRefs_ne_nil := h.outputRefs_ne_nil
  outputRefs_declared := h.outputRefs_declared

end Clean

end Migrated

end LogForwarding
