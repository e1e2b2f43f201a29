import LogForwarding.Review.Pipelines
import LogForwarding.Proofs.FirstHolders

/-!
# The review of pipelines in closed form

`reviewPipelinesFrom` goes through the pipelines one by one and keeps the names it has
given away. `Pipeline.isEligible` says of one pipeline, whatever stands before it, that
it can be used; what the review keeps are the first holders of each name among the
eligible pipelines, each without its references to outputs that were not accepted.

## What is proved

* `Pipeline.entryConditions_eq_nil_iff`: when nothing is wrong with a pipeline itself.
* `Pipeline.state_status_ne_dropped_iff`: when a pipeline is kept.
* `Pipeline.lostRefCondition_notMem_status`: a reference to an accepted output is not
  reported as lost.
* `kept_reviewPipelines`: the pipelines that are kept.
* `getElem?_reviewPipelines`: every review is that of the pipeline at its position, and
  the names given away before it are those of the eligible pipelines before.
* `all_isAccepted_reviewPipelines_iff`: when all pipelines are accepted.
-/

namespace LogForwarding

namespace Pipeline

/-- Whether nothing is wrong with a pipeline itself, other pipelines apart: it has a
name that is not reserved (unless that is recorded), and inputs of known kinds. -/
def isWellFormed (pipeline : Pipeline) (inputs : List Input) (owned : Ownership) : Bool :=
  pipeline.name != ""
    && (!Reserved.isPipelineName pipeline.name || owned.ownsPipeline pipeline.name)
    && !pipeline.inputRefs.isEmpty
    && pipeline.inputRefs.all fun ref => (Input.resolve? inputs ref).isSome

/-- Whether a pipeline can be used: nothing is wrong with it, and it sends to some
output that was accepted. -/
def isEligible (pipeline : Pipeline) (inputs : List Input) (accepted : List String)
    (owned : Ownership) : Bool :=
  pipeline.isWellFormed inputs owned && pipeline.outputRefs.any (· ∈ accepted)

variable {pipeline : Pipeline} {inputs : List Input} {accepted : List String}
  {owned : Ownership} {taken : List String}

theorem isWellFormed_iff : pipeline.isWellFormed inputs owned ↔ pipeline.name ≠ ""
    ∧ (Reserved.isPipelineName pipeline.name → owned.ownsPipeline pipeline.name)
    ∧ pipeline.inputRefs ≠ []
    ∧ ∀ ref ∈ pipeline.inputRefs, (Input.resolve? inputs ref).isSome := by
  simp only [isWellFormed, Bool.and_eq_true, bne_iff_ne, List.all_eq_true, and_assoc]
  cases Reserved.isPipelineName pipeline.name <;> simp

theorem isEligible_iff : pipeline.isEligible inputs accepted owned ↔
    pipeline.isWellFormed inputs owned ∧ ∃ ref ∈ pipeline.outputRefs, ref ∈ accepted := by
  simp [isEligible]

/-! ### One pipeline -/

theorem nameFault?_eq_none_iff : pipeline.nameFault? owned taken = none ↔ pipeline.name ≠ ""
    ∧ (Reserved.isPipelineName pipeline.name → owned.ownsPipeline pipeline.name)
    ∧ pipeline.name ∉ taken := by
  unfold nameFault?
  split_ifs with hname hreserved htaken
  · simp_all
  · simp only [Bool.and_eq_true, Bool.not_eq_true'] at hreserved
    exact ⟨nofun, fun h => absurd (h.2.1 hreserved.1) (by simp [hreserved.2])⟩
  · simp_all
  · simp_all

theorem sourceCondition?_eq_none_iff : pipeline.sourceCondition? inputs = none ↔
    pipeline.inputRefs ≠ []
      ∧ ∀ ref ∈ pipeline.inputRefs, (Input.resolve? inputs ref).isSome := by
  unfold sourceCondition? unresolved
  split_ifs with hempty hresolved
  · simp_all
  · simp_all [Option.isSome_iff_ne_none]
  · simp_all [Option.isSome_iff_ne_none]

/-- Nothing is wrong with a pipeline itself iff it is well formed and its name is free. -/
theorem entryConditions_eq_nil_iff : pipeline.entryConditions inputs owned taken = [] ↔
    pipeline.isWellFormed inputs owned ∧ pipeline.name ∉ taken := by
  simp only [entryConditions, nameCondition?, List.append_eq_nil_iff, Option.toList_eq_nil_iff,
    Option.map_eq_none_iff, nameFault?_eq_none_iff, sourceCondition?_eq_none_iff,
    isWellFormed_iff]
  tauto

theorem mem_entryConditions {condition : Condition} :
    condition ∈ pipeline.entryConditions inputs owned taken ↔
      pipeline.nameCondition? owned taken = some condition
        ∨ pipeline.sourceCondition? inputs = some condition := by
  rw [entryConditions, List.mem_append, Option.mem_toList, Option.mem_toList]

theorem aspect_of_nameCondition?_eq_some {condition : Condition}
    (h : pipeline.nameCondition? owned taken = some condition) : condition.aspect = .name := by
  obtain ⟨reason, -, rfl⟩ := Option.map_eq_some_iff.1 h
  rfl

theorem aspect_of_sourceCondition?_eq_some {condition : Condition}
    (h : pipeline.sourceCondition? inputs = some condition) : condition.aspect = .source := by
  unfold sourceCondition? at h
  split_ifs at h <;> cases h <;> rfl

/-- The conditions that drop a pipeline whatever its outputs are concern its name or
its inputs. -/
theorem aspect_of_mem_entryConditions {condition : Condition}
    (h : condition ∈ pipeline.entryConditions inputs owned taken) :
    condition.aspect = .name ∨ condition.aspect = .source :=
  (mem_entryConditions.1 h).imp aspect_of_nameCondition?_eq_some
    aspect_of_sourceCondition?_eq_some

/-- A condition on the outputs is about a lost reference, or says that outputs are missing. -/
theorem eq_of_mem_outputConditions {condition : Condition}
    (h : condition ∈ pipeline.outputConditions accepted) :
    (∃ ref ∈ pipeline.lostRefs accepted, lostRefCondition ref = condition)
      ∨ condition = { aspect := .outputRef, reason := .missingOutputs } := by
  rcases List.mem_append.1 h with hlost | hmissing
  · exact Or.inl (List.mem_map.1 hlost)
  · split_ifs at hmissing
    · exact absurd hmissing List.not_mem_nil
    · exact Or.inr (List.mem_singleton.1 hmissing)

theorem keptRefs_eq_nil_iff :
    pipeline.keptRefs accepted = [] ↔ ¬ ∃ ref ∈ pipeline.outputRefs, ref ∈ accepted := by
  simp [keptRefs]

theorem outputState_ne_dropped_iff : pipeline.outputState accepted ≠ .dropped ↔
    ∃ ref ∈ pipeline.outputRefs, ref ∈ accepted := by
  rw [← not_iff_not, ← keptRefs_eq_nil_iff, outputState]
  split_ifs with hkept hlost <;> simp_all

/-- A pipeline is kept iff it is eligible and its name is free. -/
theorem state_status_ne_dropped_iff (position : Nat) :
    (pipeline.status inputs accepted owned taken position).state ≠ .dropped ↔
      pipeline.isEligible inputs accepted owned ∧ pipeline.name ∉ taken := by
  rw [isEligible_iff, and_right_comm, ← entryConditions_eq_nil_iff, ← outputState_ne_dropped_iff]
  simp only [status, List.isEmpty_iff]
  split_ifs with h <;> simp [h]

/-- A status without conditions on the name or the inputs has none that drop the
pipeline whatever its outputs are. -/
theorem entryConditions_eq_nil_of_status {position : Nat}
    (h : ∀ condition ∈ (pipeline.status inputs accepted owned taken position).conditions,
      condition.aspect ≠ .name ∧ condition.aspect ≠ .source) :
    pipeline.entryConditions inputs owned taken = [] := by
  by_contra hne
  obtain ⟨condition, hcondition⟩ := List.exists_mem_of_ne_nil _ hne
  have hmem : condition ∈ (pipeline.status inputs accepted owned taken position).conditions := by
    simp only [status, List.isEmpty_iff, hne, if_false]
    exact hcondition
  rcases aspect_of_mem_entryConditions hcondition with haspect | haspect
  · exact (h condition hmem).1 haspect
  · exact (h condition hmem).2 haspect

/-- Only references that are lost are reported as such. -/
theorem mem_lostRefs_of_lostRefCondition_mem {ref : String}
    (h : lostRefCondition ref ∈ pipeline.outputConditions accepted) :
    ref ∈ pipeline.lostRefs accepted := by
  rcases eq_of_mem_outputConditions h with ⟨other, hother, heq⟩ | hmissing
  · have hmessage := congrArg Condition.message heq
    simp only [lostRefCondition, String.append_left_inj, String.append_right_inj] at hmessage
    obtain rfl : other = ref := hmessage
    exact hother
  · exact absurd (congrArg Condition.reason hmissing) nofun

/-- A reference to an accepted output is not reported as lost. -/
theorem lostRefCondition_notMem_status {position : Nat} {ref : String}
    (h : pipeline.entryConditions inputs owned taken = []) (href : ref ∈ accepted) :
    lostRefCondition ref ∉ (pipeline.status inputs accepted owned taken position).conditions := by
  intro hmem
  simp only [status, h, List.isEmpty_nil, if_true] at hmem
  exact of_decide_eq_true (List.mem_filter.1 (mem_lostRefs_of_lostRefCondition_mem hmem)).2 href

@[simp] theorem name_pruned : (pipeline.pruned accepted).name = pipeline.name := rfl

@[simp] theorem inputRefs_pruned :
    (pipeline.pruned accepted).inputRefs = pipeline.inputRefs := rfl

@[simp] theorem outputRefs_pruned :
    (pipeline.pruned accepted).outputRefs = pipeline.outputRefs.filter (· ∈ accepted) := rfl

/-- A pipeline that sends to accepted outputs only loses nothing. -/
theorem pruned_eq_self (h : ∀ ref ∈ pipeline.outputRefs, ref ∈ accepted) :
    pipeline.pruned accepted = pipeline := by
  have hrefs : pipeline.keptRefs accepted = pipeline.outputRefs :=
    List.filter_eq_self.2 fun ref href => decide_eq_true (h ref href)
  rw [pruned, hrefs]

theorem pruned_eq_self_iff :
    pipeline.pruned accepted = pipeline ↔ pipeline.lostRefs accepted = [] := by
  constructor
  · intro h
    refine List.filter_eq_nil_iff.2 fun ref href => ?_
    rw [← h] at href
    simpa using (List.mem_filter.1 href).2
  · intro h
    exact pruned_eq_self fun ref href => by simpa using List.filter_eq_nil_iff.1 h ref href

/-- A pipeline is accepted iff it is kept and loses nothing. -/
theorem isAccepted_status_iff {position : Nat} :
    (pipeline.status inputs accepted owned taken position).isAccepted ↔
      (pipeline.status inputs accepted owned taken position).state ≠ .dropped
        ∧ pipeline.pruned accepted = pipeline := by
  rw [pruned_eq_self_iff, EntityStatus.isAccepted, beq_iff_eq]
  simp only [status, outputState, List.isEmpty_iff]
  split_ifs <;> simp_all

theorem outputConditions_eq_nil_iff : pipeline.outputConditions accepted = [] ↔
    pipeline.lostRefs accepted = [] ∧ pipeline.outputRefs ≠ [] := by
  unfold outputConditions
  by_cases h : pipeline.lostRefs accepted = [] <;> simp [h]

/-- The status of an accepted pipeline says no more than its name. -/
theorem status_eq_of_isAccepted {position : Nat}
    (h : (pipeline.status inputs accepted owned taken position).isAccepted) :
    pipeline.status inputs accepted owned taken position = { name := pipeline.name } := by
  obtain ⟨hkept, hpruned⟩ := isAccepted_status_iff.1 h
  obtain ⟨heligible, hfree⟩ := (state_status_ne_dropped_iff position).1 hkept
  obtain ⟨hwell, ref, href, -⟩ := isEligible_iff.1 heligible
  obtain ⟨hnamed, howned, -⟩ := isWellFormed_iff.1 hwell
  have hentry : pipeline.entryConditions inputs owned taken = [] :=
    entryConditions_eq_nil_iff.2 ⟨hwell, hfree⟩
  have hname : pipeline.nameFault? owned taken = none :=
    nameFault?_eq_none_iff.2 ⟨hnamed, howned, hfree⟩
  have houtputs : pipeline.outputConditions accepted = [] :=
    outputConditions_eq_nil_iff.2 ⟨pruned_eq_self_iff.1 hpruned, List.ne_nil_of_mem href⟩
  have hstate := eq_of_beq h
  simp only [status, hentry, hname, houtputs, List.isEmpty_nil, if_true, Option.isSome_none,
    Bool.false_eq_true, if_false] at hstate ⊢
  rw [hstate]

/-- Pruning changes nothing about a pipeline itself, and keeps its accepted outputs. -/
theorem isEligible_pruned : (pipeline.pruned accepted).isEligible inputs accepted owned =
    pipeline.isEligible inputs accepted owned := by
  rw [Bool.eq_iff_iff, isEligible_iff, isEligible_iff]
  simp [isWellFormed_iff]

end Pipeline

/-! ### All pipelines -/

variable {inputs : List Input} {accepted : List String} {owned : Ownership}

theorem PipelineReview.isKept_iff {review : PipelineReview} :
    review.isKept ↔ review.status.state ≠ .dropped := bne_iff_ne

theorem PipelineReviews.all_isAccepted_iff {found : PipelineReviews} :
    found.statuses.all (·.isAccepted) ↔ ∀ review ∈ found.reviews, review.status.isAccepted := by
  simp [statuses]

/-- The kinds of logs that are forwarded are those of the inputs of the kept pipelines. -/
theorem PipelineReviews.mem_logSources {found : PipelineReviews} {kind : SourceKind} :
    kind ∈ found.logSources ↔ ∃ pipeline ∈ found.kept, ∃ ref ∈ pipeline.inputRefs,
      Input.resolve? found.inputs ref = some kind := by
  simp only [logSources, SourceSet.mem_ofList, List.mem_flatMap, Pipeline.kinds,
    List.mem_filterMap]

theorem kept_reviewPipelinesFrom (taken : List String) (position : Nat)
    (pipelines : List Pipeline) :
    ((reviewPipelinesFrom inputs accepted owned taken position pipelines).filter
        (·.isKept)).map (·.pipeline) =
      firstHolders Pipeline.name taken
        (pipelines.filter fun pipeline => pipeline.isEligible inputs accepted owned) := by
  induction pipelines generalizing taken position with
  | nil => rfl
  | cons pipeline rest ih =>
    simp only [reviewPipelinesFrom, List.filter_cons, PipelineReview.isKept_iff,
      Pipeline.state_status_ne_dropped_iff]
    by_cases heligible : pipeline.isEligible inputs accepted owned
    · by_cases hfree : pipeline.name ∈ taken
      · simp [heligible, hfree, firstHolders_cons_of_mem, ih]
      · simp [heligible, hfree, firstHolders_cons_of_notMem, ih]
    · simp [heligible, ih]

/-- **The pipelines that are kept**: of the eligible ones, the first holders of each
name, each without the references it lost. -/
theorem kept_reviewPipelines (pipelines : List Pipeline) :
    (reviewPipelines pipelines inputs accepted owned).kept =
      (firstHolders Pipeline.name [] (pipelines.filter fun pipeline =>
        pipeline.isEligible inputs accepted owned)).map (·.pruned accepted) := by
  rw [← kept_reviewPipelinesFrom [] 0, List.map_map]
  rfl

/-- Every review is that of the pipeline at its position. The names given away before
are those of the eligible pipelines before it. -/
theorem getElem?_reviewPipelinesFrom (taken : List String) (position : Nat)
    {pipelines : List Pipeline} {i : Nat} {pipeline : Pipeline}
    (h : pipelines[i]? = some pipeline) :
    ∃ before, (reviewPipelinesFrom inputs accepted owned taken position pipelines)[i]? =
        some ⟨pipeline, pipeline.status inputs accepted owned before (position + i)⟩
      ∧ ∀ name, name ∈ before ↔ name ∈ taken ∨ ∃ earlier ∈ pipelines.take i,
          earlier.isEligible inputs accepted owned ∧ earlier.name = name := by
  induction pipelines generalizing taken position i with
  | nil => simp at h
  | cons head rest ih =>
    rw [reviewPipelinesFrom]
    cases i with
    | zero =>
      obtain rfl : head = pipeline := by simpa using h
      exact ⟨taken, rfl, by simp⟩
    | succ i =>
      obtain ⟨before, hbefore, hnames⟩ := ih _ (position + 1) (by simpa using h)
      refine ⟨before, ?_, fun name => ?_⟩
      · rw [List.getElem?_cons_succ, hbefore, Nat.add_right_comm, Nat.add_assoc]
      · rw [hnames, List.take_succ_cons, List.exists_mem_cons_iff, ← or_assoc]
        refine or_congr_left ?_
        simp only [PipelineReview.isKept_iff, Pipeline.state_status_ne_dropped_iff]
        -- An eligible pipeline whose name was given away before adds none.
        split_ifs with hkept
        · rw [List.mem_cons, or_comm]
          simp only [hkept.1, true_and, eq_comm]
        · constructor
          · exact Or.inl
          · rintro (hmem | ⟨heligible, rfl⟩)
            · exact hmem
            · exact not_not.1 fun hfree => hkept ⟨heligible, hfree⟩

/-- Every review is that of the pipeline at its position. -/
theorem getElem?_reviewPipelines (inputs : List Input) (accepted : List String)
    (owned : Ownership) {pipelines : List Pipeline} {position : Nat} {pipeline : Pipeline}
    (h : pipelines[position]? = some pipeline) :
    ∃ before, (reviewPipelines pipelines inputs accepted owned).reviews[position]? =
        some ⟨pipeline, pipeline.status inputs accepted owned before position⟩
      ∧ ∀ name, name ∈ before ↔ ∃ earlier ∈ pipelines.take position,
          earlier.isEligible inputs accepted owned ∧ earlier.name = name := by
  obtain ⟨before, hreview, hnames⟩ := getElem?_reviewPipelinesFrom [] 0 h
  rw [Nat.zero_add] at hreview
  exact ⟨before, hreview, by simpa using hnames⟩

theorem map_pipeline_reviewPipelinesFrom (taken : List String) (position : Nat)
    (pipelines : List Pipeline) :
    (reviewPipelinesFrom inputs accepted owned taken position pipelines).map (·.pipeline) =
      pipelines := by
  induction pipelines generalizing taken position with
  | nil => rfl
  | cons pipeline rest ih => exact congrArg (pipeline :: ·) (ih _ _)

/-- Every pipeline has a review, in its place. -/
theorem map_pipeline_reviewPipelines (pipelines : List Pipeline) (inputs : List Input)
    (accepted : List String) (owned : Ownership) :
    (reviewPipelines pipelines inputs accepted owned).reviews.map (·.pipeline) = pipelines :=
  map_pipeline_reviewPipelinesFrom [] 0 pipelines

/-- So every pipeline has a status, in its place. -/
theorem zip_statuses_reviewPipelines (pipelines : List Pipeline) (inputs : List Input)
    (accepted : List String) (owned : Ownership) :
    pipelines.zip (reviewPipelines pipelines inputs accepted owned).statuses =
      (reviewPipelines pipelines inputs accepted owned).reviews.map fun review =>
        (review.pipeline, review.status) := by
  rw [PipelineReviews.statuses, ← List.zip_map', map_pipeline_reviewPipelines]

theorem length_statuses_reviewPipelines (pipelines : List Pipeline) (inputs : List Input)
    (accepted : List String) (owned : Ownership) :
    (reviewPipelines pipelines inputs accepted owned).statuses.length = pipelines.length := by
  conv_rhs => rw [← map_pipeline_reviewPipelines pipelines inputs accepted owned]
  rw [PipelineReviews.statuses, List.length_map, List.length_map]

/-- Every review is that of its pipeline. -/
theorem exists_status_of_mem_reviewPipelines {pipelines : List Pipeline}
    {review : PipelineReview}
    (h : review ∈ (reviewPipelines pipelines inputs accepted owned).reviews) :
    ∃ before place,
      review.status = review.pipeline.status inputs accepted owned before place := by
  obtain ⟨position, hposition⟩ := List.getElem?_of_mem h
  have hpipeline : pipelines[position]? = some review.pipeline := by
    conv_lhs => rw [← map_pipeline_reviewPipelines pipelines inputs accepted owned]
    rw [List.getElem?_map, hposition]
    rfl
  obtain ⟨before, hreview, -⟩ := getElem?_reviewPipelines inputs accepted owned hpipeline
  exact ⟨before, position, congrArg (·.status) (Option.some.inj (hposition.symm.trans hreview))⟩

/-- All pipelines are accepted iff the kept ones are all there are. -/
theorem all_isAccepted_reviewPipelines_iff {pipelines : List Pipeline} :
    (reviewPipelines pipelines inputs accepted owned).statuses.all (·.isAccepted) ↔
      (reviewPipelines pipelines inputs accepted owned).kept = pipelines := by
  have hiff : ∀ review ∈ (reviewPipelines pipelines inputs accepted owned).reviews,
      review.status.isAccepted ↔
        review.isKept ∧ review.pipeline.pruned accepted = review.pipeline := by
    intro review hmem
    obtain ⟨before, place, hstatus⟩ := exists_status_of_mem_reviewPipelines hmem
    rw [PipelineReview.isKept_iff, hstatus, Pipeline.isAccepted_status_iff]
  rw [PipelineReviews.all_isAccepted_iff]
  constructor
  · intro haccepted
    rw [PipelineReviews.kept, List.filter_eq_self.2 fun review hmem =>
      ((hiff review hmem).1 (haccepted review hmem)).1]
    conv_rhs => rw [← map_pipeline_reviewPipelines pipelines inputs accepted owned]
    exact List.map_congr_left fun review hmem =>
      ((hiff review hmem).1 (haccepted review hmem)).2
  · intro heq review hmem
    have hpruned := heq.trans (map_pipeline_reviewPipelines pipelines inputs accepted owned).symm
    have hlength := congrArg List.length hpruned
    rw [PipelineReviews.kept, List.length_map, List.length_map] at hlength
    have hkept := List.length_filter_eq_length_iff.1 hlength
    rw [PipelineReviews.kept, List.filter_eq_self.2 hkept] at hpruned
    exact (hiff review hmem).2 ⟨hkept review hmem, List.map_inj_left.1 hpruned review hmem⟩

/-- Where all pipelines are accepted, their statuses are their names. -/
theorem statuses_reviewPipelines_of_all {pipelines : List Pipeline}
    (h : (reviewPipelines pipelines inputs accepted owned).statuses.all (·.isAccepted)) :
    (reviewPipelines pipelines inputs accepted owned).statuses =
      pipelines.map fun pipeline => { name := pipeline.name } := by
  rw [PipelineReviews.all_isAccepted_iff] at h
  conv_rhs => rw [← map_pipeline_reviewPipelines pipelines inputs accepted owned, List.map_map]
  refine List.map_congr_left fun review hmem => ?_
  obtain ⟨before, place, hstatus⟩ := exists_status_of_mem_reviewPipelines hmem
  have hreview := h review hmem
  rw [hstatus] at hreview
  rw [hstatus, Pipeline.status_eq_of_isAccepted hreview]
  rfl

end LogForwarding
