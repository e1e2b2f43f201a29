import LogForwarding.Proofs.Review.Pipelines
import LogForwarding.Proofs.Accounts

/-!
# The review of pipelines against its reference

What the review of pipelines does can be said without the review, as it can for outputs: of
the eligible pipelines the first of each name are kept, and lose nothing but their references
to outputs that were not accepted. `PipelineReviews.IsReference` is that description. It
speaks of the pipelines and of what stands before each of them, and of no names given away on
the way.

A pipeline that is not eligible takes no name, whatever the reason: a fault of its own, or
that none of its outputs was accepted. So the verdict on a pipeline can depend on the outputs
of one that stands before it.

## What is proved

* `Pipeline.name_mem_aspects_status_iff`, `Pipeline.source_mem_aspects_status_iff`: when there
  is a condition on the name, and when there is one on the inputs.
* `Pipeline.conditions_status`, `Pipeline.outputConditions_eq_ite`: the conditions of a pipeline.
* `Pipeline.isPipelineVerdict_status`: the status of a pipeline is the reference's.
* `isReference_reviewPipelines`: the review is the reference.
* `not_hasReason_uniqueName_of_nodup`: where names are distinct, none is dropped for its name.
-/

namespace LogForwarding

/-! ### One pipeline -/

/-- Whether a pipeline is kept that stands behind others: it is eligible, and no eligible one
before it has its name. -/
def Pipeline.IsKeptAfter (pipeline : Pipeline) (earlier : List Pipeline) (inputs : List Input)
    (accepted : List String) (owned : Ownership) : Prop :=
  pipeline.isEligible inputs accepted owned
    ∧ ∀ other ∈ earlier, other.isEligible inputs accepted owned → other.name ≠ pipeline.name

/-- The parts of an entity that the conditions are about, in the order of the conditions. -/
def EntityStatus.aspects (status : EntityStatus) : List Aspect :=
  status.conditions.map (·.aspect)

/-- **What the status of a pipeline says**, given the pipelines before it. -/
structure EntityStatus.IsPipelineVerdict (status : EntityStatus) (pipeline : Pipeline)
    (earlier : List Pipeline) (position : Nat) (inputs : List Input) (accepted : List String)
    (owned : Ownership) : Prop where
  /-- A pipeline is accepted iff it is kept and all its outputs were accepted. -/
  accepted_iff : status.state = .accepted ↔
    pipeline.IsKeptAfter earlier inputs accepted owned
      ∧ ∀ ref ∈ pipeline.outputRefs, ref ∈ accepted
  /-- It is degraded iff it is kept and some of its outputs were not accepted. -/
  degraded_iff : status.state = .degraded ↔
    pipeline.IsKeptAfter earlier inputs accepted owned
      ∧ ∃ ref ∈ pipeline.outputRefs, ref ∉ accepted
  /-- It is dropped iff it is not kept. -/
  dropped_iff : status.state = .dropped ↔ ¬pipeline.IsKeptAfter earlier inputs accepted owned
  /-- Of an accepted pipeline the status says the name, and nothing else. -/
  of_accepted : status.state = .accepted →
    status = { name := pipeline.name, state := .accepted, conditions := [] }
  /-- A pipeline is dropped for a reason. -/
  of_dropped : status.state = .dropped → status.conditions ≠ []
  /-- There is a condition on the name iff it is missing, reserved, or that of an eligible
  pipeline before. -/
  name_iff : .name ∈ status.aspects ↔ pipeline.name = ""
    ∨ (Reserved.isPipelineName pipeline.name ∧ ¬owned.ownsPipeline pipeline.name)
    ∨ ∃ other ∈ earlier, other.isEligible inputs accepted owned ∧ other.name = pipeline.name
  /-- There is a condition on the inputs iff there are none, or some of unknown kind. -/
  source_iff : .source ∈ status.aspects ↔ pipeline.inputRefs = []
    ∨ ∃ ref ∈ pipeline.inputRefs, Input.resolve? inputs ref = none
  /-- Where there is such a condition, there is none on the outputs. -/
  of_entry : .name ∈ status.aspects ∨ .source ∈ status.aspects → .outputRef ∉ status.aspects
  /-- Otherwise there is one condition for each reference that is lost, in order, and a last
  one if any is lost or there are none. -/
  of_not_entry : .name ∉ status.aspects → .source ∉ status.aspects → status.conditions =
    (pipeline.outputRefs.filter (· ∉ accepted)).map Pipeline.lostRefCondition
      ++ if (∃ ref ∈ pipeline.outputRefs, ref ∉ accepted) ∨ pipeline.outputRefs = [] then
        [{ aspect := .outputRef, reason := .missingOutputs }] else []
  /-- A pipeline is shown under its position if there is a condition on its name, and under
  its name if there is none. -/
  name_eq : status.name =
    if .name ∈ status.aspects then s!"pipeline[{position}]" else pipeline.name

theorem State.eq_degraded_iff {state : State} :
    state = .degraded ↔ state ≠ .dropped ∧ state ≠ .accepted := by
  cases state <;> decide

namespace Pipeline

variable {pipeline : Pipeline} {inputs : List Input} {accepted : List String}
  {owned : Ownership} {taken : List String} {position : Nat}

theorem aspect_of_mem_outputConditions {condition : Condition}
    (h : condition ∈ pipeline.outputConditions accepted) : condition.aspect = .outputRef := by
  rcases eq_of_mem_outputConditions h with ⟨ref, -, rfl⟩ | rfl <;> rfl

theorem conditions_status : (pipeline.status inputs accepted owned taken position).conditions =
    if pipeline.entryConditions inputs owned taken = [] then pipeline.outputConditions accepted
    else pipeline.entryConditions inputs owned taken := by
  simp only [status, List.isEmpty_iff]

/-- A condition that is not on the outputs is one that drops the pipeline whatever these are. -/
theorem mem_conditions_status_iff {condition : Condition} (h : condition.aspect ≠ .outputRef) :
    condition ∈ (pipeline.status inputs accepted owned taken position).conditions ↔
      condition ∈ pipeline.entryConditions inputs owned taken := by
  rw [conditions_status]
  split_ifs with hentry
  · rw [hentry]
    exact iff_of_false (fun hmem => h (aspect_of_mem_outputConditions hmem)) List.not_mem_nil
  · exact Iff.rfl

theorem mem_aspects_status_iff (aspect : Aspect) (h : aspect ≠ .outputRef) :
    aspect ∈ (pipeline.status inputs accepted owned taken position).aspects ↔
      ∃ condition ∈ pipeline.entryConditions inputs owned taken, condition.aspect = aspect := by
  rw [EntityStatus.aspects, List.mem_map]
  refine exists_congr fun condition => and_congr_left fun haspect => ?_
  exact mem_conditions_status_iff (haspect ▸ h)

theorem name_mem_aspects_status_iff :
    .name ∈ (pipeline.status inputs accepted owned taken position).aspects ↔
      pipeline.nameFault? owned taken ≠ none := by
  rw [mem_aspects_status_iff .name (by decide), Option.ne_none_iff_exists']
  constructor
  · rintro ⟨condition, hmem, haspect⟩
    rcases mem_entryConditions.1 hmem with hname | hsource
    · obtain ⟨reason, hreason, -⟩ := Option.map_eq_some_iff.1 hname
      exact ⟨reason, hreason⟩
    · have hother := aspect_of_sourceCondition?_eq_some hsource
      exact absurd (hother.symm.trans haspect) (by decide)
  · rintro ⟨reason, hreason⟩
    have hname : pipeline.nameCondition? owned taken = some { aspect := .name, reason } :=
      Option.map_eq_some_iff.2 ⟨reason, hreason, rfl⟩
    exact ⟨_, mem_entryConditions.2 (Or.inl hname), rfl⟩

theorem source_mem_aspects_status_iff :
    .source ∈ (pipeline.status inputs accepted owned taken position).aspects ↔
      pipeline.sourceCondition? inputs ≠ none := by
  rw [mem_aspects_status_iff .source (by decide), Option.ne_none_iff_exists']
  constructor
  · rintro ⟨condition, hmem, haspect⟩
    rcases mem_entryConditions.1 hmem with hname | hsource
    · have hother := aspect_of_nameCondition?_eq_some hname
      exact absurd (hother.symm.trans haspect) (by decide)
    · exact ⟨condition, hsource⟩
  · rintro ⟨condition, hsource⟩
    exact ⟨condition, mem_entryConditions.2 (Or.inr hsource),
      aspect_of_sourceCondition?_eq_some hsource⟩

/-- Nothing is wrong with a pipeline itself iff no condition is on its name or its inputs. -/
theorem entryConditions_eq_nil_iff_aspects :
    pipeline.entryConditions inputs owned taken = [] ↔
      .name ∉ (pipeline.status inputs accepted owned taken position).aspects
        ∧ .source ∉ (pipeline.status inputs accepted owned taken position).aspects := by
  rw [name_mem_aspects_status_iff, source_mem_aspects_status_iff, not_not, not_not]
  simp [entryConditions, nameCondition?]

/-- A pipeline with something wrong with itself has no condition on its outputs. -/
theorem outputRef_notMem_aspects_status
    (h : pipeline.entryConditions inputs owned taken ≠ []) :
    .outputRef ∉ (pipeline.status inputs accepted owned taken position).aspects := by
  rw [EntityStatus.aspects, conditions_status, if_neg h]
  intro hmem
  obtain ⟨condition, hcondition, haspect⟩ := List.mem_map.1 hmem
  rcases aspect_of_mem_entryConditions hcondition with hname | hsource
  · exact absurd (hname.symm.trans haspect) (by decide)
  · exact absurd (hsource.symm.trans haspect) (by decide)

theorem outputConditions_eq_ite : pipeline.outputConditions accepted =
    (pipeline.outputRefs.filter (· ∉ accepted)).map lostRefCondition
      ++ if (∃ ref ∈ pipeline.outputRefs, ref ∉ accepted) ∨ pipeline.outputRefs = [] then
        [{ aspect := .outputRef, reason := .missingOutputs }] else [] := by
  have hlost : (∃ ref ∈ pipeline.outputRefs, ref ∉ accepted) ↔ pipeline.lostRefs accepted ≠ [] := by
    simp [lostRefs]
  simp only [outputConditions, hlost]
  by_cases hnil : pipeline.lostRefs accepted = [] <;> by_cases hrefs : pipeline.outputRefs = []
    <;> simp_all [lostRefs]

/-- A pipeline is dropped as one of several with its name only if its name was given away. -/
theorem name_mem_of_hasReason_uniqueName
    (h : (pipeline.status inputs accepted owned taken position).hasReason .uniqueName) :
    pipeline.name ∈ taken := by
  obtain ⟨condition, hmem, hreason⟩ := List.any_eq_true.1 h
  have hreason : condition.reason = .uniqueName := beq_iff_eq.1 hreason
  rw [conditions_status] at hmem
  split_ifs at hmem with hentry
  · rcases eq_of_mem_outputConditions hmem with ⟨ref, -, rfl⟩ | rfl <;> cases hreason
  · rcases mem_entryConditions.1 hmem with hname | hsource
    · obtain ⟨fault, hfault, rfl⟩ := Option.map_eq_some_iff.1 hname
      cases hreason
      unfold nameFault? at hfault
      split_ifs at hfault with hempty hreserved htaken
      · cases hfault
      · cases hfault
      · exact htaken
    · rw [sourceCondition?] at hsource
      split_ifs at hsource <;> rw [← Option.some.inj hsource] at hreason <;> cases hreason

theorem forall_mem_accepted_iff :
    (∀ ref ∈ pipeline.outputRefs, ref ∈ accepted) ↔ pipeline.pruned accepted = pipeline := by
  rw [pruned_eq_self_iff]
  simp [lostRefs]

/-- A pipeline is shown under its position iff there is a condition on its name. -/
theorem name_status_eq_ite : (pipeline.status inputs accepted owned taken position).name =
    if .name ∈ (pipeline.status inputs accepted owned taken position).aspects then
      s!"pipeline[{position}]"
    else pipeline.name := by
  simp only [name_mem_aspects_status_iff, ← Option.isSome_iff_ne_none]
  rfl

/-! ### The verdict -/

section Verdict

variable {earlier : List Pipeline} (htaken : ∀ name, name ∈ taken ↔
  ∃ other ∈ earlier, other.isEligible inputs accepted owned ∧ other.name = name)

include htaken

theorem state_status_ne_dropped_iff_isKeptAfter :
    (pipeline.status inputs accepted owned taken position).state ≠ .dropped ↔
      pipeline.IsKeptAfter earlier inputs accepted owned := by
  rw [state_status_ne_dropped_iff, htaken, IsKeptAfter]
  simp

theorem state_status_eq_accepted_iff_isKeptAfter :
    (pipeline.status inputs accepted owned taken position).state = .accepted ↔
      pipeline.IsKeptAfter earlier inputs accepted owned
        ∧ ∀ ref ∈ pipeline.outputRefs, ref ∈ accepted := by
  rw [← state_status_ne_dropped_iff_isKeptAfter htaken, forall_mem_accepted_iff,
    ← isAccepted_status_iff, EntityStatus.isAccepted, beq_iff_eq]

theorem state_status_eq_degraded_iff_isKeptAfter :
    (pipeline.status inputs accepted owned taken position).state = .degraded ↔
      pipeline.IsKeptAfter earlier inputs accepted owned
        ∧ ∃ ref ∈ pipeline.outputRefs, ref ∉ accepted := by
  have hlost : (∃ ref ∈ pipeline.outputRefs, ref ∉ accepted) ↔
      ¬∀ ref ∈ pipeline.outputRefs, ref ∈ accepted := by simp
  rw [hlost, State.eq_degraded_iff, state_status_ne_dropped_iff_isKeptAfter htaken, Ne,
    state_status_eq_accepted_iff_isKeptAfter htaken]
  tauto

/-- The status of a pipeline is the verdict on it, where the names given away before it are
those of the eligible pipelines before it. -/
theorem isPipelineVerdict_status :
    (pipeline.status inputs accepted owned taken position).IsPipelineVerdict pipeline earlier
      position inputs accepted owned where
  accepted_iff := state_status_eq_accepted_iff_isKeptAfter htaken
  degraded_iff := state_status_eq_degraded_iff_isKeptAfter htaken
  dropped_iff := by rw [← state_status_ne_dropped_iff_isKeptAfter htaken, not_not]
  of_accepted := fun h => status_eq_of_isAccepted (beq_iff_eq.2 h)
  of_dropped := by
    intro hdropped hnil
    have haccepted := beq_iff_eq.1 (isAccepted_status_iff_conditions.2 hnil)
    exact absurd (haccepted.symm.trans hdropped) (by decide)
  name_iff := by
    rw [name_mem_aspects_status_iff, Ne, nameFault?_eq_none_iff, ← htaken]
    tauto
  source_iff := by
    rw [source_mem_aspects_status_iff, Ne, sourceCondition?_eq_none_iff]
    simp only [not_and_or, not_not, not_forall, Option.not_isSome_iff_eq_none, exists_prop]
  of_entry := by
    intro h
    refine outputRef_notMem_aspects_status fun hnil => ?_
    obtain ⟨hname, hsource⟩ := entryConditions_eq_nil_iff_aspects.1 hnil
    exact h.elim hname hsource
  of_not_entry := by
    intro hname hsource
    rw [conditions_status, if_pos (entryConditions_eq_nil_iff_aspects.2 ⟨hname, hsource⟩),
      outputConditions_eq_ite]
  name_eq := name_status_eq_ite

end Verdict

end Pipeline

/-! ### All pipelines -/

/-- **The review of pipelines as it should be**, said of the pipelines alone. -/
structure PipelineReviews.IsReference (found : PipelineReviews) (pipelines : List Pipeline)
    (inputs : List Input) (accepted : List String) (owned : Ownership) : Prop where
  /-- The kept pipelines are the eligible ones, of each name the first, without their references
  to outputs that were not accepted. -/
  kept : found.kept = (firstHolders Pipeline.name [] (pipelines.filter fun pipeline =>
      pipeline.isEligible inputs accepted owned)).map fun pipeline =>
    { pipeline with outputRefs := pipeline.outputRefs.filter (· ∈ accepted) }
  /-- They are those whose status says so. -/
  kept_eq_filter : found.kept =
    ((pipelines.zip found.statuses).filter (·.2.state != .dropped)).map fun entry =>
      { entry.1 with outputRefs := entry.1.outputRefs.filter (· ∈ accepted) }
  /-- The kinds of logs that are forwarded are those of their inputs. -/
  logSources : ∀ kind, kind ∈ found.logSources ↔
    ∃ pipeline ∈ found.kept, ∃ ref ∈ pipeline.inputRefs, Input.resolve? inputs ref = some kind
  /-- Every pipeline has one status. -/
  length_statuses : found.statuses.length = pipelines.length
  /-- The status of a pipeline is the verdict on it. -/
  statuses : ∀ (position : Nat) (pipeline : Pipeline), pipelines[position]? = some pipeline →
    ∃ status, found.statuses[position]? = some status
      ∧ status.IsPipelineVerdict pipeline (pipelines.take position) position inputs accepted owned

variable {inputs : List Input} {accepted : List String} {owned : Ownership}

/-- Where names are distinct, no pipeline is dropped as one of several with its name. -/
theorem not_hasReason_uniqueName_of_nodup {pipelines : List Pipeline}
    (h : (pipelines.map (·.name)).Nodup) {status : EntityStatus}
    (hmem : status ∈ (reviewPipelines pipelines inputs accepted owned).statuses) :
    ¬status.hasReason .uniqueName := by
  intro hreason
  obtain ⟨position, hposition⟩ := List.getElem?_of_mem hmem
  have hlt : position < pipelines.length := by
    rw [← length_statuses_reviewPipelines pipelines inputs accepted owned]
    exact (List.getElem?_eq_some_iff.1 hposition).1
  obtain ⟨before, hreview, hnames⟩ :=
    getElem?_reviewPipelines inputs accepted owned (List.getElem?_eq_getElem hlt)
  rw [PipelineReviews.statuses, List.getElem?_map, hreview, Option.map_some] at hposition
  obtain rfl := Option.some.inj hposition
  obtain ⟨earlier, hearlier, -, hname⟩ :=
    (hnames _).1 (Pipeline.name_mem_of_hasReason_uniqueName hreason)
  exact name_ne_of_mem_take h (List.getElem?_eq_getElem hlt) hearlier hname

/-- The first pipeline loses all its outputs, and with them the name. The second has it, without
the output that it loses, so that there is none left for the third. -/
example : (reviewPipelines
    [{ name := "logs", inputRefs := ["audit"], outputRefs := ["gone"] },
      { name := "logs", inputRefs := ["application"], outputRefs := ["es", "gone", "es"] },
      { name := "logs", inputRefs := ["infrastructure"], outputRefs := ["es"] }]
    [] ["es"] {}).statuses.map (·.state) = [.dropped, .degraded, .dropped] := by decide

end LogForwarding
