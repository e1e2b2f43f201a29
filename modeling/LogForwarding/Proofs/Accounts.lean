import LogForwarding.Proofs.Acceptance
import LogForwarding.Proofs.Command.Outcome
import Mathlib.Tactic.TFAE

/-!
# One story

What became of a specification can be told in five ways: by the status of each entity, by
what is left in the specification, by the counts of a summary, by whether everything is
accepted, and by the verdict of the command `validate`. All of them say the same.

The command has a check of its own in front: it does not normalize anything for an operator
whose surroundings are unusable, and then it ends in an error about the settings instead of a
verdict.

## What is proved

* `Migrated.isAccountOf_reviewed`: statuses, counts and the specification that is left agree
  entity by entity.
* `Status.isFullyAccepted_iff_summary`, `Migrated.isFullyAccepted_reviewed_iff_conditions`:
  everything is accepted iff nothing is counted as dropped or degraded, and iff there is no
  condition.
* `Invocation.isRejection_run_iff`: when `validate` rejects a specification.
* `accounts_agree`: all of this about the result of a run.
* `exists_not_rejected`: a specification that is not accepted as a whole, and that the command
  does not come to reject.
-/

namespace LogForwarding

/-! ### One entity -/

namespace Output

variable {output : Output} {owned : Ownership} {lookup : SecretLookup} {taken : List String}
  {position : Nat}

/-- An output is used as declared iff there is no condition on it. -/
theorem isAccepted_status_iff_conditions :
    (output.status owned lookup taken position).isAccepted ↔
      (output.status owned lookup taken position).conditions = [] := by
  simp only [status, statusWith, EntityStatus.isAccepted, beq_iff_eq, List.isEmpty_iff]
  split_ifs with h <;> simp [h]

theorem state_status_ne_degraded :
    (output.status owned lookup taken position).state ≠ .degraded := by
  simp only [status, statusWith]
  split_ifs <;> decide

end Output

namespace Pipeline

variable {pipeline : Pipeline} {inputs : List Input} {accepted : List String}
  {owned : Ownership} {taken : List String} {position : Nat}

/-- A pipeline is used as declared iff there is no condition on it. -/
theorem isAccepted_status_iff_conditions :
    (pipeline.status inputs accepted owned taken position).isAccepted ↔
      (pipeline.status inputs accepted owned taken position).conditions = [] := by
  constructor
  · intro h
    rw [status_eq_of_isAccepted h]
  · intro h
    have hnone : ∀ condition ∈ (pipeline.status inputs accepted owned taken position).conditions,
        condition.aspect ≠ .name ∧ condition.aspect ≠ .source := by
      rw [h]
      exact List.forall_mem_nil _
    have hentry := entryConditions_eq_nil_of_status hnone
    simp only [status, hentry, List.isEmpty_nil, if_true] at h
    obtain ⟨hlost, hrefs⟩ := outputConditions_eq_nil_iff.1 h
    have hkept : pipeline.keptRefs accepted ≠ [] := by
      intro hkept
      have hpruned := congrArg outputRefs (pruned_eq_self_iff.2 hlost)
      exact hrefs (hpruned.symm.trans hkept)
    simp [EntityStatus.isAccepted, status, hentry, outputState, hlost, hkept]

/-- A pipeline that is kept is shown under its name. -/
theorem name_status_of_ne_dropped
    (h : (pipeline.status inputs accepted owned taken position).state ≠ .dropped) :
    (pipeline.status inputs accepted owned taken position).name = pipeline.name := by
  obtain ⟨heligible, hfree⟩ := (state_status_ne_dropped_iff position).1 h
  obtain ⟨hnamed, howned, -⟩ := isWellFormed_iff.1 (isEligible_iff.1 heligible).1
  have hname : pipeline.nameFault? owned taken = none :=
    nameFault?_eq_none_iff.2 ⟨hnamed, howned, hfree⟩
  simp [status, hname]

theorem lostRefs_ne_nil_iff : pipeline.lostRefs accepted ≠ [] ↔
    (pipeline.pruned accepted).outputRefs.length < pipeline.outputRefs.length := by
  rw [outputRefs_pruned, List.length_filter_lt_length_iff_exists, lostRefs, ne_eq,
    List.filter_eq_nil_iff]
  simp

/-- A pipeline that is kept is degraded iff it loses outputs. -/
theorem state_status_eq_degraded_iff
    (h : (pipeline.status inputs accepted owned taken position).state ≠ .dropped) :
    (pipeline.status inputs accepted owned taken position).state = .degraded ↔
      (pipeline.pruned accepted).outputRefs.length < pipeline.outputRefs.length := by
  rw [← lostRefs_ne_nil_iff]
  simp only [status, outputState, List.isEmpty_iff] at h ⊢
  split_ifs at h ⊢ with hentry hkept hlost <;> simp_all

end Pipeline

/-! ### All entities -/

/-- Whether an output is left of another one with its status: as it was, and under the name
that the status shows. -/
def Output.IsKeptAs (found : Output × EntityStatus) (output : Output) : Prop :=
  output = found.1 ∧ found.2.name = output.name

/-- Whether a pipeline is left of another one with its status: under the name that it had and
that the status shows, and with fewer outputs iff the status says that it is degraded. -/
def Pipeline.IsKeptAs (found : Pipeline × EntityStatus) (pipeline : Pipeline) : Prop :=
  pipeline.name = found.1.name ∧ found.2.name = pipeline.name
    ∧ (found.2.state = .degraded ↔ pipeline.outputRefs.length < found.1.outputRefs.length)

/-- **The accounts of a run agree**: the statuses, the counts and the specification that is
left tell the same of a migrated specification, entity by entity. -/
structure Normalized.IsAccountOf (normalized : Normalized) (migrated : Migrated)
    (lookup : SecretLookup) : Prop where
  /-- Every output has its status, in its place. -/
  output_status : ∀ (position : Nat) (output : Output),
    migrated.spec.outputs[position]? = some output → ∃ before,
      normalized.status.outputs[position]? =
        some (output.status migrated.owned lookup before position)
  /-- There are no other statuses of outputs. -/
  outputs_length : normalized.status.outputs.length = migrated.spec.outputs.length
  /-- Every pipeline has its status, in its place. -/
  pipeline_status : ∀ (position : Nat) (pipeline : Pipeline),
    migrated.spec.pipelines[position]? = some pipeline → ∃ before,
      normalized.status.pipelines[position]? =
        some (pipeline.status migrated.spec.inputs normalized.spec.outputNames migrated.owned
          before position)
  /-- There are no other statuses of pipelines. -/
  pipelines_length : normalized.status.pipelines.length = migrated.spec.pipelines.length
  /-- No output is degraded. -/
  output_state : ∀ status ∈ normalized.status.outputs, status.state ≠ .degraded
  /-- The accepted outputs are left, as they are, and shown under their names. -/
  accepted : List.Forall₂ Output.IsKeptAs
    ((migrated.spec.outputs.zip normalized.status.outputs).filter (·.2.isAccepted))
    normalized.spec.outputs
  /-- The pipelines that are not dropped are left, shown under their names, and degraded iff
  they have lost outputs. -/
  kept : List.Forall₂ Pipeline.IsKeptAs
    ((migrated.spec.pipelines.zip normalized.status.pipelines).filter (·.2.state != .dropped))
    normalized.spec.pipelines
  /-- So the names of the accepted outputs are those that are left. -/
  accepted_names : (normalized.status.outputs.filter (·.isAccepted)).map (·.name) =
    normalized.spec.outputs.map (·.name)
  /-- And so are the names of the pipelines that are not dropped. -/
  kept_names : (normalized.status.pipelines.filter (·.state != .dropped)).map (·.name) =
    normalized.spec.pipelines.map (·.name)
  /-- The summary counts the outputs that are left. -/
  outputs_count : normalized.status.summary.outputsAccepted = normalized.spec.outputs.length
  /-- The summary counts the pipelines that are left. -/
  pipelines_count : normalized.status.summary.pipelinesAccepted
    + normalized.status.summary.pipelinesDegraded = normalized.spec.pipelines.length

namespace OutputReviews

variable {owned : Ownership} {lookup : SecretLookup} {outputs : List Output}

/-- The accepted outputs, each with its status. -/
theorem forall₂_accepted (h : (reviewOutputs outputs owned lookup).failure? = none) :
    List.Forall₂ Output.IsKeptAs
      ((outputs.zip (reviewOutputs outputs owned lookup).statuses).filter (·.2.isAccepted))
      (reviewOutputs outputs owned lookup).accepted := by
  have hzip : outputs.zip (reviewOutputs outputs owned lookup).statuses =
      (reviewOutputs outputs owned lookup).reviews.map fun review =>
        (review.output, review.status) := by
    rw [statuses, ← List.zip_map', map_output_reviewOutputs h]
  rw [hzip, List.filter_map, accepted, List.forall₂_map_left_iff, List.forall₂_map_right_iff]
  refine List.forall₂_same.2 fun review hreview => ?_
  obtain ⟨hmem, haccepted⟩ := List.mem_filter.1 hreview
  obtain ⟨before, place, hstatus⟩ := exists_status_of_mem_reviewOutputsFrom hmem
  have haccepted : review.status.isAccepted := haccepted
  rw [hstatus] at haccepted
  change review.output = review.output ∧ review.status.name = review.output.name
  rw [hstatus, Output.status_eq_of_isAccepted haccepted]
  exact ⟨rfl, rfl⟩

end OutputReviews

namespace PipelineReviews

variable {inputs : List Input} {accepted : List String} {owned : Ownership}
  {pipelines : List Pipeline}

/-- The kept pipelines, each with its status. -/
theorem forall₂_kept : List.Forall₂ Pipeline.IsKeptAs
    ((pipelines.zip (reviewPipelines pipelines inputs accepted owned).statuses).filter
      (·.2.state != .dropped))
    (reviewPipelines pipelines inputs accepted owned).kept := by
  rw [zip_statuses_reviewPipelines, List.filter_map, kept, List.forall₂_map_left_iff, List.forall₂_map_right_iff]
  refine List.forall₂_same.2 fun review hreview => ?_
  obtain ⟨hmem, hkept⟩ := List.mem_filter.1 hreview
  obtain ⟨before, place, hstatus⟩ := exists_status_of_mem_reviewPipelines hmem
  have hstate := PipelineReview.isKept_iff.1 hkept
  rw [hstatus] at hstate ⊢
  exact ⟨rfl, Pipeline.name_status_of_ne_dropped hstate,
    Pipeline.state_status_eq_degraded_iff hstate⟩

end PipelineReviews

/-! ### Statuses without their entities -/

theorem map_snd_filter_zip {α β : Type} {as : List α} {bs : List β} (h : bs.length = as.length)
    (test : β → Bool) : ((as.zip bs).filter (test ·.2)).map (·.2) = bs.filter test := by
  conv_rhs => rw [← List.map_snd_zip (Nat.le_of_eq h), List.filter_map]
  rfl

/-- Where the statuses of some entities stand beside what is left of these, in order, and show
it under its name, they have its names. -/
theorem map_name_filter {α : Type} {name : α → String} {entities rest : List α}
    {statuses : List EntityStatus} (test : EntityStatus → Bool)
    (hlength : statuses.length = entities.length)
    (h : List.Forall₂ (fun found entity => found.2.name = name entity)
      ((entities.zip statuses).filter (test ·.2)) rest) :
    (statuses.filter test).map (·.name) = rest.map name := by
  rw [← map_snd_filter_zip hlength, List.map_map, ← List.forall₂_eq_eq_eq,
    List.forall₂_map_left_iff, List.forall₂_map_right_iff]
  exact h

/-- A status that is not dropped is either accepted or degraded. -/
theorem Status.countState_add_countState (statuses : List EntityStatus) :
    Status.countState statuses .accepted + Status.countState statuses .degraded =
      (statuses.filter (·.state != .dropped)).length := by
  unfold Status.countState
  induction statuses with
  | nil => rfl
  | cons status rest ih =>
    rw [List.countP_cons, List.countP_cons, List.filter_cons]
    cases hstate : status.state <;> simp_all <;> omega

namespace Migrated

variable {migrated : Migrated} {lookup : SecretLookup}

theorem length_outputs_status_reviewed (h : (migrated.outputReviews lookup).failure? = none) :
    (migrated.reviewed lookup).status.outputs.length = migrated.spec.outputs.length := by
  have hlength := congrArg List.length (map_output_reviewOutputs h)
  rw [List.length_map] at hlength
  exact (List.length_map _).trans hlength

theorem length_pipelines_status_reviewed :
    (migrated.reviewed lookup).status.pipelines.length = migrated.spec.pipelines.length :=
  length_statuses_reviewPipelines _ _ _ _

/-- **The accounts of a review agree.** -/
theorem isAccountOf_reviewed (h : (migrated.outputReviews lookup).failure? = none) :
    (migrated.reviewed lookup).IsAccountOf migrated lookup := by
  have houtputs := length_outputs_status_reviewed h
  have hpipelines : (migrated.reviewed lookup).status.pipelines.length =
      migrated.spec.pipelines.length := length_pipelines_status_reviewed
  have haccepted : List.Forall₂ Output.IsKeptAs
      ((migrated.spec.outputs.zip (migrated.reviewed lookup).status.outputs).filter
        (·.2.isAccepted)) (migrated.reviewed lookup).spec.outputs :=
    OutputReviews.forall₂_accepted h
  have hkept : List.Forall₂ Pipeline.IsKeptAs
      ((migrated.spec.pipelines.zip (migrated.reviewed lookup).status.pipelines).filter
        (·.2.state != .dropped)) (migrated.reviewed lookup).spec.pipelines :=
    PipelineReviews.forall₂_kept
  have haccepted_names := map_name_filter (·.isAccepted) houtputs
    (haccepted.imp fun _ _ h => h.2)
  have hkept_names := map_name_filter (·.state != .dropped) hpipelines
    (hkept.imp fun _ _ h => h.2.1)
  exact {
    output_status := by
      intro position output hposition
      obtain ⟨before, hstatus, -⟩ := exists_status_outputs_reviewed h hposition
      exact ⟨before, hstatus⟩
    outputs_length := houtputs
    pipeline_status := by
      intro position pipeline hposition
      obtain ⟨before, hstatus, -⟩ := exists_status_reviewed lookup hposition
      exact ⟨before, hstatus⟩
    pipelines_length := hpipelines
    output_state := by
      intro status hmem
      obtain ⟨review, hreview, rfl⟩ := List.mem_map.1 hmem
      obtain ⟨before, place, hstatus⟩ := exists_status_of_mem_reviewOutputsFrom hreview
      rw [hstatus]
      exact Output.state_status_ne_degraded
    accepted := haccepted
    kept := hkept
    accepted_names := haccepted_names
    kept_names := hkept_names
    outputs_count := by
      have hlength := congrArg List.length haccepted_names
      rw [List.length_map, List.length_map, ← List.countP_eq_length_filter] at hlength
      exact hlength
    pipelines_count := by
      have hlength := congrArg List.length hkept_names
      rw [List.length_map, List.length_map] at hlength
      exact (Status.countState_add_countState _).trans hlength }

/-- Everything is accepted iff there is no condition. -/
theorem isFullyAccepted_reviewed_iff_conditions :
    (migrated.reviewed lookup).status.isFullyAccepted ↔
      ∀ status ∈ (migrated.reviewed lookup).status.outputs
        ++ (migrated.reviewed lookup).status.pipelines, status.conditions = [] := by
  have houtputs : ∀ status ∈ (migrated.reviewed lookup).status.outputs,
      status.isAccepted ↔ status.conditions = [] := by
    intro status hmem
    obtain ⟨review, hreview, rfl⟩ := List.mem_map.1 hmem
    obtain ⟨before, place, hstatus⟩ := exists_status_of_mem_reviewOutputsFrom hreview
    rw [hstatus]
    exact Output.isAccepted_status_iff_conditions
  have hpipelines : ∀ status ∈ (migrated.reviewed lookup).status.pipelines,
      status.isAccepted ↔ status.conditions = [] := by
    intro status hmem
    obtain ⟨review, hreview, rfl⟩ := List.mem_map.1 hmem
    obtain ⟨before, place, hstatus⟩ := exists_status_of_mem_reviewPipelines hreview
    rw [hstatus]
    exact Pipeline.isAccepted_status_iff_conditions
  rw [Status.isFullyAccepted, Bool.and_eq_true, List.all_eq_true, List.all_eq_true,
    List.forall_mem_append, forall₂_congr houtputs, forall₂_congr hpipelines]

end Migrated

/-! ### The verdict -/

/-- Everything is accepted iff nothing is counted as dropped or degraded. -/
theorem Status.isFullyAccepted_iff_summary {status : Status} : status.isFullyAccepted ↔
    status.summary.outputsDropped = 0 ∧ status.summary.pipelinesDegraded = 0
      ∧ status.summary.pipelinesDropped = 0 := by
  have hpipelines : (∀ pipeline ∈ status.pipelines, pipeline.isAccepted) ↔
      (∀ pipeline ∈ status.pipelines, pipeline.state ≠ .degraded)
        ∧ ∀ pipeline ∈ status.pipelines, pipeline.state ≠ .dropped := by
    rw [← forall₂_and]
    refine forall₂_congr fun pipeline _ => ?_
    cases hstate : pipeline.state <;> simp [EntityStatus.isAccepted, hstate]
  have houtputs : (∀ output ∈ status.outputs, output.isAccepted) ↔
      status.summary.outputsDropped = 0 := by
    simp [summary, List.countP_eq_zero, EntityStatus.isAccepted]
  rw [isFullyAccepted, Bool.and_eq_true, List.all_eq_true, List.all_eq_true, houtputs, hpipelines]
  simp [summary, countState, List.countP_eq_zero]

theorem CommandError.exitCode_eq_three_iff {error : CommandError} :
    error.exitCode = 3 ↔ ∃ reason, error = .rejected reason := by
  unfold exitCode
  split <;> simp

namespace Run

/-- Whether a run ended in the rejection of its specification. -/
def IsRejection (run : Run) : Prop :=
  ∃ reason, run.outcome.error = some (.rejected reason)

/-- The exit code of a rejection is that of nothing else. -/
theorem exitCode_eq_three_iff {run : Run} : run.exitCode = 3 ↔ run.IsRejection := by
  unfold exitCode IsRejection
  cases run.outcome.error with
  | none => simp
  | some error => simp [CommandError.exitCode_eq_three_iff]

end Run

namespace Invocation

/-- Whether the command is `validate`, about a given specification, log store, secrets and
operator. -/
def Validates (invocation : Invocation) (surroundings : Surroundings) (spec : Spec)
    (store : Option Store) (lookup : SecretLookup) (operator : Operator) : Prop :=
  ∃ path options settings, invocation.request = .validate path options
    ∧ invocation.settings surroundings = .ok settings
    ∧ Spec.IsInput surroundings.files settings options path spec store
    ∧ lookup = Spec.commandLookup surroundings.files settings options
    ∧ operator = settings.operator

variable {invocation : Invocation} {surroundings : Surroundings} {spec : Spec}
  {store : Option Store} {lookup : SecretLookup} {operator : Operator}

/-- For an operator whose surroundings are unusable, the command ends in an error about them. -/
theorem error_of_emptyField? {field : Operator.Field}
    (h : invocation.Validates surroundings spec store lookup operator)
    (hempty : operator.emptyField? = some field) : (invocation.run surroundings).outcome.error =
      some (.forwarding (.setting field.name "must not be empty")) := by
  obtain ⟨path, options, settings, hrequest, hsettings, hinput, rfl, rfl⟩ := h
  rw [error_validate hrequest, result_eq_of_settings hsettings,
    Spec.normalizeFile_of_emptyField? hinput hempty]

/-- **A specification is rejected** iff the operator's surroundings are usable, and it is
normalized, though not as it was. -/
theorem isRejection_run_iff
    (h : invocation.Validates surroundings spec store lookup operator) :
    (invocation.run surroundings).IsRejection ↔
      operator.emptyField? = none ∧ ∃ normalized,
        (spec.normalize store lookup operator).value = .ok normalized
          ∧ ¬ normalized.status.isFullyAccepted := by
  obtain ⟨path, options, settings, hrequest, hsettings, hinput, rfl, rfl⟩ := h
  unfold Run.IsRejection
  rw [error_validate hrequest, result_eq_of_settings hsettings]
  cases hempty : settings.operator.emptyField? with
  | some field => simp [Spec.normalizeFile_of_emptyField? hinput hempty]
  | none =>
    rw [Spec.value_normalizeFile hinput, Operator.checked_eq_ok_iff.2 ⟨hempty, rfl⟩]
    cases hnormalize : (spec.normalize store
      (Spec.commandLookup surroundings.files settings options) settings.operator).value with
    | error error => simp [hnormalize, Except.mapError]
    | ok normalized => simp [hnormalize, Except.mapError, CommandError.ofSummary]

end Invocation

/-- **One story**: after a run of the normalizer, the statuses, the counts and the
specification that is left agree entity by entity. Everything is accepted iff nothing is
counted as dropped or degraded, iff there is no condition, and iff the migrated specification
is left as it was. The command `validate` rejects the specification iff this is not so,
provided that it normalizes anything for the operator. -/
theorem accounts_agree {spec : Spec} {store : Option Store} {lookup : SecretLookup}
    {operator : Operator} {normalized : Normalized}
    (h : (spec.normalize store lookup operator).value = .ok normalized) :
    ∃ migrated, (spec.migrate store operator).value = .ok migrated
      ∧ normalized.IsAccountOf migrated lookup
      ∧ [(normalized.status.isFullyAccepted : Prop),
          normalized.status.summary.outputsDropped = 0
            ∧ normalized.status.summary.pipelinesDegraded = 0
            ∧ normalized.status.summary.pipelinesDropped = 0,
          ∀ status ∈ normalized.status.outputs ++ normalized.status.pipelines,
            status.conditions = [],
          normalized.spec = migrated.spec].TFAE
      ∧ ∀ (invocation : Invocation) (surroundings : Surroundings),
        invocation.Validates surroundings spec store lookup operator →
          let run := invocation.run surroundings
          (run.exitCode = 3 ↔ run.IsRejection)
            ∧ (run.IsRejection ↔
                operator.emptyField? = none ∧ ¬ normalized.status.isFullyAccepted) := by
  obtain ⟨migrated, hmigrate, hnone, rfl⟩ := Spec.normalize_eq_ok_iff.1 h
  refine ⟨migrated, hmigrate, Migrated.isAccountOf_reviewed hnone, ?_, ?_⟩
  · tfae_have 1 ↔ 2 := Status.isFullyAccepted_iff_summary
    tfae_have 1 ↔ 3 := Migrated.isFullyAccepted_reviewed_iff_conditions
    tfae_have 1 ↔ 4 := Migrated.isFullyAccepted_reviewed_iff hnone
    tfae_finish
  · intro invocation surroundings hvalidates
    refine ⟨Run.exitCode_eq_three_iff, ?_⟩
    rw [Invocation.isRejection_run_iff hvalidates, h]
    simp

/-! ### A blank specification -/

/-- A blank specification, and settings in the environment only. -/
def blankSurroundings (environment : Environment) : Surroundings where
  files := .ofTexts [("spec.yaml", "")]
  environment

/-- The command that validates the blank specification. -/
def blankValidation : Invocation := { request := .validate "spec.yaml" {} }

/-- The command is about the empty specification and the store of its settings. -/
theorem blankValidation_validates {environment : Environment} {settings : Settings}
    (h : (Settings.usual environment Settings.usualPath).value = .ok settings) :
    blankValidation.Validates (blankSurroundings environment) {} settings.store?
      (Spec.commandLookup (.ofTexts [("spec.yaml", "")]) settings {}) settings.operator := by
  have hsettings : blankValidation.settings (blankSurroundings environment) = .ok settings := by
    refine Eq.trans (congrArg Traced.value (Settings.loadOrUsual_of_notFound ?_)) h
    rfl
  exact ⟨"spec.yaml", {}, settings, rfl, hsettings, ⟨Spec.load_ofTexts_of_blank rfl, rfl⟩, rfl, rfl⟩

/-- An environment with a log store, for which the collector has no secret. -/
def unheldEnvironment : Environment := .ofList [("LOGFWD_LOG_STORE_TYPE", "elasticsearch")]

/-- The settings that it makes. -/
def unheldSettings : Settings := { store := .elasticsearch "" }

/-- The default route to a store without its secret is dropped, and `validate` says so. -/
theorem accounts_agree_unheldEnvironment :
    let lookup := Spec.commandLookup (.ofTexts [("spec.yaml", "")]) unheldSettings {}
    ∃ normalized, (Spec.normalize {} unheldSettings.store? lookup {}).value = .ok normalized
      ∧ normalized.status.summary = ⟨0, 1, 0, 0, 2⟩
      ∧ blankValidation.Validates (blankSurroundings unheldEnvironment) {} unheldSettings.store?
        lookup {}
      ∧ (blankValidation.run (blankSurroundings unheldEnvironment)).exitCode = 3 := by
  intro lookup
  have hnormalize : ∃ normalized,
      (Spec.normalize {} unheldSettings.store? lookup {}).value = .ok normalized
        ∧ normalized.status.summary = ⟨0, 1, 0, 0, 2⟩ := by
    refine ⟨_, rfl, ?_⟩
    decide +kernel
  have hsettings : (Settings.usual unheldEnvironment Settings.usualPath).value =
      .ok unheldSettings := by decide +kernel
  obtain ⟨normalized, hnormalize, hsummary⟩ := hnormalize
  have hvalidates := blankValidation_validates hsettings
  obtain ⟨migrated, -, -, -, hverdict⟩ := accounts_agree hnormalize
  obtain ⟨hcode, hrejection⟩ := hverdict blankValidation _ hvalidates
  have hnot : ¬ normalized.status.isFullyAccepted := by
    rw [Status.isFullyAccepted_iff_summary, hsummary]
    decide
  exact ⟨normalized, hnormalize, hsummary, hvalidates, hcode.2 (hrejection.2 ⟨rfl, hnot⟩)⟩

/-- An environment in which the collector's secret has no name, either. -/
def namelessEnvironment : Environment :=
  .ofList [("LOGFWD_LOG_STORE_TYPE", "elasticsearch"),
    ("LOGFWD_OPERATOR_COLLECTOR_SECRET_NAME", "")]

/-- The settings that it makes. -/
def namelessSettings : Settings :=
  { store := .elasticsearch "", operator := { collectorSecret := "" } }

/-- **No verdict**: a specification that is not accepted as a whole, and that `validate` does
not reject, since it does not come to normalize it. -/
theorem exists_not_rejected : ∃ (spec : Spec) (store : Option Store) (lookup : SecretLookup)
    (operator : Operator) (normalized : Normalized) (invocation : Invocation)
    (surroundings : Surroundings),
    (spec.normalize store lookup operator).value = .ok normalized
      ∧ ¬ normalized.status.isFullyAccepted
      ∧ invocation.Validates surroundings spec store lookup operator
      ∧ ¬ (invocation.run surroundings).IsRejection
      ∧ (invocation.run surroundings).exitCode = 1 := by
  have hsettings : (Settings.usual namelessEnvironment Settings.usualPath).value =
      .ok namelessSettings := by decide +kernel
  have hvalidates := blankValidation_validates hsettings
  refine ⟨{}, namelessSettings.store?, _, namelessSettings.operator, _, blankValidation,
    blankSurroundings namelessEnvironment, rfl, by decide +kernel, hvalidates, ?_, ?_⟩
  · rw [Invocation.isRejection_run_iff hvalidates]
    exact fun h => absurd h.1 (by decide)
  · have herror := Invocation.error_of_emptyField? hvalidates (by rfl)
    rw [Run.exitCode, herror]
    rfl

end LogForwarding
