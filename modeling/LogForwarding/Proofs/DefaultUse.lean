import LogForwarding.Proofs.Fixpoint

/-!
# Whether the output `default` is used

With a single tenant store the output `default` is made because a pipeline sends to it. The
review comes later, and may drop that pipeline: for its name, for its inputs, or because an
earlier one has its name. Nobody looks at the output again, so that it can be left without a
pipeline. `Spec.KeepsInUse` says which pipeline has to be there so that it is not.

A second run sees that nothing sends to `default`, and drops the output as one that a user has
declared under the reserved name.

## What is proved

* `usesDefault_reviewed_iff_keepsInUse`: when a pipeline that sends to `default` remains.
* `Migrated.Clean.exists_conflict_of_not_owned`: what a second review makes of an output `default`
  that is not recorded any more.
* `default_used_iff_keepsInUse`: an output `default` that is left is used iff a pipeline keeps
  it in use, and only then it comes out of a second run.
* `exists_default_unused`: it is not always.
-/

namespace LogForwarding

open Reserved (defaultOutput StandardPipeline standardPipelines)

/-- **Whether the pipeline at a position keeps `default` in use**, given the names of the outputs
that are left: it sends there, has what it needs, may have its name, and no usable pipeline
before it has the same one. -/
structure Spec.KeepsInUse (spec : Spec) (store : Store) (accepted : List String) (position : Nat)
    (pipeline : Pipeline) : Prop where
  /-- It stands at the position. -/
  getElem?_eq : spec.pipelines[position]? = some pipeline
  /-- It sends to `default`. -/
  default_mem : defaultOutput ∈ pipeline.outputRefs
  /-- It may have its name. -/
  grantsName : spec.GrantsName store pipeline.name
  /-- It has inputs of known kinds, and an output that is left. -/
  usable : pipeline.isUsable spec.inputs accepted
  /-- No usable pipeline before it has its name. -/
  first : ∀ earlier ∈ spec.pipelines.take position, earlier.name = pipeline.name →
    ¬ earlier.isUsable spec.inputs accepted

variable {spec : Spec} {store : Store} {operator : Operator} {lookup : SecretLookup}
  {owned : Ownership}

/-! ### The pipelines that remain -/

/-- A pipeline that remains and sends to `default` is an eligible one that does, with no eligible
one of its name before it. -/
theorem Migrated.usesDefault_reviewed_iff {migrated : Migrated}
    (h : defaultOutput ∈ (migrated.reviewed lookup).spec.outputNames) :
    (migrated.reviewed lookup).spec.usesDefault ↔ ∃ (position : Nat) (pipeline : Pipeline),
      migrated.spec.pipelines[position]? = some pipeline ∧ defaultOutput ∈ pipeline.outputRefs
        ∧ pipeline.isEligible migrated.spec.inputs (migrated.reviewed lookup).spec.outputNames
          migrated.owned
        ∧ ∀ earlier ∈ migrated.spec.pipelines.take position,
          earlier.isEligible migrated.spec.inputs (migrated.reviewed lookup).spec.outputNames
            migrated.owned → earlier.name ≠ pipeline.name := by
  rw [Spec.usesDefault_iff]
  constructor
  · rintro ⟨pipeline, hmem, hdefault⟩
    obtain ⟨position, source, status, hsource, hstatus, hkept, rfl⟩ :=
      exists_position_of_mem_pipelines_reviewed hmem
    exact ⟨position, source, hsource, (List.mem_filter.1 hdefault).1,
      (state_ne_dropped_iff hsource hstatus).1 hkept⟩
  · rintro ⟨position, source, hsource, hdefault, hfirst⟩
    obtain ⟨before, hstatus, hmem, -⟩ := exists_status_reviewed lookup hsource
    exact ⟨_, hmem ((state_ne_dropped_iff hsource hstatus).2 hfirst),
      List.mem_filter.2 ⟨hdefault, decide_eq_true h⟩⟩

/-- **A pipeline that sends to `default` remains** iff one keeps it in use. -/
theorem usesDefault_reviewed_iff_keepsInUse {migrated : Migrated}
    (hpipelines : migrated.spec.pipelines = spec.pipelines)
    (hinputs : migrated.spec.inputs = spec.inputs) (hfits : migrated.owned.Fits spec store)
    (h : defaultOutput ∈ (migrated.reviewed lookup).spec.outputNames) :
    (migrated.reviewed lookup).spec.usesDefault ↔ ∃ position pipeline,
      spec.KeepsInUse store (migrated.reviewed lookup).spec.outputNames position pipeline := by
  rw [Migrated.usesDefault_reviewed_iff h, hpipelines, hinputs]
  constructor
  · rintro ⟨position, pipeline, hposition, hdefault, heligible, hfirst⟩
    obtain ⟨hgranted, husable⟩ := hfits.isEligible_iff.1 heligible
    refine ⟨position, pipeline, hposition, hdefault, hgranted, husable, ?_⟩
    intro earlier hearlier hname hbusy
    exact hfirst earlier hearlier (hfits.isEligible_iff.2 ⟨hname ▸ hgranted, hbusy⟩) hname
  · rintro ⟨position, pipeline, hkeeps⟩
    refine ⟨position, pipeline, hkeeps.getElem?_eq, hkeeps.default_mem,
      hfits.isEligible_iff.2 ⟨hkeeps.grantsName, hkeeps.usable⟩, ?_⟩
    intro earlier hearlier heligible hname
    exact hkeeps.first earlier hearlier hname (hfits.isEligible_iff.1 heligible).2

/-- The standard pipelines that are started keep `default` in use. -/
theorem Spec.keepsInUse_started_empty {accepted : List String} (h : defaultOutput ∈ accepted) :
    ∃ position pipeline, (({} : Spec).started).KeepsInUse store accepted position pipeline := by
  refine ⟨0, StandardPipeline.pipeline ⟨"default-app-pipeline", .application⟩, rfl,
    List.mem_singleton_self _, ⟨by decide, fun standard hstandard _ => ?_⟩, ?_, nofun⟩
  · exact Migrated.hasRoute_started rfl hstandard
  · simpa [Pipeline.isUsable, StandardPipeline.pipeline] using ⟨by decide, h⟩

/-! ### A second run -/

/-- An output under the reserved name that is not recorded is dropped for that name. -/
theorem Output.status_of_default_of_not_owned {output : Output} {taken : List String}
    {position : Nat} (hname : output.name = defaultOutput)
    (howned : ¬ owned.ownsOutput defaultOutput) :
    (output.status owned lookup taken position).state = .dropped
      ∧ (output.status owned lookup taken position).hasReason .reservedNameConflict := by
  have hfault : output.nameFault? owned taken = some .reservedNameConflict := by
    have hnamed : defaultOutput.isEmpty = false := by decide
    simp [nameFault?, hname, hnamed, howned]
  have hmem : ({ aspect := .name, reason := .reservedNameConflict } : Condition) ∈
      output.conditions owned lookup taken := by
    simp [conditions, conditionsWith, nameCondition?, hfault]
  constructor
  · rw [conditions] at hmem
    simp [status, statusWith, List.ne_nil_of_mem hmem]
  · exact List.any_eq_true.2 ⟨_, hmem, rfl⟩

namespace Migrated.Clean

/-- No look-up fails for a clean specification, whatever names are recorded. -/
theorem failure?_of_owned (h : Clean ⟨spec, owned⟩ lookup) (other : Ownership) :
    (Migrated.outputReviews ⟨spec, other⟩ lookup).failure? = none :=
  Migrated.failure?_outputReviews_eq_none_iff.2 fun output hmem =>
    Output.lookupFailure?_of_isSound (h.sound output hmem)

/-- Other names that are recorded leave the outputs of a clean specification sound, but for
`default`. -/
theorem isSound_iff {other : Ownership} (h : Clean ⟨spec, owned⟩ lookup) {output : Output}
    (hmem : output ∈ spec.outputs) : output.isSound other lookup ↔
      (output.name = defaultOutput → other.ownsOutput defaultOutput) := by
  obtain ⟨hnamed, -, hrest⟩ := Output.isSound_iff.1 (h.sound output hmem)
  rw [Output.isSound_iff]
  constructor
  · exact fun hsound hname => hname ▸ hsound.2.1 hname
  · exact fun howned => ⟨hnamed, fun hname => hname ▸ howned hname, hrest⟩

/-- A clean specification keeps its output `default` under other names that are recorded iff
`default` is among them. -/
theorem default_mem_outputNames_reviewed_iff {other : Ownership} (h : Clean ⟨spec, owned⟩ lookup)
    (hmem : defaultOutput ∈ spec.outputNames) :
    defaultOutput ∈ (Migrated.reviewed ⟨spec, other⟩ lookup).spec.outputNames ↔
      other.ownsOutput defaultOutput := by
  rw [Migrated.mem_outputNames_reviewed (h.failure?_of_owned other)]
  constructor
  · rintro ⟨output, houtput, hsound, hname⟩
    exact (h.isSound_iff houtput).1 hsound hname
  · intro howned
    obtain ⟨output, houtput, hname⟩ := List.mem_map.1 hmem
    exact ⟨output, houtput, (h.isSound_iff houtput).2 fun _ => howned, hname⟩

/-- **An output `default` that is not recorded** any more is dropped for its name. -/
theorem exists_conflict_of_not_owned {other : Ownership} (h : Clean ⟨spec, owned⟩ lookup)
    (hmem : defaultOutput ∈ spec.outputNames) (howned : ¬ other.ownsOutput defaultOutput) :
    ∃ status ∈ (Migrated.reviewed ⟨spec, other⟩ lookup).status.outputs,
      status.state = .dropped ∧ status.hasReason .reservedNameConflict := by
  obtain ⟨output, houtput, hname⟩ := List.mem_map.1 hmem
  obtain ⟨position, hposition⟩ := List.getElem?_of_mem houtput
  obtain ⟨before, hstatus, -⟩ :=
    Migrated.exists_status_outputs_reviewed (h.failure?_of_owned other) hposition
  exact ⟨_, List.mem_of_getElem? hstatus, Output.status_of_default_of_not_owned hname howned⟩

end Migrated.Clean

/-- **An output `default` that is left** with a single tenant store is used iff a pipeline keeps
it in use, or the standard pipelines are started. If it is not used, a second run drops it for
its name. -/
theorem default_used_iff_keepsInUse {spec : Spec} {store : Store} {lookup : SecretLookup}
    {operator : Operator} {normalized : Normalized}
    (h : (spec.normalize (some store) lookup operator).value = .ok normalized)
    (hstore : store.kind = .elasticsearch)
    (hdefault : defaultOutput ∈ normalized.spec.outputNames) :
    (normalized.spec.usesDefault ↔ spec = {} ∨ ∃ position pipeline,
        spec.KeepsInUse store normalized.spec.outputNames position pipeline)
      ∧ ∃ again, (normalized.spec.normalize (some store) lookup operator).value = .ok again
        ∧ (defaultOutput ∈ again.spec.outputNames ↔ normalized.spec.usesDefault)
        ∧ (¬ normalized.spec.usesDefault → ∃ status ∈ again.status.outputs,
          status.state = .dropped ∧ status.hasReason .reservedNameConflict) := by
  have hplace := Store.isConfigured_of_elasticsearch hstore
  have hsingle := Store.isMultiTenant_of_elasticsearch hstore
  obtain ⟨owned, hfits, hmigrate⟩ := Spec.migrate_of_isConfigured spec operator hplace
  obtain ⟨hfailure, rfl⟩ := (Spec.normalize_eq_ok_iff_of_migrate hmigrate).1 h
  constructor
  · rw [usesDefault_reviewed_iff_keepsInUse (Spec.pipelines_rerouted_of_single hsingle)
      Spec.inputs_rerouted hfits hdefault]
    by_cases hleaves : spec.leavesToOperator
    · obtain rfl := Spec.leavesToOperator_iff.1 hleaves
      exact iff_of_true (Spec.keepsInUse_started_empty hdefault) (Or.inl rfl)
    · rw [Spec.started_of_not_leavesToOperator hleaves,
        or_iff_right fun hempty => hleaves (Spec.leavesToOperator_iff.2 hempty)]
  · have hclean := Migrated.clean_reviewed hfailure
    have hsame := rerouted_reviewed rfl hfits hfailure
    generalize (Migrated.reviewed _ lookup).spec = first at hdefault hclean hsame ⊢
    -- Something is left, so that nothing is started: the second migration changes nothing.
    obtain ⟨other, hother, hagain⟩ := Spec.migrate_of_isConfigured first operator hplace
    have hstarted : first.started = first := by
      refine Spec.started_of_not_leavesToOperator fun hleaves => ?_
      obtain rfl := Spec.leavesToOperator_iff.1 hleaves
      exact List.not_mem_nil hdefault
    rw [hstarted] at hother hagain
    rw [hsame] at hagain
    have howned : other.ownsOutput defaultOutput ↔ first.usesDefault :=
      hother.ownsDefault_iff.trans (and_iff_left hsingle)
    rw [← howned]
    exact ⟨_, (Spec.normalize_eq_ok_iff_of_migrate hagain).2 ⟨hclean.failure?_of_owned other, rfl⟩,
      hclean.default_mem_outputNames_reviewed_iff hdefault,
      hclean.exists_conflict_of_not_owned hdefault⟩

/-- A specification with one pipeline, of the given name, that sends application logs to
`default`. -/
def namedSpec (name : String) : Spec where
  pipelines := [{ name, inputRefs := ["application"], outputRefs := ["default"] }]

/-- A pipeline with a name keeps the output in use, which comes out of a second run. -/
theorem default_used_namedSpec : ∃ normalized again,
    ((namedSpec "logs").normalize (some (.elasticsearch "es")) (fun name => .ok (some { name }))
      {}).value = .ok normalized
    ∧ normalized.spec.usesDefault
    ∧ (normalized.spec.normalize (some (.elasticsearch "es")) (fun name => .ok (some { name }))
      {}).value = .ok again
    ∧ defaultOutput ∈ again.spec.outputNames := by
  have h : ((namedSpec "logs").normalize (some (.elasticsearch "es"))
    (fun name => .ok (some { name })) {}).value = .ok _ := rfl
  obtain ⟨hiff, again, hagain, hkept, -⟩ := default_used_iff_keepsInUse h rfl (by decide)
  have hnot : ∀ standard ∈ standardPipelines, standard.name ≠ "logs" := by decide
  have huses := hiff.2 (Or.inr ⟨0, _, rfl, by decide,
    ⟨by decide, fun standard hmem hname => absurd hname (hnot standard hmem)⟩, by decide, nofun⟩)
  exact ⟨_, again, h, huses, hagain, hkept.2 huses⟩

/-- Without a name the pipeline is dropped. The output that was made for it is left, until a
second run drops it as well. -/
theorem exists_default_unused : ∃ normalized again,
    ((namedSpec "").normalize (some (.elasticsearch "es")) (fun name => .ok (some { name }))
      {}).value = .ok normalized
    ∧ normalized.spec.outputNames = ["default"]
    ∧ normalized.spec.pipelines = []
    ∧ (normalized.spec.normalize (some (.elasticsearch "es")) (fun name => .ok (some { name }))
      {}).value = .ok again
    ∧ again.status.outputs.map (·.reasons) = [[.reservedNameConflict]]
    ∧ again.spec = {} :=
  ⟨_, _, rfl, rfl, rfl, rfl, rfl, rfl⟩

end LogForwarding
