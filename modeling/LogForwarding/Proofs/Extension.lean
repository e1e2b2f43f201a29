import LogForwarding.Proofs.Fixpoint

/-!
# Adding a default route

Once a run has accepted everything, a pipeline that sends one more input to `default` should be
accepted too, by a second run on what the first one returned. With a single tenant store it is:
the output `default` is there already, or is added. A multi tenant store adds the output of the
tenant whether or not it is there, and a review drops what comes second under a name. The new
pipeline is kept, since the first output has the same name, but not everything is accepted.

## What is proved

* `Migrated.Clean.withOutputs`, `Migrated.Clean.withPipeline`: what may be added to a clean
  specification.
* `Migrated.Clean.reviewed_withOutputs_of_held`: what a review drops of outputs whose names are
  held.
* `Spec.inPlace_of_isFullyAccepted`: what a run returns that accepts everything.
* `Spec.InPlace.rerouted_withPipeline_of_single`, `Spec.InPlace.rerouted_withPipeline_of_multi`:
  the output that a default route adds.
* `extension_isFullyAccepted_iff`: a default route that is added is accepted iff the store has a
  single tenant, or the output of the tenant is not there yet.
* `exists_extension_not_isFullyAccepted`: it is not always.
-/

namespace LogForwarding

open Reserved (defaultOutput tenantOutput)

/-- A specification with outputs added. -/
def Spec.withOutputs (spec : Spec) (outputs : List Output) : Spec :=
  { spec with outputs := spec.outputs ++ outputs }

/-- A specification with a pipeline added. -/
def Spec.withPipeline (spec : Spec) (pipeline : Pipeline) : Spec :=
  { spec with pipelines := spec.pipelines ++ [pipeline] }

/-- A pipeline that sends to one output instead. -/
def Pipeline.sentTo (pipeline : Pipeline) (ref : String) : Pipeline :=
  { pipeline with outputRefs := [ref] }

/-- Whether a pipeline sends one input of a specification to `default`, and nothing else is
known under its name. -/
structure Pipeline.IsDefaultRoute (pipeline : Pipeline) (spec : Spec) (input : String) :
    Prop where
  /-- It has a name. -/
  name_ne_empty : pipeline.name ≠ ""
  /-- The name is not reserved. -/
  name_not_reserved : ¬ Reserved.isPipelineName pipeline.name
  /-- No pipeline has the name. -/
  name_fresh : pipeline.name ∉ spec.pipelines.map (·.name)
  /-- It takes the logs of the input. -/
  inputRefs_eq : pipeline.inputRefs = [input]
  /-- The input is of a known kind. -/
  resolves : (Input.resolve? spec.inputs input).isSome
  /-- It sends them to `default`. -/
  outputRefs_eq : pipeline.outputRefs = [defaultOutput]

/-- Whether the store is in place in a specification, and nothing is wrong with it. -/
structure Spec.InPlace (spec : Spec) (store : Store) (operator : Operator)
    (lookup : SecretLookup) : Prop where
  /-- There is nothing to reroute. -/
  rerouted_eq : spec.rerouted store operator = spec
  /-- With the names that a migration records, it is clean. -/
  clean : ∃ owned : Ownership, owned.Fits spec store ∧ Migrated.Clean ⟨spec, owned⟩ lookup

variable {spec : Spec} {store : Store} {operator : Operator} {lookup : SecretLookup}
  {owned : Ownership} {pipeline : Pipeline} {input : String} {outputs : List Output}

@[simp] theorem Spec.withOutputs_nil : spec.withOutputs [] = spec := by
  rw [withOutputs, List.append_nil]

@[simp] theorem Spec.outputNames_withOutputs :
    (spec.withOutputs outputs).outputNames = spec.outputNames ++ outputs.map (·.name) :=
  List.map_append

@[simp] theorem Spec.outputNames_withPipeline :
    (spec.withPipeline pipeline).outputNames = spec.outputNames := rfl

/-! ### What may be added to a clean specification -/

namespace Migrated.Clean

/-- Sound outputs under names of their own may be added. -/
theorem withOutputs (h : Clean ⟨spec, owned⟩ lookup)
    (hsound : ∀ output ∈ outputs, output.isSound owned lookup)
    (hnodup : (spec.withOutputs outputs).outputNames.Nodup) :
    Clean ⟨spec.withOutputs outputs, owned⟩ lookup where
  sound := List.forall_mem_append.2 ⟨h.sound, hsound⟩
  nodup_outputs := hnodup
  wellFormed := h.wellFormed
  nodup_pipelines := h.nodup_pipelines
  outputRefs_ne_nil := h.outputRefs_ne_nil
  outputRefs_declared := by
    intro pipeline hmem ref href
    rw [Spec.outputNames_withOutputs]
    exact List.mem_append_left _ (h.outputRefs_declared pipeline hmem ref href)

/-- A well formed pipeline under a name of its own may be added, if it sends somewhere, and to
declared outputs only. -/
theorem withPipeline (h : Clean ⟨spec, owned⟩ lookup)
    (hwell : pipeline.isWellFormed spec.inputs owned)
    (hfresh : pipeline.name ∉ spec.pipelines.map (·.name)) (hrefs : pipeline.outputRefs ≠ [])
    (hdeclared : ∀ ref ∈ pipeline.outputRefs, ref ∈ spec.outputNames) :
    Clean ⟨spec.withPipeline pipeline, owned⟩ lookup where
  sound := h.sound
  nodup_outputs := h.nodup_outputs
  wellFormed := List.forall_mem_append.2 ⟨h.wellFormed, List.forall_mem_singleton.2 hwell⟩
  nodup_pipelines := by
    have hnames : (spec.withPipeline pipeline).pipelines.map (·.name) =
        spec.pipelines.map (·.name) ++ [pipeline.name] := List.map_append
    rw [hnames, ← List.concat_eq_append]
    exact h.nodup_pipelines.concat hfresh
  outputRefs_ne_nil :=
    List.forall_mem_append.2 ⟨h.outputRefs_ne_nil, List.forall_mem_singleton.2 hrefs⟩
  outputRefs_declared :=
    List.forall_mem_append.2 ⟨h.outputRefs_declared, List.forall_mem_singleton.2 hdeclared⟩

/-- **Outputs whose names are held** are all that a review drops when they are added. -/
theorem reviewed_withOutputs_of_held (h : Clean ⟨spec, owned⟩ lookup)
    (hsound : ∀ output ∈ outputs, output.isSound owned lookup)
    (hheld : ∀ output ∈ outputs, output.name ∈ spec.outputNames) :
    (Migrated.reviewed ⟨spec.withOutputs outputs, owned⟩ lookup).spec = spec := by
  have hall : ∀ output ∈ (spec.withOutputs outputs).outputs, output.isSound owned lookup :=
    List.forall_mem_append.2 ⟨h.sound, hsound⟩
  have hfailure : (Migrated.outputReviews ⟨spec.withOutputs outputs, owned⟩ lookup).failure? =
      none := failure?_outputReviews_eq_none_iff.2 fun output hmem =>
    Output.lookupFailure?_of_isSound (hall output hmem)
  have houtputs : (Migrated.reviewed ⟨spec.withOutputs outputs, owned⟩ lookup).spec.outputs =
      spec.outputs := by
    rw [outputs_reviewed hfailure, List.filter_eq_self.2 hall]
    exact firstHolders_append_of_held h.nodup_outputs (fun _ _ => List.not_mem_nil)
      fun output hmem => Or.inr (hheld output hmem)
  -- A review of pipelines depends on the outputs through their names only.
  have hpipelines : (Migrated.reviewed ⟨spec.withOutputs outputs, owned⟩ lookup).spec.pipelines =
      (Migrated.reviewed ⟨spec, owned⟩ lookup).spec.pipelines := by
    rw [pipelines_reviewed, pipelines_reviewed, h.outputNames_reviewed_eq, Spec.outputNames,
      houtputs]
    rfl
  rw [spec_reviewed, houtputs, hpipelines, h.pipelines_reviewed_eq]
  rfl

end Migrated.Clean

/-! ### A specification with the store in place -/

/-- More pipelines do not take the route of a standard pipeline away. -/
theorem Spec.HasRoute.withPipeline {standard : Reserved.StandardPipeline}
    (h : spec.HasRoute store standard) : (spec.withPipeline pipeline).HasRoute store standard := by
  obtain ⟨route, hmem, hroute⟩ := h
  exact ⟨route, List.mem_append_left _ hmem, hroute⟩

namespace Spec.InPlace

/-- If an output has the reserved name, `default` is used, and the store has a single tenant. -/
theorem usesDefault_of_mem (h : spec.InPlace store operator lookup)
    (hmem : defaultOutput ∈ spec.outputNames) : spec.usesDefault ∧ ¬ store.isMultiTenant := by
  obtain ⟨owned, hfits, hclean⟩ := h.clean
  exact hfits.ownsDefault_iff.1 (hclean.ownsDefault hmem)

/-- If `default` is used, the store has a single tenant, and there is an output `default`. -/
theorem mem_of_usesDefault (h : spec.InPlace store operator lookup) (huses : spec.usesDefault) :
    defaultOutput ∈ spec.outputNames ∧ ¬ store.isMultiTenant := by
  obtain ⟨owned, hfits, hclean⟩ := h.clean
  have hmem := hclean.default_mem_outputNames huses
  exact ⟨hmem, (h.usesDefault_of_mem hmem).2⟩

/-- With the names that are recorded once a pipeline is added, the specification is clean. -/
theorem clean_of_fits (h : spec.InPlace store operator lookup)
    (hfits : owned.Fits (spec.withPipeline pipeline) store) :
    Migrated.Clean ⟨spec, owned⟩ lookup := by
  obtain ⟨before, hbefore, hclean⟩ := h.clean
  refine hclean.of_fits_of_imp hbefore hfits (fun huses _ => ?_) fun _ hroute => hroute.withPipeline
  obtain ⟨route, hmem, href⟩ := usesDefault_iff.1 huses
  exact usesDefault_iff.2 ⟨route, List.mem_append_left _ hmem, href⟩

end Spec.InPlace

/-- **What a run returns that accepts everything** has the store in place. -/
theorem Spec.inPlace_of_isFullyAccepted {normalized : Normalized}
    (h : (spec.normalize (some store) lookup operator).value = .ok normalized)
    (haccepted : normalized.status.isFullyAccepted) (hplace : store.isConfigured) :
    normalized.spec.InPlace store operator lookup := by
  obtain ⟨owned, hfits, hmigrate⟩ := migrate_of_isConfigured spec operator hplace
  obtain ⟨hfailure, rfl⟩ := (normalize_eq_ok_iff_of_migrate hmigrate).1 h
  have hspec := (Migrated.isFullyAccepted_reviewed_iff hfailure).1 haccepted
  have hclean := Migrated.clean_of_isFullyAccepted hfailure haccepted
  have hrerouted := rerouted_reviewed rfl hfits hfailure
  rw [hspec] at hrerouted ⊢
  obtain ⟨other, hother, -⟩ :=
    migrate_of_isConfigured (spec.started.rerouted store operator) operator hplace
  rw [started_of_not_leavesToOperator not_leavesToOperator_rerouted_started] at hother
  exact ⟨hrerouted, other, hother, hclean.of_fits hfits hother⟩

/-! ### The output that is added -/

namespace Pipeline.IsDefaultRoute

theorem sentTo_default (h : pipeline.IsDefaultRoute spec input) :
    pipeline.sentTo defaultOutput = pipeline := by
  rw [sentTo, ← h.outputRefs_eq]

theorem usesDefault (h : pipeline.IsDefaultRoute spec input) :
    (spec.withPipeline pipeline).usesDefault := by
  refine Spec.usesDefault_iff.2 ⟨pipeline, List.mem_append_right _ List.mem_cons_self, ?_⟩
  rw [h.outputRefs_eq]
  exact List.mem_cons_self

end Pipeline.IsDefaultRoute

/-- With a single tenant store, the output `default` is added unless it is there. -/
theorem Spec.InPlace.rerouted_withPipeline_of_single (h : spec.InPlace store operator lookup)
    (hpipeline : pipeline.IsDefaultRoute spec input) (hsingle : ¬ store.isMultiTenant) :
    (spec.withPipeline pipeline).rerouted store operator =
      (spec.withOutputs (if spec.usesDefault then [] else
        [spec.newDefaultOutput store operator])).withPipeline (pipeline.sentTo defaultOutput) := by
  have hplaced : (spec.withPipeline pipeline).withDefaultOutput store operator =
      (spec.withDefaultOutput store operator).withPipeline pipeline := rfl
  rw [rerouted_of_usesDefault hsingle hpipeline.usesDefault, hplaced, hpipeline.sentTo_default]
  split_ifs with hbefore
  · rw [← rerouted_of_usesDefault hsingle hbefore, h.rerouted_eq, withOutputs_nil]
  · have hnone : ¬ spec.outputs.any (·.name == defaultOutput) := by
      intro hany
      obtain ⟨output, hmem, hname⟩ := List.any_eq_true.1 hany
      exact hbefore (h.usesDefault_of_mem (eq_of_beq hname ▸ List.mem_map_of_mem hmem)).1
    rw [withDefaultOutput]
    simp only [hnone]
    rfl

/-- Of pipelines that do not send to `default`, and one that sends one input there, that input
is all that is needed. -/
theorem Tenant.neededInputs_append (h : ¬ spec.usesDefault)
    (hpipeline : pipeline.IsDefaultRoute spec input) :
    neededInputs (spec.pipelines ++ [pipeline]) = [input] := by
  have hnone : spec.pipelines.filter isSplit = [] := by
    refine List.filter_eq_nil_iff.2 fun route hmem hsplit => h ?_
    exact Spec.usesDefault_iff.2 ⟨route, hmem, (isSplit_iff.1 hsplit).1⟩
  have hsplit : isSplit pipeline :=
    isSplit_iff.2 (by simp [hpipeline.outputRefs_eq, hpipeline.inputRefs_eq])
  rw [neededInputs, List.filter_append, hnone, List.filter_cons_of_pos hsplit, List.filter_nil,
    List.nil_append, List.flatMap_singleton, hpipeline.inputRefs_eq]
  rfl

/-- The output of its tenant is all that is made then. -/
theorem Tenant.made_withPipeline {operatorNamespace : String} {kind : SourceKind}
    {output : Output} (h : ¬ spec.usesDefault) (hpipeline : pipeline.IsDefaultRoute spec input)
    (hkind : Input.resolve? spec.inputs input = some kind)
    (houtput : output? store operatorNamespace input kind = some output) :
    made (spec.withPipeline pipeline) store operatorNamespace = [output] := by
  have hneeded : neededInputs (spec.withPipeline pipeline).pipelines = [input] :=
    neededInputs_append h hpipeline
  have hvalue : (Tenant.output (spec.withPipeline pipeline) store operatorNamespace input).value =
      some output := by
    rw [value_output]
    exact Option.bind_eq_some_iff.2 ⟨kind, hkind, houtput⟩
  rw [made, outputs, hneeded, List.map_singleton, List.filterMap_cons_some hvalue]
  exact List.mergeSort_singleton output

/-- With a multi tenant store, the output of the tenant is added whether or not it is there. -/
theorem Spec.InPlace.rerouted_withPipeline_of_multi {kind : SourceKind} {output : Output}
    (h : spec.InPlace store operator lookup) (hpipeline : pipeline.IsDefaultRoute spec input)
    (hmulti : store.isMultiTenant) (hkind : Input.resolve? spec.inputs input = some kind)
    (houtput : Tenant.output? store operator.operatorNamespace input kind = some output) :
    (spec.withPipeline pipeline).rerouted store operator =
      (spec.withOutputs [output]).withPipeline (pipeline.sentTo (tenantOutput input)) := by
  have hunused : ¬ spec.usesDefault := fun huses => (h.mem_of_usesDefault huses).2 hmulti
  have hfanned : Tenant.fannedOut spec store operator.operatorNamespace = spec :=
    Tenant.fannedOut_eq_self hunused
  have hparts : spec.pipelines.flatMap Tenant.parts = spec.pipelines :=
    congrArg Spec.pipelines hfanned
  rw [rerouted_of_isMultiTenant hmulti, Tenant.fannedOut,
    Tenant.made_withPipeline hunused hpipeline hkind houtput]
  unfold Spec.withPipeline withOutputs
  rw [List.flatMap_append, hparts, List.flatMap_singleton,
    Tenant.parts_of_singleton hpipeline.inputRefs_eq hpipeline.outputRefs_eq]
  rfl

/-! ### The second run -/

namespace Pipeline.IsDefaultRoute

theorem withOutputs (h : pipeline.IsDefaultRoute spec input) :
    pipeline.IsDefaultRoute (spec.withOutputs outputs) input :=
  { h with }

/-- Nothing is wrong with a default route, whatever it sends to instead. -/
theorem isWellFormed_sentTo (h : pipeline.IsDefaultRoute spec input) (ref : String) :
    (pipeline.sentTo ref).isWellFormed spec.inputs owned := by
  refine Pipeline.isWellFormed_iff.2 ⟨h.name_ne_empty,
    fun hreserved => absurd hreserved h.name_not_reserved, ?_, ?_⟩
  · simp [sentTo, h.inputRefs_eq]
  · simp [sentTo, h.inputRefs_eq, h.resolves]

/-- A clean specification is clean with a default route that sends to a declared output. -/
theorem clean {ref : String} (h : pipeline.IsDefaultRoute spec input)
    (hclean : Migrated.Clean ⟨spec, owned⟩ lookup) (href : ref ∈ spec.outputNames) :
    Migrated.Clean ⟨spec.withPipeline (pipeline.sentTo ref), owned⟩ lookup :=
  hclean.withPipeline (h.isWellFormed_sentTo ref) h.name_fresh (List.cons_ne_nil _ _)
    (List.forall_mem_singleton.2 href)

end Pipeline.IsDefaultRoute

namespace Spec.InPlace

section Run

variable {made : List Output} {ref : String}

/-- A migration of the extended specification, and the names that it records. -/
theorem migrate_withPipeline (h : spec.InPlace store operator lookup) (hplace : store.isConfigured)
    (hrerouted : (spec.withPipeline pipeline).rerouted store operator =
      (spec.withOutputs made).withPipeline (pipeline.sentTo ref)) :
    ∃ owned : Ownership, owned.Fits (spec.withPipeline pipeline) store
      ∧ Migrated.Clean ⟨spec, owned⟩ lookup
      ∧ ((spec.withPipeline pipeline).migrate (some store) operator).value =
        .ok ⟨(spec.withOutputs made).withPipeline (pipeline.sentTo ref), owned⟩ := by
  obtain ⟨owned, hfits, hmigrate⟩ :=
    migrate_of_isConfigured (spec.withPipeline pipeline) operator hplace
  rw [started_of_mem (List.mem_append_right _ List.mem_cons_self)] at hfits hmigrate
  rw [hrerouted] at hmigrate
  exact ⟨owned, hfits, h.clean_of_fits hfits, hmigrate⟩

variable (h : spec.InPlace store operator lookup) (hpipeline : pipeline.IsDefaultRoute spec input)
  (hplace : store.isConfigured)
  (hrerouted : (spec.withPipeline pipeline).rerouted store operator =
    (spec.withOutputs made).withPipeline (pipeline.sentTo ref))
  (hsound : ∀ owned : Ownership, owned.Fits (spec.withPipeline pipeline) store →
    ∀ output ∈ made, output.isSound owned lookup)

include h hpipeline hplace hrerouted hsound

/-- Where outputs are added under names of their own, a run accepts everything. -/
theorem normalize_of_nodup (hnodup : (spec.withOutputs made).outputNames.Nodup)
    (href : ref ∈ (spec.withOutputs made).outputNames) :
    ∃ again, ((spec.withPipeline pipeline).normalize (some store) lookup operator).value = .ok again
      ∧ again.spec = (spec.withOutputs made).withPipeline (pipeline.sentTo ref)
      ∧ again.status.isFullyAccepted := by
  obtain ⟨owned, hfits, hclean, hmigrate⟩ := h.migrate_withPipeline hplace hrerouted
  have hagain := hpipeline.withOutputs.clean (hclean.withOutputs (hsound owned hfits) hnodup) href
  exact ⟨_, (normalize_eq_ok_iff_of_migrate hmigrate).2 ⟨hagain.failure?, rfl⟩, hagain.reviewed_eq,
    (Migrated.isFullyAccepted_reviewed_iff hagain.failure?).2 hagain.reviewed_eq⟩

/-- Where outputs are added under names that are held, a run drops them, and nothing else. -/
theorem normalize_of_held (hmade : made ≠ [])
    (hheld : ∀ output ∈ made, output.name ∈ spec.outputNames) (href : ref ∈ spec.outputNames) :
    ∃ again, ((spec.withPipeline pipeline).normalize (some store) lookup operator).value = .ok again
      ∧ again.spec = spec.withPipeline (pipeline.sentTo ref)
      ∧ ¬ again.status.isFullyAccepted := by
  obtain ⟨owned, hfits, hclean, hmigrate⟩ := h.migrate_withPipeline hplace hrerouted
  have hreviewed := (hpipeline.clean hclean href).reviewed_withOutputs_of_held
    (hsound owned hfits) hheld
  have hfailure : (Migrated.outputReviews ⟨(spec.withOutputs made).withPipeline
      (pipeline.sentTo ref), owned⟩ lookup).failure? = none :=
    Migrated.failure?_outputReviews_eq_none_iff.2 (List.forall_mem_append.2
      ⟨fun output hmem => Output.lookupFailure?_of_isSound (hclean.sound output hmem),
        fun output hmem => Output.lookupFailure?_of_isSound (hsound owned hfits output hmem)⟩)
  refine ⟨_, (normalize_eq_ok_iff_of_migrate hmigrate).2 ⟨hfailure, rfl⟩, hreviewed, ?_⟩
  intro haccepted
  have hsame := ((Migrated.isFullyAccepted_reviewed_iff hfailure).1 haccepted).symm.trans hreviewed
  exact hmade (List.append_right_eq_self.1 (congrArg Spec.outputs hsame))

end Run

theorem nodup_withOutputs_singleton (h : spec.InPlace store operator lookup) {output : Output}
    (hfresh : output.name ∉ spec.outputNames) : (spec.withOutputs [output]).outputNames.Nodup := by
  obtain ⟨owned, -, hclean⟩ := h.clean
  rw [outputNames_withOutputs, List.map_singleton, ← List.concat_eq_append]
  exact hclean.nodup_outputs.concat hfresh

/-- With a single tenant store, a default route that is added is accepted. -/
theorem normalize_of_single (h : spec.InPlace store operator lookup)
    (hpipeline : pipeline.IsDefaultRoute spec input) (husable : store.Usable operator lookup)
    (hkind : store.kind = .elasticsearch) : ∃ made again,
      ((spec.withPipeline pipeline).normalize (some store) lookup operator).value = .ok again
      ∧ again.spec = (spec.withOutputs made).withPipeline (pipeline.sentTo defaultOutput)
      ∧ again.status.isFullyAccepted := by
  have hsingle := Store.isMultiTenant_of_elasticsearch hkind
  have hplace := Store.isConfigured_of_usable husable
  have hrerouted := h.rerouted_withPipeline_of_single hpipeline hsingle
  split_ifs at hrerouted with hbefore
  · obtain ⟨owned, -, hclean⟩ := h.clean
    refine ⟨[], h.normalize_of_nodup hpipeline hplace hrerouted
      (fun _ _ => List.forall_mem_nil _) ?_ ?_⟩
    · simpa using hclean.nodup_outputs
    · simpa using (h.mem_of_usesDefault hbefore).1
  · refine ⟨_, h.normalize_of_nodup hpipeline hplace hrerouted (fun owned hfits => ?_)
      (h.nodup_withOutputs_singleton fun hmem => hbefore (h.usesDefault_of_mem hmem).1) ?_⟩
    · rw [List.forall_mem_singleton, isSound_newDefaultOutput_iff hkind
        (hfits.ownsDefault_iff.2 ⟨hpipeline.usesDefault, hsingle⟩)]
      exact husable
    · rw [outputNames_withOutputs]
      exact List.mem_append_right _ List.mem_cons_self

/-- With a multi tenant store, it is accepted unless the output of the tenant is there. -/
theorem normalize_of_multi (h : spec.InPlace store operator lookup)
    (hpipeline : pipeline.IsDefaultRoute spec input) (husable : store.Usable operator lookup)
    (hkind : store.kind = .lokiStack) : ∃ made again,
      ((spec.withPipeline pipeline).normalize (some store) lookup operator).value = .ok again
      ∧ again.spec = (spec.withOutputs made).withPipeline (pipeline.sentTo (tenantOutput input))
      ∧ (again.status.isFullyAccepted ↔ tenantOutput input ∉ spec.outputNames) := by
  have hplace := Store.isConfigured_of_usable husable
  obtain ⟨kind, hresolve⟩ := Option.isSome_iff_exists.1 hpipeline.resolves
  obtain ⟨url, hurl⟩ := Tenant.exists_gatewayUrl?
    ((Store.usable_iff_of_lokiStack hkind).1 husable) operator.operatorNamespace kind.name
  have houtput := Tenant.output?_of_gatewayUrl? hurl input
  have hrerouted := h.rerouted_withPipeline_of_multi hpipeline (Store.isMultiTenant_iff.2 hkind)
    hresolve houtput
  have hsound : ∀ owned : Ownership, owned.Fits (spec.withPipeline pipeline) store →
      ∀ output ∈ [({ name := tenantOutput input, kind := .loki, url } : Output)],
        output.isSound owned lookup := fun owned _ =>
    List.forall_mem_singleton.2 (Tenant.isSound_of_output? houtput owned lookup)
  by_cases hheld : tenantOutput input ∈ spec.outputNames
  · obtain ⟨again, hagain, hspec, haccepted⟩ := h.normalize_of_held hpipeline hplace hrerouted
      hsound (List.cons_ne_nil _ _) (List.forall_mem_singleton.2 hheld) hheld
    refine ⟨[], again, hagain, ?_, iff_of_false haccepted (not_not_intro hheld)⟩
    rw [hspec, withOutputs_nil]
  · obtain ⟨again, hagain, hspec, haccepted⟩ := h.normalize_of_nodup hpipeline hplace hrerouted
      hsound (h.nodup_withOutputs_singleton hheld) (by simp)
    exact ⟨_, again, hagain, hspec, iff_of_true haccepted hheld⟩

end Spec.InPlace

/-- **A default route that is added** to what a run returned that accepts everything: a second
run succeeds, adds outputs at the end, and keeps all pipelines, with the new one in its place
for the store. It accepts everything too, unless the store has several tenants and the output of
the tenant is there already. -/
theorem extension_isFullyAccepted_iff {spec : Spec} {store : Store} {lookup : SecretLookup}
    {operator : Operator} {normalized : Normalized} {pipeline : Pipeline} {input : String}
    (h : (spec.normalize (some store) lookup operator).value = .ok normalized)
    (haccepted : normalized.status.isFullyAccepted) (husable : store.Usable operator lookup)
    (hpipeline : pipeline.IsDefaultRoute normalized.spec input) : ∃ made again,
      ((normalized.spec.withPipeline pipeline).normalize (some store) lookup operator).value =
        .ok again
      ∧ again.spec = (normalized.spec.withOutputs made).withPipeline
        (pipeline.sentTo (if store.isMultiTenant then tenantOutput input else defaultOutput))
      ∧ (again.status.isFullyAccepted ↔
        (store.isMultiTenant → tenantOutput input ∉ normalized.spec.outputNames)) := by
  have hplace := Store.isConfigured_of_usable husable
  have hinPlace := Spec.inPlace_of_isFullyAccepted h haccepted hplace
  rcases Store.kind_of_isConfigured hplace with hkind | hkind
  · have hsingle := Store.isMultiTenant_of_elasticsearch hkind
    obtain ⟨made, again, hagain, hspec, haccepted⟩ :=
      hinPlace.normalize_of_single hpipeline husable hkind
    rw [if_neg hsingle]
    exact ⟨made, again, hagain, hspec,
      iff_of_true haccepted fun hmulti => absurd hmulti hsingle⟩
  · have hmulti := Store.isMultiTenant_iff.2 hkind
    rw [if_pos hmulti, forall_prop_of_true hmulti]
    exact hinPlace.normalize_of_multi hpipeline husable hkind

/-- A specification that sends the logs of applications to the store. -/
def appsSpec : Spec where
  pipelines := [{ name := "apps", inputRefs := ["application"], outputRefs := ["default"] }]

/-- The same with a multi tenant store in place. -/
def appsSpecInPlace : Spec where
  outputs :=
    [{ name := "default-loki-apps", kind := .loki
       url := "https://loki-gateway-http.openshift-logging.svc:8080/api/logs/v1/application" }]
  pipelines :=
    [{ name := "apps", inputRefs := ["application"], outputRefs := ["default-loki-apps"] }]

/-- A pipeline that sends one more input to the store. -/
def moreLogs (input : String) : Pipeline :=
  { name := "more", inputRefs := [input], outputRefs := ["default"] }

theorem normalize_appsSpec :
    (appsSpec.normalize (some (.lokiStack "loki")) (fun _ => .ok none) {}).value =
      .ok ⟨appsSpecInPlace, appsSpecInPlace.acceptedStatus⟩ := by
  decide +kernel

/-- The logs of another kind may be added. -/
theorem extension_isFullyAccepted_infrastructure : ∃ again,
    ((appsSpecInPlace.withPipeline (moreLogs "infrastructure")).normalize
      (some (.lokiStack "loki")) (fun _ => .ok none) {}).value = .ok again
    ∧ again.status.isFullyAccepted := by
  have hpipeline : (moreLogs "infrastructure").IsDefaultRoute appsSpecInPlace "infrastructure" :=
    ⟨by decide, by decide, by decide, rfl, by decide, rfl⟩
  obtain ⟨-, again, hagain, -, haccepted⟩ := extension_isFullyAccepted_iff normalize_appsSpec
    (by decide) (by decide : (Store.lokiStack "loki").name ≠ "") hpipeline
  exact ⟨again, hagain, haccepted.2 fun _ => by decide⟩

/-- More logs of applications may not: the output of their tenant is made once more, and
dropped. -/
theorem exists_extension_not_isFullyAccepted :
    (Store.lokiStack "loki").Usable {} (fun _ => .ok none)
    ∧ (moreLogs "application").IsDefaultRoute appsSpecInPlace "application"
    ∧ (appsSpec.normalize (some (.lokiStack "loki")) (fun _ => .ok none) {}).value =
      .ok ⟨appsSpecInPlace, appsSpecInPlace.acceptedStatus⟩
    ∧ appsSpecInPlace.acceptedStatus.isFullyAccepted
    ∧ ∃ again, ((appsSpecInPlace.withPipeline (moreLogs "application")).normalize
      (some (.lokiStack "loki")) (fun _ => .ok none) {}).value = .ok again
      ∧ ¬ again.status.isFullyAccepted := by
  refine ⟨(by decide : (Store.lokiStack "loki").name ≠ ""),
    ⟨by decide, by decide, by decide, rfl, by decide, rfl⟩, normalize_appsSpec, by decide, ?_⟩
  exact ⟨{ spec := appsSpecInPlace.withPipeline
            ((moreLogs "application").sentTo "default-loki-apps")
           status :=
            { logSources := { application := true }
              outputs :=
                [{ name := "default-loki-apps" },
                  { name := "output[1]", state := .dropped
                    conditions := [{ aspect := .name, reason := .nonUniqueName }] }]
              pipelines := [{ name := "apps" }, { name := "more" }] } },
    by decide +kernel, by decide⟩

end LogForwarding
