import LogForwarding.Proofs.Route.Store

/-!
# Normalizing twice

A normalized specification should come out of a second run, with the same store,
operator and secrets, as it went in. It does, unless what the first run dropped had
decided something that the second run decides anew. `Spec.Settled` lists the three
decisions: whether to start the standard pipelines, whether `default` stands for an
output, and whether a standard pipeline's name is in use rightfully.

## What is proved

* `renormalize_eq_iff_settled`: a second run returns the same specification iff the
  first result is settled.
* `exists_renormalize_ne`: not every first result is.
-/

namespace LogForwarding

open Reserved (defaultOutput StandardPipeline standardPipelines)

/-- Whether a specification gives a run nothing to decide anew. -/
structure Spec.Settled (spec : Spec) (store : Option Store) (operator : Operator)
    (lookup : SecretLookup) : Prop where
  /-- If nothing is left, so that the standard pipelines start, nothing would arrive at
  the store, and finding that out does not fail. -/
  idle : spec = {} → ∀ place ∈ store, place.isConfigured →
    ¬ place.Usable operator lookup ∧ ¬ place.LookupFails operator lookup
  /-- An output `default` is in use. -/
  used : defaultOutput ∈ spec.outputNames → spec.usesDefault
  /-- A pipeline with the name of a standard pipeline has its route. -/
  canonical : ∀ pipeline ∈ spec.pipelines, ∀ standard ∈ standardPipelines,
    pipeline.name = standard.name → ∃ place ∈ store, place.isConfigured
      ∧ standard.isRouteOf place pipeline

variable {spec : Spec} {store : Store} {operator : Operator} {lookup : SecretLookup}
  {owned : Ownership}

/-! ### Reserved names in clean specifications -/

theorem Reserved.isPipelineName_iff {name : String} :
    isPipelineName name ↔ ∃ standard ∈ standardPipelines, standard.name = name := by
  simp [isPipelineName]

theorem Reserved.eq_of_name_eq {standard other : StandardPipeline}
    (h : standard ∈ standardPipelines) (hother : other ∈ standardPipelines)
    (hname : standard.name = other.name) : standard = other :=
  List.inj_on_of_nodup_map (f := StandardPipeline.name) (by decide) h hother hname

namespace Migrated.Clean

theorem ownsDefault (h : Clean ⟨spec, owned⟩ lookup) (hmem : defaultOutput ∈ spec.outputNames) :
    owned.ownsOutput defaultOutput := by
  obtain ⟨output, houtput, hname⟩ := List.mem_map.1 hmem
  exact hname ▸ (Output.isSound_iff.1 (h.sound output houtput)).2.1 hname

theorem default_mem_outputNames (h : Clean ⟨spec, owned⟩ lookup) (huses : spec.usesDefault) :
    defaultOutput ∈ spec.outputNames := by
  obtain ⟨pipeline, hmem, href⟩ := Spec.usesDefault_iff.1 huses
  exact h.outputRefs_declared pipeline hmem _ href

theorem ownsPipeline (h : Clean ⟨spec, owned⟩ lookup) {pipeline : Pipeline}
    (hmem : pipeline ∈ spec.pipelines) (hname : Reserved.isPipelineName pipeline.name) :
    owned.ownsPipeline pipeline.name :=
  (Pipeline.isWellFormed_iff.1 (h.wellFormed pipeline hmem)).2.1 hname

/-- With distinct names, a pipeline that has the name of a standard pipeline whose route
is there has that route itself. -/
theorem isRouteOf_of_hasRoute (h : Clean ⟨spec, owned⟩ lookup) {pipeline : Pipeline}
    {standard : StandardPipeline} (hmem : pipeline ∈ spec.pipelines)
    (hname : pipeline.name = standard.name) (hroute : spec.HasRoute store standard) :
    standard.isRouteOf store pipeline := by
  obtain ⟨other, hother, hothername, hisRoute⟩ := hroute
  have heq : other = pipeline :=
    List.inj_on_of_nodup_map h.nodup_pipelines hother hmem (hothername.trans hname.symm)
  exact heq ▸ hisRoute

end Migrated.Clean

/-! ### Rerouting once more -/

/-- What a review leaves of a rerouted specification is not changed by rerouting. -/
theorem rerouted_reviewed {migrated : Migrated}
    (hspec : migrated.spec = spec.rerouted store operator)
    (hfits : migrated.owned.Fits spec store)
    (hfailure : (migrated.outputReviews lookup).failure? = none) :
    (migrated.reviewed lookup).spec.rerouted store operator = (migrated.reviewed lookup).spec := by
  have hclean := Migrated.clean_reviewed hfailure
  by_cases huses : (migrated.reviewed lookup).spec.usesDefault
  swap
  · exact Spec.rerouted_eq_self huses
  have hmem := hclean.default_mem_outputNames huses
  obtain ⟨hbefore, hsingle⟩ := hfits.ownsDefault_iff.1 (hclean.ownsDefault hmem)
  have hmade : (migrated.reviewed lookup).spec.newDefaultOutput store operator =
      spec.newDefaultOutput store operator := by
    unfold Spec.newDefaultOutput Spec.defaultTuning
    rw [Migrated.outputDefaults_reviewed, hspec, Spec.outputDefaults_rerouted]
  rw [Spec.rerouted_of_usesDefault hsingle huses]
  refine Spec.withDefaultOutput_eq_self hmem fun output houtput hname => ?_
  have houtput' := (Migrated.mem_outputs_of_mem_reviewed hfailure houtput).1
  rw [hspec, Spec.rerouted_of_usesDefault hsingle hbefore] at houtput'
  rw [hmade]
  exact (Spec.mem_outputs_withDefaultOutput houtput' hname).2

/-! ### Starting from nothing -/

/-- With a single tenant store, a specification that says nothing gets one output. -/
theorem outputs_started_empty_of_elasticsearch (operator : Operator)
    (h : store.kind = .elasticsearch) : (({} : Spec).started.rerouted store operator).outputs =
      [({} : Spec).started.newDefaultOutput store operator] := by
  rw [Spec.rerouted_of_usesDefault (Store.isMultiTenant_of_elasticsearch h) (by decide)]
  rfl

/-- With a multi tenant store, it gets those of its tenants. -/
theorem outputs_started_empty_of_lokiStack (operator : Operator) (h : store.kind = .lokiStack) :
    (({} : Spec).started.rerouted store operator).outputs =
      Tenant.made ({} : Spec).started store operator.operatorNamespace := by
  rw [Spec.rerouted_of_isMultiTenant (Store.isMultiTenant_iff.2 h)]
  rfl

/-- Some output that a specification gets that says nothing is sound iff the store is
usable. -/
theorem exists_isSound_started_empty_iff (operator : Operator) (lookup : SecretLookup)
    (hplace : store.isConfigured) (hfits : owned.Fits ({} : Spec).started store) :
    (∃ output ∈ (({} : Spec).started.rerouted store operator).outputs,
        output.isSound owned lookup) ↔ store.Usable operator lookup := by
  rcases Store.kind_of_isConfigured hplace with hkind | hkind
  · have hdefault := hfits.ownsDefault_iff.2
      ⟨by decide, Store.isMultiTenant_of_elasticsearch hkind⟩
    rw [outputs_started_empty_of_elasticsearch operator hkind]
    simp only [List.mem_singleton, exists_eq_left]
    exact Spec.isSound_newDefaultOutput_iff hkind hdefault
  · rw [outputs_started_empty_of_lokiStack operator hkind, Store.usable_iff_of_lokiStack hkind]
    constructor
    · rintro ⟨output, hmade, -⟩ hname
      rw [Tenant.made_eq_nil hname] at hmade
      exact List.not_mem_nil hmade
    · intro hname
      have hneeded : SourceKind.application.name ∈
          Tenant.neededInputs ({} : Spec).started.pipelines :=
        Tenant.mem_neededInputs.2
          ⟨_, List.mem_cons_self, List.mem_cons_self, List.mem_cons_self⟩
      obtain ⟨output, hmade, -⟩ :=
        Tenant.exists_mem_made operator.operatorNamespace hname hneeded rfl
      exact ⟨output, hmade, Tenant.isSound_of_mem_made hmade owned lookup⟩

/-- Looking up their secrets fails iff looking up the store's does. -/
theorem forall_lookupFailure?_started_empty_iff (operator : Operator) (lookup : SecretLookup)
    (hplace : store.isConfigured) :
    (∀ output ∈ (({} : Spec).started.rerouted store operator).outputs,
        output.lookupFailure? lookup = none) ↔ ¬ store.LookupFails operator lookup := by
  rcases Store.kind_of_isConfigured hplace with hkind | hkind
  · rw [outputs_started_empty_of_elasticsearch operator hkind, List.forall_mem_singleton]
    exact Spec.lookupFailure?_newDefaultOutput_eq_none_iff hkind
  · rw [outputs_started_empty_of_lokiStack operator hkind]
    refine iff_of_true (fun output hmade => ?_) fun hfails => ?_
    · exact Output.lookupFailure?_of_isSound (Tenant.isSound_of_mem_made hmade {} lookup)
    · exact absurd (hfails.1.symm.trans hkind) nofun

/-- A second run on a specification that says nothing leaves it so iff nothing arrives at
the store, and finding that out does not fail. -/
theorem renormalize_empty_iff (hplace : store.isConfigured) :
    (∃ again, (({} : Spec).normalize (some store) lookup operator).value = .ok again
        ∧ again.spec = {}) ↔
      ¬ store.Usable operator lookup ∧ ¬ store.LookupFails operator lookup := by
  obtain ⟨owned, hfits, hmigrate⟩ := Spec.migrate_of_isConfigured {} operator hplace
  have hsound := exists_isSound_started_empty_iff operator lookup hplace hfits
  have hlookup := forall_lookupFailure?_started_empty_iff operator lookup hplace
  simp only [Spec.normalize_eq_ok_iff_of_migrate hmigrate]
  constructor
  · rintro ⟨again, ⟨hfailure, rfl⟩, hspec⟩
    have hnil : (Migrated.reviewed ⟨({} : Spec).started.rerouted store operator, owned⟩
        lookup).spec.outputNames = [] := by
      rw [hspec]
      rfl
    exact ⟨fun husable =>
        (Migrated.outputNames_reviewed_eq_nil_iff hfailure).1 hnil (hsound.2 husable),
      hlookup.1 (Migrated.failure?_outputReviews_eq_none_iff.1 hfailure)⟩
  · rintro ⟨hunusable, hreachable⟩
    have hfailure : (Migrated.outputReviews ⟨({} : Spec).started.rerouted store operator, owned⟩
        lookup).failure? = none :=
      Migrated.failure?_outputReviews_eq_none_iff.2 (hlookup.2 hreachable)
    have hnil := (Migrated.outputNames_reviewed_eq_nil_iff hfailure).2
      fun hexists => hunusable (hsound.1 hexists)
    refine ⟨_, ⟨hfailure, rfl⟩, ?_⟩
    rw [Migrated.reviewed_of_outputNames_eq_nil hfailure hnil]
    simp only [Spec.inputs_rerouted, Spec.outputDefaults_rerouted,
      Spec.disableDefaultForwarding_rerouted]
    rfl

/-! ### Without a store -/

/-- Where no reserved name is recorded, none is in use. -/
theorem Migrated.Clean.settled_of_unowned (h : Clean ⟨spec, {}⟩ lookup) {store : Option Store}
    (hstore : store.filter (·.isConfigured) = none) : spec.Settled store operator lookup where
  idle := by
    intro _ place hplace hconfigured
    obtain rfl : store = some place := hplace
    rw [Option.filter_some_pos hconfigured] at hstore
    exact absurd hstore nofun
  used := fun hmem => absurd (h.ownsDefault hmem) nofun
  canonical := by
    intro pipeline hmem standard hstandard hname
    have hreserved := Reserved.isPipelineName_iff.2 ⟨standard, hstandard, hname.symm⟩
    exact absurd (h.ownsPipeline hmem hreserved) nofun

/-- Without a store, a clean specification that records nothing is returned as it is. -/
theorem Migrated.Clean.normalize_of_unowned (h : Clean ⟨spec, {}⟩ lookup) {store : Option Store}
    (hstore : store.filter (·.isConfigured) = none) :
    ∃ again, (spec.normalize store lookup operator).value = .ok again ∧ again.spec = spec := by
  have huses : ¬ spec.usesDefault := fun huses =>
    absurd (h.ownsDefault (h.default_mem_outputNames huses)) nofun
  have hmigrate : (spec.migrate store operator).value = .ok { spec } :=
    (Spec.migrate_of_unconfigured hstore).2 ⟨huses, rfl⟩
  exact ⟨_, (Spec.normalize_eq_ok_iff_of_migrate hmigrate).2 ⟨h.failure?, rfl⟩, h.reviewed_eq⟩

/-! ### With a store -/

/-- A clean specification that says something, and that rerouting does not change, is
returned as it is iff the reserved names in use are recorded anew. -/
theorem Migrated.Clean.normalize_iff (h : Clean ⟨spec, owned⟩ lookup) (hplace : store.isConfigured)
    (hsingle : owned.ownsOutput defaultOutput → ¬ store.isMultiTenant) (hnonempty : spec ≠ {})
    (hrerouted : spec.rerouted store operator = spec) :
    (∃ again, (spec.normalize (some store) lookup operator).value = .ok again
        ∧ again.spec = spec) ↔
      spec.Settled (some store) operator lookup := by
  obtain ⟨other, hfits, hmigrate⟩ := Spec.migrate_of_isConfigured spec operator hplace
  rw [Spec.started_of_not_leavesToOperator fun hleaves =>
    hnonempty (Spec.leavesToOperator_iff.1 hleaves)] at hfits hmigrate
  rw [hrerouted] at hmigrate
  simp only [Spec.normalize_eq_ok_iff_of_migrate hmigrate]
  constructor
  · rintro ⟨again, ⟨hfailure, rfl⟩, hspec⟩
    have hclean := Migrated.clean_reviewed hfailure
    rw [hspec] at hclean
    refine ⟨fun hempty => absurd hempty hnonempty, fun hmem => ?_, ?_⟩
    · exact (hfits.ownsDefault_iff.1 (hclean.ownsDefault hmem)).1
    · intro pipeline hmem standard hstandard hname
      have hreserved := Reserved.isPipelineName_iff.2 ⟨standard, hstandard, hname.symm⟩
      obtain ⟨held, hheld, heq, hroute⟩ :=
        (hfits.ownsPipeline_iff pipeline.name).1 (hclean.ownsPipeline hmem hreserved)
      obtain rfl := Reserved.eq_of_name_eq hheld hstandard (heq.trans hname)
      exact ⟨store, rfl, hplace, hclean.isRouteOf_of_hasRoute hmem hname hroute⟩
  · intro hsettled
    have hclean : Clean ⟨spec, other⟩ lookup := by
      refine h.of_owned (fun hmem => ?_) fun pipeline hmem hreserved => ?_
      · exact hfits.ownsDefault_iff.2 ⟨hsettled.used hmem, hsingle (h.ownsDefault hmem)⟩
      · obtain ⟨standard, hstandard, hname⟩ := Reserved.isPipelineName_iff.1 hreserved
        obtain ⟨place, hsome, -, hroute⟩ :=
          hsettled.canonical pipeline hmem standard hstandard hname.symm
        obtain rfl : store = place := Option.mem_some_iff.1 hsome
        exact (hfits.ownsPipeline_iff pipeline.name).2
          ⟨standard, hstandard, hname, pipeline, hmem, hname.symm, hroute⟩
    exact ⟨_, ⟨hclean.failure?, rfl⟩, hclean.reviewed_eq⟩

/-- **A second run** returns the same specification iff the first result is settled. -/
theorem renormalize_eq_iff_settled {spec : Spec} {store : Option Store} {lookup : SecretLookup}
    {operator : Operator} {normalized : Normalized}
    (h : (spec.normalize store lookup operator).value = .ok normalized) :
    (∃ again, (normalized.spec.normalize store lookup operator).value = .ok again
        ∧ again.spec = normalized.spec) ↔
      normalized.spec.Settled store operator lookup := by
  obtain ⟨migrated, hmigrate, hfailure, rfl⟩ := Spec.normalize_eq_ok_iff.1 h
  have hclean := Migrated.clean_reviewed hfailure
  cases hstore : store.filter (·.isConfigured) with
  | none =>
    -- Nothing is recorded without a store, so nothing that remains has a reserved name.
    obtain ⟨-, rfl⟩ := (Spec.migrate_of_unconfigured hstore).1 hmigrate
    exact iff_of_true (hclean.normalize_of_unowned hstore) (hclean.settled_of_unowned hstore)
  | some place =>
    obtain ⟨rfl, hplace⟩ := Option.filter_eq_some_iff.1 hstore
    obtain ⟨owned, hfits, hfirst⟩ := Spec.migrate_of_isConfigured spec operator hplace
    obtain rfl := Except.ok.inj (hfirst.symm.trans hmigrate)
    -- Only an empty result starts the standard pipelines once more.
    by_cases hempty : (Migrated.reviewed ⟨spec.started.rerouted place operator, owned⟩
        lookup).spec = {}
    · rw [hempty, renormalize_empty_iff hplace]
      constructor
      · intro hidle
        refine ⟨fun _ other hother _ => Option.mem_some_iff.1 hother ▸ hidle, nofun, nofun⟩
      · exact fun hsettled => hsettled.idle rfl place rfl hplace
    · exact hclean.normalize_iff hplace (fun howns => (hfits.ownsDefault_iff.1 howns).2) hempty
        (rerouted_reviewed rfl hfits hfailure)

/-- What comes of a specification that says nothing is settled: the standard pipelines
are adopted. -/
theorem renormalize_eq_of_empty : ∃ normalized again,
    (({} : Spec).normalize (some (.elasticsearch "es")) (fun name => .ok (some { name }))
      {}).value = .ok normalized
    ∧ normalized.spec.pipelines.map (·.name) = standardPipelines.map (·.name)
    ∧ (normalized.spec.normalize (some (.elasticsearch "es")) (fun name => .ok (some { name }))
      {}).value = .ok again
    ∧ again.spec = normalized.spec := by
  have h : (({} : Spec).normalize (some (.elasticsearch "es")) (fun name => .ok (some { name }))
    {}).value = .ok _ := rfl
  obtain ⟨again, hagain, heq⟩ := (renormalize_eq_iff_settled h).2
    ⟨fun hempty => absurd hempty (by decide), fun _ => by decide, by decide⟩
  exact ⟨_, again, h, by decide, hagain, heq⟩

/-- A specification whose only output is not usable. -/
def incompleteSpec : Spec := { outputs := [{ name := "audit-sink" }] }

/-- Nothing is left of the incomplete specification, so that a second run starts the
standard pipelines. -/
theorem exists_renormalize_ne : ∃ normalized again,
    (incompleteSpec.normalize (some (.elasticsearch "es")) (fun name => .ok (some { name }))
      {}).value = .ok normalized
    ∧ (normalized.spec.normalize (some (.elasticsearch "es")) (fun name => .ok (some { name }))
      {}).value = .ok again
    ∧ normalized.spec = {} ∧ again.spec ≠ {} :=
  ⟨_, _, rfl, rfl, by decide, by decide⟩

end LogForwarding
