import LogForwarding.Proofs.StandardPipelines

/-!
# Sessions

In a session every run is given what the run before it returned, with its own store,
operator and secrets. The standard pipelines should come up only where nothing was declared
in the first place. But a run sees only what is left of a specification: once the runs
before it have dropped every output, and with them every pipeline, nothing tells the rest
from a specification that says nothing.

## What is proved

* `hasStandardName_normalize_iff`: a run that is given no standard pipeline returns one iff
  it is given nothing, and its store is usable.
* `Session.exists_hasStandardName_iff`: the same for a session, by induction on its runs.
* `Session.settings_eq`: what is not an output or a pipeline is never lost.
* `session_starts_standard_iff`: when a session starts standard pipelines.
* `exists_session_starts_standard`: it can, though something was declared.
-/

namespace LogForwarding

open Reserved (defaultOutput StandardPipeline standardPipelines)

/-- Whether some pipeline has the name of a standard pipeline. -/
def Spec.HasStandardName (spec : Spec) : Prop :=
  ∃ pipeline ∈ spec.pipelines, Reserved.isPipelineName pipeline.name

/-- A successful run. -/
structure Pass where
  /-- The specification that it is given. -/
  received : Spec
  /-- Its store. -/
  store : Option Store
  /-- Its secrets. -/
  lookup : SecretLookup
  /-- Its operator. -/
  operator : Operator
  /-- What it returns. -/
  normalized : Normalized
  /-- The run succeeds with that. -/
  normalize_eq : (received.normalize store lookup operator).value = .ok normalized

/-- Successful runs one after the other, the first on a given specification and every other
on what the one before it returned. -/
inductive Session : Spec → List Pass → Prop where
  /-- No run. -/
  | done (spec : Spec) : Session spec []
  /-- A run, and a session on what it returned. -/
  | next (pass : Pass) {later : List Pass} :
      Session pass.normalized.spec later → Session pass.received (pass :: later)

variable {spec : Spec} {operator : Operator} {lookup : SecretLookup}

/-! ### One run -/

/-- The standard pipelines are started and kept where nothing is declared and the store is
usable. -/
theorem hasStandardName_of_usable {store : Store} {migrated : Migrated}
    (hspec : migrated.spec = ({} : Spec).started.rerouted store operator)
    (hfits : migrated.owned.Fits ({} : Spec).started store)
    (hfailure : (migrated.outputReviews lookup).failure? = none)
    (husable : store.Usable operator lookup) :
    (migrated.reviewed lookup).spec.HasStandardName := by
  let standard : StandardPipeline := ⟨"default-app-pipeline", .application⟩
  have hstandard : standard ∈ standardPipelines := List.mem_cons_self
  have hsource : standard.pipeline ∈ ({} : Spec).started.pipelines := List.mem_cons_self
  have hdefault : defaultOutput ∈ standard.pipeline.outputRefs := List.mem_cons_self
  obtain ⟨route, hroutes, hname, hinputs, -⟩ := StandardPipeline.exists_routesOf_eq
    (StandardPipeline.isRouteOf_iff.2 ⟨rfl, Or.inl rfl⟩ :
      standard.isRouteOf store standard.pipeline)
  have hroute : route ∈ store.routesOf standard.pipeline := hroutes ▸ List.mem_singleton_self route
  obtain ⟨ref, href⟩ := exists_standsForDefault hdefault hroute
  have howned : migrated.owned.ownsPipeline route.name := by
    rw [hname]
    exact (hfits.ownsPipeline_standard_iff hstandard).2 (Migrated.hasRoute_started rfl hstandard)
  have hwell : route.isWellFormed migrated.spec.inputs migrated.owned := by
    refine Pipeline.isWellFormed_iff.2 ⟨hname ▸ (by decide), fun _ => howned, ?_, ?_⟩
    · rw [hinputs]
      exact List.cons_ne_nil _ _
    · rw [hinputs, List.forall_mem_singleton]
      rfl
  have hmem := mem_outputNames_of_standsForDefault hspec hfits hfailure husable hsource hdefault
    hroute hwell href
  have hkept : route.name ∈ (migrated.reviewed lookup).spec.pipelines.map (·.name) := by
    refine Migrated.mem_pipelineNames_reviewed.2 ⟨route, ?_,
      Pipeline.isEligible_iff.2 ⟨hwell, ref, href.mem, hmem⟩, rfl⟩
    rw [hspec, Spec.pipelines_rerouted]
    exact List.mem_flatMap.2 ⟨_, hsource, hroute⟩
  obtain ⟨pipeline, hpipeline, hpipelinename⟩ := List.mem_map.1 hkept
  refine ⟨pipeline, hpipeline, ?_⟩
  rw [hpipelinename, hname]
  rfl

/-- Conversely, nothing is kept of the standard pipelines where the store is not usable. -/
theorem usable_of_hasStandardName {store : Store} {migrated : Migrated}
    (hspec : migrated.spec = ({} : Spec).started.rerouted store operator)
    (hfits : migrated.owned.Fits ({} : Spec).started store) (hplace : store.isConfigured)
    (hfailure : (migrated.outputReviews lookup).failure? = none)
    (h : (migrated.reviewed lookup).spec.HasStandardName) : store.Usable operator lookup := by
  by_contra hunusable
  have hsound := (exists_isSound_started_empty_iff operator lookup hplace hfits).not.2 hunusable
  rw [← hspec, ← Migrated.outputNames_reviewed_eq_nil_iff hfailure] at hsound
  obtain ⟨pipeline, hmem, -⟩ := h
  rw [Migrated.reviewed_of_outputNames_eq_nil hfailure hsound] at hmem
  exact List.not_mem_nil hmem

/-- A pipeline that remains under the name of a standard pipeline has it recorded. -/
theorem Migrated.exists_standard_of_hasStandardName {migrated : Migrated}
    (h : (migrated.reviewed lookup).spec.HasStandardName) :
    ∃ standard ∈ standardPipelines, migrated.owned.ownsPipeline standard.name := by
  obtain ⟨pipeline, hmem, hreserved⟩ := h
  obtain ⟨source, -, heligible, rfl⟩ := Migrated.exists_of_mem_pipelines_reviewed hmem
  obtain ⟨standard, hstandard, hname⟩ := Reserved.isPipelineName_iff.1 hreserved
  refine ⟨standard, hstandard, ?_⟩
  have hwell := (Pipeline.isEligible_iff.1 heligible).1
  rw [hname]
  exact (Pipeline.isWellFormed_iff.1 hwell).2.1 hreserved

/-- **One run** that is given no standard pipeline returns one iff it is given nothing, and
its store is usable. -/
theorem hasStandardName_normalize_iff {store : Option Store} {normalized : Normalized}
    (h : (spec.normalize store lookup operator).value = .ok normalized)
    (hnames : ¬ spec.HasStandardName) :
    normalized.spec.HasStandardName ↔
      spec = {} ∧ ∃ place ∈ store, place.Usable operator lookup := by
  obtain ⟨migrated, hmigrate, hfailure, rfl⟩ := Spec.normalize_eq_ok_iff.1 h
  constructor
  · intro hyields
    obtain ⟨standard, hstandard, howned⟩ := Migrated.exists_standard_of_hasStandardName hyields
    obtain ⟨-, rfl⟩ | ⟨place, rfl, hplace, hspec, hfits⟩ := Spec.migrate_cases hmigrate
    · exact absurd howned nofun
    · by_cases hleaves : spec.leavesToOperator
      · obtain rfl := Spec.leavesToOperator_iff.1 hleaves
        exact ⟨rfl, place, rfl, usable_of_hasStandardName hspec hfits hplace hfailure hyields⟩
      · rw [Spec.started_of_not_leavesToOperator hleaves] at hfits
        obtain ⟨pipeline, hmem, hname, -⟩ :=
          (hfits.ownsPipeline_standard_iff hstandard).1 howned
        exact absurd ⟨pipeline, hmem, Reserved.isPipelineName_iff.2
          ⟨standard, hstandard, hname.symm⟩⟩ hnames
  · rintro ⟨rfl, place, hplace, husable⟩
    obtain rfl : store = some place := hplace
    obtain ⟨hspec, hfits⟩ :=
      Spec.fits_of_migrate (Store.isConfigured_of_usable husable) hmigrate
    exact hasStandardName_of_usable hspec hfits hfailure husable

/-! ### All runs -/

/-- What a specification says apart from its outputs and pipelines. -/
def Spec.settings (spec : Spec) : Spec := { spec with outputs := [], pipelines := [] }

@[simp] theorem Spec.settings_rerouted {store : Store} :
    (spec.rerouted store operator).settings = spec.settings := by
  unfold Spec.settings
  rw [Spec.inputs_rerouted, Spec.outputDefaults_rerouted, Spec.disableDefaultForwarding_rerouted]

@[simp] theorem Spec.settings_started : spec.started.settings = spec.settings := by
  unfold Spec.started
  split_ifs <;> rfl

theorem Migrated.settings_reviewed {migrated : Migrated} :
    (migrated.reviewed lookup).spec.settings = migrated.spec.settings := rfl

/-- Nothing is declared, and nothing switched off, iff there is no output, no pipeline and no
setting. -/
theorem Spec.eq_empty_iff : spec = {} ↔
    spec.outputs = [] ∧ spec.pipelines = [] ∧ spec.settings = {} := by
  constructor
  · rintro rfl
    exact ⟨rfl, rfl, rfl⟩
  · rintro ⟨houtputs, hpipelines, hsettings⟩
    calc spec = { spec.settings with outputs := spec.outputs, pipelines := spec.pipelines } := rfl
      _ = {} := by rw [hsettings, houtputs, hpipelines]

theorem Spec.settings_eq_empty_iff : spec.settings = {} ↔
    spec.inputs = [] ∧ spec.outputDefaults = none ∧ spec.disableDefaultForwarding = false := by
  simp only [Spec.settings, Spec.mk.injEq, true_and]
  exact and_congr_right fun _ => and_comm

/-- **One run** keeps the settings. -/
theorem settings_normalize {store : Option Store} {normalized : Normalized}
    (h : (spec.normalize store lookup operator).value = .ok normalized) :
    normalized.spec.settings = spec.settings := by
  obtain ⟨migrated, hmigrate, -, rfl⟩ := Spec.normalize_eq_ok_iff.1 h
  rw [Migrated.settings_reviewed]
  obtain ⟨-, rfl⟩ | ⟨place, -, -, hspec, -⟩ := Spec.migrate_cases hmigrate
  · rfl
  · rw [hspec, Spec.settings_rerouted, Spec.settings_started]

namespace Session

variable {passes : List Pass}

/-- **All runs** of a session keep the settings. -/
theorem settings_eq (h : Session spec passes) :
    ∀ pass ∈ passes, pass.received.settings = spec.settings := by
  induction h with
  | done => exact List.forall_mem_nil _
  | next pass _ ih =>
    exact List.forall_mem_cons.2 ⟨rfl, fun other hother =>
      (ih other hother).trans (settings_normalize pass.normalize_eq)⟩

/-- **A session** that is given no standard pipeline comes to have one iff one of its runs is
given nothing, and the store of that run is usable. -/
theorem exists_hasStandardName_iff (h : Session spec passes) (hnames : ¬ spec.HasStandardName) :
    (∃ pass ∈ passes, pass.normalized.spec.HasStandardName) ↔
      ∃ pass ∈ passes, pass.received = {} ∧
        ∃ place ∈ pass.store, place.Usable pass.operator pass.lookup := by
  induction h with
  | done => simp only [List.not_mem_nil, false_and, exists_false]
  | next pass _ ih =>
    rw [List.exists_mem_cons_iff, List.exists_mem_cons_iff,
      ← hasStandardName_normalize_iff pass.normalize_eq hnames]
    -- The invariant is that no standard name is in use. The first run that breaks it decides.
    by_cases hfirst : pass.normalized.spec.HasStandardName
    · exact iff_of_true (Or.inl hfirst) (Or.inl hfirst)
    · exact or_congr Iff.rfl (ih hfirst)

end Session

/-- **Standard pipelines in a session**: where no pipeline is declared under a reserved name,
a session comes to have one iff neither an input nor a setting for made outputs is declared,
default forwarding is not switched off, and some run with a usable store is given no output
and no pipeline. -/
theorem session_starts_standard_iff {spec : Spec} {passes : List Pass}
    (h : Session spec passes)
    (hnames : ∀ pipeline ∈ spec.pipelines, ¬ Reserved.isPipelineName pipeline.name) :
    (∃ pass ∈ passes, ∃ pipeline ∈ pass.normalized.spec.pipelines,
        Reserved.isPipelineName pipeline.name) ↔
      (spec.inputs = [] ∧ spec.outputDefaults = none ∧ spec.disableDefaultForwarding = false) ∧
        ∃ pass ∈ passes, (pass.received.outputs = [] ∧ pass.received.pipelines = []) ∧
          ∃ place ∈ pass.store, place.Usable pass.operator pass.lookup := by
  refine (h.exists_hasStandardName_iff fun ⟨pipeline, hmem, hname⟩ =>
    hnames pipeline hmem hname).trans ?_
  rw [← Spec.settings_eq_empty_iff]
  constructor
  · rintro ⟨pass, hpass, hreceived, husable⟩
    obtain ⟨houtputs, hpipelines, hnone⟩ := Spec.eq_empty_iff.1 hreceived
    exact ⟨(h.settings_eq pass hpass).symm.trans hnone, pass, hpass, ⟨houtputs, hpipelines⟩,
      husable⟩
  · rintro ⟨hnone, pass, hpass, ⟨houtputs, hpipelines⟩, husable⟩
    exact ⟨pass, hpass, Spec.eq_empty_iff.2
      ⟨houtputs, hpipelines, (h.settings_eq pass hpass).trans hnone⟩, husable⟩

/-- Secrets among which that of the store is the only one. -/
def collectorOnly : SecretLookup := fun name =>
  .ok (if name = "collector" then some { name } else none)

/-- A specification that sends logs to one place only, with a secret. -/
def singleSinkSpec (inputs : List Input) : Spec where
  outputs := [{ name := "sink", kind := .http, url := "https://sink.svc"
                secret := some { name := "token" } }]
  pipelines := [{ name := "logs", inputRefs := ["application"], outputRefs := ["sink"] }]
  inputs := inputs

/-- The secret is missing, so that the first run drops the place and the pipeline to it. With
an input declared, the second run starts nothing all the same. -/
theorem session_starts_standard_singleSinkSpec : ∃ first second : Pass,
    Session (singleSinkSpec [{ name := "audit-logs", audit := true }]) [first, second]
    ∧ (second.received.outputs = [] ∧ second.received.pipelines = [])
    ∧ ¬ ∃ pass ∈ [first, second], ∃ pipeline ∈ pass.normalized.spec.pipelines,
      Reserved.isPipelineName pipeline.name := by
  let first : Pass := ⟨singleSinkSpec [{ name := "audit-logs", audit := true }],
    some (.elasticsearch "es"), collectorOnly, {}, _, rfl⟩
  let second : Pass :=
    ⟨first.normalized.spec, some (.elasticsearch "es"), collectorOnly, {}, _, rfl⟩
  have hsession : Session first.received [first, second] := .next first (.next second (.done _))
  refine ⟨first, second, hsession, by decide, ?_⟩
  rw [session_starts_standard_iff hsession (by decide)]
  exact fun h => absurd h.1.1 (by decide)

/-- **Without an input**, the second run takes what is left for a specification that says
nothing, and starts the standard pipelines. -/
theorem exists_session_starts_standard : ∃ first second : Pass,
    Session (singleSinkSpec []) [first, second]
    ∧ ¬ (singleSinkSpec []).isEmpty
    ∧ (∀ pipeline ∈ (singleSinkSpec []).pipelines, ¬ Reserved.isPipelineName pipeline.name)
    ∧ second.normalized.spec.pipelines.map (·.name) = standardPipelines.map (·.name) := by
  let first : Pass := ⟨singleSinkSpec [], some (.elasticsearch "es"), collectorOnly, {}, _, rfl⟩
  let second : Pass :=
    ⟨first.normalized.spec, some (.elasticsearch "es"), collectorOnly, {}, _, rfl⟩
  exact ⟨first, second, .next first (.next second (.done _)), by decide, by decide, by decide⟩

end LogForwarding
