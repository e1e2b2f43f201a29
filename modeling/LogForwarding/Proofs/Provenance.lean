import LogForwarding.Proofs.Session
import Mathlib.Data.List.Forall2

/-!
# Provenance

A run adds outputs, splits and renames pipelines, and leaves out what cannot be used. Yet
nothing that it returns is made up: every output is declared, or made for the store, and every
pipeline comes from a declared one, as a whole or as the part of one input
(`Pipeline.ComesFrom`). `Spec.DerivesFrom` says so for a whole specification. The origin of a
pipeline is the position of the pipeline that it comes from, and its part of it; the origins of
the returned pipelines increase strictly, so that none comes up twice and none is moved.

## What is proved

* `withOrigins`: all routes with their origins, which increase (`pairwise_withOrigins`).
* `Migrated.exists_origins`: the origins of what a review leaves.
* `derivesFrom_normalize`: what a run returns derives from what it is given.
-/

namespace LogForwarding

open Reserved (defaultOutput tenantOutput)

/-! ### Where things come from -/

/-- Whether a store splits a pipeline: a multi tenant store does, if the pipeline sends to
`default`. -/
def Pipeline.IsSplitBy (source : Pipeline) (store : Option Store) : Prop :=
  (∃ place ∈ store, place.isMultiTenant) ∧ defaultOutput ∈ source.outputRefs

/-- Whether a pipeline comes from another one, as the part with the given number. Either way it
may have lost some of its outputs, and nothing else. -/
inductive Pipeline.ComesFrom (store : Option Store) (source : Pipeline) : ℕ → Pipeline → Prop where
  /-- A pipeline that is not split is taken over. -/
  | whole {outputRefs : List String} : ¬ source.IsSplitBy store →
      outputRefs.Sublist source.outputRefs → ComesFrom store source 0 { source with outputRefs }
  /-- A pipeline that is split has a part for each input. All parts but the first are numbered,
  and send to the tenant of the input instead of `default`. -/
  | part {position : ℕ} {input : String} {outputRefs : List String} : source.IsSplitBy store →
      source.inputRefs[position]? = some input →
      outputRefs.Sublist (source.outputRefs.map fun ref =>
        if ref = defaultOutput then tenantOutput input else ref) →
      ComesFrom store source position
        { source with
          name := if position = 0 then source.name else s!"{source.name}-{position}"
          inputRefs := [input]
          outputRefs }

/-- Whether an output is that of the tenant of an input which is sent to `default`. -/
def Output.IsTenantOf (output : Output) (spec : Spec) (store : Option Store)
    (operator : Operator) : Prop :=
  ∃ place ∈ store, place.isMultiTenant
    ∧ ∃ pipeline ∈ spec.pipelines, defaultOutput ∈ pipeline.outputRefs
      ∧ ∃ input ∈ pipeline.inputRefs, ∃ kind, Input.resolve? spec.inputs input = some kind
        ∧ Tenant.output? place operator.operatorNamespace input kind = some output

/-- Whether a specification has nothing but what comes from another one, in its order. -/
structure Spec.DerivesFrom (result spec : Spec) (store : Option Store) (operator : Operator) :
    Prop where
  /-- The inputs are the same. -/
  inputs_eq : result.inputs = spec.inputs
  /-- The settings for outputs that are made are the same. -/
  outputDefaults_eq : result.outputDefaults = spec.outputDefaults
  /-- So is the switch for default forwarding. -/
  disableDefaultForwarding_eq : result.disableDefaultForwarding = spec.disableDefaultForwarding
  /-- The outputs are declared ones, `default` apart, and after them those of tenants. -/
  outputs : ∃ own tenants, result.outputs = own ++ tenants
    ∧ (own.filter (·.name != defaultOutput)).Sublist spec.outputs
    ∧ ∀ output ∈ tenants, output.IsTenantOf spec.started store operator
  /-- The pipelines come from declared ones, unless the standard pipelines are started. -/
  pipelines : ¬ (spec.leavesToOperator ∧ ∃ place ∈ store, place.isConfigured) →
    ∃ origins : List (ℕ × ℕ), origins.Pairwise (Prod.Lex (· < ·) (· < ·))
      ∧ List.Forall₂ (fun origin pipeline => ∃ source, spec.pipelines[origin.1]? = some source
        ∧ source.ComesFrom store origin.2 pipeline) origins result.pipelines

/-! ### Origins -/

section Origins

variable {α β : Type} {routes : α → List β} {sources : List α}

/-- The routes of all sources, each with its origin: the position of its source, and its own
position among the routes of that source. -/
def withOrigins (routes : α → List β) (sources : List α) : List ((ℕ × ℕ) × β) :=
  sources.zipIdx.flatMap fun (source, position) =>
    (routes source).zipIdx.map fun (route, part) => ((position, part), route)

theorem map_snd_withOrigins (routes : α → List β) (sources : List α) :
    (withOrigins routes sources).map Prod.snd = sources.flatMap routes := by
  have hroutes : ∀ entry : α × ℕ, ((routes entry.1).zipIdx.map fun (route, part) =>
      ((entry.2, part), route)).map Prod.snd = routes entry.1 := by
    intro entry
    rw [List.map_map]
    exact List.zipIdx_map_fst 0 (routes entry.1)
  calc (withOrigins routes sources).map Prod.snd
      = sources.zipIdx.flatMap fun entry => routes entry.1 := by
        rw [withOrigins, List.map_flatMap]
        exact List.flatMap_congr fun entry _ => hroutes entry
    _ = (sources.zipIdx.map Prod.fst).flatMap routes := by rw [List.flatMap_map]
    _ = sources.flatMap routes := by rw [List.zipIdx_map_fst]

theorem mem_withOrigins {entry : (ℕ × ℕ) × β} (h : entry ∈ withOrigins routes sources) :
    ∃ source, sources[entry.1.1]? = some source ∧ (routes source)[entry.1.2]? = some entry.2 := by
  obtain ⟨⟨source, position⟩, hsource, hentry⟩ := List.mem_flatMap.1 h
  obtain ⟨⟨route, part⟩, hroute, rfl⟩ := List.mem_map.1 hentry
  exact ⟨source, List.mk_mem_zipIdx_iff_getElem?.1 hsource,
    List.mk_mem_zipIdx_iff_getElem?.1 hroute⟩

theorem pairwise_snd_zipIdx {γ : Type} (l : List γ) (start : ℕ) :
    (l.zipIdx start).Pairwise (·.2 < ·.2) := by
  induction l generalizing start with
  | nil => exact .nil
  | cons a rest ih =>
    exact List.pairwise_cons.2 ⟨fun _ hmem => List.le_snd_of_mem_zipIdx hmem, ih (start + 1)⟩

/-- The origins of routes increase strictly. -/
theorem pairwise_withOrigins (routes : α → List β) (sources : List α) :
    ((withOrigins routes sources).map Prod.fst).Pairwise (Prod.Lex (· < ·) (· < ·)) := by
  rw [List.pairwise_map, withOrigins, List.pairwise_flatMap]
  constructor
  · rintro ⟨source, position⟩ -
    rw [List.pairwise_map]
    exact (pairwise_snd_zipIdx (routes source) 0).imp fun hlt => .right position hlt
  · refine (pairwise_snd_zipIdx sources 0).imp fun hlt first hfirst second hsecond => ?_
    obtain ⟨_, -, rfl⟩ := List.mem_map.1 hfirst
    obtain ⟨_, -, rfl⟩ := List.mem_map.1 hsecond
    exact .left _ _ hlt

end Origins

/-! ### Pipelines -/

variable {spec : Spec} {operator : Operator} {lookup : SecretLookup} {source route : Pipeline}
  {part : ℕ}

/-- A pipeline that is not split comes from itself, also after it lost some of its outputs. -/
theorem Pipeline.comesFrom_of_singleton {store : Option Store} (accepted : List String)
    (hsplit : ¬ source.IsSplitBy store) (h : [source][part]? = some route) :
    source.ComesFrom store part (route.pruned accepted) := by
  rw [List.getElem?_singleton] at h
  split_ifs at h with hpart
  · obtain rfl := Option.some.inj h
    exact hpart ▸ .whole hsplit List.filter_sublist

/-- The parts of a pipeline that is split stand in the order of its inputs. -/
theorem Tenant.getElem?_parts (h : isSplit source) (position : ℕ) :
    (parts source)[position]? =
      source.inputRefs[position]?.map fun input => Tenant.part source input position := by
  rw [parts, if_pos h, List.getElem?_map, List.getElem?_zipIdx, Option.map_map, Nat.zero_add]
  rfl

/-- A named part of a pipeline that is split comes from it, also after it lost some of its
outputs. -/
theorem Tenant.comesFrom_part {store : Option Store} {input : String} (accepted : List String)
    (hsplit : source.IsSplitBy store) (hinput : source.inputRefs[part]? = some input)
    (hname : (Tenant.part source input part).name ≠ "") :
    source.ComesFrom store part ((Tenant.part source input part).pruned accepted) := by
  have hpart : partName source.name part =
      if part = 0 then source.name else s!"{source.name}-{part}" := by
    have hsource : ¬ source.name.isEmpty := by
      rw [String.isEmpty_iff]
      intro hempty
      simp [Tenant.part, partName, hempty] at hname
    simp [partName, hsource]
  have hpruned : (Tenant.part source input part).pruned accepted =
      { source with
        name := if part = 0 then source.name else s!"{source.name}-{part}"
        inputRefs := [input]
        outputRefs := (Tenant.part source input part).keptRefs accepted } := by
    rw [← hpart]
    rfl
  rw [hpruned]
  exact .part hsplit hinput List.filter_sublist

/-- A usable route comes from its source, also after it lost some of its outputs. -/
theorem Store.comesFrom_of_routesOf {store : Store} (accepted : List String)
    (h : (store.routesOf source)[part]? = some route) (hname : route.name ≠ "")
    (hinputs : route.inputRefs ≠ []) :
    source.ComesFrom (some store) part (route.pruned accepted) := by
  by_cases hsplit : source.IsSplitBy (some store)
  · obtain ⟨⟨place, hplace, hmulti⟩, hdefault⟩ := hsplit
    obtain rfl := Option.mem_some_iff.1 hplace
    have hsource : source.inputRefs ≠ [] :=
      inputRefs_ne_nil_of_routesOf (List.mem_of_getElem? h) hinputs
    rw [routesOf, if_pos hmulti, Tenant.getElem?_parts (Tenant.isSplit_iff.2 ⟨hdefault, hsource⟩),
      Option.map_eq_some_iff] at h
    obtain ⟨input, hinput, rfl⟩ := h
    exact Tenant.comesFrom_part accepted ⟨⟨store, rfl, hmulti⟩, hdefault⟩ hinput hname
  · have hroutes : store.routesOf source = [source] := by
      unfold routesOf
      split_ifs with hmulti
      · refine Tenant.parts_of_not_isSplit fun h => hsplit ⟨⟨store, rfl, hmulti⟩, ?_⟩
        exact (Tenant.isSplit_iff.1 h).1
      · rfl
    rw [hroutes] at h
    exact Pipeline.comesFrom_of_singleton accepted hsplit h

/-- **The origins of what a review leaves**: where the pipelines are the routes of sources, and
usable routes come from their sources, what remains has its origins among the sources. -/
theorem Migrated.exists_origins {migrated : Migrated} {store : Option Store}
    {routes : Pipeline → List Pipeline} {sources : List Pipeline}
    (hroutes : migrated.spec.pipelines = sources.flatMap routes)
    (hfrom : ∀ (source route : Pipeline) (part : ℕ), (routes source)[part]? = some route →
      route.name ≠ "" → route.inputRefs ≠ [] → source.ComesFrom store part
        (route.pruned (migrated.reviewed lookup).spec.outputNames)) :
    ∃ origins : List (ℕ × ℕ), origins.Pairwise (Prod.Lex (· < ·) (· < ·))
      ∧ List.Forall₂ (fun origin pipeline => ∃ source, sources[origin.1]? = some source
        ∧ source.ComesFrom store origin.2 pipeline) origins
        (migrated.reviewed lookup).spec.pipelines := by
  let accepted := (migrated.reviewed lookup).spec.outputNames
  let eligible := migrated.spec.pipelines.filter fun pipeline =>
    pipeline.isEligible migrated.spec.inputs accepted migrated.owned
  have hsub : (firstHolders Pipeline.name [] eligible).Sublist
      ((withOrigins routes sources).map Prod.snd) := by
    rw [map_snd_withOrigins, ← hroutes]
    exact (firstHolders_sublist [] eligible).trans List.filter_sublist
  obtain ⟨kept, hkept, hholders⟩ := List.sublist_map_iff.1 hsub
  refine ⟨kept.map Prod.fst,
    (pairwise_withOrigins routes sources).sublist (hkept.map Prod.fst), ?_⟩
  rw [pipelines_reviewed, hholders, List.map_map, List.forall₂_map_left_iff,
    List.forall₂_map_right_iff, List.forall₂_same]
  intro entry hentry
  obtain ⟨source, hsource, hroute⟩ := mem_withOrigins (hkept.subset hentry)
  have heligible : entry.2 ∈ eligible :=
    mem_of_mem_firstHolders (hholders ▸ List.mem_map_of_mem hentry)
  obtain ⟨hname, -, hinputs, -⟩ := Pipeline.isWellFormed_iff.1
    (Pipeline.isEligible_iff.1 (List.mem_filter.1 heligible).2).1
  exact ⟨source, hsource, hfrom source entry.2 entry.1.2 hroute hname hinputs⟩

/-! ### Outputs -/

/-- What remains of the outputs stands in their order. -/
theorem Migrated.outputs_reviewed_sublist {migrated : Migrated}
    (h : (migrated.outputReviews lookup).failure? = none) :
    (migrated.reviewed lookup).spec.outputs.Sublist migrated.spec.outputs := by
  rw [outputs_reviewed h]
  exact (firstHolders_sublist [] _).trans List.filter_sublist

/-- With a multi tenant store, the outputs are declared ones and, after them, those of
tenants. -/
theorem exists_outputs_of_isMultiTenant {migrated : Migrated} {store : Store}
    (hspec : migrated.spec = spec.started.rerouted store operator)
    (hfailure : (migrated.outputReviews lookup).failure? = none) (hmulti : store.isMultiTenant) :
    ∃ own tenants, (migrated.reviewed lookup).spec.outputs = own ++ tenants
      ∧ (own.filter (·.name != defaultOutput)).Sublist spec.outputs
      ∧ ∀ output ∈ tenants, output.IsTenantOf spec.started (some store) operator := by
  have hsub := Migrated.outputs_reviewed_sublist hfailure
  have houtputs : migrated.spec.outputs =
      spec.outputs ++ Tenant.made spec.started store operator.operatorNamespace := by
    rw [hspec, Spec.rerouted_of_isMultiTenant hmulti, Tenant.fannedOut, Spec.outputs_started]
  rw [houtputs] at hsub
  obtain ⟨own, tenants, happend, hown, htenants⟩ := List.sublist_append_iff.1 hsub
  refine ⟨own, tenants, happend, List.filter_sublist.trans hown, fun output hmem => ?_⟩
  obtain ⟨input, hneeded, kind, hkind, houtput⟩ := Tenant.mem_made.1 (htenants.subset hmem)
  obtain ⟨pipeline, hpipeline, hdefault, hinput⟩ := Tenant.mem_neededInputs.1 hneeded
  exact ⟨store, rfl, hmulti, pipeline, hpipeline, hdefault, input, hinput, kind, hkind, houtput⟩

/-- With a single tenant store, the outputs are declared ones, `default` apart. -/
theorem filter_outputs_sublist_of_single {migrated : Migrated} {store : Store}
    (hspec : migrated.spec = spec.started.rerouted store operator)
    (hfailure : (migrated.outputReviews lookup).failure? = none) (hsingle : ¬ store.isMultiTenant) :
    ((migrated.reviewed lookup).spec.outputs.filter (·.name != defaultOutput)).Sublist
      spec.outputs := by
  have hfilter : migrated.spec.outputs.filter (·.name != defaultOutput) =
      spec.outputs.filter (·.name != defaultOutput) := by
    rw [hspec, Spec.rerouted, if_neg hsingle]
    split_ifs
    · rw [Spec.filter_outputs_withDefaultOutput, Spec.outputs_started]
    · rw [Spec.outputs_started]
  have hsub := (Migrated.outputs_reviewed_sublist hfailure).filter (·.name != defaultOutput)
  rw [hfilter] at hsub
  exact hsub.trans List.filter_sublist

/-! ### A run -/

/-- The outputs that a run returns are declared ones, `default` apart, and after them those of
tenants. -/
theorem exists_outputs_normalize {store : Option Store} {normalized : Normalized}
    (h : (spec.normalize store lookup operator).value = .ok normalized) :
    ∃ own tenants, normalized.spec.outputs = own ++ tenants
      ∧ (own.filter (·.name != defaultOutput)).Sublist spec.outputs
      ∧ ∀ output ∈ tenants, output.IsTenantOf spec.started store operator := by
  obtain ⟨migrated, hmigrate, hfailure, rfl⟩ := Spec.normalize_eq_ok_iff.1 h
  obtain ⟨-, rfl⟩ | ⟨place, rfl, -, hspec, -⟩ := Spec.migrate_cases hmigrate
  · exact ⟨_, [], (List.append_nil _).symm,
      List.filter_sublist.trans (Migrated.outputs_reviewed_sublist hfailure),
      List.forall_mem_nil _⟩
  · by_cases hmulti : place.isMultiTenant
    · exact exists_outputs_of_isMultiTenant hspec hfailure hmulti
    · exact ⟨_, [], (List.append_nil _).symm,
        filter_outputs_sublist_of_single hspec hfailure hmulti, List.forall_mem_nil _⟩

/-- The pipelines that a run returns have their origins among the declared ones, unless it
starts the standard pipelines. -/
theorem exists_origins_normalize {store : Option Store} {normalized : Normalized}
    (h : (spec.normalize store lookup operator).value = .ok normalized)
    (hstarts : ¬ (spec.leavesToOperator ∧ ∃ place ∈ store, place.isConfigured)) :
    ∃ origins : List (ℕ × ℕ), origins.Pairwise (Prod.Lex (· < ·) (· < ·))
      ∧ List.Forall₂ (fun origin pipeline => ∃ source, spec.pipelines[origin.1]? = some source
        ∧ source.ComesFrom store origin.2 pipeline) origins normalized.spec.pipelines := by
  obtain ⟨migrated, hmigrate, hfailure, rfl⟩ := Spec.normalize_eq_ok_iff.1 h
  obtain ⟨hstore, rfl⟩ | ⟨place, rfl, hplace, hspec, -⟩ := Spec.migrate_cases hmigrate
  · have hwhole : ∀ source : Pipeline, ¬ source.IsSplitBy store := by
      rintro source ⟨⟨place, hmem, hmulti⟩, -⟩
      exact hstore place hmem (Store.isConfigured_of_isMultiTenant hmulti)
    refine Migrated.exists_origins (List.flatMap_singleton' spec.pipelines).symm ?_
    intro source route part hroute _ _
    exact Pipeline.comesFrom_of_singleton _ (hwhole source) hroute
  · rw [Spec.started_of_not_leavesToOperator fun hleaves =>
      hstarts ⟨hleaves, place, rfl, hplace⟩] at hspec
    refine Migrated.exists_origins (hspec ▸ Spec.pipelines_rerouted) ?_
    intro source route part hroute hname hinputs
    exact Store.comesFrom_of_routesOf _ hroute hname hinputs

/-- **Provenance**: what a run returns derives from what it is given. -/
theorem derivesFrom_normalize {spec : Spec} {store : Option Store} {lookup : SecretLookup}
    {operator : Operator} {normalized : Normalized}
    (h : (spec.normalize store lookup operator).value = .ok normalized) :
    normalized.spec.DerivesFrom spec store operator := by
  have hsettings := settings_normalize h
  exact
    { inputs_eq := (Spec.mk.inj hsettings).2.2.1
      outputDefaults_eq := (Spec.mk.inj hsettings).2.2.2.2
      disableDefaultForwarding_eq := (Spec.mk.inj hsettings).2.2.2.1
      outputs := exists_outputs_normalize h
      pipelines := exists_origins_normalize h }

/-- A specification with an output that is not usable, a pipeline that is split, one that has no
other output, and one that is taken over. -/
def mixedSpec : Spec where
  outputs :=
    [{ name := "blank", kind := .http },
      { name := "es", kind := .elasticsearch, url := "https://es.svc:9200" }]
  pipelines :=
    [{ name := "all", inputRefs := ["team", "team"], outputRefs := ["es", "default", "blank"] },
      { name := "lost", inputRefs := ["audit"], outputRefs := ["blank"] },
      { name := "plain", inputRefs := ["audit", "team"], outputRefs := ["blank", "es"]
        parse := some "json" }]
  inputs := [{ name := "team", infrastructure := true }]

/-- What is left of it comes from its first and last pipeline. -/
theorem derivesFrom_normalize_mixedSpec : ∃ normalized,
    (mixedSpec.normalize (some (.lokiStack "loki")) (fun _ => .ok none) {}).value = .ok normalized
    ∧ normalized.spec.outputs.map (·.name) = ["es", "default-team"]
    ∧ normalized.spec.pipelines.map (fun pipeline => (pipeline.name, pipeline.outputRefs)) =
      [("all", ["es", "default-team"]), ("all-1", ["es", "default-team"]), ("plain", ["es"])]
    ∧ normalized.spec.DerivesFrom mixedSpec (some (.lokiStack "loki")) {} := by
  have hvalue : (mixedSpec.normalize (some (.lokiStack "loki")) (fun _ => .ok none)
      {}).value.toOption.map (fun normalized => (normalized.spec.outputs.map (·.name),
        normalized.spec.pipelines.map fun pipeline => (pipeline.name, pipeline.outputRefs))) =
      some (["es", "default-team"],
        [("all", ["es", "default-team"]), ("all-1", ["es", "default-team"]),
          ("plain", ["es"])]) := by decide +kernel
  cases h : (mixedSpec.normalize (some (.lokiStack "loki")) (fun _ => .ok none) {}).value with
  | error error => rw [h] at hvalue; exact absurd hvalue nofun
  | ok normalized =>
    rw [h] at hvalue
    obtain ⟨houtputs, hpipelines⟩ := Prod.mk.inj (Option.some.inj hvalue)
    exact ⟨normalized, rfl, houtputs, hpipelines, derivesFrom_normalize h⟩

end LogForwarding
