import LogForwarding.Proofs.Fixpoint
import LogForwarding.Proofs.Names
import LogForwarding.Proofs.Provenance
import LogForwarding.Proofs.Review.PipelineVerdicts
import LogForwarding.Proofs.Review.Verdicts

/-!
# Placeholders

An output or a pipeline whose name is at fault is shown under its position, such as `output[2]`.
What is reviewed is the migrated specification, and the position is the one that the entity has
there. For outputs this is where they are declared: the store's output takes the place of those
that are declared under its name, and what is made comes last. For pipelines it is not always. A
multi tenant store puts several parts in the place of one pipeline, and whatever is declared behind
it moves back.

## What is proved

* `exists_source_of_getElem?_flatMap`: a route is behind the routes of all sources before its own.
* `length_flatMap_eq_iff`: routes have the positions of their sources iff every source has one.
* `Spec.placesOutput_of_migrate`, `Spec.placesRoute_of_migrate`: what a migration has at a position.
* `placeholders_normalize`: which output or pipeline a placeholder stands for.
* `exists_misplaced_placeholder`: it need not be the one at that position.
-/

namespace LogForwarding

open Reserved (defaultOutput standardPipelines)

/-! ### What stands at a position -/

/-- Whether an output is made for a store: the output of a single tenant store, or that of the
tenant of an input. -/
def Output.IsMadeFor (output : Output) (spec : Spec) (store : Option Store)
    (operator : Operator) : Prop :=
  (∃ place ∈ store, place.isConfigured ∧ ¬ place.isMultiTenant
      ∧ output = spec.newDefaultOutput place operator)
    ∨ output.IsTenantOf spec.started store operator

/-- Whether an output is what a migration has at a position. -/
inductive Spec.PlacesOutput (spec : Spec) (store : Option Store) (operator : Operator)
    (position : ℕ) : Output → Prop where
  /-- The output that is declared at the position. -/
  | declared {output : Output} :
      spec.outputs[position]? = some output → PlacesOutput spec store operator position output
  /-- The output of a single tenant store, if one is declared there under its name. -/
  | replaced {place : Store} {output : Output} :
      spec.outputs[position]? = some output → output.name = defaultOutput → store = some place →
      place.isConfigured → ¬ place.isMultiTenant → PlacesOutput spec store operator position
        ((spec.newDefaultOutput place operator).replaceDefault output)
  /-- An output that is made, behind all that are declared. -/
  | made {output : Output} :
      spec.outputs.length ≤ position → output.IsMadeFor spec store operator →
      PlacesOutput spec store operator position output

/-- Whether a pipeline is what a migration has at a position, given the position of the pipeline
that it comes from and its own one among the routes of that pipeline. -/
structure Spec.PlacesRoute (spec : Spec) (store : Option Store) (position index part : ℕ)
    (route : Pipeline) : Prop where
  /-- It is a route of a declared pipeline. -/
  source : ∃ source, spec.pipelines[index]? = some source
    ∧ (source.routes store)[part]? = some route
  /-- It stands behind the routes of all pipelines that are declared before that one. -/
  position_eq : position = ((spec.pipelines.take index).flatMap (Pipeline.routes store)).length + part
  /-- It never moves to the front. -/
  le_position : index + part ≤ position
  /-- It has the position of the declared pipeline iff it is the first route of that one, and no
  pipeline before it is split into several. -/
  position_eq_index_iff : position = index ↔ part = 0 ∧ ∀ earlier ∈ spec.pipelines.take index,
    ¬ (earlier.IsSplitBy store ∧ 1 < earlier.inputRefs.length)

/-! ### Positions -/

section Positions

variable {α β : Type} {routes : α → List β} {sources : List α}

/-- **A route** is behind the routes of all sources before its own. -/
theorem exists_source_of_getElem?_flatMap {position : ℕ} {route : β}
    (h : (sources.flatMap routes)[position]? = some route) : ∃ (index part : ℕ) (source : α),
      sources[index]? = some source ∧ (routes source)[part]? = some route
      ∧ position = ((sources.take index).flatMap routes).length + part := by
  induction sources generalizing position with
  | nil => simp at h
  | cons source rest ih =>
    rw [List.flatMap_cons] at h
    by_cases hlt : position < (routes source).length
    · rw [List.getElem?_append_left hlt] at h
      exact ⟨0, position, source, rfl, h, by simp⟩
    · rw [not_lt] at hlt
      rw [List.getElem?_append_right hlt] at h
      obtain ⟨index, part, other, hother, hroute, hposition⟩ := ih h
      refine ⟨index + 1, part, other, hother, hroute, ?_⟩
      rw [List.take_succ_cons, List.flatMap_cons, List.length_append]
      omega

theorem length_le_length_flatMap (h : ∀ source ∈ sources, routes source ≠ []) :
    sources.length ≤ (sources.flatMap routes).length := by
  induction sources with
  | nil => exact Nat.zero_le _
  | cons source rest ih =>
    obtain ⟨hsource, hrest⟩ := List.forall_mem_cons.1 h
    have hpos := List.length_pos_iff.2 hsource
    have hle := ih hrest
    rw [List.flatMap_cons, List.length_append, List.length_cons]
    omega

/-- **Routes have the positions of their sources** iff every source has one. -/
theorem length_flatMap_eq_iff (h : ∀ source ∈ sources, routes source ≠ []) :
    (sources.flatMap routes).length = sources.length ↔
      ∀ source ∈ sources, (routes source).length = 1 := by
  induction sources with
  | nil => simp
  | cons source rest ih =>
    obtain ⟨hsource, hrest⟩ := List.forall_mem_cons.1 h
    have hpos := List.length_pos_iff.2 hsource
    have hle := length_le_length_flatMap hrest
    rw [List.flatMap_cons, List.length_append, List.length_cons, List.forall_mem_cons,
      ← ih hrest]
    omega

end Positions

/-! ### Outputs -/

variable {spec : Spec} {store : Option Store} {operator : Operator} {lookup : SecretLookup}
  {migrated : Migrated} {position : ℕ}

/-- With a multi tenant store the outputs of tenants come last. -/
theorem Spec.placesOutput_of_isMultiTenant {place : Store} {output : Output}
    (hmulti : place.isMultiTenant)
    (h : (spec.started.rerouted place operator).outputs[position]? = some output) :
    spec.PlacesOutput (some place) operator position output := by
  rw [Spec.rerouted_of_isMultiTenant hmulti, Tenant.fannedOut, Spec.outputs_started] at h
  rcases lt_or_ge position spec.outputs.length with hlt | hge
  · rw [List.getElem?_append_left hlt] at h
    exact .declared h
  · rw [List.getElem?_append_right hge] at h
    obtain ⟨input, hneeded, kind, hkind, houtput⟩ := Tenant.mem_made.1 (List.mem_of_getElem? h)
    obtain ⟨pipeline, hpipeline, hdefault, hinput⟩ := Tenant.mem_neededInputs.1 hneeded
    exact .made hge (Or.inr
      ⟨place, rfl, hmulti, pipeline, hpipeline, hdefault, input, hinput, kind, hkind, houtput⟩)

/-- With a single tenant store its output takes the place of every output that is declared under
its name, or else comes last. -/
theorem Spec.placesOutput_withDefaultOutput {place : Store} {output : Output}
    (hplace : place.isConfigured) (hsingle : ¬ place.isMultiTenant)
    (h : (spec.started.withDefaultOutput place operator).outputs[position]? = some output) :
    spec.PlacesOutput (some place) operator position output := by
  have hmade : spec.started.newDefaultOutput place operator =
      spec.newDefaultOutput place operator := by
    rw [Spec.newDefaultOutput, Spec.defaultTuning, Spec.outputDefaults_started]
    rfl
  rw [Spec.withDefaultOutput, Spec.outputs_started, hmade] at h
  dsimp only at h
  split_ifs at h
  · rw [List.getElem?_map, Option.map_eq_some_iff] at h
    obtain ⟨declared, hdeclared, rfl⟩ := h
    by_cases hname : declared.name = defaultOutput
    · exact .replaced hdeclared hname rfl hplace hsingle
    · rw [Output.replaceDefault, if_neg hname]
      exact .declared hdeclared
  · rcases lt_or_ge position spec.outputs.length with hlt | hge
    · rw [List.getElem?_append_left hlt] at h
      exact .declared h
    · rw [List.getElem?_append_right hge] at h
      exact .made hge
        (Or.inl ⟨place, rfl, hplace, hsingle, List.mem_singleton.1 (List.mem_of_getElem? h)⟩)

/-- **The outputs of a migrated specification** are the declared ones, in their places, and what
is made. -/
theorem Spec.placesOutput_of_migrate {output : Output}
    (hmigrate : (spec.migrate store operator).value = .ok migrated)
    (h : migrated.spec.outputs[position]? = some output) :
    spec.PlacesOutput store operator position output := by
  obtain ⟨-, rfl⟩ | ⟨place, rfl, hplace, hspec, -⟩ := Spec.migrate_cases hmigrate
  · exact .declared h
  · rw [hspec] at h
    by_cases hmulti : place.isMultiTenant
    · exact Spec.placesOutput_of_isMultiTenant hmulti h
    · by_cases huses : spec.started.usesDefault
      · rw [Spec.rerouted_of_usesDefault hmulti huses] at h
        exact Spec.placesOutput_withDefaultOutput hplace hmulti h
      · rw [Spec.rerouted_eq_self huses, Spec.outputs_started] at h
        exact .declared h

/-! ### Pipelines -/

namespace Pipeline

theorem routes_ne_nil (source : Pipeline) : source.routes store ≠ [] := by
  cases store with
  | none => exact List.cons_ne_nil _ _
  | some place => exact Store.routesOf_ne_nil

/-- Only a pipeline with several inputs that a multi tenant store splits has several routes. -/
theorem length_routes_eq_one_iff {source : Pipeline} : (source.routes store).length = 1 ↔
    ¬ (source.IsSplitBy store ∧ 1 < source.inputRefs.length) := by
  cases store with
  | none => simp [routes, IsSplitBy]
  | some place =>
    have hsplit : source.IsSplitBy (some place) ↔
        place.isMultiTenant ∧ defaultOutput ∈ source.outputRefs := by simp [IsSplitBy]
    rw [hsplit, routes, Store.routesOf]
    split_ifs with hmulti
    · by_cases hparts : Tenant.isSplit source
      · obtain ⟨hdefault, hinputs⟩ := Tenant.isSplit_iff.1 hparts
        have hpos := List.length_pos_iff.2 hinputs
        rw [Tenant.parts, if_pos hparts, List.length_map, List.length_zipIdx]
        simp only [hmulti, hdefault, true_and]
        omega
      · rw [Tenant.parts_of_not_isSplit hparts]
        refine iff_of_true rfl fun hseveral => hparts (Tenant.isSplit_iff.2 ⟨hseveral.1.2, ?_⟩)
        exact List.ne_nil_of_length_pos (Nat.lt_trans Nat.zero_lt_one hseveral.2)
    · simp [hmulti]

end Pipeline

/-- A route stands where its source is declared, unless something before it is split. -/
theorem Spec.placesRoute_of_getElem? {route : Pipeline}
    (h : (spec.pipelines.flatMap (Pipeline.routes store))[position]? = some route) :
    ∃ index part, spec.PlacesRoute store position index part route := by
  obtain ⟨index, part, source, hsource, hroute, hposition⟩ :=
    exists_source_of_getElem?_flatMap h
  have hlt : index < spec.pipelines.length := (List.getElem?_eq_some_iff.1 hsource).1
  have htake : (spec.pipelines.take index).length = index :=
    List.length_take_of_le (Nat.le_of_lt hlt)
  have hne : ∀ earlier ∈ spec.pipelines.take index, earlier.routes store ≠ [] :=
    fun earlier _ => earlier.routes_ne_nil
  have hle := length_le_length_flatMap hne
  have hiff := length_flatMap_eq_iff hne
  rw [htake] at hle hiff
  refine ⟨index, part, ⟨source, hsource, hroute⟩, hposition, by omega, ?_⟩
  simp only [← Pipeline.length_routes_eq_one_iff, ← hiff]
  omega

/-- The names of the standard pipelines that a specification starts are not at fault. -/
theorem nameFault?_eq_none_of_started {place : Store} {pipeline : Pipeline} {taken : List String}
    (hspec : migrated.spec = ({} : Spec).started.rerouted place operator)
    (hfits : migrated.owned.Fits ({} : Spec).started place)
    (hpipeline : migrated.spec.pipelines[position]? = some pipeline)
    (htaken : ∀ name ∈ taken, ∃ earlier ∈ migrated.spec.pipelines.take position,
      earlier.name = name) :
    pipeline.nameFault? migrated.owned taken = none := by
  have hnames : migrated.spec.pipelines.map (·.name) = standardPipelines.map (·.name) := by
    rw [hspec, Spec.pipelines_rerouted]
    unfold Store.routesOf
    split_ifs <;> rfl
  have hname : pipeline.name ∈ standardPipelines.map (·.name) :=
    hnames ▸ List.mem_map_of_mem (List.mem_of_getElem? hpipeline)
  obtain ⟨standard, hstandard, heq⟩ := List.mem_map.1 hname
  have howned : migrated.owned.ownsPipeline standard.name :=
    (hfits.ownsPipeline_standard_iff hstandard).2 (Migrated.hasRoute_started rfl hstandard)
  refine Pipeline.nameFault?_eq_none_iff.2 ⟨?_, fun _ => heq ▸ howned, fun hmem => ?_⟩
  · rintro hempty
    rw [hempty] at hname
    exact absurd hname (by decide)
  · obtain ⟨earlier, hearlier, hsame⟩ := htaken _ hmem
    have hnodup : (migrated.spec.pipelines.map (·.name)).Nodup := hnames ▸ by decide
    exact name_ne_of_mem_take hnodup hpipeline hearlier hsame

/-- **The pipelines of a migrated specification** whose names are at fault are routes of the
declared ones. -/
theorem Spec.placesRoute_of_migrate {pipeline : Pipeline} {taken : List String}
    (hmigrate : (spec.migrate store operator).value = .ok migrated)
    (hpipeline : migrated.spec.pipelines[position]? = some pipeline)
    (htaken : ∀ name ∈ taken, ∃ earlier ∈ migrated.spec.pipelines.take position,
      earlier.name = name)
    (hfault : pipeline.nameFault? migrated.owned taken ≠ none) :
    ∃ index part, spec.PlacesRoute store position index part pipeline := by
  obtain hroutes | ⟨-, place, -, hspec, hfits⟩ := Spec.pipelines_of_migrate hmigrate
  · exact Spec.placesRoute_of_getElem? (hroutes ▸ hpipeline)
  · exact absurd (nameFault?_eq_none_of_started hspec hfits hpipeline htaken) hfault

/-! ### A run -/

/-- A placeholder of an output is the position of what it stands for. -/
theorem Migrated.exists_output_of_placeholder {i : ℕ} {status : EntityStatus}
    (hfailure : (migrated.outputReviews lookup).failure? = none)
    (hstatus : (migrated.reviewed lookup).status.outputs[position]? = some status)
    (hname : .name ∈ status.aspects) (hshown : status.name = s!"output[{i}]") :
    position = i ∧ ∃ output, migrated.spec.outputs[i]? = some output
      ∧ status.IsVerdictOn output i
        (output.IsKeptAfter (migrated.spec.outputs.take i) migrated.owned lookup) := by
  have hlt : position < migrated.spec.outputs.length := by
    rw [← length_outputs_status_reviewed hfailure]
    exact (List.getElem?_eq_some_iff.1 hstatus).1
  have houtput := List.getElem?_eq_getElem hlt
  obtain ⟨before, hown, hnames⟩ := exists_status_outputs_reviewed hfailure houtput
  obtain rfl := Option.some.inj (hown.symm.trans hstatus)
  have hposition : position = i := by
    rw [Output.name_status_eq_ite] at hshown
    exact append_repr_append_inj.1 ((if_pos hname).symm.trans hshown)
  subst hposition
  exact ⟨rfl, _, houtput, Output.isVerdictOn_status
    (failure?_outputReviews_eq_none_iff.1 hfailure _ (List.getElem_mem hlt)) hnames⟩

/-- A placeholder of a pipeline is the position of what it stands for. -/
theorem Migrated.exists_pipeline_of_placeholder {i : ℕ} {status : EntityStatus}
    (hstatus : (migrated.reviewed lookup).status.pipelines[position]? = some status)
    (hname : .name ∈ status.aspects) (hshown : status.name = s!"pipeline[{i}]") :
    position = i ∧ ∃ pipeline taken, migrated.spec.pipelines[i]? = some pipeline
      ∧ pipeline.nameFault? migrated.owned taken ≠ none
      ∧ (∀ name ∈ taken, ∃ earlier ∈ migrated.spec.pipelines.take i, earlier.name = name)
      ∧ status.IsPipelineVerdict pipeline (migrated.spec.pipelines.take i) i migrated.spec.inputs
        (migrated.reviewed lookup).spec.outputNames migrated.owned := by
  have hlength : (migrated.reviewed lookup).status.pipelines.length =
      migrated.spec.pipelines.length := length_pipelines_status_reviewed
  have hlt : position < migrated.spec.pipelines.length :=
    hlength ▸ (List.getElem?_eq_some_iff.1 hstatus).1
  have hpipeline := List.getElem?_eq_getElem hlt
  obtain ⟨before, hown, -, hnames⟩ := exists_status_reviewed lookup hpipeline
  obtain rfl := Option.some.inj (hown.symm.trans hstatus)
  have hposition : position = i := by
    rw [Pipeline.name_status_eq_ite] at hshown
    exact append_repr_append_inj.1 ((if_pos hname).symm.trans hshown)
  subst hposition
  refine ⟨rfl, _, before, hpipeline, Pipeline.name_mem_aspects_status_iff.1 hname, ?_,
    Pipeline.isPipelineVerdict_status hnames⟩
  intro name hmem
  obtain ⟨earlier, hearlier, -, heq⟩ := (hnames name).1 hmem
  exact ⟨earlier, hearlier, heq⟩

/-- **What a placeholder stands for**: `output[i]` for the output that is declared at position `i`,
or that takes its place, or for one that is made and comes behind all that are declared;
`pipeline[i]` for what has position `i` after splitting, which is that of the declared pipeline
unless this is not its first part, or one before it is split into several. -/
theorem placeholders_normalize {spec : Spec} {store : Option Store} {lookup : SecretLookup}
    {operator : Operator} {normalized : Normalized}
    (h : (spec.normalize store lookup operator).value = .ok normalized) : ∃ migrated,
    (spec.migrate store operator).value = .ok migrated
    ∧ (∀ (position i : ℕ) (status : EntityStatus),
      normalized.status.outputs[position]? = some status → .name ∈ status.aspects →
      status.name = s!"output[{i}]" →
      position = i ∧ ∃ output, spec.PlacesOutput store operator i output
        ∧ migrated.spec.outputs[i]? = some output
        ∧ status.IsVerdictOn output i
          (output.IsKeptAfter (migrated.spec.outputs.take i) migrated.owned lookup))
    ∧ ∀ (position i : ℕ) (status : EntityStatus),
      normalized.status.pipelines[position]? = some status → .name ∈ status.aspects →
      status.name = s!"pipeline[{i}]" →
      position = i ∧ ∃ index part route, spec.PlacesRoute store i index part route
        ∧ migrated.spec.pipelines[i]? = some route
        ∧ status.IsPipelineVerdict route (migrated.spec.pipelines.take i) i migrated.spec.inputs
          normalized.spec.outputNames migrated.owned := by
  obtain ⟨migrated, hmigrate, hfailure, rfl⟩ := Spec.normalize_eq_ok_iff.1 h
  refine ⟨migrated, hmigrate, fun position i status hstatus hname hshown => ?_,
    fun position i status hstatus hname hshown => ?_⟩
  · obtain ⟨hposition, output, houtput, hverdict⟩ :=
      Migrated.exists_output_of_placeholder hfailure hstatus hname hshown
    exact ⟨hposition, output, Spec.placesOutput_of_migrate hmigrate houtput, houtput, hverdict⟩
  · obtain ⟨hposition, route, taken, hroute, hfault, htaken, hverdict⟩ :=
      Migrated.exists_pipeline_of_placeholder hstatus hname hshown
    obtain ⟨index, part, hplaces⟩ :=
      Spec.placesRoute_of_migrate hmigrate hroute htaken hfault
    exact ⟨hposition, index, part, route, hplaces, hroute, hverdict⟩

/-- A specification with a pipeline that a multi tenant store splits, one without a name, and one
with nothing wrong with it. -/
def displacedSpec : Spec where
  pipelines :=
    [{ name := "logs", inputRefs := ["application", "application"], outputRefs := ["default"] },
      { name := "", inputRefs := ["audit"], outputRefs := ["sink"] },
      { name := "apps", inputRefs := ["application"], outputRefs := ["default"] }]

theorem exists_normalize_displacedSpec : ∃ normalized,
    (displacedSpec.normalize (some (.lokiStack "loki")) (fun _ => .ok none) {}).value =
      .ok normalized
    ∧ normalized.status.pipelines =
      [{ name := "logs" }, { name := "logs-1" },
        { name := "pipeline[2]", state := .dropped
          conditions := [{ aspect := .name, reason := .missingName }] },
        { name := "apps" }] := by
  have hvalue : (displacedSpec.normalize (some (.lokiStack "loki")) (fun _ => .ok none)
      {}).value.toOption.map (fun normalized => normalized.status.pipelines) =
      some [{ name := "logs" }, { name := "logs-1" },
        { name := "pipeline[2]", state := .dropped
          conditions := [{ aspect := .name, reason := .missingName }] },
        { name := "apps" }] := by decide +kernel
  cases h : (displacedSpec.normalize (some (.lokiStack "loki")) (fun _ => .ok none) {}).value with
  | error error => rw [h] at hvalue; exact absurd hvalue nofun
  | ok normalized => rw [h] at hvalue; exact ⟨normalized, rfl, Option.some.inj hvalue⟩

/-- The pipeline without a name is shown as the third one. -/
theorem placeholders_normalize_displacedSpec : ∃ normalized,
    (displacedSpec.normalize (some (.lokiStack "loki")) (fun _ => .ok none) {}).value =
      .ok normalized
    ∧ ∃ index part route, displacedSpec.PlacesRoute (some (.lokiStack "loki")) 2 index part route
      ∧ index + part ≤ 2 := by
  obtain ⟨normalized, h, hstatuses⟩ := exists_normalize_displacedSpec
  obtain ⟨migrated, -, -, hpipelines⟩ := placeholders_normalize h
  rw [hstatuses] at hpipelines
  obtain ⟨-, index, part, route, hplaces, -, -⟩ := hpipelines 2 2 _ rfl (by decide) (by decide)
  exact ⟨normalized, h, index, part, route, hplaces, hplaces.le_position⟩

/-- **A placeholder need not stand for the pipeline that is declared at that position**, or for a
part of it: the pipeline without a name is the second one, and nothing is wrong with the third. -/
theorem exists_misplaced_placeholder : ∃ normalized migrated status,
    (displacedSpec.normalize (some (.lokiStack "loki")) (fun _ => .ok none) {}).value =
      .ok normalized
    ∧ (displacedSpec.migrate (some (.lokiStack "loki")) {}).value = .ok migrated
    ∧ normalized.status.pipelines[2]? = some status
    ∧ .name ∈ status.aspects ∧ status.name = "pipeline[2]"
    ∧ migrated.spec.pipelines[2]? = displacedSpec.pipelines[1]?
    ∧ ∀ source, displacedSpec.pipelines[2]? = some source →
      ∀ route ∈ source.routes (some (.lokiStack "loki")),
        migrated.spec.pipelines[2]? ≠ some route := by
  obtain ⟨normalized, h, hstatuses⟩ := exists_normalize_displacedSpec
  obtain ⟨migrated, hmigrate, -⟩ := Spec.normalize_eq_ok_iff.1 h
  have hpipelines : migrated.spec.pipelines =
      displacedSpec.pipelines.flatMap (Pipeline.routes (some (.lokiStack "loki"))) :=
    (Spec.pipelines_of_migrate hmigrate).resolve_right fun hempty =>
      absurd hempty.1 (by decide)
  refine ⟨normalized, migrated, _, h, hmigrate, by rw [hstatuses]; rfl, by decide, rfl, ?_, ?_⟩
  · rw [hpipelines]
    decide
  · rw [hpipelines]
    rintro source hsource
    obtain rfl := Option.some.inj hsource
    decide

end LogForwarding
