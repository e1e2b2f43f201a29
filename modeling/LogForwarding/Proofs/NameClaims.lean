import LogForwarding.Proofs.DefaultRoute
import LogForwarding.Proofs.Idempotence

/-!
# Who keeps the name of a pipeline

The review sees pipelines as they are with the store in place: a multi tenant store splits those
that send to `default`, and a pipeline may find its name on a part of another one. Of all that come
with one name the first that can be used keeps it, if it may be had at all. Here this is said of the
declared pipelines: which of them keeps a name, and with which of its routes.

## What is proved

* `Ownership.Fits.isEligible_iff`: which pipelines can be used, in terms of the specification.
* `Spec.pipelines_of_migrate`: what is migrated are the routes of the declared pipelines.
* `Spec.claimant?_eq_some_iff`: the first usable route of a name, by its position.
* `Migrated.keeps_iff_claimant`: with a store, a route is kept iff it is the first usable one of
  its name, and the name may be had.
-/

namespace LogForwarding

open Reserved (StandardPipeline standardPipelines)

/-- Whether a pipeline has what it needs, its name apart: inputs of known kinds, and some
output that was accepted. -/
def Pipeline.isUsable (pipeline : Pipeline) (inputs : List Input) (accepted : List String) :
    Bool :=
  !pipeline.inputRefs.isEmpty
    && (pipeline.inputRefs.all fun ref => (Input.resolve? inputs ref).isSome)
    && pipeline.outputRefs.any (· ∈ accepted)

/-- Whether a pipeline may have a name: it is one, and if it is that of a standard pipeline, some
pipeline has it with the route. -/
def Spec.GrantsName (spec : Spec) (store : Store) (name : String) : Prop :=
  name ≠ "" ∧ ∀ standard ∈ standardPipelines, standard.name = name → spec.HasRoute store standard

/-- What becomes of a pipeline. Only a multi tenant store puts something else in its place. -/
def Pipeline.routes (store : Option Store) (source : Pipeline) : List Pipeline :=
  match store with
  | none => [source]
  | some place => place.routesOf source

/-- The routes of all declared pipelines, each with the pipeline that it is a route of. -/
def Spec.declaredRoutes (spec : Spec) (store : Option Store) : List (Pipeline × Pipeline) :=
  spec.pipelines.flatMap fun declared => (declared.routes store).map (declared, ·)

/-- The first route of a name that has what it needs, with the pipeline that it is a route of. -/
def Spec.claimant? (spec : Spec) (store : Option Store) (accepted : List String) (name : String) :
    Option (Pipeline × Pipeline) :=
  (spec.declaredRoutes store).find? fun (_, route) =>
    route.name == name && route.isUsable spec.inputs accepted

/-- Whether a run keeps a route of a declared pipeline. -/
def Normalized.Keeps (normalized : Normalized) (spec : Spec) (store : Option Store)
    (declared route : Pipeline) : Prop :=
  ∃ (position : Nat) (status : EntityStatus),
    (spec.declaredRoutes store)[position]? = some (declared, route)
      ∧ normalized.status.pipelines[position]? = some status ∧ status.state ≠ .dropped

variable {spec : Spec} {place : Store} {store : Option Store} {operator : Operator}
  {lookup : SecretLookup} {owned : Ownership}

/-! ### Names that may be had -/

/-- The name of a standard pipeline is recorded iff some pipeline has it with its route. -/
theorem Ownership.Fits.ownsPipeline_standard_iff (h : owned.Fits spec place)
    {standard : StandardPipeline} (hstandard : standard ∈ standardPipelines) :
    owned.ownsPipeline standard.name ↔ spec.HasRoute place standard := by
  rw [h.ownsPipeline_iff]
  constructor
  · rintro ⟨other, hother, hname, hroute⟩
    exact Reserved.eq_of_name_eq hother hstandard hname ▸ hroute
  · intro hroute
    exact ⟨standard, hstandard, rfl, hroute⟩

/-- A name is not a reserved one that is missing from the record iff a pipeline may have it. -/
theorem Ownership.Fits.ownsPipeline_of_reserved_iff (h : owned.Fits spec place) {name : String} :
    (Reserved.isPipelineName name → owned.ownsPipeline name) ↔
      ∀ standard ∈ standardPipelines, standard.name = name → spec.HasRoute place standard := by
  rw [Reserved.isPipelineName_iff]
  constructor
  · rintro howned standard hstandard rfl
    exact (h.ownsPipeline_standard_iff hstandard).1 (howned ⟨standard, hstandard, rfl⟩)
  · rintro hroutes ⟨standard, hstandard, rfl⟩
    exact (h.ownsPipeline_standard_iff hstandard).2 (hroutes standard hstandard rfl)

/-- **A pipeline can be used** iff it may have its name and has what it needs. -/
theorem Ownership.Fits.isEligible_iff (h : owned.Fits spec place) {pipeline : Pipeline}
    {inputs : List Input} {accepted : List String} :
    pipeline.isEligible inputs accepted owned ↔
      spec.GrantsName place pipeline.name ∧ pipeline.isUsable inputs accepted := by
  rw [Pipeline.isEligible_iff, Pipeline.isWellFormed_iff, h.ownsPipeline_of_reserved_iff,
    Spec.GrantsName]
  simp [Pipeline.isUsable, and_assoc]

/-- **A pipeline is kept** iff it may have its name and has what it needs, and nothing before it
that has what it needs comes with the name. -/
theorem Migrated.state_ne_dropped_iff_grantsName {migrated : Migrated} {position : Nat}
    {pipeline : Pipeline} {status : EntityStatus} (hfits : migrated.owned.Fits spec place)
    (hpipeline : migrated.spec.pipelines[position]? = some pipeline)
    (hstatus : (migrated.reviewed lookup).status.pipelines[position]? = some status) :
    status.state ≠ .dropped ↔ spec.GrantsName place pipeline.name
      ∧ pipeline.isUsable migrated.spec.inputs (migrated.reviewed lookup).spec.outputNames
      ∧ ∀ earlier ∈ migrated.spec.pipelines.take position, earlier.name = pipeline.name →
        ¬ earlier.isUsable migrated.spec.inputs
          (migrated.reviewed lookup).spec.outputNames := by
  rw [state_ne_dropped_iff hpipeline hstatus, hfits.isEligible_iff, and_assoc]
  refine and_congr_right fun hgrants => and_congr_right fun _ => ?_
  refine forall_congr' fun earlier => forall_congr' fun _ => ?_
  constructor
  · intro hnone hname husable
    exact hnone (hfits.isEligible_iff.2 ⟨hname ▸ hgrants, husable⟩) hname
  · intro hnone heligible hname
    exact hnone hname (hfits.isEligible_iff.1 heligible).2

/-! ### Routes of declared pipelines -/

/-- Without a multi tenant store a pipeline stays as it is. -/
theorem Pipeline.routes_of_not_isConfigured (h : ∀ place ∈ store, ¬ place.isConfigured)
    (source : Pipeline) : source.routes store = [source] := by
  cases store with
  | none => rfl
  | some place =>
    exact if_neg fun hmulti => h place rfl (Store.isConfigured_of_isMultiTenant hmulti)

theorem Spec.flatMap_routes_of_not_isConfigured (h : ∀ place ∈ store, ¬ place.isConfigured) :
    spec.pipelines.flatMap (Pipeline.routes store) = spec.pipelines :=
  (List.flatMap_congr fun source _ => source.routes_of_not_isConfigured h).trans
    (List.flatMap_singleton' spec.pipelines)

theorem Spec.map_snd_declaredRoutes (spec : Spec) (store : Option Store) :
    (spec.declaredRoutes store).map Prod.snd = spec.pipelines.flatMap (Pipeline.routes store) := by
  rw [declaredRoutes, List.map_flatMap]
  refine List.flatMap_congr fun declared _ => ?_
  rw [List.map_map]
  exact List.map_id _

/-- A route of a declared pipeline stands at the same position among all routes. -/
theorem Spec.getElem?_of_declaredRoutes {pipelines : List Pipeline} {position : Nat}
    {declared route : Pipeline} (h : pipelines = spec.pipelines.flatMap (Pipeline.routes store))
    (hposition : (spec.declaredRoutes store)[position]? = some (declared, route)) :
    pipelines[position]? = some route := by
  rw [h, ← map_snd_declaredRoutes, List.getElem?_map, hposition, Option.map_some]

theorem Spec.mem_declaredRoutes {declared route : Pipeline} :
    (declared, route) ∈ spec.declaredRoutes store ↔
      declared ∈ spec.pipelines ∧ route ∈ declared.routes store := by
  simp [declaredRoutes]

/-- The pipelines of a migrated specification are the routes of the declared ones, unless the
standard pipelines are started. -/
theorem Spec.pipelines_of_migrate {migrated : Migrated}
    (hmigrate : (spec.migrate store operator).value = .ok migrated) :
    migrated.spec.pipelines = spec.pipelines.flatMap (Pipeline.routes store)
      ∨ spec = {} ∧ ∃ place ∈ store, migrated.spec = ({} : Spec).started.rerouted place operator
        ∧ migrated.owned.Fits ({} : Spec).started place := by
  obtain ⟨hnone, rfl⟩ | ⟨place, rfl, -, hspec, hfits⟩ := Spec.migrate_cases hmigrate
  · exact Or.inl (Spec.flatMap_routes_of_not_isConfigured hnone).symm
  · by_cases hleaves : spec.leavesToOperator
    · obtain rfl := Spec.leavesToOperator_iff.1 hleaves
      exact Or.inr ⟨rfl, place, rfl, hspec, hfits⟩
    · rw [Spec.started_of_not_leavesToOperator hleaves] at hspec
      rw [hspec, Spec.pipelines_rerouted]
      exact Or.inl rfl

/-! ### The first usable route of a name -/

/-- The first member of a list with a property is one at some position, with none before
it. -/
theorem find?_eq_some_iff_take {α : Type} {p : α → Bool} {l : List α} {a : α} :
    l.find? p = some a ↔
      ∃ position : Nat, l[position]? = some a ∧ p a ∧ ∀ b ∈ l.take position, ¬ p b := by
  rw [List.find?_eq_some_iff_append]
  constructor
  · rintro ⟨ha, before, after, rfl, hbefore⟩
    refine ⟨before.length, by simp, ha, fun b hb => ?_⟩
    rw [List.take_left] at hb
    simpa using hbefore b hb
  · rintro ⟨position, hposition, ha, hbefore⟩
    exact ⟨ha, l.take position, l.drop (position + 1), eq_take_append_cons_drop hposition,
      fun b hb => by simpa using hbefore b hb⟩

/-- The first usable route of a name stands at some position among all routes, with none before
it. -/
theorem Spec.claimant?_eq_some_iff {accepted : List String} {name : String}
    {declared route : Pipeline} : spec.claimant? store accepted name = some (declared, route) ↔
      ∃ position : Nat, (spec.declaredRoutes store)[position]? = some (declared, route)
        ∧ route.name = name ∧ route.isUsable spec.inputs accepted
        ∧ ∀ earlier ∈ (spec.pipelines.flatMap (Pipeline.routes store)).take position,
          earlier.name = name → ¬ earlier.isUsable spec.inputs accepted := by
  rw [claimant?, find?_eq_some_iff_take, ← map_snd_declaredRoutes]
  simp only [Bool.and_eq_true, beq_iff_eq, not_and, and_assoc, ← List.map_take, List.forall_mem_map]

/-- **With a store, a route is kept** iff it is the first usable one of its name, and the name may
be had. -/
theorem Migrated.keeps_iff_claimant {migrated : Migrated} {declared route : Pipeline}
    (hpipelines : migrated.spec.pipelines = spec.pipelines.flatMap (Pipeline.routes store))
    (hinputs : migrated.spec.inputs = spec.inputs) (hfits : migrated.owned.Fits spec place) :
    (migrated.reviewed lookup).Keeps spec store declared route ↔
      spec.GrantsName place route.name
        ∧ spec.claimant? store (migrated.reviewed lookup).spec.outputNames route.name =
          some (declared, route) := by
  have hroute : ∀ position : Nat, (spec.declaredRoutes store)[position]? = some (declared, route) →
      migrated.spec.pipelines[position]? = some route :=
    fun position => Spec.getElem?_of_declaredRoutes hpipelines
  rw [Spec.claimant?_eq_some_iff, ← hpipelines, ← hinputs]
  constructor
  · rintro ⟨position, status, hposition, hstatus, hkept⟩
    obtain ⟨hgrants, husable, hearlier⟩ :=
      (state_ne_dropped_iff_grantsName hfits (hroute position hposition) hstatus).1 hkept
    exact ⟨hgrants, position, hposition, rfl, husable, hearlier⟩
  · rintro ⟨hgrants, position, hposition, -, husable, hearlier⟩
    obtain ⟨before, hstatus, -⟩ := exists_status_reviewed lookup (hroute position hposition)
    exact ⟨position, _, hposition, hstatus,
      (state_ne_dropped_iff_grantsName hfits (hroute position hposition) hstatus).2
        ⟨hgrants, husable, hearlier⟩⟩

end LogForwarding
