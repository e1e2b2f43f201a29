import LogForwarding.Proofs.NameClaims
import LogForwarding.Proofs.Names

/-!
# The names of the standard pipelines

The name of a standard pipeline should stand for its route: all logs of one kind go to the
log store, and only there (`StandardPipeline.IsPlaced`). A pipeline that is declared under the
name with another route misuses it, and should be dropped with all its routes. But a review lets
a pipeline have the name if it is recorded, and it is recorded for the whole specification as soon
as one pipeline has the name with the route. Of all routes that come with the name, the first one
that can be used is then kept, whoever declared it.

## What is proved

* `Reserved.StandardPipeline.exists_routesOf_eq`: with a store in place, the route of a
  standard pipeline is one pipeline, which goes to the store's output.
* `Spec.usurps_iff_exists_keeps`: what a misusing pipeline keeps.
* `reserves_iff_not_usurps`: the name is kept for the route iff no pipeline that misuses it has the
  first usable route of the name; nothing is left of such pipelines iff none has that of any name.
* `exists_usurper_kept`: it is not always.
-/

namespace LogForwarding

open Reserved (defaultOutput tenantOutput StandardPipeline standardPipelines)

namespace Reserved.StandardPipeline

/-- The output that a standard pipeline sends to once the store is in place. -/
def target (standard : StandardPipeline) (store : Store) : String :=
  if store.isMultiTenant then tenantOutput standard.kind.name else defaultOutput

/-- Whether a pipeline takes the logs of a standard pipeline, and only those, to the
store that is in place, and only there. -/
def IsPlaced (standard : StandardPipeline) (store : Store) (pipeline : Pipeline) : Prop :=
  pipeline.inputRefs = [standard.kind.name] ∧ pipeline.outputRefs = [standard.target store]

variable {standard : StandardPipeline} {store : Store} {pipeline : Pipeline}

theorem isRouteOf_iff : standard.isRouteOf store pipeline ↔
    pipeline.inputRefs = [standard.kind.name]
      ∧ (pipeline.outputRefs = [defaultOutput]
        ∨ store.isMultiTenant ∧ pipeline.outputRefs = [tenantOutput standard.kind.name]) := by
  simp [isRouteOf]

theorem IsPlaced.isRouteOf (h : standard.IsPlaced store pipeline) :
    standard.isRouteOf store pipeline := by
  obtain ⟨hinputs, houtputs⟩ := h
  refine isRouteOf_iff.2 ⟨hinputs, ?_⟩
  unfold target at houtputs
  split_ifs at houtputs with hmulti
  · exact Or.inr ⟨hmulti, houtputs⟩
  · exact Or.inl houtputs

/-- **With a store in place** the route of a standard pipeline is one pipeline of the same
name, which goes to the store's output. -/
theorem exists_routesOf_eq (h : standard.isRouteOf store pipeline) :
    ∃ route, store.routesOf pipeline = [route] ∧ route.name = pipeline.name
      ∧ standard.IsPlaced store route := by
  obtain ⟨hinputs, houtputs⟩ := isRouteOf_iff.1 h
  unfold IsPlaced target Store.routesOf
  by_cases hmulti : store.isMultiTenant
  · simp only [hmulti, if_true]
    rcases houtputs with hdefault | ⟨-, htenant⟩
    · exact ⟨_, Tenant.parts_of_singleton hinputs hdefault, rfl, hinputs, rfl⟩
    · have hsplit : ¬ Tenant.isSplit pipeline := fun hsplit => by
        have hmem := (Tenant.isSplit_iff.1 hsplit).1
        rw [htenant, List.mem_singleton] at hmem
        exact Tenant.tenantOutput_ne_default _ hmem.symm
      exact ⟨pipeline, Tenant.parts_of_not_isSplit hsplit, rfl, hinputs, htenant⟩
  · simp only [hmulti, if_false, Bool.false_eq_true]
    rcases houtputs with hdefault | ⟨hmulti', -⟩
    · exact ⟨pipeline, rfl, rfl, hinputs, hdefault⟩
    · exact absurd hmulti' hmulti

end Reserved.StandardPipeline

variable {spec : Spec} {store : Store} {operator : Operator} {lookup : SecretLookup}
  {standard : StandardPipeline}

/-- A specification that has the route of a standard pipeline has it with a store in
place. -/
theorem Spec.HasRoute.rerouted (h : spec.HasRoute store standard) :
    (spec.rerouted store operator).HasRoute store standard := by
  obtain ⟨pipeline, hmem, hname, hroute⟩ := h
  obtain ⟨route, hroutes, hroutename, hplaced⟩ := StandardPipeline.exists_routesOf_eq hroute
  refine ⟨route, ?_, hroutename.trans hname, hplaced.isRouteOf⟩
  rw [Spec.pipelines_rerouted]
  exact List.mem_flatMap.2 ⟨pipeline, hmem, hroutes ▸ List.mem_singleton_self route⟩

/-! ### Pipelines that misuse a name -/

namespace Reserved.StandardPipeline

/-- Whether a pipeline is declared under the name of a standard pipeline, but without its route.
Without a store nothing is that route. -/
def IsMisusedBy (standard : StandardPipeline) (store : Option Store) (pipeline : Pipeline) : Prop :=
  pipeline.name = standard.name
    ∧ ¬ ∃ place ∈ store, place.isConfigured ∧ standard.isRouteOf place pipeline

/-- The name of a standard pipeline does not end in a number. -/
theorem ne_numbered (hstandard : standard ∈ standardPipelines) (name : String) (number : Nat) :
    s!"{name}-{number}" ≠ standard.name := by
  have hsplit : ∃ front, standard.name.toList = front ++ '-' :: "pipeline".toList := by
    simp only [standardPipelines, List.mem_cons, List.not_mem_nil, or_false] at hstandard
    rcases hstandard with rfl | rfl
    · exact ⟨"default-app".toList, by decide⟩
    · exact ⟨"default-infra".toList, by decide⟩
  obtain ⟨front, hfront⟩ := hsplit
  intro h
  have hlist := congrArg String.toList h
  rw [toList_numbered, hfront] at hlist
  obtain ⟨-, hdigits⟩ :=
    eq_of_append_cons_eq hlist (dash_notMem_toDigits number) (by decide)
  have hletter : 'p' ∈ Nat.toDigits 10 number := hdigits ▸ by decide
  exact absurd (Nat.isDigit_of_mem_toDigits (by decide) (by decide) hletter) (by decide)

/-- What comes with the name of a standard pipeline is declared under that name. -/
theorem name_eq_of_mem_routes {store : Option Store} {declared route : Pipeline}
    (hstandard : standard ∈ standardPipelines) (hroute : route ∈ declared.routes store)
    (hname : route.name = standard.name) : declared.name = standard.name := by
  have hself : route = declared → declared.name = standard.name := fun h => h ▸ hname
  cases store with
  | none => exact hself (List.mem_singleton.1 hroute)
  | some place =>
    rw [Pipeline.routes, Store.routesOf] at hroute
    split_ifs at hroute
    · by_cases hsplit : Tenant.isSplit declared
      · obtain ⟨position, input, -, rfl⟩ := (Tenant.mem_parts_iff hsplit).1 hroute
        rw [Tenant.part, Tenant.partName] at hname
        split_ifs at hname
        · exact hname
        · exact absurd hname (ne_numbered hstandard _ _)
      · rw [Tenant.parts_of_not_isSplit hsplit] at hroute
        exact hself (List.mem_singleton.1 hroute)
    · exact hself (List.mem_singleton.1 hroute)

end Reserved.StandardPipeline

/-- Whether a pipeline that misuses the name of a standard pipeline gets a name: the first usable
route of the name is one of its routes, and the name may be had. The standard name may be had if
some other pipeline has it with the route; later parts of a pipeline that is split have names that
are not reserved. -/
def Spec.Usurps (spec : Spec) (store : Option Store) (accepted : List String)
    (standard : StandardPipeline) (name : String) : Prop :=
  ∃ place ∈ store, place.isConfigured ∧ spec.GrantsName place name
    ∧ ∃ declared route, spec.claimant? store accepted name = some (declared, route)
      ∧ standard.IsMisusedBy store declared

/-- Whether the name of a standard pipeline is kept for its route. -/
structure Normalized.ReservesName (normalized : Normalized) (spec : Spec) (store : Option Store)
    (standard : StandardPipeline) : Prop where
  /-- A remaining pipeline of the name has the route. -/
  placed_of_mem : ∀ pipeline ∈ normalized.spec.pipelines, pipeline.name = standard.name →
    ∃ place ∈ store, place.isConfigured ∧ standard.IsPlaced place pipeline
  /-- A declared pipeline that misuses the name is not kept under it. -/
  not_keeps_of_name : ∀ declared route, standard.IsMisusedBy store declared →
    route.name = standard.name → ¬ normalized.Keeps spec store declared route

/-- Whether the name of a standard pipeline is kept for its route, and nothing is left of declared
pipelines that misuse it. -/
structure Normalized.Reserves (normalized : Normalized) (spec : Spec) (store : Option Store)
    (standard : StandardPipeline) : Prop extends normalized.ReservesName spec store standard where
  /-- No route of a declared pipeline that misuses the name is kept. -/
  not_keeps : ∀ declared route, standard.IsMisusedBy store declared →
    ¬ normalized.Keeps spec store declared route

/-! ### When the name is kept for the route -/

/-- The pipelines that a specification starts which says nothing have their routes. -/
theorem isPlaced_of_mem_started_empty {route : Pipeline} (hstandard : standard ∈ standardPipelines)
    (hmem : route ∈ (({} : Spec).started.rerouted store operator).pipelines)
    (hname : route.name = standard.name) : standard.IsPlaced store route := by
  rw [Spec.pipelines_rerouted] at hmem
  obtain ⟨source, hsource, hroute⟩ := List.mem_flatMap.1 hmem
  have hstarted : ({} : Spec).started.pipelines = standardPipelines.map (·.pipeline) := rfl
  rw [hstarted] at hsource
  obtain ⟨other, hother, rfl⟩ := List.mem_map.1 hsource
  have hcanonical : other.isRouteOf store other.pipeline :=
    StandardPipeline.isRouteOf_iff.2 ⟨rfl, Or.inl rfl⟩
  obtain ⟨placed, hroutes, hplacedname, hplaced⟩ :=
    StandardPipeline.exists_routesOf_eq hcanonical
  rw [hroutes, List.mem_singleton] at hroute
  subst hroute
  obtain rfl := Reserved.eq_of_name_eq hother hstandard (hplacedname.symm.trans hname)
  exact hplaced

/-- What remains under the name of a standard pipeline has its route if every route that is kept
under the name has it. -/
theorem placed_of_mem_reviewed {migrated : Migrated} {store : Option Store}
    (h : (migrated.outputReviews lookup).failure? = none)
    (hkept : ∀ (position : Nat) (route : Pipeline) (status : EntityStatus),
      migrated.spec.pipelines[position]? = some route →
      (migrated.reviewed lookup).status.pipelines[position]? = some status →
      route.name = standard.name → status.state ≠ .dropped →
      ∃ place ∈ store, place.isConfigured ∧ standard.IsPlaced place route) :
    ∀ pipeline ∈ (migrated.reviewed lookup).spec.pipelines, pipeline.name = standard.name →
      ∃ place ∈ store, place.isConfigured ∧ standard.IsPlaced place pipeline := by
  intro pipeline hmem hname
  obtain ⟨position, route, status, hroute, hstatus, hstate, rfl⟩ :=
    Migrated.exists_position_of_mem_pipelines_reviewed hmem
  obtain ⟨place, hplace, hconfigured, hinputs, houtputs⟩ :=
    hkept position route status hroute hstatus hname hstate
  refine ⟨place, hplace, hconfigured, hinputs, ?_⟩
  -- The only output of the route is not lost, as some output remains.
  have hsome := (Migrated.clean_reviewed h).outputRefs_ne_nil _ hmem
  rw [Pipeline.outputRefs_pruned, houtputs] at hsome ⊢
  by_cases htarget : standard.target place ∈ (migrated.reviewed lookup).spec.outputNames
  · simp [htarget]
  · simp [htarget] at hsome

/-- A route of a declared pipeline that does not misuse its name has the route. -/
theorem isPlaced_of_mem_routes {declared route : Pipeline}
    (hstandard : standard ∈ standardPipelines) (hroute : route ∈ declared.routes (some store))
    (hname : route.name = standard.name) (hused : ¬ standard.IsMisusedBy (some store) declared) :
    standard.IsPlaced store route := by
  have hcanonical : standard.isRouteOf store declared := by
    by_contra hother
    refine hused ⟨StandardPipeline.name_eq_of_mem_routes hstandard hroute hname, ?_⟩
    rintro ⟨place, hmem, -, hroute⟩
    exact hother (Option.mem_some_iff.1 hmem ▸ hroute)
  obtain ⟨placed, hroutes, -, hplaced⟩ := StandardPipeline.exists_routesOf_eq hcanonical
  rw [Pipeline.routes, hroutes, List.mem_singleton] at hroute
  exact hroute ▸ hplaced

section InPlace

variable {migrated : Migrated} (hplace : store.isConfigured)
  (hpipelines : migrated.spec.pipelines = spec.pipelines.flatMap (Pipeline.routes (some store)))
  (hinputs : migrated.spec.inputs = spec.inputs) (hfits : migrated.owned.Fits spec store)

include hplace hpipelines hinputs hfits

/-- **A pipeline that misuses the name gets a name** iff it is kept under it. -/
theorem Spec.usurps_iff_exists_keeps {name : String} :
    spec.Usurps (some store) (migrated.reviewed lookup).spec.outputNames standard name ↔
      ∃ declared route, standard.IsMisusedBy (some store) declared ∧ route.name = name
        ∧ (migrated.reviewed lookup).Keeps spec (some store) declared route := by
  constructor
  · rintro ⟨place, hmem, -, hgrants, declared, route, hclaimant, hmisused⟩
    obtain rfl := Option.mem_some_iff.1 hmem
    obtain ⟨-, -, rfl, -⟩ := Spec.claimant?_eq_some_iff.1 hclaimant
    exact ⟨declared, route, hmisused, rfl,
      (Migrated.keeps_iff_claimant hpipelines hinputs hfits).2 ⟨hgrants, hclaimant⟩⟩
  · rintro ⟨declared, route, hmisused, rfl, hkeeps⟩
    obtain ⟨hgrants, hclaimant⟩ :=
      (Migrated.keeps_iff_claimant hpipelines hinputs hfits).1 hkeeps
    exact ⟨store, rfl, hplace, hgrants, declared, route, hclaimant, hmisused⟩

/-- With a store, what is kept under the name has the route unless a pipeline that misuses the name
gets it. -/
theorem isPlaced_of_not_usurps (hstandard : standard ∈ standardPipelines)
    (hnone : ¬ spec.Usurps (some store) (migrated.reviewed lookup).spec.outputNames standard
      standard.name) {position : Nat} {route : Pipeline} {status : EntityStatus}
    (hroute : migrated.spec.pipelines[position]? = some route)
    (hstatus : (migrated.reviewed lookup).status.pipelines[position]? = some status)
    (hname : route.name = standard.name) (hstate : status.state ≠ .dropped) :
    standard.IsPlaced store route := by
  rw [hpipelines, ← Spec.map_snd_declaredRoutes, List.getElem?_map,
    Option.map_eq_some_iff] at hroute
  obtain ⟨⟨declared, route⟩, hposition, rfl⟩ := hroute
  refine isPlaced_of_mem_routes hstandard
    (Spec.mem_declaredRoutes.1 (List.mem_of_getElem? hposition)).2 hname fun hmisused => hnone ?_
  exact (Spec.usurps_iff_exists_keeps hplace hpipelines hinputs hfits).2
    ⟨declared, route, hmisused, hname, position, status, hposition, hstatus, hstate⟩

/-- With a store, the name is kept for the route iff no pipeline that misuses it gets it. -/
theorem reservesName_iff_of_routes (hfailure : (migrated.outputReviews lookup).failure? = none)
    (hstandard : standard ∈ standardPipelines) :
    (migrated.reviewed lookup).ReservesName spec (some store) standard ↔
      ¬ spec.Usurps (some store) (migrated.reviewed lookup).spec.outputNames standard
        standard.name := by
  constructor
  · intro hreserves husurps
    obtain ⟨declared, route, hmisused, hname, hkeeps⟩ :=
      (Spec.usurps_iff_exists_keeps hplace hpipelines hinputs hfits).1 husurps
    exact hreserves.not_keeps_of_name declared route hmisused hname hkeeps
  · intro hnone
    constructor
    · exact placed_of_mem_reviewed hfailure fun position route status hroute hstatus hname hstate =>
        ⟨store, rfl, hplace, isPlaced_of_not_usurps hplace hpipelines hinputs hfits hstandard hnone
          hroute hstatus hname hstate⟩
    · intro declared route hmisused hname hkeeps
      exact hnone ((Spec.usurps_iff_exists_keeps hplace hpipelines hinputs hfits).2
        ⟨declared, route, hmisused, hname, hkeeps⟩)

/-- With a store, nothing is left of pipelines that misuse the name iff none of them gets any
name. -/
theorem reserves_iff_of_routes (hfailure : (migrated.outputReviews lookup).failure? = none)
    (hstandard : standard ∈ standardPipelines) :
    (migrated.reviewed lookup).Reserves spec (some store) standard ↔
      ∀ name, ¬ spec.Usurps (some store) (migrated.reviewed lookup).spec.outputNames standard
        name := by
  constructor
  · intro hreserves name husurps
    obtain ⟨declared, route, hmisused, -, hkeeps⟩ :=
      (Spec.usurps_iff_exists_keeps hplace hpipelines hinputs hfits).1 husurps
    exact hreserves.not_keeps declared route hmisused hkeeps
  · intro hnone
    refine ⟨(reservesName_iff_of_routes hplace hpipelines hinputs hfits hfailure hstandard).2
      (hnone _), fun declared route hmisused hkeeps => hnone route.name ?_⟩
    exact (Spec.usurps_iff_exists_keeps hplace hpipelines hinputs hfits).2
      ⟨declared, route, hmisused, rfl, hkeeps⟩

end InPlace

/-- The name is kept for the route, and nothing is left of pipelines that misuse it, where nothing
is declared, and where nothing of the name is kept. -/
theorem reserves_of_not_keeps {normalized : Normalized} {store : Option Store}
    (hplaced : ∀ pipeline ∈ normalized.spec.pipelines, pipeline.name = standard.name →
      ∃ place ∈ store, place.isConfigured ∧ standard.IsPlaced place pipeline)
    (hkeeps : ∀ declared route, standard.IsMisusedBy store declared →
      ¬ normalized.Keeps spec store declared route) : normalized.Reserves spec store standard where
  placed_of_mem := hplaced
  not_keeps_of_name := fun declared route hmisused _ => hkeeps declared route hmisused
  not_keeps := hkeeps

/-- Without a store nothing is kept under the name of a standard pipeline. -/
theorem Spec.reserves_of_not_isConfigured {store : Option Store}
    (hstore : ∀ place ∈ store, ¬ place.isConfigured)
    (hfailure : (Migrated.outputReviews { spec } lookup).failure? = none)
    (hstandard : standard ∈ standardPipelines) :
    (Migrated.reviewed { spec } lookup).Reserves spec store standard := by
  have hdropped : ∀ (position : Nat) (route : Pipeline) (status : EntityStatus),
      spec.pipelines[position]? = some route →
      (Migrated.reviewed { spec } lookup).status.pipelines[position]? = some status →
      route.name = standard.name → status.state = .dropped := by
    intro position route status hroute hstatus hname
    by_contra hstate
    have heligible := ((Migrated.state_ne_dropped_iff hroute hstatus).1 hstate).1
    have howned := (Pipeline.isWellFormed_iff.1 (Pipeline.isEligible_iff.1 heligible).1).2.1
      (Reserved.isPipelineName_iff.2 ⟨standard, hstandard, hname.symm⟩)
    exact absurd howned nofun
  refine reserves_of_not_keeps (placed_of_mem_reviewed hfailure ?_) ?_
  · intro position route status hroute hstatus hname hstate
    exact absurd (hdropped position route status hroute hstatus hname) hstate
  · rintro declared route hmisused ⟨position, status, hposition, hstatus, hstate⟩
    have hmem := (Spec.mem_declaredRoutes.1 (List.mem_of_getElem? hposition)).2
    rw [Pipeline.routes_of_not_isConfigured hstore, List.mem_singleton] at hmem
    exact hstate (hdropped position route status (Spec.getElem?_of_declaredRoutes
      (Spec.flatMap_routes_of_not_isConfigured hstore).symm hposition) hstatus
      (hmem ▸ hmisused.1))

/-- The standard pipelines that are started have the names. -/
theorem reserves_of_started {migrated : Migrated} (hplace : store.isConfigured)
    (hspec : migrated.spec = ({} : Spec).started.rerouted store operator)
    (hfailure : (migrated.outputReviews lookup).failure? = none)
    (hstandard : standard ∈ standardPipelines) :
    (migrated.reviewed lookup).Reserves {} (some store) standard := by
  refine reserves_of_not_keeps (placed_of_mem_reviewed hfailure ?_) ?_
  · intro position route status hroute _ hname _
    rw [hspec] at hroute
    exact ⟨store, rfl, hplace,
      isPlaced_of_mem_started_empty hstandard (List.mem_of_getElem? hroute) hname⟩
  · rintro declared route - ⟨position, status, hposition, -⟩
    exact absurd hposition nofun

/-- **The name of a standard pipeline is kept for its route** iff no declared pipeline that misuses
the name has its first usable route. Nothing at all is left of such pipelines iff none of them has
the first usable route of any name. -/
theorem reserves_iff_not_usurps {spec : Spec} {store : Option Store} {lookup : SecretLookup}
    {operator : Operator} {normalized : Normalized} {standard : StandardPipeline}
    (h : (spec.normalize store lookup operator).value = .ok normalized)
    (hstandard : standard ∈ standardPipelines) :
    (normalized.ReservesName spec store standard ↔
        ¬ spec.Usurps store normalized.spec.outputNames standard standard.name)
      ∧ (normalized.Reserves spec store standard ↔
        ∀ name, ¬ spec.Usurps store normalized.spec.outputNames standard name) := by
  obtain ⟨migrated, hmigrate, hfailure, rfl⟩ := Spec.normalize_eq_ok_iff.1 h
  obtain ⟨hstore, rfl⟩ | ⟨place, rfl, hplace, hspec, hfits⟩ := Spec.migrate_cases hmigrate
  · have hreserves := Spec.reserves_of_not_isConfigured hstore hfailure hstandard
    have hnone : ∀ name, ¬ spec.Usurps store
        (Migrated.reviewed { spec } lookup).spec.outputNames standard name := by
      rintro name ⟨place, hplace, hconfigured, -⟩
      exact hstore place hplace hconfigured
    exact ⟨iff_of_true hreserves.toReservesName (hnone _), iff_of_true hreserves hnone⟩
  · by_cases hleaves : spec.leavesToOperator
    · obtain rfl := Spec.leavesToOperator_iff.1 hleaves
      have hreserves := reserves_of_started hplace hspec hfailure hstandard
      have hnone : ∀ name, ¬ ({} : Spec).Usurps (some place)
          (migrated.reviewed lookup).spec.outputNames standard name := by
        rintro name ⟨-, -, -, -, declared, route, hclaimant, -⟩
        exact absurd hclaimant nofun
      exact ⟨iff_of_true hreserves.toReservesName (hnone _), iff_of_true hreserves hnone⟩
    · rw [Spec.started_of_not_leavesToOperator hleaves] at hspec hfits
      have hpipelines : migrated.spec.pipelines =
          spec.pipelines.flatMap (Pipeline.routes (some place)) := by
        rw [hspec, Spec.pipelines_rerouted]
        rfl
      have hinputs : migrated.spec.inputs = spec.inputs := by rw [hspec, Spec.inputs_rerouted]
      exact ⟨reservesName_iff_of_routes hplace hpipelines hinputs hfits hfailure hstandard,
        reserves_iff_of_routes hplace hpipelines hinputs hfits hfailure hstandard⟩

/-- A pipeline that has its input twice is kept as a whole where the standard one stands behind it:
its first part under the name, and its second part under another one. -/
example :
    let twice : Pipeline :=
      { name := "default-app-pipeline", inputRefs := ["application", "application"]
        outputRefs := ["default"] }
    let standard : Pipeline := { twice with inputRefs := ["application"] }
    (Spec.normalize { pipelines := [twice, standard] } (some (.lokiStack "loki"))
      (fun _ => .ok none) {}).value.toOption.map (·.status.pipelines.map (·.state)) =
        some [.accepted, .accepted, .dropped] := by decide +kernel

/-- The name of the standard pipeline for application logs. -/
def applicationStandard : StandardPipeline := ⟨"default-app-pipeline", .application⟩

/-- A pipeline that takes this name, but sends the logs somewhere else. -/
def divertingPipeline : Pipeline :=
  { name := "default-app-pipeline", inputRefs := ["application"], outputRefs := ["es"] }

/-- A specification with an output to divert to. -/
def contestedSpec (pipelines : List Pipeline) : Spec where
  outputs := [{ name := "es", kind := .elasticsearch, url := "https://es.svc:9200" }]
  pipelines := pipelines

/-- Where the standard pipeline comes first, the diverting one is dropped. -/
theorem reserves_contestedSpec : ∃ normalized,
    ((contestedSpec [applicationStandard.pipeline, divertingPipeline]).normalize
      (some (.elasticsearch "es")) (fun name => .ok (some { name })) {}).value = .ok normalized
    ∧ normalized.status.pipelines.map (·.state) = [.accepted, .dropped]
    ∧ normalized.Reserves (contestedSpec [applicationStandard.pipeline, divertingPipeline])
      (some (.elasticsearch "es")) applicationStandard := by
  have h : ((contestedSpec [applicationStandard.pipeline, divertingPipeline]).normalize
    (some (.elasticsearch "es")) (fun name => .ok (some { name })) {}).value = .ok _ := rfl
  obtain ⟨-, hiff⟩ := reserves_iff_not_usurps h (by decide : applicationStandard ∈ standardPipelines)
  refine ⟨_, h, by decide, hiff.2 ?_⟩
  rintro name ⟨-, -, -, -, declared, route, hclaimant, hmisused⟩
  obtain ⟨position, hposition, hname, -, -⟩ := Spec.claimant?_eq_some_iff.1 hclaimant
  have hnames : ∀ entry ∈ (contestedSpec [applicationStandard.pipeline,
      divertingPipeline]).declaredRoutes (some (.elasticsearch "es")),
      entry.2.name = applicationStandard.name := by decide
  obtain rfl := hname.symm.trans (hnames _ (List.mem_of_getElem? hposition))
  have hfirst : some (declared, route) =
      some (applicationStandard.pipeline, applicationStandard.pipeline) :=
    hclaimant.symm.trans (by decide)
  obtain ⟨rfl, rfl⟩ := Prod.mk.inj (Option.some.inj hfirst)
  exact hmisused.2 ⟨_, rfl, by decide, by decide⟩

/-- Where it comes second, the diverting one keeps its name. -/
theorem exists_usurper_kept : ∃ normalized,
    ((contestedSpec [divertingPipeline, applicationStandard.pipeline]).normalize
      (some (.elasticsearch "es")) (fun name => .ok (some { name })) {}).value = .ok normalized
    ∧ normalized.spec.pipelines = [divertingPipeline]
    ∧ normalized.status.pipelines.map (·.state) = [.accepted, .dropped]
    ∧ ¬ normalized.ReservesName (contestedSpec [divertingPipeline, applicationStandard.pipeline])
      (some (.elasticsearch "es")) applicationStandard := by
  refine ⟨_, rfl, by decide, by decide, fun hreserves => ?_⟩
  obtain ⟨place, hplace, -, -, houtputs⟩ :=
    hreserves.placed_of_mem divertingPipeline (by decide) (by decide)
  obtain rfl := Option.mem_some_iff.1 hplace
  exact absurd houtputs (by decide)

end LogForwarding
