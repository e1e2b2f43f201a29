import LogForwarding.Proofs.Route.Store

/-!
# The default route

A pipeline that sends to `default` is taken over as it is by a single tenant store, and
is split by a multi tenant store, where each part sends to the output of its tenant.
Either way the reference that stands for `default` should have a target whenever logs
that are sent to the store arrive there (`Store.Usable`).

## What is proved

* `Spec.pipelines_rerouted`: what becomes of the pipelines of a specification.
* `mem_outputNames_of_standsForDefault`: in a usable store's specification the
  references that stand for `default` have outputs.
* `default_kept_of_usable`: no pipeline loses such a reference, and none of those that
  send to `default` is dropped for its outputs.
-/

namespace LogForwarding

open Reserved (defaultOutput tenantOutput)

/-- What becomes of a pipeline: a multi tenant store splits it, any other one takes it
over as it is. -/
def Store.routesOf (store : Store) (pipeline : Pipeline) : List Pipeline :=
  if store.isMultiTenant then Tenant.parts pipeline else [pipeline]

/-- Whether a reference of a route stands for `default`: the pipeline that the route
comes from has `default` at the same position. -/
def Pipeline.StandsForDefault (route source : Pipeline) (ref : String) : Prop :=
  ∃ position : Nat, source.outputRefs[position]? = some defaultOutput
    ∧ route.outputRefs[position]? = some ref

/-- Whether a route of a status is kept, together with every reference that stands for
`default`. -/
structure Normalized.KeepsDefault (normalized : Normalized) (status : EntityStatus)
    (source route : Pipeline) : Prop where
  /-- The route is not dropped. -/
  state_ne_dropped : status.state ≠ .dropped
  /-- It remains, without the references it lost. -/
  pruned_mem : route.pruned normalized.spec.outputNames ∈ normalized.spec.pipelines
  /-- No reference that stands for `default` is among those. -/
  ref_mem : ∀ ref, route.StandsForDefault source ref →
    ref ∈ (route.pruned normalized.spec.outputNames).outputRefs
  /-- None is reported as lost. -/
  ref_notMem_conditions : ∀ ref, route.StandsForDefault source ref →
    Pipeline.lostRefCondition ref ∉ status.conditions

variable {spec : Spec} {store : Store} {operator : Operator} {lookup : SecretLookup}
  {source route : Pipeline} {ref : String}

/-- The pipelines of a rerouted specification are the routes of all its pipelines. -/
theorem Spec.pipelines_rerouted : (spec.rerouted store operator).pipelines =
    spec.pipelines.flatMap store.routesOf := by
  by_cases hmulti : store.isMultiTenant
  · have hroutes : store.routesOf = Tenant.parts := funext fun _ => if_pos hmulti
    rw [Spec.rerouted_of_isMultiTenant hmulti, hroutes]
    rfl
  · have hroutes : store.routesOf = fun pipeline => [pipeline] := funext fun _ => if_neg hmulti
    rw [hroutes, List.flatMap_singleton', Spec.pipelines_rerouted_of_single hmulti]

/-- A pipeline that sends to `default` has, in each of its routes, a reference that
stands for it. -/
theorem exists_standsForDefault (hdefault : defaultOutput ∈ source.outputRefs)
    (hroute : route ∈ store.routesOf source) : ∃ ref, route.StandsForDefault source ref := by
  obtain ⟨position, hposition⟩ := List.getElem?_of_mem hdefault
  have hlength : route.outputRefs.length = source.outputRefs.length := by
    unfold Store.routesOf Tenant.parts at hroute
    split_ifs at hroute
    · obtain ⟨⟨input, place⟩, -, rfl⟩ := List.mem_map.1 hroute
      exact List.length_map _
    · rw [List.mem_singleton.1 hroute]
    · rw [List.mem_singleton.1 hroute]
  have hlt : position < route.outputRefs.length :=
    hlength ▸ (List.getElem?_eq_some_iff.1 hposition).1
  exact ⟨_, position, hposition, List.getElem?_eq_getElem hlt⟩

theorem Pipeline.StandsForDefault.mem (h : route.StandsForDefault source ref) :
    ref ∈ route.outputRefs := by
  obtain ⟨position, -, href⟩ := h
  exact List.mem_of_getElem? href

/-- The references of a route that stand for `default`: with a single tenant store
`default` itself, with a multi tenant store the tenant output of the route's input. -/
theorem Pipeline.StandsForDefault.eq (h : route.StandsForDefault source ref)
    (hroute : route ∈ store.routesOf source) (hinputs : source.inputRefs ≠ []) :
    if store.isMultiTenant then
      ∃ input ∈ source.inputRefs, route.inputRefs = [input] ∧ ref = tenantOutput input
    else route = source ∧ ref = defaultOutput := by
  obtain ⟨position, hsource, href⟩ := h
  have hdefault : defaultOutput ∈ source.outputRefs := List.mem_of_getElem? hsource
  unfold Store.routesOf at hroute
  split_ifs at hroute ⊢
  · obtain ⟨place, input, hinput, rfl⟩ :=
      (Tenant.mem_parts_iff (Tenant.isSplit_iff.2 ⟨hdefault, hinputs⟩)).1 hroute
    refine ⟨input, List.mem_of_getElem? hinput, rfl, ?_⟩
    rw [Tenant.part, List.getElem?_map, hsource] at href
    exact (Option.some.inj href).symm
  · obtain rfl := List.mem_singleton.1 hroute
    exact ⟨rfl, Option.some.inj (href.symm.trans hsource)⟩

/-- A pipeline without inputs has no route with some. -/
theorem inputRefs_ne_nil_of_routesOf (hroute : route ∈ store.routesOf source)
    (hinputs : route.inputRefs ≠ []) : source.inputRefs ≠ [] := by
  intro hnil
  have hsplit : ¬ Tenant.isSplit source := fun h => (Tenant.isSplit_iff.1 h).2 hnil
  rw [Store.routesOf, Tenant.parts_of_not_isSplit hsplit, ite_self, List.mem_singleton] at hroute
  exact hinputs (hroute ▸ hnil)

/-- **With a usable store** the references of well formed pipelines that stand for
`default` have outputs. -/
theorem mem_outputNames_of_standsForDefault {migrated : Migrated}
    (hspec : migrated.spec = spec.rerouted store operator)
    (hfits : migrated.owned.Fits spec store)
    (hfailure : (migrated.outputReviews lookup).failure? = none)
    (husable : store.Usable operator lookup) (hsource : source ∈ spec.pipelines)
    (hdefault : defaultOutput ∈ source.outputRefs) (hroute : route ∈ store.routesOf source)
    (hwell : route.isWellFormed migrated.spec.inputs migrated.owned)
    (href : route.StandsForDefault source ref) :
    ref ∈ (migrated.reviewed lookup).spec.outputNames := by
  obtain ⟨-, -, hinputs, hresolved⟩ := Pipeline.isWellFormed_iff.1 hwell
  have heq := href.eq hroute (inputRefs_ne_nil_of_routesOf hroute hinputs)
  rw [Migrated.mem_outputNames_reviewed hfailure, hspec]
  rcases Store.kind_of_isConfigured (Store.isConfigured_of_usable husable) with hkind | hkind
  · have hsingle := Store.isMultiTenant_of_elasticsearch hkind
    have huses : spec.usesDefault := Spec.usesDefault_iff.2 ⟨source, hsource, hdefault⟩
    rw [if_neg hsingle] at heq
    obtain ⟨rfl, rfl⟩ := heq
    rw [Spec.rerouted_of_usesDefault hsingle huses]
    obtain ⟨output, houtput, hname⟩ :=
      Spec.exists_mem_outputs_withDefaultOutput spec store operator
    have howned := hfits.ownsDefault_iff.2 ⟨huses, hsingle⟩
    exact ⟨output, houtput,
      (Spec.isSound_of_mem_withDefaultOutput hkind howned houtput hname).2 husable, hname⟩
  · have hmulti := Store.isMultiTenant_iff.2 hkind
    rw [if_pos hmulti] at heq
    obtain ⟨input, hinput, hroutes, rfl⟩ := heq
    obtain ⟨kind, hresolve⟩ := Option.isSome_iff_exists.1
      (hresolved input (hroutes ▸ List.mem_singleton_self input))
    rw [hspec, Spec.inputs_rerouted] at hresolve
    obtain ⟨output, hmade, hname⟩ := Tenant.exists_mem_made operator.operatorNamespace
      ((Store.usable_iff_of_lokiStack hkind).1 husable)
      (Tenant.mem_neededInputs.2 ⟨source, hsource, hdefault, hinput⟩) hresolve
    rw [Spec.rerouted_of_isMultiTenant hmulti]
    exact ⟨output, List.mem_append_right _ hmade, Tenant.isSound_of_mem_made hmade _ _, hname⟩

/-- A route at a position has a status there, and is kept with its references that stand
for `default` if those have outputs and nothing is wrong with the route itself. -/
theorem exists_status_keepsDefault {migrated : Migrated} {position : Nat}
    (hposition : migrated.spec.pipelines[position]? = some route)
    (hroute : route ∈ store.routesOf source) (hdefault : defaultOutput ∈ source.outputRefs)
    (hrefs : route.isWellFormed migrated.spec.inputs migrated.owned →
      ∀ ref, route.StandsForDefault source ref →
        ref ∈ (migrated.reviewed lookup).spec.outputNames) :
    ∃ status, (migrated.reviewed lookup).status.pipelines[position]? = some status ∧
      ((∀ condition ∈ status.conditions,
          condition.aspect ≠ .name ∧ condition.aspect ≠ .source) →
        (migrated.reviewed lookup).KeepsDefault status source route) := by
  obtain ⟨before, hstatus, hkept, -⟩ := Migrated.exists_status_reviewed lookup hposition
  refine ⟨_, hstatus, fun hclear => ?_⟩
  have hentry := Pipeline.entryConditions_eq_nil_of_status hclear
  obtain ⟨hwell, hfree⟩ := Pipeline.entryConditions_eq_nil_iff.1 hentry
  obtain ⟨ref, href⟩ := exists_standsForDefault hdefault hroute
  have hstate := (Pipeline.state_status_ne_dropped_iff position).2
    ⟨Pipeline.isEligible_iff.2 ⟨hwell, ref, href.mem, hrefs hwell ref href⟩, hfree⟩
  refine ⟨hstate, hkept hstate, fun other hother => ?_, fun other hother => ?_⟩
  · exact List.mem_filter.2 ⟨hother.mem, decide_eq_true (hrefs hwell other hother)⟩
  · exact Pipeline.lostRefCondition_notMem_status hentry (hrefs hwell other hother)

/-- **A reference to `default` never dangles when the store is usable**: a migration
turns every pipeline into its routes, and each route of a pipeline that sends to
`default` is kept with the references that stand for it, unless its status has a
condition on its name or its inputs. -/
theorem default_kept_of_usable {spec : Spec} {store : Store} {lookup : SecretLookup}
    {operator : Operator} {normalized : Normalized}
    (h : (spec.normalize (some store) lookup operator).value = .ok normalized)
    (husable : store.Usable operator lookup) :
    ∃ migrated, (spec.migrate (some store) operator).value = .ok migrated
      ∧ migrated.spec.pipelines =
        (Migrated.bootstrap { spec }).value.spec.pipelines.flatMap store.routesOf
      ∧ ∀ source ∈ (Migrated.bootstrap { spec }).value.spec.pipelines,
        defaultOutput ∈ source.outputRefs → ∀ route ∈ store.routesOf source,
        ∀ position : Nat, migrated.spec.pipelines[position]? = some route →
        ∃ status, normalized.status.pipelines[position]? = some status ∧
          ((∀ condition ∈ status.conditions,
              condition.aspect ≠ .name ∧ condition.aspect ≠ .source) →
            normalized.KeepsDefault status source route) := by
  obtain ⟨owned, hfits, hmigrate⟩ :=
    Spec.migrate_of_isConfigured spec operator (Store.isConfigured_of_usable husable)
  obtain ⟨hfailure, rfl⟩ := (Spec.normalize_eq_ok_iff_of_migrate hmigrate).1 h
  rw [Migrated.spec_bootstrap]
  refine ⟨_, hmigrate, Spec.pipelines_rerouted, ?_⟩
  intro source hsource hdefault route hroute position hposition
  refine exists_status_keepsDefault hposition hroute hdefault fun hwell ref href => ?_
  exact mem_outputNames_of_standsForDefault rfl hfits hfailure husable hsource hdefault hroute
    hwell href

/-- A pipeline that sends to `default` and to an output that is not there. -/
def danglingPipeline : Pipeline :=
  { name := "logs", inputRefs := ["application"], outputRefs := ["gone", "default"] }

/-- A specification with two faulty outputs `default`, and the pipeline above. -/
def danglingSpec : Spec where
  outputs := [{ name := "default", kind := .http }, { name := "default", url := "https://sink" }]
  pipelines := [danglingPipeline]

/-- The store takes the place of both outputs, and the pipeline is kept. -/
theorem default_kept_danglingSpec : ∃ normalized status,
    (danglingSpec.normalize (some (.elasticsearch "es")) (fun name => .ok (some { name }))
      {}).value = .ok normalized
    ∧ normalized.status.pipelines[0]? = some status ∧ status.state = .degraded
    ∧ normalized.KeepsDefault status danglingPipeline danglingPipeline := by
  have h : (danglingSpec.normalize (some (.elasticsearch "es")) (fun name => .ok (some { name }))
    {}).value = .ok _ := rfl
  have hfirst : (danglingSpec.migrate (some (.elasticsearch "es")) {}).value = .ok _ := rfl
  obtain ⟨migrated, hmigrate, -, hroutes⟩ :=
    default_kept_of_usable h ⟨by decide, by decide, { name := "collector" }, rfl⟩
  obtain rfl := Except.ok.inj (hfirst.symm.trans hmigrate)
  obtain ⟨status, hstatus, hkept⟩ := hroutes danglingPipeline List.mem_cons_self (by decide)
    danglingPipeline List.mem_cons_self 0 rfl
  obtain rfl := Option.some.inj hstatus
  exact ⟨_, _, h, rfl, by decide, hkept (by decide)⟩

end LogForwarding
