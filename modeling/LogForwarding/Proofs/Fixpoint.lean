import LogForwarding.Proofs.Acceptance
import LogForwarding.Proofs.StandardPipelines

/-!
# Clean results

A run of which everything is accepted has nothing left to do: a second run, with the same
store, operator and secrets, returns the same specification with the same status. What a
run decides anew (`Spec.Settled`) it decides as before, since nothing was dropped: there is
something left, `default` is used by the same pipelines, and the standard pipelines have
their routes, in the form that the store gives them.

## What is proved

* `Spec.not_leavesToOperator_rerouted_started`: a migration leaves something.
* `Migrated.Clean.of_fits`: in a clean migrated specification a second migration records
  every reserved name that is in use.
* `normalize_eq_self_of_isFullyAccepted`: a clean result comes out of a second run as it is.
-/

namespace LogForwarding

open Reserved (defaultOutput StandardPipeline standardPipelines)

variable {spec : Spec} {store : Store} {operator : Operator} {lookup : SecretLookup}

/-! ### Something is left -/

theorem Store.routesOf_ne_nil {source : Pipeline} : store.routesOf source ≠ [] := by
  unfold Store.routesOf Tenant.parts
  split_ifs with hmulti hsplit
  · simpa using (Tenant.isSplit_iff.1 hsplit).2
  · exact List.cons_ne_nil _ _
  · exact List.cons_ne_nil _ _

/-- Putting a store in place takes no pipeline away. -/
theorem Spec.pipelines_rerouted_eq_nil_iff :
    (spec.rerouted store operator).pipelines = [] ↔ spec.pipelines = [] := by
  rw [Spec.pipelines_rerouted, List.flatMap_eq_nil_iff]
  constructor
  · intro h
    exact List.eq_nil_iff_forall_not_mem.2 fun source hmem =>
      Store.routesOf_ne_nil (h source hmem)
  · intro h source hmem
    rw [h] at hmem
    exact absurd hmem List.not_mem_nil

/-- **A migration leaves something**: either something was declared, or the standard
pipelines are started. -/
theorem Spec.not_leavesToOperator_rerouted_started :
    ¬ (spec.started.rerouted store operator).leavesToOperator := by
  intro hleaves
  have hempty := Spec.leavesToOperator_iff.1 hleaves
  have hpipelines : spec.started.pipelines = [] :=
    Spec.pipelines_rerouted_eq_nil_iff.1 (congrArg Spec.pipelines hempty)
  have hunused : ¬ spec.started.usesDefault := by
    simp [Spec.usesDefault, hpipelines]
  rw [Spec.rerouted_eq_self hunused] at hempty
  by_cases hspec : spec.leavesToOperator
  · obtain rfl := Spec.leavesToOperator_iff.1 hspec
    exact absurd hpipelines (by decide)
  · rw [Spec.started_of_not_leavesToOperator hspec] at hempty
    exact hspec (Spec.leavesToOperator_iff.2 hempty)

/-! ### The reserved names are in use -/

/-- With a single tenant store the same pipelines send to `default`. -/
theorem Spec.usesDefault_rerouted (h : ¬ store.isMultiTenant) :
    (spec.rerouted store operator).usesDefault = spec.usesDefault := by
  rw [Spec.usesDefault, Spec.pipelines_rerouted_of_single h, Spec.usesDefault]

/-- A clean specification stays clean with the names recorded for another one, if that one uses
`default` and has the standard routes wherever the first one does. -/
theorem Migrated.Clean.of_fits_of_imp {owned other : Ownership} {before later : Spec}
    (h : Migrated.Clean ⟨spec, owned⟩ lookup) (hfits : owned.Fits before store)
    (hother : other.Fits later store)
    (huses : before.usesDefault → ¬ store.isMultiTenant → later.usesDefault)
    (hroutes : ∀ standard : StandardPipeline,
      before.HasRoute store standard → later.HasRoute store standard) :
    Migrated.Clean ⟨spec, other⟩ lookup := by
  refine h.of_owned (fun hmem => ?_) fun pipeline hmem hreserved => ?_
  · obtain ⟨hbefore, hsingle⟩ := hfits.ownsDefault_iff.1 (h.ownsDefault hmem)
    exact hother.ownsDefault_iff.2 ⟨huses hbefore hsingle, hsingle⟩
  · obtain ⟨standard, hstandard, hname⟩ := Reserved.isPipelineName_iff.1 hreserved
    have howned := h.ownsPipeline hmem hreserved
    rw [← hname, hfits.ownsPipeline_standard_iff hstandard] at howned
    rw [← hname, hother.ownsPipeline_standard_iff hstandard]
    exact hroutes standard howned

/-- **In a clean migrated specification** a second migration records every reserved name
that is in use. -/
theorem Migrated.Clean.of_fits {owned other : Ownership}
    (h : Migrated.Clean ⟨spec.rerouted store operator, owned⟩ lookup)
    (hfits : owned.Fits spec store) (hother : other.Fits (spec.rerouted store operator) store) :
    Migrated.Clean ⟨spec.rerouted store operator, other⟩ lookup := by
  refine h.of_fits_of_imp hfits hother (fun huses hsingle => ?_) fun _ hroute => hroute.rerouted
  rwa [Spec.usesDefault_rerouted hsingle]

/-! ### A second run -/

/-- **A clean result is a fixpoint**: if a run accepts everything, a second run on what it
returned returns the same again, its status included. -/
theorem normalize_eq_self_of_isFullyAccepted {spec : Spec} {store : Option Store}
    {lookup : SecretLookup} {operator : Operator} {normalized : Normalized}
    (h : (spec.normalize store lookup operator).value = .ok normalized)
    (haccepted : normalized.status.isFullyAccepted) :
    (normalized.spec.normalize store lookup operator).value = .ok normalized := by
  obtain ⟨migrated, hmigrate, hfailure, rfl⟩ := Spec.normalize_eq_ok_iff.1 h
  have hspec := (Migrated.isFullyAccepted_reviewed_iff hfailure).1 haccepted
  have hclean := Migrated.clean_of_isFullyAccepted hfailure haccepted
  obtain ⟨spec', owned⟩ := migrated
  obtain ⟨-, hmigrated⟩ | ⟨place, rfl, hplace, rfl, hfits⟩ := Spec.migrate_cases hmigrate
  · -- The migration changed nothing, so that the second run is the first one again.
    obtain ⟨rfl, rfl⟩ := Migrated.mk.inj hmigrated
    rw [hspec]
    exact h
  · have hrerouted := rerouted_reviewed rfl hfits hfailure
    rw [hspec] at hrerouted ⊢
    obtain ⟨other, hother, hsecond⟩ := Spec.migrate_of_isConfigured
      (spec.started.rerouted place operator) operator hplace
    rw [Spec.started_of_not_leavesToOperator Spec.not_leavesToOperator_rerouted_started]
      at hother hsecond
    rw [hrerouted] at hsecond
    have hagain := hclean.of_fits hfits hother
    rw [Spec.normalize_eq_ok_iff_of_migrate hsecond, hclean.reviewed, hagain.reviewed]
    exact ⟨hagain.failure?, rfl⟩

/-- A specification with a standard pipeline, and one that takes the same logs twice. -/
def routedSpec : Spec where
  outputs := [{ name := "es", kind := .elasticsearch, url := "https://es.svc:9200" }]
  pipelines :=
    [{ name := "default-app-pipeline", inputRefs := ["application"], outputRefs := ["default"] },
      { name := "logs", inputRefs := ["application", "application"]
        outputRefs := ["es", "default"] }]

/-- The same with a multi tenant store in place, which splits the second pipeline. -/
def routedSpecInPlace : Spec where
  outputs := routedSpec.outputs ++
    [{ name := "default-loki-apps", kind := .loki
       url := "https://loki-gateway-http.openshift-logging.svc:8080/api/logs/v1/application" }]
  pipelines :=
    [{ name := "default-app-pipeline", inputRefs := ["application"]
       outputRefs := ["default-loki-apps"] },
      { name := "logs", inputRefs := ["application"], outputRefs := ["es", "default-loki-apps"] },
      { name := "logs-1", inputRefs := ["application"]
        outputRefs := ["es", "default-loki-apps"] }]

/-- The first run puts the store in place, and the second finds nothing more to do. -/
theorem normalize_eq_self_routedSpec :
    (routedSpec.normalize (some (.lokiStack "loki")) (fun _ => .ok none) {}).value =
      .ok ⟨routedSpecInPlace, routedSpecInPlace.acceptedStatus⟩
    ∧ (routedSpecInPlace.normalize (some (.lokiStack "loki")) (fun _ => .ok none) {}).value =
      .ok ⟨routedSpecInPlace, routedSpecInPlace.acceptedStatus⟩ := by
  have h : (routedSpec.normalize (some (.lokiStack "loki")) (fun _ => .ok none) {}).value =
    .ok ⟨routedSpecInPlace, routedSpecInPlace.acceptedStatus⟩ := by decide +kernel
  exact ⟨h, normalize_eq_self_of_isFullyAccepted h (by decide)⟩

end LogForwarding
