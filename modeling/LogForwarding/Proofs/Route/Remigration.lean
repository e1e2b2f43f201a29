import LogForwarding.Proofs.Fixpoint
import LogForwarding.Proofs.Route.Conservation

/-!
# Migrating twice

A migration recognizes what an earlier one did. What it puts in the place of `default` is not a
reference to `default` any more, so that no pipeline is split again and no tenant gets another
output. An output `default` is rebuilt from the same parts, and keeps the settings that the
first migration gave it. The standard pipelines are not started again, since something is left.

This is about migrations alone. Between the migrations of two runs there is a review, which may
drop what the second one would have to recognize.

## What is proved

* `Tenant.fannedOut_fannedOut`, `Spec.withDefaultOutput_withDefaultOutput`: putting a store in
  place twice is the same as once.
* `Spec.rerouted_rerouted`: so it is whatever the store.
* `migrate_eq_self_of_migrate`: a migrated specification comes out of a second migration as it
  is.
-/

namespace LogForwarding

open Reserved (defaultOutput)

variable {spec : Spec} {store : Store} {operator : Operator}

/-- No pipeline has to be split after fan-out. -/
theorem Tenant.not_isSplit_of_mem_fannedOut {operatorNamespace : String} {pipeline : Pipeline}
    (h : pipeline ∈ (fannedOut spec store operatorNamespace).pipelines) : ¬ isSplit pipeline := by
  obtain ⟨source, -, hpart⟩ := List.mem_flatMap.1 h
  intro hsplit
  obtain ⟨hdefault, hinputs⟩ := isSplit_iff.1 hsplit
  exact default_notMem_of_mem_parts hpart hinputs hdefault

/-- Fan-out has nothing to do after fan-out. -/
theorem Tenant.fannedOut_fannedOut (spec : Spec) (store : Store) (operatorNamespace : String) :
    fannedOut (fannedOut spec store operatorNamespace) store operatorNamespace =
      fannedOut spec store operatorNamespace :=
  fannedOut_eq_self_of_not_isSplit fun _ => not_isSplit_of_mem_fannedOut

namespace Spec

/-- What is put in the place of `default` does not depend on what is declared there. -/
theorem newDefaultOutput_withDefaultOutput :
    (spec.withDefaultOutput store operator).newDefaultOutput store operator =
      spec.newDefaultOutput store operator := rfl

/-- An output `default` that stands for the store is rebuilt as it is. -/
theorem withDefaultOutput_withDefaultOutput (spec : Spec) (store : Store) (operator : Operator) :
    (spec.withDefaultOutput store operator).withDefaultOutput store operator =
      spec.withDefaultOutput store operator := by
  obtain ⟨placed, hplaced, hname⟩ := exists_mem_outputs_withDefaultOutput spec store operator
  refine withDefaultOutput_eq_self (List.mem_map.2 ⟨placed, hplaced, hname⟩) ?_
  intro output houtput hdefault
  rw [newDefaultOutput_withDefaultOutput]
  exact (mem_outputs_withDefaultOutput houtput hdefault).2

/-- **Putting a store in place twice** is the same as once. -/
theorem rerouted_rerouted (spec : Spec) (store : Store) (operator : Operator) :
    (spec.rerouted store operator).rerouted store operator = spec.rerouted store operator := by
  by_cases hmulti : store.isMultiTenant
  · rw [rerouted_of_isMultiTenant hmulti, rerouted_of_isMultiTenant hmulti,
      Tenant.fannedOut_fannedOut]
  by_cases huses : spec.usesDefault
  · have hagain : (spec.rerouted store operator).usesDefault := by rwa [usesDefault_rerouted hmulti]
    rw [rerouted_of_usesDefault hmulti hagain, rerouted_of_usesDefault hmulti huses,
      withDefaultOutput_withDefaultOutput]
  · rw [rerouted_eq_self huses, rerouted_eq_self huses]

end Spec

/-- **A migrated specification comes out of a second migration as it is**, with the same store
and operator. -/
theorem migrate_eq_self_of_migrate {spec : Spec} {store : Option Store} {operator : Operator}
    {migrated : Migrated} (h : (spec.migrate store operator).value = .ok migrated) :
    ∃ again, (migrated.spec.migrate store operator).value = .ok again
      ∧ again.spec = migrated.spec := by
  obtain ⟨-, rfl⟩ | ⟨place, rfl, hplace, hspec, -⟩ := Spec.migrate_cases h
  · exact ⟨_, h, rfl⟩
  · obtain ⟨owned, -, hagain⟩ := Spec.migrate_of_isConfigured migrated.spec operator hplace
    have hstarted : migrated.spec.started = migrated.spec := by
      rw [hspec]
      exact Spec.started_of_not_leavesToOperator Spec.not_leavesToOperator_rerouted_started
    refine ⟨_, hagain, ?_⟩
    rw [hstarted, hspec]
    exact Spec.rerouted_rerouted _ place operator

/-- A specification that declares the output `default` twice, with settings and without, and that
has settings for outputs that are made. -/
def tunedSpec : Spec where
  outputs :=
    [{ name := "default", kind := .http, elasticsearch := some { structuredTypeKey := "key" } },
      { name := "default", kind := .kafka }]
  pipelines := [{ name := "logs", inputRefs := ["application"], outputRefs := ["default"] }]
  outputDefaults := some { elasticsearch := some { structuredTypeName := "made" } }

/-- The first migration replaces both outputs, and gives them different settings. The second one
leaves them so. -/
theorem migrate_eq_self_tunedSpec : ∃ migrated again,
    (tunedSpec.migrate (some (.elasticsearch "es")) {}).value = .ok migrated
    ∧ migrated.spec ≠ tunedSpec
    ∧ migrated.spec.outputs.map (·.elasticsearch) =
      [some { structuredTypeKey := "key" }, some { structuredTypeName := "made" }]
    ∧ (migrated.spec.migrate (some (.elasticsearch "es")) {}).value = .ok again
    ∧ again.spec = migrated.spec := by
  have h : (tunedSpec.migrate (some (.elasticsearch "es")) {}).value = .ok _ := rfl
  obtain ⟨again, hagain, hspec⟩ := migrate_eq_self_of_migrate h
  exact ⟨_, again, h, by decide, by decide, hagain, hspec⟩

end LogForwarding
