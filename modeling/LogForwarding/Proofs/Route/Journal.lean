import LogForwarding.Proofs.Journal
import LogForwarding.Proofs.Route.Migration

/-!
# What a migration lets an observer see

A migration tells what it does to the pipelines and outputs, and counts the outputs that it makes.
It looks nothing up, and counts nothing else. So for any way to value the entries of a journal that
passes over what a migration tells (`Entry.PassesOver`), its journal is worth as much as one entry
that counts the made outputs.

## What is proved

* `Entry.passesOver_raise`, `Entry.passesOver_looksUp`, `Entry.passesOver_warns`: counters,
  look-ups and other warnings pass over what a migration tells.
* `Spec.tally_migrate_of_ok`: the journal of a migration that succeeds.
* `Spec.tally_migrate_of_unconfigured`: without a store nothing is made.
-/

namespace LogForwarding

open Reserved (defaultOutput)

/-- The messages of what a migration tells. -/
def migrationMessages : List String :=
  ["default forwarding disabled, skipping bootstrap",
    "empty forwarding spec, forwarding to the default log store",
    "adopting reserved pipeline",
    "unable to determine tenant for input, no output synthesized",
    "log store has no name, no tenant output synthesized",
    "synthesized tenant outputs",
    "adding default output",
    "default output referenced but no log store is configured"]

/-- Whether a way to value entries passes over what a migration tells, and over what counts
nothing. -/
structure Entry.PassesOver (worth : Entry → Nat) : Prop where
  /-- What a migration tells is worth nothing. -/
  tell : ∀ level component message fields, message ∈ migrationMessages →
    worth (.tell level component message fields) = 0
  /-- What counts nothing is worth nothing. -/
  count_zero : ∀ counter, worth (.count counter 0) = 0

namespace Entry

theorem passesOver_raise (counter : Counter) : PassesOver (raise counter) where
  tell := fun _ _ _ _ _ => rfl
  count_zero := fun _ => ite_self 0

theorem passesOver_looksUp : PassesOver looksUp where
  tell := fun _ _ _ _ _ => rfl
  count_zero := fun _ => rfl

theorem passesOver_warns {message : String} (h : message ∉ migrationMessages) :
    PassesOver (warns message) where
  tell := fun level component told fields hmem => if_neg fun hwarns => by
    have htold : told = message := hwarns.2
    exact h (htold ▸ hmem)
  count_zero := fun _ => rfl

end Entry

variable {worth : Entry → Nat} (h : Entry.PassesOver worth)

include h

/-! ### The steps of a migration -/

section Steps

variable {spec : Spec} {migrated : Migrated} {store : Store} {operator : Operator}

theorem Migrated.tally_bootstrap : migrated.bootstrap.journal.tally worth = 0 := by
  unfold bootstrap
  split_ifs
  · rfl
  · exact h.tell _ _ _ _ (by simp [migrationMessages])
  · exact h.tell _ _ _ _ (by simp [migrationMessages])

theorem Migrated.tally_adopt : (migrated.adopt store).journal.tally worth = 0 := by
  refine Traced.tally_foldlM_eq_zero (fun state standard => ?_) _ _
  unfold adoptOne
  split_ifs
  · exact h.tell _ _ _ _ (by simp [migrationMessages])
  · rfl

theorem Tenant.tally_output (operatorNamespace input : String) :
    (Tenant.output spec store operatorNamespace input).journal.tally worth = 0 := by
  unfold Tenant.output
  split
  · exact h.tell _ _ _ _ (by simp [migrationMessages])
  · split
    · exact h.tell _ _ _ _ (by simp [migrationMessages])
    · rfl

theorem Tenant.tally_outputs (operatorNamespace : String) :
    (Tenant.outputs spec store operatorNamespace).journal.tally worth = 0 := by
  refine Journal.tally_flatMap_eq_zero fun traced hmem => ?_
  obtain ⟨input, -, rfl⟩ := List.mem_map.1 hmem
  exact Tenant.tally_output h operatorNamespace input

theorem Tenant.tally_announce (made : List Output) : (Tenant.announce store made).tally worth =
    worth (.count (.synthesizedOutputs store.kind) made.length) := by
  cases made with
  | nil => exact (h.count_zero _).symm
  | cons output rest =>
    rw [Tenant.announce, List.isEmpty_cons, if_neg Bool.false_ne_true, Journal.tally_cons,
      h.tell _ _ _ _ (by simp [migrationMessages]), Nat.zero_add, Journal.tally_cons,
      Journal.tally_nil, Nat.add_zero]

/-- **Fan-out** counts the outputs of tenants. -/
theorem Migrated.tally_fanOut : (migrated.fanOut store operator).journal.tally worth =
    worth (.count (.synthesizedOutputs store.kind)
      (Tenant.made migrated.spec store operator.operatorNamespace).length) := by
  simp only [fanOut, Tenant.fanOut, Traced.tally_bind, Traced.journal_note, Traced.journal_pure,
    Journal.tally_nil, Tenant.tally_outputs h, Tenant.tally_announce h, Nat.zero_add,
    Nat.add_zero]
  rfl

/-- The preparation for a store counts the outputs of tenants, if the store has any. -/
theorem Migrated.tally_prepare :
    (Migrated.prepare { spec } store operator).journal.tally worth =
      if store.isMultiTenant then worth (.count (.synthesizedOutputs store.kind)
        (Tenant.made spec.started store operator.operatorNamespace).length)
      else 0 := by
  rw [prepare, Traced.tally_bind, Traced.tally_bind, tally_bootstrap h, tally_adopt h,
    Nat.zero_add, Nat.zero_add]
  split_ifs
  · rw [tally_fanOut h, (adopt_bootstrap spec store).1]
  · rfl

/-- **Placing the output of a single tenant store** counts it if none is declared under its
name. -/
theorem Migrated.tally_placeDefaultOutput :
    (migrated.placeDefaultOutput store operator).journal.tally worth =
      worth (.count (.synthesizedOutputs store.kind)
        ((migrated.spec.withDefaultOutput store operator).outputs.length
          - migrated.spec.outputs.length)) := by
  unfold placeDefaultOutput Spec.withDefaultOutput
  dsimp only
  split_ifs
  · rw [List.length_map, Nat.sub_self, h.count_zero]
    rfl
  · rw [List.length_append, Nat.add_sub_cancel_left, Journal.tally_cons,
      h.tell _ _ _ _ (by simp [migrationMessages]), Nat.zero_add, Journal.tally_cons,
      Journal.tally_nil, Nat.add_zero]
    rfl

theorem Migrated.tally_resolveDefault_none :
    (migrated.resolveDefault none operator).journal.tally worth = 0 := by
  unfold resolveDefault
  dsimp only
  split_ifs
  · rfl
  · exact h.tell _ _ _ _ (by simp [migrationMessages])

omit h in
theorem Migrated.tally_resolveDefault_of_multi (hmulti : store.isMultiTenant) :
    (migrated.resolveDefault (some store) operator).journal.tally worth = 0 := by
  unfold resolveDefault
  dsimp only
  split_ifs <;> rfl

/-- With a single tenant store, resolving `default` counts the outputs that are made. -/
theorem Migrated.tally_resolveDefault_of_single (hsingle : ¬ store.isMultiTenant) :
    (migrated.resolveDefault (some store) operator).journal.tally worth =
      worth (.count (.synthesizedOutputs store.kind)
        ((migrated.spec.rerouted store operator).outputs.length
          - migrated.spec.outputs.length)) := by
  have hindex : (RouteIndex.ofPipelines migrated.spec.pipelines).isReferenced defaultOutput =
      migrated.spec.usesDefault := RouteIndex.isReferenced_ofPipelines _ _
  unfold resolveDefault
  dsimp only
  rw [hindex]
  by_cases huses : migrated.spec.usesDefault
  · rw [if_neg (by simp [huses]), if_neg hsingle, Traced.journal_map,
      tally_placeDefaultOutput h, Spec.rerouted_of_usesDefault hsingle huses]
  · rw [if_pos (by simp [huses]), Spec.rerouted_eq_self huses, Nat.sub_self, h.count_zero]
    rfl

end Steps

/-! ### A migration -/

namespace Spec

variable {spec : Spec} {operator : Operator}

/-- **Without a store** a migration counts nothing. -/
theorem tally_migrate_of_unconfigured {store : Option Store}
    (hstore : store.filter (·.isConfigured) = none) :
    (spec.migrate store operator).journal.tally worth = 0 := by
  rw [migrate, hstore, Traced.tally_bind, Migrated.tally_resolveDefault_none h]
  rfl

/-- With a store, it counts the outputs that it makes. -/
theorem tally_migrate_of_isConfigured {store : Store} (hplace : store.isConfigured) :
    (spec.migrate (some store) operator).journal.tally worth =
      worth (.count (.synthesizedOutputs store.kind)
        ((spec.started.rerouted store operator).outputs.length - spec.outputs.length)) := by
  rw [migrate, Option.filter_some_pos hplace, Traced.tally_bind, Migrated.tally_prepare h]
  by_cases hmulti : store.isMultiTenant
  · rw [if_pos hmulti, Migrated.tally_resolveDefault_of_multi hmulti, rerouted_of_isMultiTenant
      hmulti, Tenant.fannedOut, List.length_append, outputs_started, Nat.add_sub_cancel_left,
      Nat.add_zero]
  · obtain ⟨owned, hprepare, -⟩ := Migrated.exists_prepare spec store operator
    rw [if_neg hmulti] at hprepare ⊢
    rw [hprepare, Migrated.tally_resolveDefault_of_single h hmulti, outputs_started, Nat.zero_add]

/-- **A migration that succeeds** counts the outputs that are there in addition. -/
theorem tally_migrate_of_ok {store : Option Store} {migrated : Migrated}
    (hmigrate : (spec.migrate store operator).value = .ok migrated) :
    (spec.migrate store operator).journal.tally worth =
      worth (.count (.synthesizedOutputs (Store.kindOf store))
        (migrated.spec.outputs.length - spec.outputs.length)) := by
  cases hstore : store.filter (·.isConfigured) with
  | none =>
    obtain ⟨-, rfl⟩ := (migrate_of_unconfigured hstore).1 hmigrate
    rw [tally_migrate_of_unconfigured h hstore, Nat.sub_self, h.count_zero]
  | some place =>
    obtain ⟨rfl, hplace⟩ := Option.filter_eq_some_iff.1 hstore
    rw [tally_migrate_of_isConfigured h hplace, (fits_of_migrate hplace hmigrate).1]
    rfl

omit h in
/-- A migration adds outputs, and removes none. -/
theorem length_outputs_le_of_migrate {store : Option Store} {migrated : Migrated}
    (hmigrate : (spec.migrate store operator).value = .ok migrated) :
    spec.outputs.length ≤ migrated.spec.outputs.length := by
  obtain ⟨-, rfl⟩ | ⟨place, rfl, -, hspec, -⟩ := migrate_cases hmigrate
  · exact Nat.le_refl _
  · rw [hspec, rerouted, withDefaultOutput, outputs_started]
    split_ifs
    · rw [Tenant.fannedOut, outputs_started, List.length_append]
      exact Nat.le_add_right _ _
    · exact Nat.le_of_eq (List.length_map _).symm
    · rw [List.length_append]
      exact Nat.le_add_right _ _
    · exact Nat.le_of_eq (congrArg List.length outputs_started.symm)

end Spec

end LogForwarding
