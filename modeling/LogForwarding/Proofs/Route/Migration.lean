import LogForwarding.Route.Default
import LogForwarding.Proofs.Route.Index
import LogForwarding.Proofs.Route.Tenant

/-!
# Migration in closed form

A migration goes through four steps in a row, each with its own journal. Here its
result is stated without them: `Spec.started` adds the standard pipelines,
`Spec.rerouted` puts the store in the place of `default`, and `Ownership.Fits` says
which reserved names are recorded.

## What is proved

* `Spec.migrate_of_isConfigured`: with a store, a migration always succeeds.
* `Spec.value_migrate_of_unconfigured`: without a store it changes nothing, and fails iff
  some pipeline sends to `default`.
* `Spec.migrate_cases`: what a successful migration does.
* `Spec.rerouted_eq_self`: without a reference to `default` nothing is rerouted.
-/

namespace LogForwarding

open Reserved (defaultOutput StandardPipeline standardPipelines)

namespace Spec

/-- Whether a specification leaves it to the operator what is forwarded: nothing is
declared, and default forwarding is on. -/
def leavesToOperator (spec : Spec) : Bool := spec.isEmpty && !spec.disableDefaultForwarding

/-- A specification with the standard pipelines, if it leaves it to the operator what
is forwarded. -/
def started (spec : Spec) : Spec :=
  if spec.leavesToOperator then
    { spec with pipelines := spec.pipelines ++ standardPipelines.map (·.pipeline) }
  else spec

/-- Whether some pipeline has the name and the route of a standard pipeline. -/
def HasRoute (spec : Spec) (store : Store) (standard : StandardPipeline) : Prop :=
  ∃ pipeline ∈ spec.pipelines, pipeline.name = standard.name ∧ standard.isRouteOf store pipeline

/-- A specification with the output of a single tenant store in the place of `default`. -/
def withDefaultOutput (spec : Spec) (store : Store) (operator : Operator) : Spec :=
  let made := spec.newDefaultOutput store operator
  { spec with
    outputs :=
      if spec.outputs.any (·.name == defaultOutput) then spec.outputs.map made.replaceDefault
      else spec.outputs ++ [made] }

/-- A specification with a store in the place of `default`. -/
def rerouted (spec : Spec) (store : Store) (operator : Operator) : Spec :=
  if store.isMultiTenant then Tenant.fannedOut spec store operator.operatorNamespace
  else if spec.usesDefault then spec.withDefaultOutput store operator
  else spec

variable {spec : Spec} {store : Store} {operator : Operator}

/-- Only the specification that says nothing at all starts the standard pipelines. -/
theorem leavesToOperator_iff : spec.leavesToOperator ↔ spec = {} := by
  constructor
  · obtain ⟨outputs, pipelines, inputs, disabled, outputDefaults⟩ := spec
    simp only [leavesToOperator, isEmpty, Bool.and_eq_true, List.isEmpty_iff,
      Option.isNone_iff_eq_none, Bool.not_eq_true']
    rintro ⟨⟨⟨⟨rfl, rfl⟩, rfl⟩, rfl⟩, rfl⟩
    rfl
  · rintro rfl
    rfl

theorem started_of_not_leavesToOperator (h : ¬ spec.leavesToOperator) : spec.started = spec :=
  if_neg h

/-- A specification with a pipeline does not start any other. -/
theorem started_of_mem {pipeline : Pipeline} (h : pipeline ∈ spec.pipelines) :
    spec.started = spec := by
  refine started_of_not_leavesToOperator fun hleaves => ?_
  rw [leavesToOperator_iff.1 hleaves] at h
  exact List.not_mem_nil h

@[simp] theorem outputs_started : spec.started.outputs = spec.outputs := by
  unfold started
  split_ifs <;> rfl

@[simp] theorem outputDefaults_started : spec.started.outputDefaults = spec.outputDefaults := by
  unfold started
  split_ifs <;> rfl

/-- Once started, a specification sends to `default` if it does so itself, or if the standard
pipelines are started, which do. -/
theorem usesDefault_started :
    spec.started.usesDefault ↔ spec.leavesToOperator ∨ spec.usesDefault := by
  by_cases h : spec.leavesToOperator
  · obtain rfl := leavesToOperator_iff.1 h
    decide
  · rw [started_of_not_leavesToOperator h, or_iff_right h]

@[simp] theorem inputs_rerouted : (spec.rerouted store operator).inputs = spec.inputs := by
  unfold rerouted
  split_ifs <;> rfl

@[simp] theorem outputDefaults_rerouted :
    (spec.rerouted store operator).outputDefaults = spec.outputDefaults := by
  unfold rerouted
  split_ifs <;> rfl

@[simp] theorem disableDefaultForwarding_rerouted :
    (spec.rerouted store operator).disableDefaultForwarding = spec.disableDefaultForwarding := by
  unfold rerouted
  split_ifs <;> rfl

theorem rerouted_of_isMultiTenant (h : store.isMultiTenant) : spec.rerouted store operator =
    Tenant.fannedOut spec store operator.operatorNamespace :=
  if_pos h

theorem rerouted_of_usesDefault (h : ¬ store.isMultiTenant) (huses : spec.usesDefault) :
    spec.rerouted store operator = spec.withDefaultOutput store operator := by
  rw [rerouted, if_neg h, if_pos huses]

/-- With a single tenant store the pipelines stay as they are. -/
theorem pipelines_rerouted_of_single (h : ¬ store.isMultiTenant) :
    (spec.rerouted store operator).pipelines = spec.pipelines := by
  unfold rerouted
  rw [if_neg h]
  split_ifs <;> rfl

/-- Without a reference to `default` nothing is rerouted. -/
theorem rerouted_eq_self (h : ¬ spec.usesDefault) : spec.rerouted store operator = spec := by
  unfold rerouted
  rw [if_neg h, Tenant.fannedOut_eq_self h, ite_self]

end Spec

/-! ### The names that are recorded -/

/-- The reserved names that are recorded for a specification and a store: the standard
pipelines that are there with their route, and `default` if it stands for an output. -/
structure Ownership.Fits (owned : Ownership) (spec : Spec) (store : Store) : Prop where
  /-- The recorded pipelines. -/
  ownsPipeline_iff : ∀ name, owned.ownsPipeline name ↔
    ∃ standard ∈ standardPipelines, standard.name = name ∧ spec.HasRoute store standard
  /-- Whether `default` is recorded. -/
  ownsDefault_iff : owned.ownsOutput defaultOutput ↔
    spec.usesDefault ∧ ¬ store.isMultiTenant

/-- Recording the names of standard pipelines one after the other puts them in front. -/
theorem Ownership.foldl_claimPipeline (owned : Ownership) (l : List StandardPipeline) :
    l.foldl (fun owned standard => owned.claimPipeline standard.name) owned =
      { owned with pipelines := (l.map (·.name)).reverse ++ owned.pipelines } := by
  induction l generalizing owned with
  | nil => rfl
  | cons standard rest ih =>
    rw [List.foldl_cons, ih, claimPipeline, List.map_cons, List.reverse_cons, List.append_assoc]
    rfl

/-- Recording the names of outputs one after the other puts them in front. -/
theorem Ownership.foldl_claimOutput (owned : Ownership) (l : List Output) :
    l.foldl (fun owned output => owned.claimOutput output.name) owned =
      { owned with outputs := (l.map (·.name)).reverse ++ owned.outputs } := by
  induction l generalizing owned with
  | nil => rfl
  | cons output rest ih =>
    rw [List.foldl_cons, ih, claimOutput, List.map_cons, List.reverse_cons, List.append_assoc]
    rfl

namespace Migrated

variable {migrated : Migrated} {spec : Spec} {store : Store} {operator : Operator}

theorem holds_iff {standard : StandardPipeline} :
    migrated.holds store standard ↔ migrated.spec.HasRoute store standard := by
  simp [holds, Spec.HasRoute]

/-! ### The steps of a migration -/

theorem value_bootstrap (spec : Spec) : (bootstrap { spec }).value =
    ⟨spec.started,
      if spec.leavesToOperator then
        standardPipelines.foldl (fun owned standard => owned.claimPipeline standard.name) {}
      else {}⟩ := by
  by_cases hempty : spec.isEmpty <;> by_cases hoff : spec.disableDefaultForwarding <;>
    simp [bootstrap, Spec.started, Spec.leavesToOperator, hempty, hoff]

theorem spec_bootstrap (spec : Spec) : (bootstrap { spec }).value.spec = spec.started := by
  rw [value_bootstrap]

theorem ownsPipeline_bootstrap {name : String} :
    (bootstrap { spec }).value.owned.ownsPipeline name ↔
      spec.leavesToOperator ∧ ∃ standard ∈ standardPipelines, standard.name = name := by
  rw [value_bootstrap]
  by_cases h : spec.leavesToOperator
  · simp only [h, if_true, true_and, Ownership.foldl_claimPipeline, Ownership.ownsPipeline,
      List.contains_iff_mem, List.append_nil, List.mem_reverse, List.mem_map]
  · simp [h, Ownership.ownsPipeline]

theorem ownsOutput_bootstrap {name : String} :
    (bootstrap { spec }).value.owned.ownsOutput name = false := by
  rw [value_bootstrap]
  split_ifs <;> rfl

/-- Started specifications have the route of every standard pipeline that they record. -/
theorem hasRoute_started (h : spec.leavesToOperator) {standard : StandardPipeline}
    (hmem : standard ∈ standardPipelines) : spec.started.HasRoute store standard := by
  rw [Spec.started, if_pos h]
  refine ⟨standard.pipeline, List.mem_append_right _ (List.mem_map_of_mem hmem), rfl, ?_⟩
  simp [StandardPipeline.isRouteOf, StandardPipeline.pipeline]

theorem spec_adoptOne (standard : StandardPipeline) :
    (migrated.adoptOne store standard).value.spec = migrated.spec := by
  unfold adoptOne
  split_ifs <;> rfl

theorem ownsOutput_adoptOne (standard : StandardPipeline) (name : String) :
    (migrated.adoptOne store standard).value.owned.ownsOutput name =
      migrated.owned.ownsOutput name := by
  unfold adoptOne
  split_ifs <;> rfl

theorem ownsPipeline_adoptOne {standard : StandardPipeline} {name : String} :
    (migrated.adoptOne store standard).value.owned.ownsPipeline name ↔
      migrated.owned.ownsPipeline name
        ∨ standard.name = name ∧ migrated.spec.HasRoute store standard := by
  rw [← holds_iff]
  unfold adoptOne
  split_ifs with h
  · rw [Bool.and_eq_true] at h
    rw [Ownership.ownsPipeline_claimPipeline, Bool.or_eq_true, beq_iff_eq, or_comm, h.1]
    simp only [and_true, eq_comm]
  · constructor
    · exact Or.inl
    · rintro (howned | ⟨rfl, hholds⟩)
      · exact howned
      · simpa [hholds] using h

/-- Adoption records the standard pipelines that are there with their route, and
changes nothing else. -/
theorem foldlM_adoptOne (store : Store) (l : List StandardPipeline) (migrated : Migrated) :
    (l.foldlM (adoptOne · store ·) migrated).value.spec = migrated.spec
      ∧ (∀ name, (l.foldlM (adoptOne · store ·) migrated).value.owned.ownsOutput name =
          migrated.owned.ownsOutput name)
      ∧ ∀ name, (l.foldlM (adoptOne · store ·) migrated).value.owned.ownsPipeline name ↔
          migrated.owned.ownsPipeline name
            ∨ ∃ standard ∈ l, standard.name = name ∧ migrated.spec.HasRoute store standard := by
  induction l generalizing migrated with
  | nil => simp
  | cons standard rest ih =>
    obtain ⟨hspec, houtput, hpipeline⟩ := ih (migrated.adoptOne store standard).value
    rw [List.foldlM_cons, Traced.value_bind]
    refine ⟨hspec.trans (spec_adoptOne standard),
      fun name => (houtput name).trans (ownsOutput_adoptOne standard name), fun name => ?_⟩
    rw [hpipeline, ownsPipeline_adoptOne, spec_adoptOne, List.exists_mem_cons_iff, or_assoc]

/-- The names recorded before fan-out are those of the standard pipelines that are
there with their route, and no outputs. -/
theorem adopt_bootstrap (spec : Spec) (store : Store) :
    ((bootstrap { spec }).value.adopt store).value.spec = spec.started
      ∧ (∀ name, ((bootstrap { spec }).value.adopt store).value.owned.ownsOutput name = false)
      ∧ ∀ name, ((bootstrap { spec }).value.adopt store).value.owned.ownsPipeline name ↔
          ∃ standard ∈ standardPipelines, standard.name = name
            ∧ spec.started.HasRoute store standard := by
  obtain ⟨hspec, houtput, hpipeline⟩ :=
    foldlM_adoptOne store standardPipelines (bootstrap { spec }).value
  rw [spec_bootstrap] at hspec hpipeline
  refine ⟨hspec, fun name => (houtput name).trans ownsOutput_bootstrap, fun name => ?_⟩
  rw [adopt, hpipeline, ownsPipeline_bootstrap]
  constructor
  · rintro (⟨hleaves, standard, hmem, hname⟩ | hroute)
    · exact ⟨standard, hmem, hname, hasRoute_started hleaves hmem⟩
    · exact hroute
  · exact Or.inr

theorem value_fanOut (migrated : Migrated) :
    (migrated.fanOut store operator).value =
      ⟨Tenant.fannedOut migrated.spec store operator.operatorNamespace,
        (Tenant.made migrated.spec store operator.operatorNamespace).foldl
          (fun owned output => owned.claimOutput output.name) migrated.owned⟩ := rfl

/-- After the preparation for a store, its standard pipelines are recorded, and
`default` is not. -/
theorem exists_prepare (spec : Spec) (store : Store) (operator : Operator) : ∃ owned,
    (prepare { spec } store operator).value =
      ⟨if store.isMultiTenant then
          Tenant.fannedOut spec.started store operator.operatorNamespace
        else spec.started, owned⟩
      ∧ owned.ownsOutput defaultOutput = false
      ∧ ∀ name, owned.ownsPipeline name ↔ ∃ standard ∈ standardPipelines,
          standard.name = name ∧ spec.started.HasRoute store standard := by
  obtain ⟨hspec, houtput, hpipeline⟩ := adopt_bootstrap spec store
  rw [prepare, Traced.value_bind, Traced.value_bind]
  generalize ((bootstrap { spec }).value.adopt store).value = adopted at hspec houtput hpipeline
  obtain ⟨started, owned⟩ := adopted
  obtain rfl : started = spec.started := hspec
  split_ifs with h
  · refine ⟨_, value_fanOut _, ?_, ?_⟩
    · rw [Ownership.foldl_claimOutput, ← Bool.not_eq_true, Ownership.ownsOutput,
        List.contains_iff_mem, List.mem_append, List.mem_reverse, List.mem_map]
      rintro (⟨output, hmade, hname⟩ | howned)
      · exact Tenant.name_ne_default_of_mem_made hmade hname
      · exact Bool.eq_false_iff.1 (houtput defaultOutput) (List.contains_iff_mem.2 howned)
    · intro name
      rw [Ownership.foldl_claimOutput]
      exact hpipeline name
  · exact ⟨owned, rfl, houtput defaultOutput, hpipeline⟩

/-- Placing the output of a single tenant store records `default`, and no pipeline. -/
theorem value_placeDefaultOutput (migrated : Migrated) :
    (migrated.placeDefaultOutput store operator).value =
      ⟨migrated.spec.withDefaultOutput store operator,
        migrated.owned.claimOutput defaultOutput⟩ := by
  unfold placeDefaultOutput Spec.withDefaultOutput
  split_ifs <;> rfl

/-- References to `default` are resolved for a single tenant store only: without a store
they are an error, and a multi tenant store has no output `default`. -/
theorem value_resolveDefault (migrated : Migrated) (store : Option Store) :
    (migrated.resolveDefault store operator).value =
      if migrated.spec.usesDefault then
        match store with
        | none => .error (.noLogStore
            ((RouteIndex.ofPipelines migrated.spec.pipelines).referencing defaultOutput))
        | some store =>
          if store.isMultiTenant then .ok migrated
          else .ok ⟨migrated.spec.withDefaultOutput store operator,
            migrated.owned.claimOutput defaultOutput⟩
      else .ok migrated := by
  have hindex : (RouteIndex.ofPipelines migrated.spec.pipelines).isReferenced defaultOutput =
      migrated.spec.usesDefault := RouteIndex.isReferenced_ofPipelines _ _
  unfold resolveDefault
  simp only [hindex, ← value_placeDefaultOutput]
  cases migrated.spec.usesDefault with
  | false => rfl
  | true =>
    cases store with
    | none => rfl
    | some store =>
      simp only [Bool.not_true, Bool.false_eq_true, if_true, if_false]
      split_ifs <;> rfl

end Migrated

namespace Spec

variable {spec : Spec} {store : Store} {operator : Operator}

/-- **With a store a migration always succeeds**: it starts the specification, puts the
store in the place of `default`, and records the names that fit. -/
theorem migrate_of_isConfigured (spec : Spec) (operator : Operator) (h : store.isConfigured) :
    ∃ owned, owned.Fits spec.started store ∧
      (spec.migrate (some store) operator).value =
        .ok ⟨spec.started.rerouted store operator, owned⟩ := by
  obtain ⟨owned, hprepare, hdefault, hpipeline⟩ := Migrated.exists_prepare spec store operator
  have hmigrate : (spec.migrate (some store) operator).value =
      ((Migrated.prepare { spec } store operator).value.resolveDefault (some store)
        operator).value := by
    rw [migrate, Option.filter_some_pos h]
    rfl
  rw [hmigrate, hprepare, Migrated.value_resolveDefault]
  by_cases hmulti : store.isMultiTenant
  · refine ⟨owned, ⟨hpipeline, by simp [hdefault, hmulti]⟩, ?_⟩
    simp only [hmulti, if_true, ite_self, rerouted_of_isMultiTenant hmulti]
  · by_cases huses : spec.started.usesDefault
    · refine ⟨owned.claimOutput defaultOutput, ⟨hpipeline, by simp [hmulti, huses]⟩, ?_⟩
      simp [hmulti, huses, rerouted_of_usesDefault hmulti huses]
    · refine ⟨owned, ⟨hpipeline, by simp [hdefault, huses]⟩, ?_⟩
      simp [hmulti, huses, rerouted_eq_self huses]

/-- With a store there is only one migrated specification, and the recorded names fit. -/
theorem fits_of_migrate {migrated : Migrated} (h : store.isConfigured)
    (hmigrate : (spec.migrate (some store) operator).value = .ok migrated) :
    migrated.spec = spec.started.rerouted store operator
      ∧ migrated.owned.Fits spec.started store := by
  obtain ⟨owned, hfits, hfirst⟩ := migrate_of_isConfigured spec operator h
  obtain rfl := Except.ok.inj (hfirst.symm.trans hmigrate)
  exact ⟨rfl, hfits⟩

/-- The pipelines that send to `default`, as reports show them, each once. -/
def defaultReferrers (spec : Spec) : List String :=
  (RouteIndex.referrers defaultOutput spec.pipelines.zipIdx).eraseDups

/-- **Without a store a migration changes nothing**, and no pipeline may send to
`default`. -/
theorem value_migrate_of_unconfigured {store : Option Store}
    (h : store.filter (·.isConfigured) = none) : (spec.migrate store operator).value =
      if spec.usesDefault then .error (.noLogStore spec.defaultReferrers) else .ok { spec } := by
  have hmigrate : (spec.migrate store operator).value =
      (({ spec } : Migrated).resolveDefault none operator).value := by
    rw [migrate, h]
    rfl
  rw [hmigrate, Migrated.value_resolveDefault, RouteIndex.referencing_ofPipelines]
  rfl

theorem migrate_of_unconfigured {store : Option Store} {migrated : Migrated}
    (h : store.filter (·.isConfigured) = none) :
    (spec.migrate store operator).value = .ok migrated ↔
      ¬ spec.usesDefault ∧ migrated = { spec } := by
  rw [value_migrate_of_unconfigured h]
  split_ifs with huses
  · simp [huses]
  · simp [huses, eq_comm]

/-- **What a successful migration does**: nothing without a store; with one it starts the
specification, puts the store in the place of `default`, and records the names that fit. -/
theorem migrate_cases {store : Option Store} {migrated : Migrated}
    (h : (spec.migrate store operator).value = .ok migrated) :
    ((∀ place ∈ store, ¬ place.isConfigured) ∧ migrated = { spec })
      ∨ ∃ place, store = some place ∧ place.isConfigured
        ∧ migrated.spec = spec.started.rerouted place operator
        ∧ migrated.owned.Fits spec.started place := by
  cases hstore : store.filter (·.isConfigured) with
  | none =>
    exact Or.inl ⟨Option.filter_eq_none_iff.1 hstore, ((migrate_of_unconfigured hstore).1 h).2⟩
  | some place =>
    obtain ⟨rfl, hplace⟩ := Option.filter_eq_some_iff.1 hstore
    exact Or.inr ⟨place, rfl, hplace, fits_of_migrate hplace h⟩

end Spec

end LogForwarding
