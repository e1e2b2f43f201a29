import LogForwarding.Proofs.Idempotence

/-!
# The reserved output

An output may be declared under the name `default`, but what a run returns under that name is
the store's own. Without a single tenant store nothing is returned under it, and nothing sends
to it: without any store a reference to `default` fails the run, a multi tenant store has
tenant outputs in its place, and an output that is declared under the name is dropped. With a
single tenant store there is one output `default`, if `default` is used and the store is usable.
Of the declared outputs it has the settings of the first.

## What is proved

* `Spec.find?_outputs_withDefaultOutput`: the first output `default` that a migration places.
* `Migrated.Clean.isFree_of_not_ownsDefault`: where `default` is not recorded, nothing has the
  name, or sends to it.
* `reservedOutput_normalize`: what a run returns under the name.
-/

namespace LogForwarding

open Reserved (defaultOutput)

/-- The settings that are declared for `default`: those of the first output of that name. -/
def Spec.declaredTuning (spec : Spec) : Option Tuning :=
  (spec.outputs.find? (·.name == defaultOutput)).bind (·.elasticsearch)

/-- The output `default` of a single tenant store, with the settings that are declared for it,
or else with those for outputs that are made. -/
def Spec.reservedOutput (spec : Spec) (store : Store) (operator : Operator) : Output where
  name := defaultOutput
  kind := .elasticsearch
  url := store.address operator
  secret := some ⟨operator.collectorSecret⟩
  elasticsearch := spec.declaredTuning <|> spec.defaultTuning

/-- Whether no output has the reserved name, and no pipeline sends to it. -/
structure Spec.IsFreeOfDefault (spec : Spec) : Prop where
  /-- No output has the name. -/
  name_ne : ∀ output ∈ spec.outputs, output.name ≠ defaultOutput
  /-- No pipeline sends to it. -/
  notMem_outputRefs : ∀ pipeline ∈ spec.pipelines, defaultOutput ∉ pipeline.outputRefs

variable {spec : Spec} {store : Store} {operator : Operator} {lookup : SecretLookup}
  {owned : Ownership}

/-! ### The output that is placed -/

/-- **The first output `default`** that is placed has the settings of the first declared one. -/
theorem Spec.find?_outputs_withDefaultOutput (spec : Spec) (store : Store) (operator : Operator) :
    (spec.withDefaultOutput store operator).outputs.find? (·.name == defaultOutput) =
      some (spec.reservedOutput store operator) := by
  unfold withDefaultOutput
  dsimp only
  split_ifs with hany
  · obtain ⟨declared, hdeclared⟩ := Option.isSome_iff_exists.1 (List.find?_isSome.2
      (List.any_eq_true.1 hany))
    have hname : declared.name = defaultOutput := by simpa using List.find?_some hdeclared
    have htuning : spec.declaredTuning = declared.elasticsearch := by
      rw [declaredTuning, hdeclared, Option.bind_some]
    rw [List.find?_map]
    simp only [Function.comp_def, name_replaceDefault_newDefaultOutput]
    rw [hdeclared, Option.map_some, Output.replaceDefault, if_pos hname, reservedOutput, htuning]
    rfl
  · have hnone : spec.outputs.find? (·.name == defaultOutput) = none := by
      rw [List.find?_eq_none]
      exact fun output hmem hname => hany (List.any_eq_true.2 ⟨output, hmem, hname⟩)
    rw [List.find?_append, hnone, reservedOutput, declaredTuning, hnone]
    rfl

/-! ### Free of the reserved output -/

/-- **Where `default` is not recorded**, nothing has the name, or sends to it. -/
theorem Migrated.Clean.isFree_of_not_ownsDefault (h : Clean ⟨spec, owned⟩ lookup)
    (howned : ¬ owned.ownsOutput defaultOutput) : spec.IsFreeOfDefault := by
  have hnames : defaultOutput ∉ spec.outputNames := fun hmem => howned (h.ownsDefault hmem)
  exact
    { name_ne := fun output hmem hname => hnames (hname ▸ List.mem_map_of_mem hmem)
      notMem_outputRefs := fun pipeline hmem href =>
        hnames (h.outputRefs_declared pipeline hmem _ href) }

/-- Of a specification that is free of it, no output has the reserved name. -/
theorem Spec.IsFreeOfDefault.filter_eq_nil (h : spec.IsFreeOfDefault) :
    spec.outputs.filter (·.name == defaultOutput) = [] :=
  List.filter_eq_nil_iff.2 fun output hmem hname => h.name_ne output hmem (eq_of_beq hname)

/-! ### Reviewing it -/

section Review

variable {migrated : Migrated}

/-- If the store is usable, the first output that is placed under the reserved name is left, and
no other. -/
theorem Migrated.filter_reviewed_of_usable (hkind : store.kind = .elasticsearch)
    (howned : migrated.owned.ownsOutput defaultOutput)
    (hspec : migrated.spec = spec.withDefaultOutput store operator)
    (hfailure : (migrated.outputReviews lookup).failure? = none)
    (husable : store.Usable operator lookup) :
    (migrated.reviewed lookup).spec.outputs.filter (·.name == defaultOutput) =
      [spec.reservedOutput store operator] := by
  have hsound : ∀ output ∈ migrated.spec.outputs,
      (output.name == defaultOutput && output.isSound migrated.owned lookup) =
        (output.name == defaultOutput) := by
    intro output hmem
    rw [hspec] at hmem
    rw [Bool.and_eq_left_iff_imp, beq_iff_eq]
    exact fun hname => (Spec.isSound_of_mem_withDefaultOutput hkind howned hmem hname).2 husable
  have hfind : (migrated.spec.outputs.filter (·.isSound migrated.owned lookup)).find?
      (·.name == defaultOutput) = some (spec.reservedOutput store operator) := by
    rw [← List.head?_filter, List.filter_filter, List.filter_congr hsound, List.head?_filter,
      hspec]
    exact Spec.find?_outputs_withDefaultOutput spec store operator
  rw [outputs_reviewed hfailure, filter_firstHolders List.not_mem_nil, hfind]
  rfl

/-- If the store is not usable, none of them is left. -/
theorem Migrated.filter_reviewed_of_not_usable (hkind : store.kind = .elasticsearch)
    (howned : migrated.owned.ownsOutput defaultOutput)
    (hspec : migrated.spec = spec.withDefaultOutput store operator)
    (hfailure : (migrated.outputReviews lookup).failure? = none)
    (husable : ¬ store.Usable operator lookup) :
    (migrated.reviewed lookup).spec.outputs.filter (·.name == defaultOutput) = [] := by
  refine List.filter_eq_nil_iff.2 fun output hmem hname => husable ?_
  obtain ⟨hplaced, hsound⟩ := mem_outputs_of_mem_reviewed hfailure hmem
  rw [hspec] at hplaced
  exact (Spec.isSound_of_mem_withDefaultOutput hkind howned hplaced (eq_of_beq hname)).1 hsound

end Review

/-! ### A run -/

/-- Starting the standard pipelines does not change what the reserved output is. -/
@[simp] theorem Spec.reservedOutput_started :
    spec.started.reservedOutput store operator = spec.reservedOutput store operator := by
  simp only [reservedOutput, declaredTuning, defaultTuning, outputs_started,
    outputDefaults_started]

/-- Without a single tenant store, what a run returns is free of the reserved output. -/
theorem isFree_normalize {store : Option Store} {normalized : Normalized}
    (h : (spec.normalize store lookup operator).value = .ok normalized)
    (hstore : ∀ place ∈ store, place.kind ≠ .elasticsearch) : normalized.spec.IsFreeOfDefault := by
  obtain ⟨migrated, hmigrate, hfailure, rfl⟩ := Spec.normalize_eq_ok_iff.1 h
  refine (Migrated.clean_reviewed hfailure).isFree_of_not_ownsDefault fun howned => ?_
  obtain ⟨-, rfl⟩ | ⟨place, rfl, hplace, -, hfits⟩ := Spec.migrate_cases hmigrate
  · exact absurd howned nofun
  · have hmulti := Store.isMultiTenant_iff.2
      ((Store.kind_of_isConfigured hplace).resolve_left (hstore place rfl))
    exact (hfits.ownsDefault_iff.1 howned).2 hmulti

/-- With a single tenant store, a run returns the store's output under the reserved name if it
is used and the store is usable, and nothing otherwise. -/
theorem filter_outputs_normalize {normalized : Normalized}
    (h : (spec.normalize (some store) lookup operator).value = .ok normalized)
    (hkind : store.kind = .elasticsearch) :
    ((spec.leavesToOperator ∨ spec.usesDefault) ∧ store.Usable operator lookup
        ∧ normalized.spec.outputs.filter (·.name == defaultOutput) =
          [spec.reservedOutput store operator])
      ∨ ¬ ((spec.leavesToOperator ∨ spec.usesDefault) ∧ store.Usable operator lookup)
        ∧ normalized.spec.outputs.filter (·.name == defaultOutput) = [] := by
  have hplace : store.isConfigured := by
    rw [Store.isConfigured, hkind]
    rfl
  have hsingle := Store.isMultiTenant_of_elasticsearch hkind
  obtain ⟨owned, hfits, hmigrate⟩ := Spec.migrate_of_isConfigured spec operator hplace
  obtain ⟨hfailure, rfl⟩ := (Spec.normalize_eq_ok_iff_of_migrate hmigrate).1 h
  rw [← Spec.usesDefault_started, ← Spec.reservedOutput_started]
  by_cases huses : spec.started.usesDefault
  · have howned := hfits.ownsDefault_iff.2 ⟨huses, hsingle⟩
    have hspec : spec.started.rerouted store operator =
        spec.started.withDefaultOutput store operator :=
      Spec.rerouted_of_usesDefault hsingle huses
    by_cases husable : store.Usable operator lookup
    · exact .inl ⟨huses, husable,
        Migrated.filter_reviewed_of_usable hkind howned hspec hfailure husable⟩
    · exact .inr ⟨fun hboth => husable hboth.2,
        Migrated.filter_reviewed_of_not_usable hkind howned hspec hfailure husable⟩
  · refine .inr ⟨fun hboth => huses hboth.1, Spec.IsFreeOfDefault.filter_eq_nil ?_⟩
    exact (Migrated.clean_reviewed hfailure).isFree_of_not_ownsDefault fun howned =>
      huses (hfits.ownsDefault_iff.1 howned).1

/-- **The reserved name is the store's**: without a single tenant store, what a run
returns is free of it. With one, the only output that it returns under the name is that of the
store, and it returns that one exactly if `default` is used and the store is usable. -/
theorem reservedOutput_normalize {spec : Spec} {store : Option Store} {lookup : SecretLookup}
    {operator : Operator} {normalized : Normalized}
    (h : (spec.normalize store lookup operator).value = .ok normalized) :
    ((∀ place ∈ store, place.kind ≠ .elasticsearch) → normalized.spec.IsFreeOfDefault)
    ∧ ∀ place ∈ store, place.kind = .elasticsearch →
      ((spec.leavesToOperator ∨ spec.usesDefault) ∧ place.Usable operator lookup
          ∧ normalized.spec.outputs.filter (·.name == defaultOutput) =
            [spec.reservedOutput place operator])
        ∨ ¬ ((spec.leavesToOperator ∨ spec.usesDefault) ∧ place.Usable operator lookup)
          ∧ normalized.spec.outputs.filter (·.name == defaultOutput) = [] := by
  refine ⟨isFree_normalize h, ?_⟩
  rintro place rfl hkind
  exact filter_outputs_normalize h hkind

/-- A specification that declares two outputs `default`, both unlike that of the store, and has
settings for outputs that are made. -/
def spoofingSpec : Spec where
  outputs :=
    [{ name := "default", kind := .http, url := "https://sink.example", secret := some ⟨"token"⟩
       elasticsearch := some { structuredTypeName := "first" } },
      { name := "default", kind := .elasticsearch, url := "https://es.example:9200"
        elasticsearch := some { structuredTypeName := "second" } }]
  pipelines := [{ name := "logs", inputRefs := ["application"], outputRefs := ["default"] }]
  outputDefaults := some { elasticsearch := some { structuredTypeName := "made" } }

/-- Of both, the settings of the first are all that is returned. -/
theorem reservedOutput_normalize_spoofingSpec : ∃ normalized,
    (spoofingSpec.normalize (some (.elasticsearch "es")) (fun name => .ok (some { name }))
      {}).value = .ok normalized
    ∧ normalized.spec.outputs.filter (·.name == defaultOutput) =
      [{ name := "default", kind := .elasticsearch
         url := ({} : Operator).defaultStoreUrl, secret := some ⟨"collector"⟩
         elasticsearch := some { structuredTypeName := "first" } }] := by
  have h : (spoofingSpec.normalize (some (.elasticsearch "es")) (fun name => .ok (some { name }))
    {}).value = .ok _ := rfl
  obtain ⟨-, -, hplaced⟩ | ⟨hnot, -⟩ := (reservedOutput_normalize h).2 _ rfl rfl
  · exact ⟨_, h, hplaced⟩
  · exact absurd ⟨.inr (by decide), by decide, by decide, { name := "collector" }, rfl⟩ hnot

end LogForwarding
