import LogForwarding.Proofs.Integrity
import LogForwarding.Proofs.ReservedOutput

/-!
# Changing the settings for outputs that are made

With a single tenant store a run adds an output `default` where pipelines send to it, with the
settings for outputs that are made. One may expect that these settings, changed in what the run
returned, reach the output in the next run. But that run finds an output `default` declared, and
a declared output keeps the settings that it has. Its address and its secret are the store's, on
every run. So settings that were made once outlive what they were made from, and only an output
that was made without settings gets them later.

## What is proved

* `filter_outputs_withDefaults`: one run on what another one returned, with other settings.
* `Retuned.filter_outputs`: any number of such runs. The first settings that there were stay.
* `exists_normalize_withDefaults`: the second run succeeds.
* `filter_outputs_withDefaults_normalize`: the output `default` of the second run, and when it is
  the one that would be made.
* `exists_outlived_settings`: it is not always.
-/

namespace LogForwarding

open Reserved (defaultOutput)

/-- A specification with other settings for outputs that are made. -/
def Spec.withDefaults (spec : Spec) (defaults : Option OutputDefaults) : Spec :=
  { spec with outputDefaults := defaults }

/-- The output of a single tenant store with the given settings. -/
def Store.outputWith (store : Store) (operator : Operator) (tuning : Option Tuning) : Output where
  name := defaultOutput
  kind := .elasticsearch
  url := store.address operator
  secret := some ⟨operator.collectorSecret⟩
  elasticsearch := tuning

/-- Runs with the same surroundings one after the other, every one on what the one before it
returned with other settings for outputs that are made. Some pipeline sends to `default` each
time. -/
inductive Spec.Retuned (store : Store) (lookup : SecretLookup) (operator : Operator) :
    Spec → List (Option OutputDefaults) → Spec → Prop where
  /-- No run. -/
  | done (spec : Spec) : Retuned store lookup operator spec [] spec
  /-- A run with other settings, and runs on what it returned. -/
  | next {spec final : Spec} {defaults : Option OutputDefaults}
      {later : List (Option OutputDefaults)} {again : Normalized} :
      spec.usesDefault →
      ((spec.withDefaults defaults).normalize (some store) lookup operator).value = .ok again →
      Retuned store lookup operator again.spec later final →
      Retuned store lookup operator spec (defaults :: later) final

variable {spec : Spec} {store : Store} {operator : Operator} {lookup : SecretLookup}
  {defaults : Option OutputDefaults} {normalized : Normalized} {tuning : Option Tuning}

theorem Spec.newDefaultOutput_eq :
    spec.newDefaultOutput store operator = store.outputWith operator spec.defaultTuning := rfl

theorem Spec.reservedOutput_eq : spec.reservedOutput store operator =
    store.outputWith operator (spec.declaredTuning <|> spec.defaultTuning) := rfl

theorem Store.outputWith_inj {other : Option Tuning} :
    store.outputWith operator tuning = store.outputWith operator other ↔ tuning = other :=
  ⟨congrArg Output.elasticsearch, congrArg _⟩

/-- Where there is one output `default`, its settings are the declared ones. -/
theorem Spec.declaredTuning_of_filter {output : Output}
    (h : spec.outputs.filter (·.name == defaultOutput) = [output]) :
    spec.declaredTuning = output.elasticsearch := by
  rw [declaredTuning, ← List.head?_filter, h]
  rfl

/-- Where no output `default` is declared, it is made with the settings for outputs that are
made. -/
theorem Spec.reservedOutput_of_undeclared (h : defaultOutput ∉ spec.outputNames) :
    spec.reservedOutput store operator = spec.newDefaultOutput store operator := by
  have hnone : spec.outputs.find? (·.name == defaultOutput) = none := by
    rw [List.find?_eq_none]
    exact fun output hmem hname => h (eq_of_beq hname ▸ List.mem_map_of_mem hmem)
  rw [reservedOutput, declaredTuning, hnone]
  rfl

/-! ### The first run -/

/-- Where a pipeline is left that sends to `default`, the output is left too, and the store is
usable. -/
theorem filter_outputs_of_usesDefault
    (h : (spec.normalize (some store) lookup operator).value = .ok normalized)
    (hkind : store.kind = .elasticsearch) (huses : normalized.spec.usesDefault) :
    store.Usable operator lookup
      ∧ normalized.spec.outputs.filter (·.name == defaultOutput) =
        [spec.reservedOutput store operator] := by
  obtain ⟨-, husable, hplaced⟩ | ⟨-, hnone⟩ := filter_outputs_normalize h hkind
  · exact ⟨husable, hplaced⟩
  · obtain ⟨pipeline, hpipeline, href⟩ := Spec.usesDefault_iff.1 huses
    obtain ⟨output, hmem, hname⟩ :=
      (coherent_normalize h).1.outputRefs_declared pipeline hpipeline _ href
    exact absurd (beq_iff_eq.2 hname) (List.filter_eq_nil_iff.1 hnone output hmem)

/-! ### Runs with other settings -/

/-- **One run with other settings**: the output `default` keeps the settings that it has, and gets
the new ones if it has none. -/
theorem filter_outputs_withDefaults {again : Normalized}
    (hplaced : spec.outputs.filter (·.name == defaultOutput) =
      [store.outputWith operator tuning])
    (hkind : store.kind = .elasticsearch) (husable : store.Usable operator lookup)
    (huses : spec.usesDefault)
    (h : ((spec.withDefaults defaults).normalize (some store) lookup operator).value = .ok again) :
    again.spec.outputs.filter (·.name == defaultOutput) =
      [store.outputWith operator (tuning <|> defaults.bind (·.elasticsearch))] := by
  have hdeclared : (spec.withDefaults defaults).declaredTuning = tuning :=
    Spec.declaredTuning_of_filter hplaced
  obtain ⟨-, -, hagain⟩ | ⟨hnot, -⟩ := filter_outputs_normalize h hkind
  · rw [hagain, Spec.reservedOutput_eq, hdeclared]
    rfl
  · exact absurd ⟨Or.inr huses, husable⟩ hnot

/-- **Any number of runs with other settings**: the first settings that there were stay. -/
theorem Spec.Retuned.filter_outputs {edits : List (Option OutputDefaults)} {final : Spec}
    (h : Spec.Retuned store lookup operator spec edits final)
    (hkind : store.kind = .elasticsearch) (husable : store.Usable operator lookup)
    (hplaced : spec.outputs.filter (·.name == defaultOutput) =
      [store.outputWith operator tuning]) :
    final.outputs.filter (·.name == defaultOutput) =
      [store.outputWith operator
        (tuning <|> edits.findSome? fun defaults => defaults.bind (·.elasticsearch))] := by
  induction h generalizing tuning with
  | done spec => simpa using hplaced
  | @next _ _ defaults _ _ huses hrun _ ih =>
    rw [ih (filter_outputs_withDefaults hplaced hkind husable huses hrun), List.findSome?_cons]
    cases tuning <;> cases defaults.bind (·.elasticsearch) <;> rfl

/-! ### The second run -/

/-- What another run makes of a result with other settings needs no look-up that fails. -/
theorem lookupFailure?_of_mem_withDefaultOutput {output : Output}
    (h : (spec.normalize (some store) lookup operator).value = .ok normalized)
    (hkind : store.kind = .elasticsearch) (husable : store.Usable operator lookup)
    (hmem : output ∈ ((normalized.spec.withDefaults defaults).withDefaultOutput store
      operator).outputs) :
    output.lookupFailure? lookup = none := by
  by_cases hname : output.name = defaultOutput
  · have howned : (({} : Ownership).claimOutput defaultOutput).ownsOutput defaultOutput := by decide
    exact Output.lookupFailure?_of_isSound
      ((Spec.isSound_of_mem_withDefaultOutput hkind howned hmem hname).2 husable)
  · -- Every other output is one that the first run accepted.
    have hother : output ∈ normalized.spec.outputs.filter (·.name != defaultOutput) := by
      rw [← show (normalized.spec.withDefaults defaults).outputs = normalized.spec.outputs from rfl,
        ← Spec.filter_outputs_withDefaultOutput _ store operator]
      exact List.mem_filter.2 ⟨hmem, bne_iff_ne.2 hname⟩
    obtain ⟨migrated, -, hfailure, rfl⟩ := Spec.normalize_eq_ok_iff.1 h
    exact Output.lookupFailure?_of_isSound
      ((Migrated.clean_reviewed hfailure).sound output (List.mem_filter.1 hother).1)

/-- **The second run succeeds**, whatever the new settings. -/
theorem exists_normalize_withDefaults
    (h : (spec.normalize (some store) lookup operator).value = .ok normalized)
    (hkind : store.kind = .elasticsearch) (huses : normalized.spec.usesDefault)
    (defaults : Option OutputDefaults) :
    ∃ again, ((normalized.spec.withDefaults defaults).normalize (some store) lookup
      operator).value = .ok again := by
  have husable := (filter_outputs_of_usesDefault h hkind huses).1
  have husesAgain : (normalized.spec.withDefaults defaults).usesDefault := huses
  obtain ⟨pipeline, hpipeline, -⟩ := Spec.usesDefault_iff.1 husesAgain
  obtain ⟨owned, -, hmigrate⟩ := Spec.migrate_of_isConfigured
    (normalized.spec.withDefaults defaults) operator (Store.isConfigured_of_usable husable)
  rw [Spec.started_of_mem hpipeline,
    Spec.rerouted_of_usesDefault (Store.isMultiTenant_of_elasticsearch hkind) husesAgain]
    at hmigrate
  refine ⟨_, (Spec.normalize_eq_ok_iff_of_migrate hmigrate).2 ⟨?_, rfl⟩⟩
  exact Migrated.failure?_outputReviews_eq_none_iff.2 fun output hmem =>
    lookupFailure?_of_mem_withDefaultOutput h hkind husable hmem

theorem orElse_eq_right_iff {α : Type} {first second : Option α} :
    (first <|> second) = second ↔ first = none ∨ first = second := by
  cases first <;> simp

/-- **Settings that were made once stay**: if no output `default` was declared, a run that left a
pipeline to it made one. With other settings for outputs that are made, the next run succeeds, and
its output `default` is the one that would be made now, up to settings: it has those that the first
run made it with, and the new ones only if there were none. -/
theorem filter_outputs_withDefaults_normalize {spec : Spec} {store : Store}
    {lookup : SecretLookup} {operator : Operator} {normalized : Normalized}
    (h : (spec.normalize (some store) lookup operator).value = .ok normalized)
    (hkind : store.kind = .elasticsearch) (hdeclared : defaultOutput ∉ spec.outputNames)
    (huses : normalized.spec.usesDefault) (defaults : Option OutputDefaults) :
    let edited := normalized.spec.withDefaults defaults
    ∃ again output, (edited.normalize (some store) lookup operator).value = .ok again
      ∧ again.spec.outputs.filter (·.name == defaultOutput) = [output]
      ∧ output = { edited.newDefaultOutput store operator with
          elasticsearch := spec.defaultTuning <|> edited.defaultTuning }
      ∧ (output = edited.newDefaultOutput store operator ↔
        spec.defaultTuning = none ∨ spec.defaultTuning = edited.defaultTuning) := by
  intro edited
  obtain ⟨again, hagain⟩ := exists_normalize_withDefaults h hkind huses defaults
  obtain ⟨husable, hplaced⟩ := filter_outputs_of_usesDefault h hkind huses
  rw [Spec.reservedOutput_of_undeclared hdeclared, Spec.newDefaultOutput_eq] at hplaced
  refine ⟨again, _, hagain, filter_outputs_withDefaults hplaced hkind husable huses hagain, rfl, ?_⟩
  rw [Spec.newDefaultOutput_eq, Store.outputWith_inj]
  exact orElse_eq_right_iff

/-- A specification that sends the logs of applications to the store, with settings for the
output that is made. -/
def appsWithDefaults (tuning : Option Tuning) : Spec where
  pipelines := [{ name := "apps", inputRefs := ["application"], outputRefs := ["default"] }]
  outputDefaults := some { elasticsearch := tuning }

/-- Made without settings, the output gets them later. -/
theorem filter_outputs_withDefaults_normalize_untuned : ∃ normalized again,
    ((appsWithDefaults none).normalize (some (.elasticsearch "es"))
      (fun name => .ok (some { name })) {}).value = .ok normalized
    ∧ ((normalized.spec.withDefaults
        (some { elasticsearch := some { structuredTypeName := "apps" } })).normalize
      (some (.elasticsearch "es")) (fun name => .ok (some { name })) {}).value = .ok again
    ∧ again.spec.outputs.filter (·.name == defaultOutput) =
      [(normalized.spec.withDefaults
        (some { elasticsearch := some { structuredTypeName := "apps" } })).newDefaultOutput
          (.elasticsearch "es") {}] := by
  have h : ((appsWithDefaults none).normalize (some (.elasticsearch "es"))
    (fun name => .ok (some { name })) {}).value = .ok _ := rfl
  obtain ⟨again, output, hagain, hplaced, -, heq⟩ := filter_outputs_withDefaults_normalize h rfl
    (by decide) (by decide) (some { elasticsearch := some { structuredTypeName := "apps" } })
  exact ⟨_, again, h, hagain, hplaced.trans (congrArg (fun output => [output]) (heq.2 (Or.inl rfl)))⟩

/-- **Made with settings**, it does not: what it has in the end is what the settings were before
they were changed. -/
theorem exists_outlived_settings : ∃ normalized again,
    defaultOutput ∉ (appsWithDefaults (some { structuredTypeName := "old" })).outputNames
    ∧ (Store.elasticsearch "es").address {} ≠ ""
    ∧ ((appsWithDefaults (some { structuredTypeName := "old" })).normalize
      (some (.elasticsearch "es")) (fun name => .ok (some { name })) {}).value = .ok normalized
    ∧ (∃ pipeline ∈ normalized.spec.pipelines, defaultOutput ∈ pipeline.outputRefs)
    ∧ ((normalized.spec.withDefaults
        (some { elasticsearch := some { structuredTypeName := "new" } })).normalize
      (some (.elasticsearch "es")) (fun name => .ok (some { name })) {}).value = .ok again
    ∧ (normalized.spec.withDefaults
        (some { elasticsearch := some { structuredTypeName := "new" } })).newDefaultOutput
          (.elasticsearch "es") {} ∉ again.spec.outputs
    ∧ again.spec.outputs.map (·.elasticsearch) = [some { structuredTypeName := "old" }] :=
  ⟨_, _, by decide, by decide, rfl, by decide, rfl, by decide, by decide⟩

end LogForwarding
