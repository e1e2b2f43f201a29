import LogForwarding.Proofs.Normalization

/-!
# Integrity of normalized specifications

A normalized specification needs no further checks: its names are there and distinct,
its outputs can be used, and every reference has its target. `Spec.Coherent` says so
for a specification, and the status lists exactly the kinds of logs that its pipelines
carry.

## What is proved

* `coherent_normalize`: what a successful run returns is coherent, whatever the
  specification, the store, the secrets and the operator.
-/

namespace LogForwarding

/-- Names are there and distinct, outputs can be used, and references have targets. -/
structure Spec.Coherent (spec : Spec) : Prop where
  /-- No two outputs share a name. -/
  nodup_outputs : (spec.outputs.map (·.name)).Nodup
  /-- Every output has a name. -/
  output_name : ∀ output ∈ spec.outputs, output.name ≠ ""
  /-- Every output is of a known kind. -/
  output_kind : ∀ output ∈ spec.outputs, output.kind.isRecognized
  /-- Every output has an address. -/
  output_url : ∀ output ∈ spec.outputs, output.url ≠ ""
  /-- No two pipelines share a name. -/
  nodup_pipelines : (spec.pipelines.map (·.name)).Nodup
  /-- Every pipeline has a name. -/
  pipeline_name : ∀ pipeline ∈ spec.pipelines, pipeline.name ≠ ""
  /-- Every pipeline has an input. -/
  inputRefs_ne_nil : ∀ pipeline ∈ spec.pipelines, pipeline.inputRefs ≠ []
  /-- Every input of a pipeline stands for a known kind of logs. -/
  inputRefs_resolved : ∀ pipeline ∈ spec.pipelines, ∀ ref ∈ pipeline.inputRefs,
    (Input.resolve? spec.inputs ref).isSome
  /-- Every pipeline has an output. -/
  outputRefs_ne_nil : ∀ pipeline ∈ spec.pipelines, pipeline.outputRefs ≠ []
  /-- Every output of a pipeline is declared. -/
  outputRefs_declared : ∀ pipeline ∈ spec.pipelines, ∀ ref ∈ pipeline.outputRefs,
    ∃ output ∈ spec.outputs, output.name = ref

theorem Migrated.Clean.coherent {migrated : Migrated} {lookup : SecretLookup}
    (h : migrated.Clean lookup) : migrated.spec.Coherent where
  nodup_outputs := h.nodup_outputs
  output_name := fun output hmem => (Output.isSound_iff.1 (h.sound output hmem)).1
  output_kind := fun output hmem => (Output.isSound_iff.1 (h.sound output hmem)).2.2.1
  output_url := fun output hmem => (Output.isSound_iff.1 (h.sound output hmem)).2.2.2.1
  nodup_pipelines := h.nodup_pipelines
  pipeline_name := fun pipeline hmem =>
    (Pipeline.isWellFormed_iff.1 (h.wellFormed pipeline hmem)).1
  inputRefs_ne_nil := fun pipeline hmem =>
    (Pipeline.isWellFormed_iff.1 (h.wellFormed pipeline hmem)).2.2.1
  inputRefs_resolved := fun pipeline hmem =>
    (Pipeline.isWellFormed_iff.1 (h.wellFormed pipeline hmem)).2.2.2
  outputRefs_ne_nil := h.outputRefs_ne_nil
  outputRefs_declared := fun pipeline hmem ref href =>
    List.mem_map.1 (h.outputRefs_declared pipeline hmem ref href)

/-- **Integrity**: a normalized specification is coherent, and its status lists exactly
the kinds of logs that its pipelines carry. -/
theorem coherent_normalize {spec : Spec} {store : Option Store} {lookup : SecretLookup}
    {operator : Operator} {normalized : Normalized}
    (h : (spec.normalize store lookup operator).value = .ok normalized) :
    normalized.spec.Coherent ∧
      ∀ kind, kind ∈ normalized.status.logSources ↔
        ∃ pipeline ∈ normalized.spec.pipelines, ∃ ref ∈ pipeline.inputRefs,
          Input.resolve? normalized.spec.inputs ref = some kind := by
  obtain ⟨migrated, -, hfailure, rfl⟩ := Spec.normalize_eq_ok_iff.1 h
  exact ⟨(Migrated.clean_reviewed hfailure).coherent,
    fun kind => Migrated.mem_logSources_reviewed⟩

/-- A specification with an output of a name that is taken, a pipeline that loses a
reference, and one without a known input. -/
def faultySpec : Spec where
  outputs :=
    [{ name := "es", kind := .elasticsearch, url := "https://es.svc:9200" },
      { name := "es", kind := .loki, url := "https://loki.svc:3100" },
      { name := "splunk", kind := .unrecognized "splunk", url := "https://splunk.svc" }]
  pipelines :=
    [{ name := "logs", inputRefs := ["audit", "team"], outputRefs := ["es", "splunk", "default"] },
      { name := "logs", inputRefs := ["application"], outputRefs := ["es"] },
      { name := "ghost", inputRefs := ["nobody"], outputRefs := ["es"] }]
  inputs := [{ name := "team", infrastructure := true }]

/-- What remains of the faulty specification is coherent. -/
theorem coherent_normalize_faultySpec : ∃ normalized,
    (faultySpec.normalize (some (.elasticsearch "es")) (fun name => .ok (some { name }))
      {}).value = .ok normalized
    ∧ normalized.spec.outputs.map (·.name) = ["es", "default"]
    ∧ normalized.spec.pipelines.map (·.outputRefs) = [["es", "default"]]
    ∧ normalized.status.logSources.toList = [.infrastructure, .audit]
    ∧ normalized.spec.Coherent := by
  have h : (faultySpec.normalize (some (.elasticsearch "es")) (fun name => .ok (some { name }))
    {}).value = .ok _ := rfl
  exact ⟨_, h, by decide, by decide, by decide, (coherent_normalize h).1⟩

end LogForwarding
