import LogForwarding.Route.Tenant
import LogForwarding.Proofs.Review.Outputs
import Mathlib.Data.List.Basic

/-!
# Tenant outputs and their names

What fan-out does to a specification, without the journal: which outputs are made for
which inputs, and which pipelines a pipeline is split into. The names of tenant
outputs are told apart by what follows `default-` (`Tenant.label`).

## What is proved

* `tenantOutput_eq_iff`: two inputs share a tenant output iff they share a label.
* `Tenant.mem_made`: the outputs that are made.
* `Tenant.isSound_of_mem_made`: nothing is ever wrong with them.
* `Tenant.mem_parts_iff`: the parts of a pipeline.
* `Tenant.fannedOut_eq_self`: without a reference to `default` nothing happens.
-/

namespace LogForwarding

open Reserved (defaultOutput tenantOutput tenantSuffix)

theorem SourceKind.ofName?_eq_some_iff {written : String} {kind : SourceKind} :
    SourceKind.ofName? written = some kind ↔ written = kind.name := by
  constructor
  · intro h
    unfold SourceKind.ofName? at h
    split at h
    · exact Option.some.inj h ▸ rfl
    · exact Option.some.inj h ▸ rfl
    · exact Option.some.inj h ▸ rfl
    · exact absurd h nofun
  · rintro rfl
    exact SourceKind.ofName?_name kind

/-- Whether some pipeline sends to `default`. -/
def Spec.usesDefault (spec : Spec) : Bool := spec.pipelines.any (·.references defaultOutput)

theorem Spec.usesDefault_iff {spec : Spec} :
    spec.usesDefault ↔ ∃ pipeline ∈ spec.pipelines, defaultOutput ∈ pipeline.outputRefs := by
  simp [usesDefault, Pipeline.references]

namespace Tenant

/-! ### Names -/

/-- What follows `default-` in the name of an input's tenant output. -/
def label (input : String) : String :=
  match SourceKind.ofName? input with
  | some kind => tenantSuffix kind
  | none => input

theorem tenantOutput_eq (input : String) : tenantOutput input = "default-" ++ label input := by
  unfold tenantOutput label
  cases SourceKind.ofName? input <;> rfl

/-- Two inputs share a tenant output iff they share a label. -/
theorem tenantOutput_eq_iff {input other : String} :
    tenantOutput input = tenantOutput other ↔ label input = label other := by
  rw [tenantOutput_eq, tenantOutput_eq, String.append_right_inj]

theorem tenantOutput_ne_default (input : String) : tenantOutput input ≠ defaultOutput := by
  intro h
  have hlength := congrArg String.length h
  rw [tenantOutput_eq, String.length_append] at hlength
  have hprefix : ("default-").length = 8 := rfl
  have hdefault : defaultOutput.length = 7 := rfl
  omega

theorem tenantOutput_ne_empty (input : String) : tenantOutput input ≠ "" := by
  rw [tenantOutput_eq]
  simp

/-! ### The outputs that are made -/

/-- The output of the tenant of a kind of logs, for an input. -/
def output? (store : Store) (operatorNamespace input : String) (kind : SourceKind) :
    Option Output :=
  (store.gatewayUrl? operatorNamespace kind.name).map fun url =>
    { name := tenantOutput input, kind := .loki, url }

/-- The outputs that fan-out makes. -/
def made (spec : Spec) (store : Store) (operatorNamespace : String) : List Output :=
  (outputs spec store operatorNamespace).value

variable {spec : Spec} {store : Store} {operatorNamespace : String}

theorem value_output (input : String) : (output spec store operatorNamespace input).value =
    (Input.resolve? spec.inputs input).bind (output? store operatorNamespace input) := by
  unfold output output?
  cases Input.resolve? spec.inputs input with
  | none => rfl
  | some kind => cases h : store.gatewayUrl? operatorNamespace kind.name <;> simp [h]

theorem mem_neededInputs {pipelines : List Pipeline} {input : String} :
    input ∈ neededInputs pipelines ↔
      ∃ pipeline ∈ pipelines, defaultOutput ∈ pipeline.outputRefs ∧ input ∈ pipeline.inputRefs := by
  simp only [neededInputs, mem_sortedSet, List.mem_flatMap, List.mem_filter, isSplit,
    Pipeline.references, Bool.and_eq_true, List.contains_iff_mem, Bool.not_eq_true',
    List.isEmpty_eq_false_iff, and_assoc]
  constructor
  · rintro ⟨pipeline, hmem, hdefault, -, hinput⟩
    exact ⟨pipeline, hmem, hdefault, hinput⟩
  · rintro ⟨pipeline, hmem, hdefault, hinput⟩
    exact ⟨pipeline, hmem, hdefault, List.ne_nil_of_mem hinput, hinput⟩

/-- The outputs that are made are those of the needed inputs of known kinds. -/
theorem mem_made {output : Output} : output ∈ made spec store operatorNamespace ↔
    ∃ input ∈ neededInputs spec.pipelines, ∃ kind, Input.resolve? spec.inputs input = some kind
      ∧ output? store operatorNamespace input kind = some output := by
  simp only [made, outputs, List.mem_mergeSort, List.mem_filterMap, List.mem_map,
    exists_exists_and_eq_and, value_output, Option.bind_eq_some_iff]

/-- A named store has a gateway, with an address for every tenant. -/
theorem exists_gatewayUrl? (h : store.name ≠ "") (operatorNamespace tenant : String) :
    ∃ url, store.gatewayUrl? operatorNamespace tenant = some url := by
  refine ⟨_, if_neg ?_⟩
  rwa [String.isEmpty_iff]

theorem name_ne_empty_of_gatewayUrl? {tenant url : String}
    (h : store.gatewayUrl? operatorNamespace tenant = some url) : store.name ≠ "" := by
  intro hname
  rw [Store.gatewayUrl?, if_pos (String.isEmpty_iff.2 hname)] at h
  exact absurd h nofun

theorem ne_empty_of_gatewayUrl? {tenant url : String}
    (h : store.gatewayUrl? operatorNamespace tenant = some url) : url ≠ "" := by
  have hscheme : toString "https://" ≠ "" := by decide
  unfold Store.gatewayUrl? at h
  split_ifs at h
  rw [← Option.some.inj h]
  simp [hscheme]

/-- Where the gateway has an address for a kind of logs, the tenant has an output there. -/
theorem output?_of_gatewayUrl? {kind : SourceKind} {url : String}
    (h : store.gatewayUrl? operatorNamespace kind.name = some url) (input : String) :
    output? store operatorNamespace input kind =
      some { name := tenantOutput input, kind := .loki, url } :=
  Option.map_eq_some_iff.2 ⟨url, h, rfl⟩

/-- Nothing is wrong with a tenant output, whatever names and secrets are at hand. -/
theorem isSound_of_output? {input : String} {kind : SourceKind} {output : Output}
    (h : output? store operatorNamespace input kind = some output) (owned : Ownership)
    (lookup : SecretLookup) : output.isSound owned lookup := by
  obtain ⟨url, hurl, rfl⟩ := Option.map_eq_some_iff.1 h
  exact Output.isSound_iff.2 ⟨tenantOutput_ne_empty input,
    fun hdefault => absurd hdefault (tenantOutput_ne_default input), rfl,
    ne_empty_of_gatewayUrl? hurl, rfl⟩

theorem isSound_of_mem_made {output : Output} (h : output ∈ made spec store operatorNamespace)
    (owned : Ownership) (lookup : SecretLookup) : output.isSound owned lookup := by
  obtain ⟨input, -, kind, -, houtput⟩ := mem_made.1 h
  exact isSound_of_output? houtput owned lookup

theorem name_ne_default_of_mem_made {output : Output}
    (h : output ∈ made spec store operatorNamespace) : output.name ≠ defaultOutput := by
  obtain ⟨input, -, kind, -, houtput⟩ := mem_made.1 h
  obtain ⟨url, -, rfl⟩ := Option.map_eq_some_iff.1 houtput
  exact tenantOutput_ne_default input

/-! ### The parts of a pipeline -/

theorem isSplit_iff {pipeline : Pipeline} :
    isSplit pipeline ↔ defaultOutput ∈ pipeline.outputRefs ∧ pipeline.inputRefs ≠ [] := by
  simp [isSplit, Pipeline.references]

theorem parts_of_not_isSplit {pipeline : Pipeline} (h : ¬ isSplit pipeline) :
    parts pipeline = [pipeline] :=
  if_neg h

/-- The parts of a pipeline that is split: one for each of its inputs. -/
theorem mem_parts_iff {pipeline other : Pipeline} (h : isSplit pipeline) :
    other ∈ parts pipeline ↔
      ∃ (position : Nat) (input : String), pipeline.inputRefs[position]? = some input
        ∧ other = part pipeline input position := by
  rw [parts, if_pos h, List.mem_map]
  simp only [Prod.exists, List.mk_mem_zipIdx_iff_getElem?]
  constructor
  · rintro ⟨input, position, hinput, rfl⟩
    exact ⟨position, input, hinput, rfl⟩
  · rintro ⟨position, input, hinput, rfl⟩
    exact ⟨input, position, hinput, rfl⟩

/-- The only part of a pipeline that sends one input to `default`, and nowhere else. -/
theorem parts_of_singleton {pipeline : Pipeline} {input : String}
    (hinputs : pipeline.inputRefs = [input]) (houtputs : pipeline.outputRefs = [defaultOutput]) :
    parts pipeline = [{ pipeline with outputRefs := [tenantOutput input] }] := by
  have hsplit : isSplit pipeline := isSplit_iff.2 (by simp [hinputs, houtputs])
  rw [parts, if_pos hsplit, hinputs]
  simp [part, partName, redirect, houtputs]

/-! ### Fan-out as a whole -/

/-- A specification with tenant outputs in the place of `default`. -/
def fannedOut (spec : Spec) (store : Store) (operatorNamespace : String) : Spec :=
  { spec with
    pipelines := spec.pipelines.flatMap parts
    outputs := spec.outputs ++ made spec store operatorNamespace }

/-- If no pipeline has to be split, fan-out changes nothing. -/
theorem fannedOut_eq_self_of_not_isSplit (h : ∀ pipeline ∈ spec.pipelines, ¬ isSplit pipeline) :
    fannedOut spec store operatorNamespace = spec := by
  have hparts : ∀ pipeline ∈ spec.pipelines, parts pipeline = [pipeline] := fun pipeline hmem =>
    parts_of_not_isSplit (h pipeline hmem)
  have hmade : made spec store operatorNamespace = [] := by
    refine List.eq_nil_iff_forall_not_mem.2 fun output houtput => ?_
    obtain ⟨input, hneeded, -⟩ := mem_made.1 houtput
    obtain ⟨pipeline, hmem, hdefault, hinput⟩ := mem_neededInputs.1 hneeded
    exact h pipeline hmem (isSplit_iff.2 ⟨hdefault, List.ne_nil_of_mem hinput⟩)
  rw [fannedOut, hmade, List.flatMap_congr hparts, List.flatMap_singleton', List.append_nil]

/-- Without a reference to `default`, fan-out changes nothing. -/
theorem fannedOut_eq_self (h : ¬ spec.usesDefault) :
    fannedOut spec store operatorNamespace = spec :=
  fannedOut_eq_self_of_not_isSplit fun pipeline hmem hsplit =>
    h (Spec.usesDefault_iff.2 ⟨pipeline, hmem, (isSplit_iff.1 hsplit).1⟩)

end Tenant

end LogForwarding
