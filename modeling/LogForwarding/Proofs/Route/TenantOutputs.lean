import LogForwarding.Proofs.Isolation
import LogForwarding.Proofs.Route.Conservation
import Mathlib.Data.List.Nodup
import Mathlib.Data.List.Perm.Basic

/-!
# One output for each tenant input

Fan-out makes one output for each input of a known kind whose logs go to `default`
(`Spec.Forwards`), however many pipelines take them there. The outputs are put in the order
of their names, and the names are recorded.

The names are distinct only if those of the inputs stay so. A reserved input's output is not
named after the input but after a suffix, such as `loki-apps`, and a declared input may be called
like that. `Spec.LabelsApart` says that this does not happen.

## What is proved

* `Spec.isTenantOutputs_made`: which outputs are made, and in which order.
* `Spec.nodup_map_tenantOutput_iff`: when the inputs have different tenant outputs.
* `fanOut_pairwise_lt_iff_labelsApart`: the outputs that fan-out makes are strictly increasing
  by name iff no declared input is called like the suffix of a reserved one next to it.
* `fanOut_tenantsSpec_of_shared`: they are not always.
-/

namespace LogForwarding

open Reserved (defaultOutput tenantOutput tenantSuffix)

/-- Whether the logs of an input go to `default`, and it is known which logs they are. -/
def Spec.Forwards (spec : Spec) (input : String) : Prop :=
  (∃ pipeline ∈ spec.pipelines, defaultOutput ∈ pipeline.outputRefs ∧ input ∈ pipeline.inputRefs)
    ∧ (Input.resolve? spec.inputs input).isSome

/-- Whether no reserved input goes to `default` next to one that is called like the suffix of
the reserved one's tenant output. -/
def Spec.LabelsApart (spec : Spec) : Prop :=
  ∀ kind : SourceKind, spec.Forwards kind.name → ¬ spec.Forwards (tenantSuffix kind)

/-- Whether an output is that of the tenant of an input's logs. -/
def Spec.IsTenantOutput (spec : Spec) (store : Store) (operatorNamespace input : String)
    (output : Output) : Prop :=
  ∃ kind url, Input.resolve? spec.inputs input = some kind
    ∧ store.gatewayUrl? operatorNamespace kind.name = some url
    ∧ output = { name := tenantOutput input, kind := .loki, url }

/-- **Whether outputs are those of the tenants** that a specification needs. -/
structure Spec.IsTenantOutputs (spec : Spec) (store : Store) (operatorNamespace : String)
    (made : List Output) : Prop where
  /-- They are in the order of their names. -/
  ordered : made.Pairwise (·.name ≤ ·.name)
  /-- There is one for each input whose logs go to `default`, and no other. -/
  one_each : ∃ inputs : List String, inputs.Nodup ∧ (∀ input, input ∈ inputs ↔ spec.Forwards input)
    ∧ List.Forall₂ (spec.IsTenantOutput store operatorNamespace) inputs made

variable {spec : Spec} {store : Store} {operatorNamespace : String}

/-! ### Which outputs are made -/

/-- What a partial function gives for a list, one by one. -/
theorem forall₂_filter_filterMap {α β : Type} (f : α → Option β) (l : List α) :
    List.Forall₂ (fun a b => f a = some b) (l.filter fun a => (f a).isSome) (l.filterMap f) := by
  induction l with
  | nil => exact .nil
  | cons a rest ih =>
    cases h : f a with
    | none => simpa [h] using ih
    | some b => simpa [h] using ih

/-- The outputs are made in the order of the inputs, and then sorted. -/
theorem Tenant.made_eq_mergeSort (spec : Spec) (store : Store) (operatorNamespace : String) :
    made spec store operatorNamespace = ((neededInputs spec.pipelines).filterMap fun input =>
      (output spec store operatorNamespace input).value).mergeSort fun a b => a.name ≤ b.name := by
  rw [made, outputs, List.filterMap_map]
  rfl

/-- A named store has an output for an input iff the kind of its logs is known. -/
theorem Tenant.isSome_value_output (h : store.name ≠ "") (input : String) :
    (output spec store operatorNamespace input).value.isSome =
      (Input.resolve? spec.inputs input).isSome := by
  rw [value_output]
  cases Input.resolve? spec.inputs input with
  | none => rfl
  | some kind =>
    obtain ⟨url, hurl⟩ := exists_gatewayUrl? h operatorNamespace kind.name
    rw [Option.bind_some, output?_of_gatewayUrl? hurl]
    rfl

theorem Spec.isTenantOutput_of_value_output {input : String} {output : Output}
    (h : (Tenant.output spec store operatorNamespace input).value = some output) :
    spec.IsTenantOutput store operatorNamespace input output := by
  rw [Tenant.value_output] at h
  obtain ⟨kind, hkind, houtput⟩ := Option.bind_eq_some_iff.1 h
  obtain ⟨url, hurl, rfl⟩ := Option.map_eq_some_iff.1 houtput
  exact ⟨kind, url, hkind, hurl, rfl⟩

/-- **The outputs that fan-out makes**: one for each input that goes to `default`, in the order
of their names. -/
theorem Spec.isTenantOutputs_made (h : store.name ≠ "") :
    spec.IsTenantOutputs store operatorNamespace (Tenant.made spec store operatorNamespace) where
  ordered := pairwise_mergeSort_name Output.name _
  one_each := by
    let value (input : String) := (Tenant.output spec store operatorNamespace input).value
    let needed := Tenant.neededInputs spec.pipelines
    -- Sorting the outputs sorts the inputs with them.
    obtain ⟨inputs, hmade, hperm⟩ := List.perm_comp_forall₂
      (List.mergeSort_perm (needed.filterMap value) fun a b => a.name ≤ b.name)
      (forall₂_filter_filterMap value needed).flip
    have hnodup : needed.Nodup := (pairwise_sortedSet _).imp ne_of_lt
    refine ⟨inputs, hperm.nodup_iff.2 (hnodup.filter _), fun input => ?_, ?_⟩
    · rw [hperm.mem_iff, List.mem_filter, Tenant.mem_neededInputs, Tenant.isSome_value_output h]
      rfl
    · rw [Tenant.made_eq_mergeSort]
      exact hmade.flip.imp fun input output => Spec.isTenantOutput_of_value_output

/-! ### When their names are distinct -/

/-- The outputs of tenants are named after their inputs, one by one. -/
theorem Spec.map_name_of_forall₂ {inputs : List String} {made : List Output}
    (h : List.Forall₂ (spec.IsTenantOutput store operatorNamespace) inputs made) :
    made.map (·.name) = inputs.map tenantOutput := by
  induction h with
  | nil => rfl
  | cons hhead _ ih =>
    obtain ⟨kind, url, -, -, rfl⟩ := hhead
    rw [List.map_cons, List.map_cons, ih]

/-- **Inputs that go to `default` have different tenant outputs** iff none of them is called
like the suffix of a reserved one. -/
theorem Spec.nodup_map_tenantOutput_iff {inputs : List String} (hnodup : inputs.Nodup)
    (hmem : ∀ input, input ∈ inputs ↔ spec.Forwards input) :
    (inputs.map tenantOutput).Nodup ↔ spec.LabelsApart := by
  rw [List.nodup_map_iff_inj_on hnodup]
  simp only [hmem, Tenant.tenantOutput_eq_iff]
  constructor
  · intro hinj kind hname hsuffix
    have hlabel : Tenant.label kind.name = Tenant.label (tenantSuffix kind) :=
      (Tenant.label_name kind).trans (Tenant.label_tenantSuffix kind).symm
    exact Tenant.name_ne_tenantSuffix kind kind (hinj _ hname _ hsuffix hlabel)
  · intro hapart input hinput other hother hlabel
    rcases Tenant.label_eq_iff.1 hlabel with heq | ⟨kind, ⟨rfl, rfl⟩ | ⟨rfl, rfl⟩⟩
    · exact heq
    · exact absurd hother (hapart kind hinput)
    · exact absurd hinput (hapart kind hother)

/-- The tenant outputs that a specification needs are strictly increasing by name iff none of
the inputs is called like the suffix of a reserved one. -/
theorem Spec.IsTenantOutputs.pairwise_lt_iff {made : List Output}
    (h : spec.IsTenantOutputs store operatorNamespace made) :
    made.Pairwise (·.name < ·.name) ↔ spec.LabelsApart := by
  obtain ⟨inputs, hnodup, hmem, hforall⟩ := h.one_each
  rw [pairwise_lt_iff_nodup Output.name h.ordered, Spec.map_name_of_forall₂ hforall,
    Spec.nodup_map_tenantOutput_iff hnodup hmem]

/-! ### Fan-out as a whole -/

/-- Fan-out records the names of the outputs that it makes, and no other names of outputs. -/
theorem Tenant.ownsOutput_fanOut (owned : Ownership) (name : String) :
    (fanOut spec store operatorNamespace owned).value.2.ownsOutput name ↔
      owned.ownsOutput name
        ∨ ∃ output ∈ made spec store operatorNamespace, output.name = name := by
  have hvalue : (fanOut spec store operatorNamespace owned).value.2 =
      (made spec store operatorNamespace).foldl
        (fun owned output => owned.claimOutput output.name) owned := rfl
  rw [hvalue, Ownership.foldl_claimOutput]
  simp only [Ownership.ownsOutput, List.contains_iff_mem, List.mem_append, List.mem_reverse,
    List.mem_map, or_comm]

/-- **The outputs that fan-out appends** with a named store: one for each input that goes to
`default`, in the order of their names, which it records. The names are strictly increasing iff
no declared input is called like the suffix of a reserved one next to it. -/
theorem fanOut_pairwise_lt_iff_labelsApart {spec : Spec} {store : Store} (h : store.name ≠ "")
    (operatorNamespace : String) (owned : Ownership) : ∃ made,
    (Tenant.fanOut spec store operatorNamespace owned).value.1.outputs = spec.outputs ++ made
    ∧ spec.IsTenantOutputs store operatorNamespace made
    ∧ (∀ name, (Tenant.fanOut spec store operatorNamespace owned).value.2.ownsOutput name ↔
      owned.ownsOutput name ∨ ∃ output ∈ made, output.name = name)
    ∧ (made.Pairwise (·.name < ·.name) ↔ spec.LabelsApart) := by
  have hmade : spec.IsTenantOutputs store operatorNamespace
      (Tenant.made spec store operatorNamespace) := Spec.isTenantOutputs_made h
  exact ⟨_, rfl, hmade, Tenant.ownsOutput_fanOut owned, hmade.pairwise_lt_iff⟩

/-- A specification that takes inputs to `default`, and declares one of audit logs that is
called like the suffix of the tenant output of application logs. -/
def tenantsSpec (inputs : List String) : Spec where
  inputs := [{ name := "loki-apps", audit := true }]
  pipelines := [{ name := "logs", inputRefs := inputs, outputRefs := ["default"] }]

@[simp] theorem outputs_tenantsSpec (inputs : List String) :
    (tenantsSpec inputs).outputs = [] := rfl

/-- Without application logs next to it, the declared input has an output of its own. An input
that is listed twice has one, and one that is not declared has none. -/
theorem fanOut_tenantsSpec_of_apart : ∃ made,
    (Tenant.fanOut (tenantsSpec ["loki-apps", "infrastructure", "ghost", "loki-apps"])
      (.lokiStack "loki") "openshift-logging" {}).value.1.outputs = made
    ∧ made.map (·.name) = ["default-loki-apps", "default-loki-infra"]
    ∧ made.Pairwise (·.name < ·.name) := by
  obtain ⟨made, hmade, -, -, hiff⟩ := @fanOut_pairwise_lt_iff_labelsApart
    (tenantsSpec ["loki-apps", "infrastructure", "ghost", "loki-apps"]) (.lokiStack "loki")
    (by decide) "openshift-logging" {}
  have hneeded : (Tenant.neededInputs (tenantsSpec
      ["loki-apps", "infrastructure", "ghost", "loki-apps"]).pipelines).filterMap (fun input =>
        (Tenant.output (tenantsSpec ["loki-apps", "infrastructure", "ghost", "loki-apps"])
          (.lokiStack "loki") "openshift-logging" input).value) =
      [{ name := "default-loki-infra", kind := .loki
         url :=
          "https://loki-gateway-http.openshift-logging.svc:8080/api/logs/v1/infrastructure" },
        { name := "default-loki-apps", kind := .loki
          url := "https://loki-gateway-http.openshift-logging.svc:8080/api/logs/v1/audit" }] := by
    decide +kernel
  rw [outputs_tenantsSpec, List.nil_append] at hmade
  refine ⟨made, hmade, ?_, hiff.2 ?_⟩
  · rw [← hmade, Tenant.value_fanOut_fst]
    simp [Tenant.fannedOut, Tenant.made_eq_mergeSort, hneeded, List.mergeSort]
  · rintro kind ⟨⟨pipeline, hpipeline, -, hname⟩, -⟩ ⟨⟨other, hother, -, hsuffix⟩, -⟩
    obtain rfl := List.mem_singleton.1 hpipeline
    obtain rfl := List.mem_singleton.1 hother
    revert hname hsuffix
    cases kind <;> decide

/-- Next to application logs the declared input is called like the suffix of their output: two
outputs of the same name are made, for different tenants. -/
theorem fanOut_tenantsSpec_of_shared :
    (Tenant.fanOut (tenantsSpec ["application", "loki-apps"]) (.lokiStack "loki")
      "openshift-logging" {}).value.1.outputs =
    [{ name := "default-loki-apps", kind := .loki
       url := "https://loki-gateway-http.openshift-logging.svc:8080/api/logs/v1/application" },
      { name := "default-loki-apps", kind := .loki
        url := "https://loki-gateway-http.openshift-logging.svc:8080/api/logs/v1/audit" }] := by
  have hneeded : (Tenant.neededInputs (tenantsSpec ["application", "loki-apps"]).pipelines).filterMap
      (fun input => (Tenant.output (tenantsSpec ["application", "loki-apps"]) (.lokiStack "loki")
        "openshift-logging" input).value) =
      [{ name := "default-loki-apps", kind := .loki
         url := "https://loki-gateway-http.openshift-logging.svc:8080/api/logs/v1/application" },
        { name := "default-loki-apps", kind := .loki
          url := "https://loki-gateway-http.openshift-logging.svc:8080/api/logs/v1/audit" }] := by
    decide +kernel
  rw [Tenant.value_fanOut_fst]
  simp [Tenant.fannedOut, Tenant.made_eq_mergeSort, hneeded, List.mergeSort]

end LogForwarding
