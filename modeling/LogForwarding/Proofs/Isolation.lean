import LogForwarding.Proofs.Names
import LogForwarding.Proofs.Route.Store

/-!
# Isolation of tenants

With a multi tenant store the logs of an input that are sent to `default` should reach
the tenant of their kind, and nobody else. The output that they reach is found by its
name alone, and names are shared: the inputs `application` and `loki-apps` have the
same tenant output, and a specification may declare an output of that name itself.
`Spec.KeepsApart` says when neither gets in the way.

## What is proved

* `Tenant.label_eq_iff`: which inputs share a tenant output.
* `Tenant.find?_made_eq_iff`: of the outputs made for the same name, that of the
  reserved input comes first.
* `reaches_tenant_iff_keepsApart`: logs that are sent to `default` reach the tenant of their
  kind iff they are kept apart.
* `exists_reaches_declared`: they are not always.
-/

namespace LogForwarding

open Reserved (defaultOutput tenantOutput tenantSuffix)

variable {spec : Spec} {store : Store} {operatorNamespace : String} {lookup : SecretLookup}

/-- The output declared under a name that is usable, the first one if there are several. -/
def Spec.declared? (spec : Spec) (lookup : SecretLookup) (name : String) : Option Output :=
  (spec.outputs.filter (·.isSound {} lookup)).find? (·.name == name)

/-- Whether a reserved input of another kind shares the tenant output of an input: the
input is called what that tenant output ends in, and the reserved input is sent to
`default` as well. -/
def Spec.SharesTenant (spec : Spec) (input : String) (kind : SourceKind) : Prop :=
  ∃ other, input = tenantSuffix other ∧ other ≠ kind
    ∧ ∃ pipeline ∈ spec.pipelines, defaultOutput ∈ pipeline.outputRefs
      ∧ other.name ∈ pipeline.inputRefs

/-- Whether nothing gets in the way of the output made for an input of a kind: no other
usable output is declared under its name, and no reserved input of another kind shares
it. -/
def Spec.KeepsApart (spec : Spec) (lookup : SecretLookup) (input : String) (kind : SourceKind)
    (made : Output) : Prop :=
  match spec.declared? lookup made.name with
  | some declared => declared = made
  | none => ¬ spec.SharesTenant input kind

namespace Tenant

/-! ### Inputs that share a tenant output -/

theorem label_name (kind : SourceKind) : label kind.name = tenantSuffix kind := by
  rw [label, SourceKind.ofName?_name]

theorem label_tenantSuffix (kind : SourceKind) : label (tenantSuffix kind) = tenantSuffix kind := by
  cases kind <;> rfl

theorem label_of_ne_name {input : String} (h : ∀ kind : SourceKind, input ≠ kind.name) :
    label input = input := by
  unfold label
  cases hkind : SourceKind.ofName? input with
  | none => rfl
  | some kind => exact absurd (SourceKind.ofName?_eq_some_iff.1 hkind) (h kind)

theorem tenantSuffix_injective : Function.Injective tenantSuffix := by
  intro kind other
  cases kind <;> cases other <;> decide

theorem name_injective : Function.Injective SourceKind.name := by
  intro kind other
  cases kind <;> cases other <;> decide

theorem name_le_tenantSuffix (kind : SourceKind) : kind.name ≤ tenantSuffix kind := by
  cases kind <;> decide

theorem name_ne_tenantSuffix (kind other : SourceKind) : kind.name ≠ tenantSuffix other := by
  cases kind <;> cases other <;> decide

/-- Two inputs share a label iff they are the same, or one is reserved and the other is
called what the reserved one's tenant output ends in. -/
theorem label_eq_iff {input other : String} : label input = label other ↔
    input = other ∨ ∃ kind : SourceKind, input = kind.name ∧ other = tenantSuffix kind
      ∨ input = tenantSuffix kind ∧ other = kind.name := by
  constructor
  · intro h
    by_cases hinput : ∃ kind : SourceKind, input = kind.name <;>
      by_cases hother : ∃ kind : SourceKind, other = kind.name
    · obtain ⟨kind, rfl⟩ := hinput
      obtain ⟨kind', rfl⟩ := hother
      rw [label_name, label_name] at h
      exact Or.inl (congrArg SourceKind.name (tenantSuffix_injective h))
    · obtain ⟨kind, rfl⟩ := hinput
      rw [label_name, label_of_ne_name (not_exists.1 hother)] at h
      exact Or.inr ⟨kind, Or.inl ⟨rfl, h.symm⟩⟩
    · obtain ⟨kind, rfl⟩ := hother
      rw [label_name, label_of_ne_name (not_exists.1 hinput)] at h
      exact Or.inr ⟨kind, Or.inr ⟨h, rfl⟩⟩
    · rw [label_of_ne_name (not_exists.1 hinput), label_of_ne_name (not_exists.1 hother)] at h
      exact Or.inl h
  · rintro (rfl | ⟨kind, ⟨rfl, rfl⟩ | ⟨rfl, rfl⟩⟩)
    · rfl
    · rw [label_name, label_tenantSuffix]
    · rw [label_name, label_tenantSuffix]

/-- The inputs of the label of a kind: its reserved input, and the one called like it. -/
theorem label_eq_tenantSuffix_iff {input : String} {kind : SourceKind} :
    label input = tenantSuffix kind ↔ input = kind.name ∨ input = tenantSuffix kind := by
  constructor
  · intro h
    rw [← label_name] at h
    rcases label_eq_iff.1 h with rfl | ⟨other, ⟨rfl, heq⟩ | ⟨rfl, heq⟩⟩
    · exact Or.inl rfl
    · exact absurd heq (name_ne_tenantSuffix kind other)
    · exact Or.inr (name_injective heq ▸ rfl)
  · rintro (rfl | rfl)
    · exact label_name kind
    · exact label_tenantSuffix kind

/-! ### The first output made for a name -/

/-- The tenants of two kinds of logs have different addresses. -/
theorem kind_eq_of_gatewayUrl?_eq {kind other : SourceKind} (h : store.name ≠ "")
    (heq : store.gatewayUrl? operatorNamespace kind.name =
      store.gatewayUrl? operatorNamespace other.name) : kind = other := by
  unfold Store.gatewayUrl? at heq
  simp only [String.isEmpty_iff, h, if_false, Option.some.injEq, String.append_right_inj] at heq
  exact name_injective heq

/-- With a named store, the outputs made for inputs of known kinds that share a label
have one name. -/
theorem any_bind_output?_iff (h : store.name ≠ "") {input other : String} :
    ((Input.resolve? spec.inputs other).bind (output? store operatorNamespace other)).any
        (·.name == tenantOutput input) ↔
      (Input.resolve? spec.inputs other).isSome ∧ label other = label input := by
  cases Input.resolve? spec.inputs other with
  | none => simp
  | some kind =>
    obtain ⟨url, hurl⟩ := exists_gatewayUrl? h operatorNamespace kind.name
    simp [output?, hurl, tenantOutput_eq_iff]

/-- The first output made under the name of an input's tenant output is that of the
least input that shares it. -/
theorem find?_made (h : store.name ≠ "") {input first : String} {kind : SourceKind}
    (hneeded : first ∈ neededInputs spec.pipelines)
    (hkind : Input.resolve? spec.inputs first = some kind) (hlabel : label first = label input)
    (hleast : ∀ other ∈ neededInputs spec.pipelines, label other = label input → first ≤ other) :
    (made spec store operatorNamespace).find? (·.name == tenantOutput input) =
      output? store operatorNamespace first kind := by
  have hfirst : (neededInputs spec.pipelines).find? (fun other =>
      ((Input.resolve? spec.inputs other).bind (output? store operatorNamespace other)).any
        (·.name == tenantOutput input)) = some first := by
    refine find?_eq_some_of_least (pairwise_sortedSet _) hneeded ?_ fun other hother hany => ?_
    · exact (any_bind_output?_iff h).2 ⟨Option.isSome_of_eq_some hkind, hlabel⟩
    · exact hleast other hother ((any_bind_output?_iff h).1 hany).2
  rw [made, outputs]
  simp only [find?_mergeSort_name Output.name, List.filterMap_map, List.find?_filterMap,
    Function.comp_apply, value_output, hfirst, Option.bind_some, hkind]

/-- The outputs made for two inputs that share a tenant output are the same iff their
kinds are. -/
theorem output?_eq_iff (h : store.name ≠ "") {input other : String} {kind otherKind : SourceKind}
    (hlabel : label other = label input) :
    output? store operatorNamespace other otherKind = output? store operatorNamespace input kind ↔
      otherKind = kind := by
  unfold output?
  rw [tenantOutput_eq_iff.2 hlabel]
  constructor
  · intro heq
    have hurls : store.gatewayUrl? operatorNamespace otherKind.name =
        store.gatewayUrl? operatorNamespace kind.name :=
      Option.map_injective (fun url url' hurl => (Output.mk.inj hurl).2.2.1) heq
    exact kind_eq_of_gatewayUrl?_eq h hurls
  · rintro rfl
    rfl

theorem sharesTenant_iff {input : String} {kind : SourceKind} : spec.SharesTenant input kind ↔
    ∃ other, input = tenantSuffix other ∧ other ≠ kind
      ∧ other.name ∈ neededInputs spec.pipelines := by
  simp only [Spec.SharesTenant, mem_neededInputs]

/-- The output of a reserved input that is needed comes before any other that shares its
tenant output. -/
theorem find?_made_of_reserved (h : store.name ≠ "") {input : String} {kind : SourceKind}
    (hneeded : kind.name ∈ neededInputs spec.pipelines) (hlabel : label input = tenantSuffix kind) :
    (made spec store operatorNamespace).find? (·.name == tenantOutput input) =
      output? store operatorNamespace kind.name kind := by
  have hresolve : Input.resolve? spec.inputs kind.name = some kind := by
    rw [Input.resolve?, SourceKind.ofName?_name]
  refine find?_made h hneeded hresolve ((label_name kind).trans hlabel.symm) ?_
  intro other _ hother
  rcases label_eq_tenantSuffix_iff.1 (hother.trans hlabel) with rfl | rfl
  · exact le_rfl
  · exact name_le_tenantSuffix kind

/-- Without such a reserved input, the output of an input comes first. -/
theorem find?_made_of_not_reserved (h : store.name ≠ "") {input : String} {kind : SourceKind}
    (hneeded : input ∈ neededInputs spec.pipelines)
    (hkind : Input.resolve? spec.inputs input = some kind)
    (hnot : ∀ other, input = tenantSuffix other → other.name ∉ neededInputs spec.pipelines) :
    (made spec store operatorNamespace).find? (·.name == tenantOutput input) =
      output? store operatorNamespace input kind := by
  refine find?_made h hneeded hkind rfl fun other hother hlabel => ?_
  rcases label_eq_iff.1 hlabel with rfl | ⟨reserved, ⟨rfl, heq⟩ | ⟨rfl, rfl⟩⟩
  · exact le_rfl
  · exact absurd hother (hnot reserved heq)
  · exact name_le_tenantSuffix reserved

/-- **Of the outputs made under the name of an input's tenant output** the first is that
of the input, unless a reserved input of another kind shares the name. -/
theorem find?_made_eq_iff (h : store.name ≠ "") {input : String} {kind : SourceKind}
    (hneeded : input ∈ neededInputs spec.pipelines)
    (hkind : Input.resolve? spec.inputs input = some kind) :
    (made spec store operatorNamespace).find? (·.name == tenantOutput input) =
        output? store operatorNamespace input kind ↔
      ¬ spec.SharesTenant input kind := by
  rw [sharesTenant_iff]
  by_cases hreserved : ∃ other, input = tenantSuffix other
      ∧ other.name ∈ neededInputs spec.pipelines
  · -- The reserved input is found, so all that matters is whether its kind is the same.
    obtain ⟨other, rfl, hother⟩ := hreserved
    have hlabel := label_tenantSuffix other
    rw [find?_made_of_reserved h hother hlabel,
      output?_eq_iff h ((label_name other).trans hlabel.symm)]
    constructor
    · rintro rfl ⟨another, heq, hne, -⟩
      exact hne (tenantSuffix_injective heq).symm
    · intro hnot
      by_contra hne
      exact hnot ⟨other, rfl, hne, hother⟩
  · rw [find?_made_of_not_reserved h hneeded hkind fun other heq hother =>
      hreserved ⟨other, heq, hother⟩]
    refine iff_of_true rfl ?_
    rintro ⟨other, heq, -, hother⟩
    exact hreserved ⟨other, heq, hother⟩

end Tenant

/-! ### The output that the logs reach -/

namespace Output

/-- Apart from the reserved name, what is recorded does not matter to an output. -/
theorem isSound_eq_of_ne_default {output : Output} (h : output.name ≠ defaultOutput)
    (owned other : Ownership) : output.isSound owned lookup = output.isSound other lookup := by
  rw [Bool.eq_iff_iff, isSound_iff, isSound_iff]
  simp only [h, false_implies]

end Output

theorem find?_filter_isSound {name : String} (h : name ≠ defaultOutput) (owned other : Ownership)
    (outputs : List Output) :
    (outputs.filter (·.isSound owned lookup)).find? (·.name == name) =
      (outputs.filter (·.isSound other lookup)).find? (·.name == name) := by
  rw [List.find?_filter, List.find?_filter]
  refine congrArg (List.find? · outputs) (funext fun output => ?_)
  by_cases hname : output.name = name
  · rw [Output.isSound_eq_of_ne_default (hname ▸ h) owned other]
  · simp [hname]

/-- An output that remains under a name other than `default` is the one declared under
it that is usable, or else the first one made for it. -/
theorem find?_outputs_reviewed {migrated : Migrated} {name : String}
    (h : (migrated.outputReviews lookup).failure? = none) (hname : name ≠ defaultOutput)
    (houtputs : migrated.spec.outputs =
      spec.outputs ++ Tenant.made spec store operatorNamespace) :
    (migrated.reviewed lookup).spec.outputs.find? (·.name == name) =
      (spec.declared? lookup name).or
        ((Tenant.made spec store operatorNamespace).find? (·.name == name)) := by
  have hmade : (Tenant.made spec store operatorNamespace).filter
      (·.isSound migrated.owned lookup) = Tenant.made spec store operatorNamespace :=
    List.filter_eq_self.2 fun output hmem => Tenant.isSound_of_mem_made hmem _ _
  rw [Migrated.outputs_reviewed h, find?_firstHolders List.not_mem_nil, houtputs,
    List.filter_append, List.find?_append, hmade, Spec.declared?,
    find?_filter_isSound hname migrated.owned {}]

/-- **Logs that are sent to `default`** reach the tenant of their kind iff they are kept
apart. The output found under a name is the only one that remains with it. -/
theorem reaches_tenant_iff_keepsApart {spec : Spec} {store : Store} {lookup : SecretLookup}
    {operator : Operator} {normalized : Normalized} {pipeline : Pipeline} {input : String}
    {kind : SourceKind}
    (h : (spec.normalize (some store) lookup operator).value = .ok normalized)
    (hstore : store.kind = .lokiStack) (hname : store.name ≠ "")
    (hpipeline : pipeline ∈ spec.pipelines) (hdefault : defaultOutput ∈ pipeline.outputRefs)
    (hinput : input ∈ pipeline.inputRefs)
    (hkind : Input.resolve? spec.inputs input = some kind) :
    ∃ url, store.gatewayUrl? operator.operatorNamespace kind.name = some url ∧
      (normalized.spec.outputs.find? (·.name == tenantOutput input) =
          some { name := tenantOutput input, kind := .loki, url } ↔
        spec.KeepsApart lookup input kind { name := tenantOutput input, kind := .loki, url }) := by
  obtain ⟨url, hurl⟩ :=
    Tenant.exists_gatewayUrl? hname operator.operatorNamespace kind.name
  have hmade : Tenant.output? store operator.operatorNamespace input kind =
      some { name := tenantOutput input, kind := .loki, url } := by
    rw [Tenant.output?, hurl]
    rfl
  have husable : store.Usable operator lookup := (Store.usable_iff_of_lokiStack hstore).2 hname
  obtain ⟨owned, -, hmigrate⟩ :=
    Spec.migrate_of_isConfigured spec operator (Store.isConfigured_of_usable husable)
  obtain ⟨hfailure, rfl⟩ := (Spec.normalize_eq_ok_iff_of_migrate hmigrate).1 h
  have hneeded : input ∈ Tenant.neededInputs spec.pipelines :=
    Tenant.mem_neededInputs.2 ⟨pipeline, hpipeline, hdefault, hinput⟩
  have houtputs : (spec.started.rerouted store operator).outputs =
      spec.outputs ++ Tenant.made spec store operator.operatorNamespace := by
    rw [Spec.started_of_mem hpipeline,
      Spec.rerouted_of_isMultiTenant (Store.isMultiTenant_iff.2 hstore)]
    rfl
  refine ⟨url, hurl, ?_⟩
  rw [find?_outputs_reviewed hfailure (Tenant.tenantOutput_ne_default input) houtputs,
    Spec.KeepsApart]
  cases spec.declared? lookup (tenantOutput input) with
  | some declared => rw [Option.some_or, Option.some.injEq]
  | none => rw [Option.none_or, ← hmade, Tenant.find?_made_eq_iff hname hneeded hkind]

/-- A specification that declares an output under the name of a tenant output, with or
without an address. -/
def claimingSpec (url : String) : Spec where
  outputs := [{ name := "default-loki-apps", kind := .http, url }]
  pipelines := [{ name := "logs", inputRefs := ["application"], outputRefs := ["default"] }]

/-- What comes of the claiming specification without an address: its output is dropped,
and the logs reach their tenant. -/
theorem reaches_tenant_claimingSpec : ∃ normalized url,
    ((claimingSpec "").normalize (some (.lokiStack "loki")) (fun _ => .ok none) {}).value =
      .ok normalized
    ∧ (Store.lokiStack "loki").gatewayUrl? "openshift-logging" "application" = some url
    ∧ normalized.spec.outputs.find? (·.name == tenantOutput "application") =
      some { name := "default-loki-apps", kind := .loki, url } := by
  have hvalue : ((claimingSpec "").normalize (some (.lokiStack "loki")) (fun _ => .ok none)
      {}).value.toOption.isSome := by decide +kernel
  cases h : ((claimingSpec "").normalize (some (.lokiStack "loki")) (fun _ => .ok none)
    {}).value with
  | error error => rw [h] at hvalue; exact absurd hvalue nofun
  | ok normalized =>
    obtain ⟨url, hurl, hiff⟩ := reaches_tenant_iff_keepsApart h rfl (by decide) List.mem_cons_self
      List.mem_cons_self List.mem_cons_self rfl
    refine ⟨normalized, url, rfl, hurl, hiff.2 ?_⟩
    rintro ⟨other, heq, -⟩
    cases other <;> exact absurd heq (by decide)

/-- An output that is declared under the name of a tenant output, and that can be used,
takes the logs of the tenant. -/
theorem exists_reaches_declared : ∃ normalized,
    ((claimingSpec "https://sink.example").normalize (some (.lokiStack "loki"))
      (fun _ => .ok none) {}).value = .ok normalized
    ∧ normalized.spec.outputs.find? (·.name == tenantOutput "application") =
      some { name := "default-loki-apps", kind := .http, url := "https://sink.example" } :=
  ⟨{ spec := { claimingSpec "https://sink.example" with
        pipelines :=
          [{ name := "logs", inputRefs := ["application"], outputRefs := ["default-loki-apps"] }] }
     status :=
      { logSources := { application := true }
        outputs :=
          [{ name := "default-loki-apps", state := .accepted },
            { name := "output[1]", state := .dropped
              conditions := [{ aspect := .name, reason := .nonUniqueName }] }]
        pipelines := [{ name := "logs", state := .accepted }] } },
    by decide +kernel, by decide⟩

end LogForwarding
