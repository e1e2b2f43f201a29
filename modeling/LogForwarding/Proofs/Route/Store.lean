import LogForwarding.Proofs.Normalization
import LogForwarding.Proofs.Route.Migration

/-!
# What a store makes of `default`

Whether the logs that are sent to `default` arrive depends on the store, on what the
operator provides, and on the secret of the collectors, and on nothing else.
`Store.Usable` says when they do, and `Store.LookupFails` when a run is given up over
the collectors' secret.

## What is proved

* `Spec.isSound_newDefaultOutput_iff`: the output of a single tenant store is sound iff
  the store is usable.
* `Tenant.exists_mem_made`: a multi tenant store that is usable has an output for every
  input of a known kind that is needed.
* `Spec.mem_outputs_withDefaultOutput`: every output `default` is that of the store, up
  to its settings, and is not changed by placing it once more.
-/

namespace LogForwarding

open Reserved (defaultOutput tenantOutput)

namespace Store

/-- The address of a single tenant store. -/
def address (store : Store) (operator : Operator) : String :=
  if store.serviceEndpoint.isEmpty then operator.defaultStoreUrl else store.serviceEndpoint

/-- Whether logs that are sent to a store arrive: a single tenant store needs an address
and a secret for the collectors that is found, a multi tenant store a name. -/
def Usable (store : Store) (operator : Operator) (lookup : SecretLookup) : Prop :=
  match store.kind with
  | .none => False
  | .elasticsearch => store.address operator ≠ "" ∧ operator.collectorSecret ≠ ""
      ∧ ∃ secret, lookup operator.collectorSecret = .ok (some secret)
  | .lokiStack => store.name ≠ ""

/-- Whether looking up the secret that a store needs fails. -/
def LookupFails (store : Store) (operator : Operator) (lookup : SecretLookup) : Prop :=
  store.kind = .elasticsearch ∧ operator.collectorSecret ≠ ""
    ∧ ∃ error, lookup operator.collectorSecret = .error error

variable {store : Store} {operator : Operator} {lookup : SecretLookup}

theorem isMultiTenant_iff : store.isMultiTenant ↔ store.kind = .lokiStack := beq_iff_eq

/-- A store is a single tenant store, a multi tenant store, or none at all. -/
theorem kind_of_isConfigured (h : store.isConfigured) :
    store.kind = .elasticsearch ∨ store.kind = .lokiStack := by
  unfold isConfigured at h
  cases hkind : store.kind <;> simp [hkind] at h ⊢

theorem isConfigured_of_isMultiTenant (h : store.isMultiTenant) : store.isConfigured := by
  rw [isConfigured, isMultiTenant_iff.1 h]
  rfl

theorem isConfigured_of_usable (h : store.Usable operator lookup) : store.isConfigured := by
  unfold Usable at h
  unfold isConfigured
  cases hkind : store.kind <;> simp [hkind] at h ⊢

theorem usable_iff_of_elasticsearch (h : store.kind = .elasticsearch) :
    store.Usable operator lookup ↔ store.address operator ≠ "" ∧ operator.collectorSecret ≠ ""
      ∧ ∃ secret, lookup operator.collectorSecret = .ok (some secret) := by
  rw [Usable, h]

theorem usable_iff_of_lokiStack (h : store.kind = .lokiStack) :
    store.Usable operator lookup ↔ store.name ≠ "" := by
  rw [Usable, h]

theorem isConfigured_of_elasticsearch (h : store.kind = .elasticsearch) : store.isConfigured := by
  rw [isConfigured, h]
  rfl

theorem isMultiTenant_of_elasticsearch (h : store.kind = .elasticsearch) :
    ¬ store.isMultiTenant := by
  simp [isMultiTenant_iff, h]

end Store

variable {store : Store} {operator : Operator} {lookup : SecretLookup} {owned : Ownership}

/-! ### The output of a single tenant store -/

namespace Spec

variable {spec : Spec}

/-- Settings do not matter to whether an output is sound. -/
theorem isSound_with_tuning (output : Output) (tuning : Option Tuning) :
    ({ output with elasticsearch := tuning } : Output).isSound owned lookup =
      output.isSound owned lookup := rfl

/-- **The output of a single tenant store** is sound iff the store is usable. -/
theorem isSound_newDefaultOutput_iff (h : store.kind = .elasticsearch)
    (howned : owned.ownsOutput defaultOutput) :
    (spec.newDefaultOutput store operator).isSound owned lookup ↔
      store.Usable operator lookup := by
  have hsecured : (spec.newDefaultOutput store operator).isSecured lookup ↔
      operator.collectorSecret ≠ ""
        ∧ ∃ secret, lookup operator.collectorSecret = .ok (some secret) := by
    simp only [Output.isSecured, newDefaultOutput, Bool.and_eq_true, Bool.not_eq_true',
      ← Bool.not_eq_true, String.isEmpty_iff]
    refine and_congr_right fun _ => ?_
    cases lookup operator.collectorSecret with
    | error error => simp
    | ok found => cases found <;> simp
  rw [Output.isSound_iff, hsecured, Store.usable_iff_of_elasticsearch h]
  constructor
  · rintro ⟨-, -, -, hurl, hsecret⟩
    exact ⟨hurl, hsecret⟩
  · rintro ⟨hurl, hsecret⟩
    exact ⟨(by decide : defaultOutput ≠ ""), fun _ => howned, rfl, hurl, hsecret⟩

theorem lookupFailure?_newDefaultOutput_eq_none_iff (h : store.kind = .elasticsearch) :
    (spec.newDefaultOutput store operator).lookupFailure? lookup = none ↔
      ¬ store.LookupFails operator lookup := by
  unfold Output.lookupFailure? Output.secretName? newDefaultOutput Store.LookupFails
  by_cases hname : operator.collectorSecret = ""
  · simp [hname]
  · cases hlookup : lookup operator.collectorSecret <;> simp [hname, h, hlookup]

/-- Where `default` is placed, there is an output of that name. -/
theorem exists_mem_outputs_withDefaultOutput (spec : Spec) (store : Store)
    (operator : Operator) :
    ∃ output ∈ (spec.withDefaultOutput store operator).outputs, output.name = defaultOutput := by
  unfold withDefaultOutput
  split_ifs with h
  · obtain ⟨declared, hmem, hname⟩ := List.any_eq_true.1 h
    refine ⟨_, List.mem_map_of_mem hmem, ?_⟩
    rw [Output.replaceDefault, if_pos (eq_of_beq hname)]
    rfl
  · exact ⟨_, List.mem_append_right _ (List.mem_singleton_self _), rfl⟩

/-- **Every output `default` is that of the store**, up to its settings, and is not
changed by placing the store's output once more. -/
theorem mem_outputs_withDefaultOutput {output : Output}
    (h : output ∈ (spec.withDefaultOutput store operator).outputs)
    (hname : output.name = defaultOutput) :
    (∃ tuning, output = { spec.newDefaultOutput store operator with elasticsearch := tuning })
      ∧ (spec.newDefaultOutput store operator).replaceDefault output = output := by
  unfold withDefaultOutput at h
  rw [Output.replaceDefault, if_pos hname]
  simp only at h
  split_ifs at h with hany
  · obtain ⟨declared, -, rfl⟩ := List.mem_map.1 h
    by_cases hdeclared : declared.name = defaultOutput
    · rw [Output.replaceDefault, if_pos hdeclared]
      refine ⟨⟨_, rfl⟩, ?_⟩
      cases declared.elasticsearch <;> cases hmade : spec.newDefaultOutput store operator <;> simp
    · rw [Output.replaceDefault, if_neg hdeclared] at hname
      exact absurd hname hdeclared
  · rcases List.mem_append.1 h with hdeclared | hmade
    · refine absurd ?_ hany
      exact List.any_eq_true.2 ⟨output, hdeclared, beq_iff_eq.2 hname⟩
    · rw [List.mem_singleton.1 hmade]
      exact ⟨⟨_, rfl⟩, by cases hmade : spec.newDefaultOutput store operator; simp⟩

/-- Where every output `default` is what placing the store's output makes of it, and there is
one, placing it changes nothing. -/
theorem withDefaultOutput_eq_self (hplaced : defaultOutput ∈ spec.outputs.map (·.name))
    (hsame : ∀ output ∈ spec.outputs, output.name = defaultOutput →
      (spec.newDefaultOutput store operator).replaceDefault output = output) :
    spec.withDefaultOutput store operator = spec := by
  have hany : spec.outputs.any (·.name == defaultOutput) := by
    obtain ⟨output, houtput, hname⟩ := List.mem_map.1 hplaced
    exact List.any_eq_true.2 ⟨output, houtput, beq_iff_eq.2 hname⟩
  have hreplace : ∀ output ∈ spec.outputs,
      (spec.newDefaultOutput store operator).replaceDefault output = output := by
    intro output houtput
    by_cases hname : output.name = defaultOutput
    · exact hsame output houtput hname
    · exact if_neg hname
  rw [withDefaultOutput]
  simp only [hany, if_true]
  rw [List.map_congr_left hreplace, List.map_id']

/-- Every output `default` is sound iff the store is usable. -/
theorem isSound_of_mem_withDefaultOutput {output : Output} (hkind : store.kind = .elasticsearch)
    (howned : owned.ownsOutput defaultOutput)
    (hmem : output ∈ (spec.withDefaultOutput store operator).outputs)
    (hname : output.name = defaultOutput) :
    output.isSound owned lookup ↔ store.Usable operator lookup := by
  obtain ⟨⟨tuning, rfl⟩, -⟩ := mem_outputs_withDefaultOutput hmem hname
  rw [isSound_with_tuning]
  exact isSound_newDefaultOutput_iff hkind howned

@[simp] theorem name_replaceDefault_newDefaultOutput (spec : Spec) (store : Store)
    (operator : Operator) (declared : Output) :
    ((spec.newDefaultOutput store operator).replaceDefault declared).name = declared.name := by
  unfold Output.replaceDefault
  split_ifs with hname
  · exact hname.symm
  · rfl

/-- Apart from `default`, placing the output of a single tenant store leaves the outputs as
they are. -/
theorem filter_outputs_withDefaultOutput (spec : Spec) (store : Store) (operator : Operator) :
    (spec.withDefaultOutput store operator).outputs.filter (·.name != defaultOutput) =
      spec.outputs.filter (·.name != defaultOutput) := by
  unfold withDefaultOutput
  dsimp only
  split_ifs with hany
  · have hkept : ∀ declared ∈ spec.outputs.filter (·.name != defaultOutput),
        (spec.newDefaultOutput store operator).replaceDefault declared = declared := by
      intro declared hmem
      exact if_neg (bne_iff_ne.1 (List.mem_filter.1 hmem).2)
    simp only [List.filter_map, Function.comp_def, name_replaceDefault_newDefaultOutput]
    rw [List.map_congr_left hkept, List.map_id']
  · have hmade : (spec.newDefaultOutput store operator).name = defaultOutput := rfl
    simp [List.filter_append, hmade]

end Spec

/-! ### The outputs of a multi tenant store -/

/-- A multi tenant store with a name has an output for every input of a known kind that
is needed. -/
theorem Tenant.exists_mem_made {spec : Spec} {input : String} {kind : SourceKind}
    (operatorNamespace : String) (h : store.name ≠ "")
    (hneeded : input ∈ neededInputs spec.pipelines)
    (hkind : Input.resolve? spec.inputs input = some kind) :
    ∃ output ∈ made spec store operatorNamespace, output.name = tenantOutput input := by
  obtain ⟨url, hurl⟩ := exists_gatewayUrl? h operatorNamespace kind.name
  exact ⟨_, mem_made.2 ⟨input, hneeded, kind, hkind, output?_of_gatewayUrl? hurl input⟩, rfl⟩

/-- A multi tenant store without a name has no outputs. -/
theorem Tenant.made_eq_nil {spec : Spec} {operatorNamespace : String} (h : store.name = "") :
    made spec store operatorNamespace = [] := by
  refine List.eq_nil_iff_forall_not_mem.2 fun output houtput => ?_
  obtain ⟨input, -, kind, -, houtput⟩ := mem_made.1 houtput
  obtain ⟨url, hurl, -⟩ := Option.map_eq_some_iff.1 houtput
  exact name_ne_empty_of_gatewayUrl? hurl h

end LogForwarding
