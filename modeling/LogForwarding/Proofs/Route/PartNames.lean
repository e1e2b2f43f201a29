import LogForwarding.Proofs.Names
import LogForwarding.Proofs.Route.Conservation
import LogForwarding.Proofs.Review.PipelineVerdicts
import Mathlib.Data.List.Lattice
import Mathlib.Data.List.Nodup
import Mathlib.Data.List.Pairwise

/-!
# The names of parts

The parts of a pipeline that fan-out splits are told apart by a number behind the pipeline's
name; the first part has the name itself. A numbered name tells the pipeline and the number, so
that no two parts have the same name, be they of one pipeline or of two. But a name that ends in
a number can be anyone's: a pipeline may be declared under the name that a part of another one
gets. `Spec.NumbersApart` says that none is.

Where one is, two pipelines have one name, and the review drops the second of them that could be
used, although no two were declared under one name.

## What is proved

* `Tenant.mem_map_name_parts_iff`: the names of the parts of a pipeline.
* `nodup_fanOut_iff_numbersApart`: fan-out keeps names distinct iff the specification numbers
  apart, and then no pipeline is dropped as one of several with its name.
* `exists_not_nodup_fanOut`: names do not always stay distinct.
-/

namespace LogForwarding

open Reserved (defaultOutput)

/-- Whether no pipeline is declared under the name of a numbered part of another one: of a
pipeline that sends to `default`, all inputs but the first have one. -/
def Spec.NumbersApart (spec : Spec) : Prop :=
  ∀ source ∈ spec.pipelines, defaultOutput ∈ source.outputRefs →
    ∀ number, 0 < number → number < source.inputRefs.length →
      ∀ other ∈ spec.pipelines, other.name ≠ s!"{source.name}-{number}"

namespace Tenant

/-! ### The names of one pipeline's parts -/

variable {pipeline : Pipeline}

theorem partName_zero (name : String) : partName name 0 = name := by
  simp [partName]

theorem partName_of_pos {name : String} (hname : name ≠ "") {number : Nat} (h : 0 < number) :
    partName name number = s!"{name}-{number}" := by
  simp [partName, hname, Nat.ne_of_gt h]

/-- The parts of a named pipeline have different names. -/
theorem partName_injective {name : String} (hname : name ≠ "") :
    Function.Injective (partName name) := by
  intro number number' h
  rcases Nat.eq_zero_or_pos number with rfl | hpos <;>
    rcases Nat.eq_zero_or_pos number' with rfl | hpos'
  · rfl
  · rw [partName_zero, partName_of_pos hname hpos'] at h
    exact absurd h (ne_numbered name number')
  · rw [partName_zero, partName_of_pos hname hpos] at h
    exact absurd h.symm (ne_numbered name number)
  · rw [partName_of_pos hname hpos, partName_of_pos hname hpos'] at h
    exact (numbered_eq_iff.1 h).2

theorem map_name_parts (h : isSplit pipeline) : (parts pipeline).map (·.name) =
    (List.range pipeline.inputRefs.length).map (partName pipeline.name) := by
  rw [List.range_eq_range', ← List.zipIdx_map_snd, List.map_map, parts, if_pos h, List.map_map]
  rfl

theorem map_name_parts_of_not_isSplit (h : ¬isSplit pipeline) :
    (parts pipeline).map (·.name) = [pipeline.name] := by
  rw [parts_of_not_isSplit h]
  rfl

theorem nodup_map_name_parts (hname : pipeline.name ≠ "") :
    ((parts pipeline).map (·.name)).Nodup := by
  by_cases h : isSplit pipeline
  · rw [map_name_parts h]
    exact List.nodup_range.map (partName_injective hname)
  · rw [map_name_parts_of_not_isSplit h]
    exact List.nodup_singleton _

/-- The names of the parts of a pipeline: its own, and, if it is split, numbered ones for all
inputs but the first. -/
theorem mem_map_name_parts_iff (hname : pipeline.name ≠ "") {name : String} :
    name ∈ (parts pipeline).map (·.name) ↔ name = pipeline.name
      ∨ defaultOutput ∈ pipeline.outputRefs ∧ ∃ number, 0 < number
        ∧ number < pipeline.inputRefs.length ∧ name = s!"{pipeline.name}-{number}" := by
  by_cases h : isSplit pipeline
  · obtain ⟨hdefault, hinputs⟩ := isSplit_iff.1 h
    rw [map_name_parts h, List.mem_map]
    simp only [List.mem_range]
    constructor
    · rintro ⟨number, hlt, rfl⟩
      rcases Nat.eq_zero_or_pos number with rfl | hpos
      · exact Or.inl (partName_zero _)
      · exact Or.inr ⟨hdefault, number, hpos, hlt, partName_of_pos hname hpos⟩
    · rintro (rfl | ⟨-, number, hpos, hlt, rfl⟩)
      · exact ⟨0, List.length_pos_of_ne_nil hinputs, partName_zero _⟩
      · exact ⟨number, hlt, partName_of_pos hname hpos⟩
  · rw [map_name_parts_of_not_isSplit h, List.mem_singleton]
    refine ⟨Or.inl, ?_⟩
    rintro (heq | ⟨hdefault, number, -, hlt, -⟩)
    · exact heq
    · refine absurd (isSplit_iff.2 ⟨hdefault, ?_⟩) h
      exact List.ne_nil_of_length_pos (Nat.lt_of_le_of_lt (Nat.zero_le _) hlt)

end Tenant

/-! ### The names of all parts -/

section Names

variable {spec : Spec} (hnamed : ∀ pipeline ∈ spec.pipelines, pipeline.name ≠ "")

include hnamed

/-- The parts of two pipelines share a name only if one of the pipelines has the name of a
numbered part of the other. -/
theorem Spec.NumbersApart.disjoint (h : spec.NumbersApart)
    (hnodup : (spec.pipelines.map (·.name)).Nodup) : spec.pipelines.Pairwise
    (Function.onFun List.Disjoint fun pipeline => (Tenant.parts pipeline).map (·.name)) := by
  refine (List.pairwise_map.1 hnodup).imp_of_mem fun {first second} hfirst hsecond hne name => ?_
  rw [Tenant.mem_map_name_parts_iff (hnamed first hfirst),
    Tenant.mem_map_name_parts_iff (hnamed second hsecond)]
  rintro (rfl | ⟨hdefault, number, hpos, hlt, rfl⟩) (heq | ⟨hdefault', number', hpos', hlt', heq⟩)
  · exact hne heq
  · exact h second hsecond hdefault' number' hpos' hlt' first hfirst heq
  · exact h first hfirst hdefault number hpos hlt second hsecond heq.symm
  · exact hne (numbered_eq_iff.1 heq).1

/-- Where the parts of all pipelines have different names, no pipeline has the name of a numbered
part of another one. -/
theorem Spec.numbersApart_of_disjoint (h : spec.pipelines.Pairwise
    (Function.onFun List.Disjoint fun pipeline => (Tenant.parts pipeline).map (·.name))) :
    spec.NumbersApart := by
  intro source hsource hdefault number hpos hlt other hother heq
  have hne : source ≠ other := by
    rintro rfl
    exact ne_numbered source.name number heq
  have hsymm : Std.Symm (Function.onFun List.Disjoint fun pipeline : Pipeline =>
    (Tenant.parts pipeline).map (·.name)) := ⟨fun _ _ hdisjoint => hdisjoint.symm⟩
  have hsourceName := (Tenant.mem_map_name_parts_iff (hnamed source hsource)).2
    (Or.inr ⟨hdefault, number, hpos, hlt, heq⟩)
  have hotherName := (Tenant.mem_map_name_parts_iff (hnamed other hother)).2 (Or.inl rfl)
  exact h.forall hsource hother hne hsourceName hotherName

end Names

/-- **Fan-out keeps names distinct** iff no pipeline has the name of a numbered part of another
one. Then no pipeline that it leaves is dropped as one of several with its name. -/
theorem nodup_fanOut_iff_numbersApart {spec : Spec} (store : Store) (operatorNamespace : String)
    (owned : Ownership) (hnamed : ∀ pipeline ∈ spec.pipelines, pipeline.name ≠ "")
    (hnodup : (spec.pipelines.map (·.name)).Nodup) :
    let pipelines := (Tenant.fanOut spec store operatorNamespace owned).value.1.pipelines
    ((pipelines.map (·.name)).Nodup ↔ spec.NumbersApart)
      ∧ (spec.NumbersApart → ∀ (inputs : List Input) (accepted : List String) (owned : Ownership),
        ∀ status ∈ (reviewPipelines pipelines inputs accepted owned).statuses,
          ¬status.hasReason .uniqueName) := by
  intro pipelines
  have hiff : (pipelines.map (·.name)).Nodup ↔ spec.NumbersApart := by
    have hnames : pipelines.map (·.name) =
        spec.pipelines.flatMap fun pipeline => (Tenant.parts pipeline).map (·.name) :=
      List.map_flatMap
    rw [hnames, List.nodup_flatMap]
    constructor
    · rintro ⟨-, hdisjoint⟩
      exact Spec.numbersApart_of_disjoint hnamed hdisjoint
    · intro h
      exact ⟨fun pipeline hmem => Tenant.nodup_map_name_parts (hnamed pipeline hmem),
        h.disjoint hnamed hnodup⟩
  exact ⟨hiff, fun h inputs accepted owned status hmem =>
    not_hasReason_uniqueName_of_nodup (hiff.2 h) hmem⟩

/-- A pipeline with two inputs, and one that is declared under the name of its second part, or
under another one. -/
def numberedSpec (other : String) : Spec where
  pipelines :=
    [{ name := "logs", inputRefs := ["application", "infrastructure"], outputRefs := ["default"] },
      { name := other, inputRefs := ["audit"], outputRefs := ["default"] }]

/-- There is no third part, so that its name is free. -/
theorem nodup_fanOut_numberedSpec :
    (∀ pipeline ∈ (numberedSpec "logs-2").pipelines, pipeline.name ≠ "")
      ∧ ((numberedSpec "logs-2").pipelines.map (·.name)).Nodup
      ∧ (numberedSpec "logs-2").NumbersApart
      ∧ ((Tenant.fanOut (numberedSpec "logs-2") (.lokiStack "loki") "openshift-logging"
          {}).value.1.pipelines.map (·.name)).Nodup
      ∧ ∀ status ∈ (reviewPipelines (Tenant.fanOut (numberedSpec "logs-2") (.lokiStack "loki")
          "openshift-logging" {}).value.1.pipelines [] ["default-loki-audit"] {}).statuses,
        ¬status.hasReason .uniqueName := by
  have hnamed : ∀ pipeline ∈ (numberedSpec "logs-2").pipelines, pipeline.name ≠ "" := by decide
  have hnodup : ((numberedSpec "logs-2").pipelines.map (·.name)).Nodup := by decide
  obtain ⟨hiff, hreasons⟩ := nodup_fanOut_iff_numbersApart (.lokiStack "loki") "openshift-logging"
    {} hnamed hnodup
  have hafter : ((Tenant.fanOut (numberedSpec "logs-2") (.lokiStack "loki") "openshift-logging"
    {}).value.1.pipelines.map (·.name)).Nodup := by decide
  have hapart := hiff.1 hafter
  exact ⟨hnamed, hnodup, hapart, hafter, hreasons hapart [] ["default-loki-audit"] {}⟩

/-- **Names do not always stay distinct**: of two pipelines under different names the first is
split, and its second part takes the name of the other one, which is dropped as the second
pipeline of that name. No audit logs are forwarded, although there is an output for them. -/
theorem exists_not_nodup_fanOut :
    let spec := numberedSpec "logs-1"
    let pipelines :=
      (Tenant.fanOut spec (.lokiStack "loki") "openshift-logging" {}).value.1.pipelines
    let found := reviewPipelines pipelines spec.inputs
      ["default-loki-apps", "default-loki-audit", "default-loki-infra"] {}
    (∀ pipeline ∈ spec.pipelines, pipeline.name ≠ "") ∧ (spec.pipelines.map (·.name)).Nodup
      ∧ pipelines.map (·.name) = ["logs", "logs-1", "logs-1"]
      ∧ ¬(pipelines.map (·.name)).Nodup
      ∧ found.statuses.map (fun status => (status.state, status.reasons)) =
          [(.accepted, []), (.accepted, []), (.dropped, [.uniqueName])]
      ∧ found.logSources.toList = [.application, .infrastructure] := by
  decide

end LogForwarding
