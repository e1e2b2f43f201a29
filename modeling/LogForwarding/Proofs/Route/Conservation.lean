import LogForwarding.Proofs.Route.Tenant
import Mathlib.Data.List.Forall2

/-!
# Fan-out takes every log where it went

Fan-out splits pipelines, renames their parts, and puts the outputs of tenants in the place of
`default`. What counts is where the logs of an input go, and what is done to them on the way:
the links of a pipeline (`Pipeline.links`), one for each of its inputs and outputs. A pipeline
and its parts have the same links, in the same order and as often, but that the output of an
input's tenant stands for `default`. Pipelines that are not split stay as they are, in between.

A pipeline without inputs has no links. It is not split, so that a reference to `default` can
be left in it.

## What is proved

* `Tenant.links_parts`: the links of the parts of a pipeline.
* `carriesLinksOf_fanOut`: fan-out keeps the links of a specification, and everything else.
-/

namespace LogForwarding

open Reserved (defaultOutput tenantOutput)

/-! ### Links -/

/-- What a pipeline does with the logs of one input for one output. -/
structure Link where
  /-- The input that the logs are from. -/
  input : String
  /-- The output that they go to. -/
  output : String
  /-- The labels put on every record. -/
  labels : Dictionary String
  /-- How records are parsed. -/
  parse : Option String
  deriving DecidableEq, Repr

/-- The same link to the output of the input's tenant, if it is one to `default`. -/
def Link.toTenant (link : Link) : Link :=
  if link.output = defaultOutput then { link with output := tenantOutput link.input } else link

/-- The links of a pipeline, by its inputs and then by its outputs. -/
def Pipeline.links (pipeline : Pipeline) : List Link :=
  pipeline.inputRefs.flatMap fun input => pipeline.outputRefs.map fun output =>
    { input, output, labels := pipeline.labels, parse := pipeline.parse }

/-- The links of all pipelines of a specification, in their order. -/
def Spec.links (spec : Spec) : List Link := spec.pipelines.flatMap (·.links)

/-- **Whether a specification is another one with the tenants of a store in the place of
`default`**, and with nothing else changed that logs could notice. -/
structure Spec.CarriesLinksOf (result spec : Spec) (store : Store) (operatorNamespace : String) :
    Prop where
  /-- The links are the same, in the same order, but that they go to tenants. -/
  links_eq : result.links = spec.links.map Link.toTenant
  /-- No pipeline with an input sends to `default` any more. -/
  default_notMem : ∀ pipeline ∈ result.pipelines, pipeline.inputRefs ≠ [] →
    defaultOutput ∉ pipeline.outputRefs
  /-- Every pipeline has others in its place, with its links. If it has no inputs, or does not
  send to `default`, it stays there itself. -/
  pipelines : ∃ segments : List (List Pipeline), result.pipelines = segments.flatten
    ∧ List.Forall₂ (fun source segment =>
      segment.flatMap (·.links) = source.links.map Link.toTenant
        ∧ (source.inputRefs = [] ∨ defaultOutput ∉ source.outputRefs → segment = [source]))
      spec.pipelines segments
  /-- The outputs stay, and behind them come those at the store, for all inputs of known kinds
  whose logs go to `default`, and no others. -/
  outputs : ∃ made, result.outputs = spec.outputs ++ made ∧ ∀ output, output ∈ made ↔
    ∃ pipeline ∈ spec.pipelines, defaultOutput ∈ pipeline.outputRefs
      ∧ ∃ input ∈ pipeline.inputRefs, ∃ kind, Input.resolve? spec.inputs input = some kind
        ∧ ∃ url, store.gatewayUrl? operatorNamespace kind.name = some url
          ∧ output = { name := tenantOutput input, kind := .loki, url }
  /-- The inputs are the same. -/
  inputs_eq : result.inputs = spec.inputs
  /-- So is the switch for default forwarding. -/
  disableDefaultForwarding_eq : result.disableDefaultForwarding = spec.disableDefaultForwarding
  /-- So are the settings for outputs that are made. -/
  outputDefaults_eq : result.outputDefaults = spec.outputDefaults

/-! ### One pipeline -/

theorem Pipeline.mem_links {pipeline : Pipeline} {link : Link} (h : link ∈ pipeline.links) :
    link.input ∈ pipeline.inputRefs ∧ link.output ∈ pipeline.outputRefs := by
  obtain ⟨input, hinput, hlink⟩ := List.mem_flatMap.1 h
  obtain ⟨output, houtput, rfl⟩ := List.mem_map.1 hlink
  exact ⟨hinput, houtput⟩

namespace Tenant

variable {pipeline : Pipeline}

theorem links_part (pipeline : Pipeline) (input : String) (position : Nat) :
    (part pipeline input position).links = pipeline.outputRefs.map fun output =>
      Link.toTenant { input, output, labels := pipeline.labels, parse := pipeline.parse } := by
  rw [Pipeline.links, part, List.flatMap_singleton, List.map_map]
  refine List.map_congr_left fun output _ => ?_
  simp only [Function.comp_apply, redirect, Link.toTenant]
  split_ifs <;> rfl

/-- A pipeline that is not split has no link to `default`. -/
theorem map_toTenant_links_of_not_isSplit (h : ¬isSplit pipeline) :
    pipeline.links.map Link.toTenant = pipeline.links := by
  have hsame : ∀ link ∈ pipeline.links, link.toTenant = link := by
    intro link hmem
    obtain ⟨hinput, houtput⟩ := Pipeline.mem_links hmem
    refine if_neg fun hdefault => h (isSplit_iff.2 ⟨?_, List.ne_nil_of_mem hinput⟩)
    rwa [hdefault] at houtput
  rw [List.map_congr_left hsame, List.map_id']

/-- **The parts of a pipeline have its links**, to tenants instead of `default`. -/
theorem links_parts (pipeline : Pipeline) :
    (parts pipeline).flatMap (·.links) = pipeline.links.map Link.toTenant := by
  by_cases h : isSplit pipeline
  · let linksOf (input : String) : List Link := pipeline.outputRefs.map fun output =>
      Link.toTenant { input, output, labels := pipeline.labels, parse := pipeline.parse }
    calc (parts pipeline).flatMap (·.links)
        = pipeline.inputRefs.zipIdx.flatMap fun entry => linksOf entry.1 := by
          rw [parts, if_pos h, List.flatMap_map]
          exact List.flatMap_congr fun entry _ => links_part pipeline entry.1 entry.2
      _ = (pipeline.inputRefs.zipIdx.map Prod.fst).flatMap linksOf := by rw [List.flatMap_map]
      _ = pipeline.inputRefs.flatMap linksOf := by rw [List.zipIdx_map_fst]
      _ = pipeline.links.map Link.toTenant := by
          rw [Pipeline.links, List.map_flatMap]
          refine List.flatMap_congr fun input _ => ?_
          rw [List.map_map]
          rfl
  · rw [parts_of_not_isSplit h, List.flatMap_singleton, map_toTenant_links_of_not_isSplit h]

/-- No part of a pipeline with an input sends to `default`. -/
theorem default_notMem_of_mem_parts {part : Pipeline} (hmem : part ∈ parts pipeline)
    (hinputs : part.inputRefs ≠ []) : defaultOutput ∉ part.outputRefs := by
  by_cases h : isSplit pipeline
  · obtain ⟨position, input, -, rfl⟩ := (mem_parts_iff h).1 hmem
    intro hdefault
    obtain ⟨ref, -, href⟩ := List.mem_map.1 hdefault
    unfold redirect at href
    split_ifs at href with hne
    · exact tenantOutput_ne_default input href
    · exact hne href
  · rw [parts_of_not_isSplit h] at hmem
    obtain rfl := List.mem_singleton.1 hmem
    exact fun hdefault => h (isSplit_iff.2 ⟨hdefault, hinputs⟩)

end Tenant

/-! ### All pipelines -/

theorem Tenant.value_fanOut_fst (spec : Spec) (store : Store) (operatorNamespace : String)
    (owned : Ownership) : (fanOut spec store operatorNamespace owned).value.1 =
      fannedOut spec store operatorNamespace := rfl

/-- **Fan-out takes every log where it went**: it keeps the links of a specification, but that
tenants stand for `default`, and changes nothing else. -/
theorem carriesLinksOf_fanOut (spec : Spec) (store : Store) (operatorNamespace : String)
    (owned : Ownership) : (Tenant.fanOut spec store operatorNamespace owned).value.1.CarriesLinksOf
      spec store operatorNamespace where
  links_eq := by
    rw [Tenant.value_fanOut_fst, Spec.links, Spec.links, Tenant.fannedOut, List.flatMap_assoc,
      List.map_flatMap]
    exact List.flatMap_congr fun pipeline _ => Tenant.links_parts pipeline
  default_notMem := by
    intro pipeline hmem
    obtain ⟨source, -, hpart⟩ := List.mem_flatMap.1 hmem
    exact Tenant.default_notMem_of_mem_parts hpart
  pipelines := by
    refine ⟨spec.pipelines.map Tenant.parts, List.flatMap_def, ?_⟩
    rw [List.forall₂_map_right_iff, List.forall₂_same]
    intro source _
    refine ⟨Tenant.links_parts source, fun hwhole => Tenant.parts_of_not_isSplit fun hsplit => ?_⟩
    obtain ⟨hdefault, hinputs⟩ := Tenant.isSplit_iff.1 hsplit
    exact hwhole.elim hinputs fun hnot => hnot hdefault
  outputs := by
    refine ⟨Tenant.made spec store operatorNamespace, rfl, fun output => ?_⟩
    constructor
    · intro hmade
      obtain ⟨input, hneeded, kind, hkind, houtput⟩ := Tenant.mem_made.1 hmade
      obtain ⟨pipeline, hpipeline, hdefault, hinput⟩ := Tenant.mem_neededInputs.1 hneeded
      obtain ⟨url, hurl, rfl⟩ := Option.map_eq_some_iff.1 houtput
      exact ⟨pipeline, hpipeline, hdefault, input, hinput, kind, hkind, url, hurl, rfl⟩
    · rintro ⟨pipeline, hpipeline, hdefault, input, hinput, kind, hkind, url, hurl, rfl⟩
      have hneeded := Tenant.mem_neededInputs.2 ⟨pipeline, hpipeline, hdefault, hinput⟩
      exact Tenant.mem_made.2
        ⟨input, hneeded, kind, hkind, Tenant.output?_of_gatewayUrl? hurl input⟩
  inputs_eq := rfl
  disableDefaultForwarding_eq := rfl
  outputDefaults_eq := rfl

end LogForwarding
