import LogForwarding.Route.Index
import Mathlib.Data.List.Basic
import Mathlib.Data.List.Induction
import Mathlib.Tactic.SplitIfs

/-!
# What the route index answers

The index is filled one reference at a time. `RouteIndex.referencing_add` says what one
entry changes, and the answers of a finished index follow by induction on the
references and on the pipelines.

## What is proved

* `RouteIndex.referencing_ofPipelines`: under an output the index has the pipelines that
  send to it, in their order, each once.
* `RouteIndex.isReferenced_ofPipelines`: it knows an output iff some pipeline sends to it.
* `RouteIndex.ofPipelines_answers`: what both answers say of the pipelines.
-/

namespace LogForwarding.RouteIndex

/-- The pipelines recorded under an output, with one more unless it is there already. -/
def appendNew (pipelines : List String) (pipeline : String) : List String :=
  if pipeline ∈ pipelines then pipelines else pipelines ++ [pipeline]

theorem lookup_cons_eq_ite (key other : String) (pipelines : List String)
    (rest : List (String × List String)) : ((key, pipelines) :: rest).lookup other =
      if other = key then some pipelines else rest.lookup other := by
  rw [List.lookup_cons]
  by_cases h : other = key
  · simp [h]
  · rw [beq_eq_false_iff_ne.2 h, if_neg h]

theorem lookup_record (output pipeline other : String) (entries : List (String × List String)) :
    (record output pipeline entries).lookup other =
      if other = output then some (appendNew ((entries.lookup other).getD []) pipeline)
      else entries.lookup other := by
  induction entries with
  | nil => simp [record, lookup_cons_eq_ite, appendNew]
  | cons entry rest ih =>
    obtain ⟨key, pipelines⟩ := entry
    by_cases hkey : key = output
    · subst hkey
      by_cases h : other = key <;> simp [record, lookup_cons_eq_ite, appendNew, h]
    · rw [record, if_neg hkey, lookup_cons_eq_ite, lookup_cons_eq_ite, ih]
      by_cases h : other = key
      · simp [h, hkey]
      · simp [h]

/-- Recording a pipeline under an output changes the answer for that output only. -/
theorem referencing_add (index : RouteIndex) (output pipeline other : String) :
    (index.add output pipeline).referencing other =
      if other = output then appendNew (index.referencing other) pipeline
      else index.referencing other := by
  unfold referencing add
  rw [lookup_record]
  split_ifs <;> rfl

/-! ### One pipeline -/

theorem appendNew_appendNew (pipelines : List String) (pipeline : String) :
    appendNew (appendNew pipelines pipeline) pipeline = appendNew pipelines pipeline := by
  refine if_pos ?_
  unfold appendNew
  split_ifs with h
  · exact h
  · exact List.mem_append_right _ (List.mem_singleton_self pipeline)

/-- Recording a pipeline under several outputs changes the answers for those, each once. -/
theorem referencing_foldl_add (refs : List String) (index : RouteIndex)
    (pipeline other : String) :
    (refs.foldl (fun index output => index.add output pipeline) index).referencing other =
      if refs.contains other then appendNew (index.referencing other) pipeline
      else index.referencing other := by
  induction refs generalizing index with
  | nil => rfl
  | cons ref rest ih =>
    rw [List.foldl_cons, ih, referencing_add, List.contains_cons]
    by_cases hfirst : other = ref
    · subst hfirst
      simp only [if_true, beq_self_eq_true, Bool.true_or, appendNew_appendNew, ite_self]
    · rw [if_neg hfirst, beq_eq_false_iff_ne.2 hfirst, Bool.false_or]

theorem referencing_addPipeline (index : RouteIndex) (pipeline : Pipeline) (position : Nat)
    (output : String) : (index.addPipeline pipeline position).referencing output =
      if pipeline.references output then
        appendNew (index.referencing output) (pipeline.displayName position)
      else index.referencing output :=
  referencing_foldl_add _ _ _ _

/-! ### All pipelines -/

/-- The pipelines that send to an output, as reports show them, of pipelines with their
positions. -/
def referrers (output : String) (entries : List (Pipeline × Nat)) : List String :=
  (entries.filter (·.1.references output)).map fun entry => entry.1.displayName entry.2

theorem appendNew_eraseDups (names : List String) (name : String) :
    appendNew names.eraseDups name = (names ++ [name]).eraseDups := by
  rw [List.eraseDups_append]
  unfold appendNew
  by_cases h : name ∈ names <;> simp [h, List.removeAll, List.eraseDups_cons]

/-- Recording more pipelines goes on with the answer in order, and without repeats. -/
theorem referencing_foldl_addPipeline {output : String} (entries : List (Pipeline × Nat))
    {index : RouteIndex} {names : List String} (h : index.referencing output = names.eraseDups) :
    (entries.foldl (fun index entry => index.addPipeline entry.1 entry.2) index).referencing
        output = (names ++ referrers output entries).eraseDups := by
  induction entries generalizing index names with
  | nil => rw [referrers, List.filter_nil, List.map_nil, List.append_nil, List.foldl_nil, h]
  | cons entry rest ih =>
    have hadd := referencing_addPipeline index entry.1 entry.2 output
    rw [h, appendNew_eraseDups] at hadd
    rw [List.foldl_cons, referrers, List.filter_cons]
    split_ifs at hadd ⊢ with hreferences
    · rw [ih hadd, List.map_cons, List.append_assoc]
      rfl
    · exact ih hadd

/-- **The index is exact**: under an output it has the pipelines that send to it, in their
order, each once. -/
theorem referencing_ofPipelines (pipelines : List Pipeline) (output : String) :
    (ofPipelines pipelines).referencing output =
      (referrers output pipelines.zipIdx).eraseDups := by
  have hempty : ({} : RouteIndex).referencing output = ([] : List String).eraseDups := rfl
  exact referencing_foldl_addPipeline pipelines.zipIdx hempty

/-- The index knows an output iff some pipeline sends to it. -/
theorem isReferenced_ofPipelines (pipelines : List Pipeline) (output : String) :
    (ofPipelines pipelines).isReferenced output = pipelines.any (·.references output) := by
  have hany : pipelines.any (·.references output) =
      pipelines.zipIdx.any (·.1.references output) := by
    calc pipelines.any (·.references output)
        = (pipelines.zipIdx.map Prod.fst).any (·.references output) := by rw [List.zipIdx_map_fst]
      _ = pipelines.zipIdx.any (·.1.references output) := List.any_map
  have hnil : ∀ names : List String, names.eraseDups = [] ↔ names = [] := by
    intro names
    cases names <;> simp [List.eraseDups_cons]
  rw [hany, Bool.eq_iff_iff, isReferenced, referencing_ofPipelines, Bool.not_eq_true',
    List.isEmpty_eq_false_iff, ne_eq, hnil, referrers, List.map_eq_nil_iff,
    List.filter_eq_nil_iff]
  simp

/-! ### The whole answer -/

/-- Without repeats, names stand in the order in which each comes first. -/
theorem pairwise_idxOf_eraseDups (names : List String) :
    names.eraseDups.Pairwise (names.idxOf · < names.idxOf ·) := by
  induction names using List.reverseRecOn with
  | nil => exact List.Pairwise.nil
  | append_singleton names name ih =>
    -- a name that occurs before keeps its place
    have hfirst : ∀ other ∈ names.eraseDups, (names ++ [name]).idxOf other = names.idxOf other :=
      fun other h => List.idxOf_append_of_mem (List.mem_eraseDups.1 h)
    have hnames : names.eraseDups.Pairwise
        ((names ++ [name]).idxOf · < (names ++ [name]).idxOf ·) := by
      refine ih.imp_of_mem fun {a b} ha hb hlt => ?_
      rwa [hfirst a ha, hfirst b hb]
    rw [← appendNew_eraseDups]
    unfold appendNew
    split_ifs with hmem
    · exact hnames
    · refine List.pairwise_append.2 ⟨hnames, List.pairwise_singleton _ _, fun a ha b hb => ?_⟩
      obtain rfl := List.mem_singleton.1 hb
      have hb : b ∉ names := fun h => hmem (List.mem_eraseDups.2 h)
      rw [hfirst a ha, List.idxOf_append_of_notMem hb]
      have hlt := List.idxOf_lt_length_of_mem (List.mem_eraseDups.1 ha)
      omega

theorem mem_referrers_iff {output name : String} {pipelines : List Pipeline} :
    name ∈ referrers output pipelines.zipIdx ↔ ∃ (position : Nat) (pipeline : Pipeline),
      pipelines[position]? = some pipeline ∧ output ∈ pipeline.outputRefs
        ∧ pipeline.displayName position = name := by
  simp only [referrers, List.mem_map, List.mem_filter, Prod.exists, List.mem_zipIdx_iff_getElem?,
    Pipeline.references, List.contains_iff_mem]
  constructor
  · rintro ⟨pipeline, position, ⟨hget, hmem⟩, hname⟩
    exact ⟨position, pipeline, hget, hmem, hname⟩
  · rintro ⟨position, pipeline, hget, hmem, hname⟩
    exact ⟨pipeline, position, ⟨hget, hmem⟩, hname⟩

/-- **The index answers for the pipelines.** Under an output it has the names by which reports
show the pipelines that send to it: those and no others, in the order of the pipelines, and each
once, where it comes first. It knows an output iff some pipeline sends to it. -/
theorem ofPipelines_answers (pipelines : List Pipeline) (output : String) :
    let index := ofPipelines pipelines
    let shown := (pipelines.zipIdx.filter fun (pipeline, _) => output ∈ pipeline.outputRefs).map
      fun (pipeline, position) => pipeline.displayName position
    index.referencing output = shown.eraseDups
      ∧ (∀ name, name ∈ index.referencing output ↔ ∃ (position : Nat) (pipeline : Pipeline),
          pipelines[position]? = some pipeline ∧ output ∈ pipeline.outputRefs
            ∧ pipeline.displayName position = name)
      ∧ (index.referencing output).Pairwise (shown.idxOf · < shown.idxOf ·)
      ∧ (index.isReferenced output ↔ ∃ pipeline ∈ pipelines, pipeline.references output) := by
  intro index shown
  have hshown : shown = referrers output pipelines.zipIdx := by
    simp only [shown, referrers, Pipeline.references, List.contains_eq_mem]
  have hindex : index.referencing output = shown.eraseDups := by
    rw [hshown]
    exact referencing_ofPipelines pipelines output
  refine ⟨hindex, fun name => ?_, ?_, ?_⟩
  · rw [hindex, List.mem_eraseDups, hshown, mem_referrers_iff]
  · rw [hindex]
    exact pairwise_idxOf_eraseDups shown
  · rw [isReferenced_ofPipelines, List.any_eq_true]

/-- A pipeline that repeats a reference, two of one name, and one that is called like the place
of another are each shown once. -/
example :
    let pipelines : List Pipeline :=
      [{ name := "logs", outputRefs := ["default", "es", "default"] },
        { outputRefs := ["es", "default"] }, { name := "logs", outputRefs := ["es", "default"] },
        { name := "pipeline[1]", outputRefs := ["default"] }]
    (ofPipelines pipelines).referencing "default" = ["logs", "pipeline[1]"] := by decide

end LogForwarding.RouteIndex
