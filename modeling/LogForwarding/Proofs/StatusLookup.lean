import LogForwarding.Proofs.Accounts

/-!
# Looking up a status by name

A status report lists all entities of the migrated specification in their order, those that are
left and those that are dropped. An entity is shown under its name, or under its position if
the name is at fault (`Display`). Looking up a name finds the first entity that is shown under it.

Of the entities that are left no two have the same name. But one that is dropped can have the
name of one that is left behind it, if something else is wrong with it, and an entity can be
called like a position, such as `output[0]`. Then the name finds the one that is dropped.

## What is proved

* `EntityStatus.exists_lookup`: among statuses, the name of one that is not dropped finds it, or
  one before it that is dropped.
* `Migrated.isReport_outputs_reviewed`, `Migrated.isReport_pipelines_reviewed`: under which names
  a run shows the entities.
* `lookup_normalize`: the name of an entity that is left finds its own status iff no entity
  before it is shown under that name, and otherwise one that is dropped.
* `exists_lookup_dropped`: it does not always find its own.
-/

namespace LogForwarding

open Reserved (defaultOutput)

/-! ### The names that entities are shown under -/

/-- How the entities of one kind are shown in a report. -/
structure Display (α : Type) where
  /-- The name that an entity has. -/
  name : α → String
  /-- What is shown instead if the name is at fault: the position. -/
  placeholder : Nat → String
  /-- Whether the name of an entity is at fault, given those before it. -/
  Faulty : List α → α → Prop

/-- Whether the entity at a position is shown under a name. -/
def Display.Shows {α : Type} (display : Display α) (entities : List α) (position : Nat)
    (shown : String) : Prop :=
  ∃ entity, entities[position]? = some entity ∧
    (display.Faulty (entities.take position) entity ∧ display.placeholder position = shown
      ∨ ¬ display.Faulty (entities.take position) entity ∧ display.name entity = shown)

/-- How outputs are shown. A name is at fault if it is none, if it is the reserved one and not
recorded, or if a sound output before it has it. -/
def Output.display (owned : Ownership) (lookup : SecretLookup) : Display Output where
  name := (·.name)
  placeholder position := s!"output[{position}]"
  Faulty earlier output :=
    output.name = "" ∨ (output.name = defaultOutput ∧ ¬ owned.ownsOutput output.name)
      ∨ ∃ other ∈ earlier, other.isSound owned lookup ∧ other.name = output.name

/-- How pipelines are shown. A name is at fault if it is none, if it is that of a standard
pipeline and not recorded, or if an eligible pipeline before it has it. -/
def Pipeline.display (inputs : List Input) (accepted : List String) (owned : Ownership) :
    Display Pipeline where
  name := (·.name)
  placeholder position := s!"pipeline[{position}]"
  Faulty earlier pipeline :=
    pipeline.name = ""
      ∨ (Reserved.isPipelineName pipeline.name ∧ ¬ owned.ownsPipeline pipeline.name)
      ∨ ∃ other ∈ earlier, other.isEligible inputs accepted owned ∧ other.name = pipeline.name

/-- **What looking up the name of an entity finds** that is left and has its own status: this one,
unless it is hidden by another one, of an entity that is dropped. -/
structure EntityStatus.IsFoundFor (found own : EntityStatus) (hidden : Prop) : Prop where
  /-- A status that is not hidden is found itself. -/
  of_not_hidden : ¬ hidden → found = own
  /-- A status that hides another one is that of an entity that is dropped. -/
  of_hidden : hidden → found.state = .dropped

/-- Whether a status is found for the entity at a position that has its own one there. It is
hidden if an entity before it is shown under its name. -/
structure Display.Finds {α : Type} (display : Display α) (entities : List α)
    (statuses : List EntityStatus) (position : Nat) (own found : EntityStatus) : Prop extends
    found.IsFoundFor own (∃ i < position, display.Shows entities i own.name) where
  /-- The entity has its own status. -/
  getElem?_eq : statuses[position]? = some own

/-! ### Looking up among statuses -/

theorem State.ne_dropped_iff {state : State} :
    state ≠ .dropped ↔ state = .accepted ∨ state = .degraded := by
  cases state <;> decide

/-- Where no two statuses have the same name that are not dropped, one that stands before another
one with its name is dropped if that is not. -/
theorem EntityStatus.state_eq_dropped_of_name_eq {before after : List EntityStatus}
    {own status : EntityStatus}
    (hnodup : (((before ++ own :: after).filter (·.state != .dropped)).map (·.name)).Nodup)
    (hkept : own.state ≠ .dropped) (hmem : status ∈ before) (hname : status.name = own.name) :
    status.state = .dropped := by
  rw [List.Nodup, List.pairwise_map, List.pairwise_filter, List.pairwise_append] at hnodup
  by_contra hother
  exact hnodup.2.2 status hmem own List.mem_cons_self (bne_iff_ne.2 hother) (bne_iff_ne.2 hkept)
    hname

/-- **Among statuses**, the name of one that is not dropped finds it, unless one before it has
the name, which is dropped. -/
theorem EntityStatus.exists_lookup {statuses : List EntityStatus} {position : Nat}
    {own : EntityStatus} (hposition : statuses[position]? = some own) (hkept : own.state ≠ .dropped)
    (hnodup : ((statuses.filter (·.state != .dropped)).map (·.name)).Nodup) :
    ∃ found, statuses.find? (·.name == own.name) = some found
      ∧ found.IsFoundFor own (∃ status ∈ statuses.take position, status.name = own.name) := by
  have hsplit : statuses = statuses.take position ++ own :: statuses.drop (position + 1) :=
    eq_take_append_cons_drop hposition
  -- The first status before it that has the name is found, or else it is found itself.
  cases hfirst : (statuses.take position).find? (·.name == own.name) with
  | none =>
    refine ⟨own, ?_, fun _ => rfl, ?_⟩
    · rw [hsplit, List.find?_append, hfirst, Option.none_or]
      exact List.find?_cons_of_pos (beq_self_eq_true own.name)
    · rintro ⟨status, hmem, hname⟩
      exact absurd (beq_iff_eq.2 hname) (List.find?_eq_none.1 hfirst status hmem)
  | some found =>
    have hmem := List.mem_of_find?_eq_some hfirst
    have hname : found.name = own.name := by simpa using List.find?_some hfirst
    refine ⟨found, ?_, fun hnot => absurd ⟨found, hmem, hname⟩ hnot, fun _ => ?_⟩
    · rw [hsplit, List.find?_append, hfirst, Option.some_or]
    · rw [hsplit] at hnodup
      exact EntityStatus.state_eq_dropped_of_name_eq hnodup hkept hmem hname

namespace Display

variable {α : Type} {display : Display α} {entities : List α} {statuses : List EntityStatus}

/-- Whether statuses show entities, each in its place. -/
def IsReport (display : Display α) (entities : List α) (statuses : List EntityStatus) : Prop :=
  ∀ position shown, (∃ status, statuses[position]? = some status ∧ status.name = shown) ↔
    display.Shows entities position shown

/-- Statuses show entities if each of them has a status in its place, whose name is chosen by what
is found wrong with that of the entity. -/
theorem isReport_of_forall (hlength : statuses.length = entities.length)
    (h : ∀ (position : Nat) (entity : α), entities[position]? = some entity →
      ∃ (status : EntityStatus) (fault? : Option Reason), statuses[position]? = some status
        ∧ (fault?.isSome ↔ display.Faulty (entities.take position) entity)
        ∧ status.name =
          if fault?.isSome then display.placeholder position else display.name entity) :
    display.IsReport entities statuses := by
  intro position shown
  cases hentity : entities[position]? with
  | none =>
    have hnone : statuses[position]? = none := by
      rwa [List.getElem?_eq_none_iff, hlength, ← List.getElem?_eq_none_iff]
    simp [Shows, hentity, hnone]
  | some entity =>
    obtain ⟨status, fault?, hstatus, hfault, hname⟩ := h position entity hentity
    simp only [Shows, hentity, hstatus, Option.some.injEq, exists_eq_left', hname, ← hfault]
    by_cases hfaulty : fault?.isSome <;> simp [hfaulty]

/-- The name of an entity that is left finds its own status iff no entity before it is shown
under that name. -/
theorem IsReport.exists_lookup (h : display.IsReport entities statuses) {position : Nat}
    {own : EntityStatus} (hposition : statuses[position]? = some own) (hkept : own.state ≠ .dropped)
    (hnodup : ((statuses.filter (·.state != .dropped)).map (·.name)).Nodup) :
    ∃ found, statuses.find? (·.name == own.name) = some found
      ∧ display.Finds entities statuses position own found := by
  have hiff : (∃ i < position, display.Shows entities i own.name) ↔
      ∃ status ∈ statuses.take position, status.name = own.name := by
    simp only [← h _ own.name]
    constructor
    · rintro ⟨i, hlt, status, hstatus, hname⟩
      refine ⟨status, List.mem_iff_getElem?.2 ⟨i, ?_⟩, hname⟩
      rw [List.getElem?_take_of_lt hlt, hstatus]
    · rintro ⟨status, hmem, hname⟩
      obtain ⟨i, hstatus⟩ := List.mem_iff_getElem?.1 hmem
      rw [List.getElem?_take] at hstatus
      split_ifs at hstatus with hlt
      exact ⟨i, hlt, status, hstatus, hname⟩
  obtain ⟨found, hfound, hfor⟩ := EntityStatus.exists_lookup hposition hkept hnodup
  rw [← hiff] at hfor
  exact ⟨found, hfound, hfor, hposition⟩

end Display

/-! ### The reports of a review -/

/-- Something is found wrong with the name of an output iff it is at fault, where the names
accepted before it are those of the sound outputs before it. -/
theorem Output.isSome_nameFault?_iff {output : Output} {owned : Ownership} {lookup : SecretLookup}
    {taken : List String} {earlier : List Output} (htaken : ∀ name, name ∈ taken ↔
      ∃ other ∈ earlier, other.isSound owned lookup ∧ other.name = name) :
    (output.nameFault? owned taken).isSome ↔ (display owned lookup).Faulty earlier output := by
  rw [Option.isSome_iff_ne_none, Ne, nameFault?_eq_none_iff, htaken]
  simp only [display, ne_eq, not_and_or, not_not, Classical.not_imp]

/-- Something is found wrong with the name of a pipeline iff it is at fault, where the names given
away before it are those of the eligible pipelines before it. -/
theorem Pipeline.isSome_nameFault?_iff {pipeline : Pipeline} {inputs : List Input}
    {accepted : List String} {owned : Ownership} {taken : List String} {earlier : List Pipeline}
    (htaken : ∀ name, name ∈ taken ↔
      ∃ other ∈ earlier, other.isEligible inputs accepted owned ∧ other.name = name) :
    (pipeline.nameFault? owned taken).isSome ↔
      (display inputs accepted owned).Faulty earlier pipeline := by
  rw [Option.isSome_iff_ne_none, Ne, nameFault?_eq_none_iff, htaken]
  simp only [display, ne_eq, not_and_or, not_not, Classical.not_imp]

namespace Migrated

variable {migrated : Migrated} {lookup : SecretLookup}

/-- **A review shows the outputs** of a migrated specification, each in its place. -/
theorem isReport_outputs_reviewed (h : (migrated.outputReviews lookup).failure? = none) :
    (Output.display migrated.owned lookup).IsReport migrated.spec.outputs
      (migrated.reviewed lookup).status.outputs := by
  refine Display.isReport_of_forall (length_outputs_status_reviewed h) ?_
  intro position output hmem
  obtain ⟨before, hstatus, hnames⟩ := exists_status_outputs_reviewed h hmem
  exact ⟨_, output.nameFault? migrated.owned before, hstatus, Output.isSome_nameFault?_iff hnames,
    rfl⟩

/-- **A review shows the pipelines** of a migrated specification, each in its place. -/
theorem isReport_pipelines_reviewed : (Pipeline.display migrated.spec.inputs
      (migrated.reviewed lookup).spec.outputNames migrated.owned).IsReport migrated.spec.pipelines
        (migrated.reviewed lookup).status.pipelines := by
  refine Display.isReport_of_forall length_pipelines_status_reviewed ?_
  intro position pipeline hmem
  obtain ⟨before, hstatus, -, hnames⟩ := exists_status_reviewed lookup hmem
  exact ⟨_, pipeline.nameFault? migrated.owned before, hstatus,
    Pipeline.isSome_nameFault?_iff hnames, rfl⟩

/-- No two outputs that are not dropped are shown under the same name. -/
theorem nodup_names_outputs_reviewed (h : (migrated.outputReviews lookup).failure? = none) :
    (((migrated.reviewed lookup).status.outputs.filter (·.state != .dropped)).map
      (·.name)).Nodup := by
  have haccount := isAccountOf_reviewed h
  have hsame : ∀ status ∈ (migrated.reviewed lookup).status.outputs,
      (status.state != .dropped) = status.isAccepted := by
    intro status hmem
    have hstate := haccount.output_state status hmem
    unfold EntityStatus.isAccepted
    cases hcase : status.state <;> simp_all
  rw [List.filter_congr hsame, haccount.accepted_names]
  exact (clean_reviewed h).nodup_outputs

/-- No two pipelines that are not dropped are shown under the same name. -/
theorem nodup_names_pipelines_reviewed (h : (migrated.outputReviews lookup).failure? = none) :
    (((migrated.reviewed lookup).status.pipelines.filter (·.state != .dropped)).map
      (·.name)).Nodup := by
  rw [(isAccountOf_reviewed h).kept_names]
  exact (clean_reviewed h).nodup_pipelines

end Migrated

/-- **The name of an entity that is left** finds its own status if no entity before it is shown
under that name, and otherwise that of one that is dropped. -/
theorem lookup_normalize {spec : Spec} {store : Option Store} {lookup : SecretLookup}
    {operator : Operator} {normalized : Normalized}
    (h : (spec.normalize store lookup operator).value = .ok normalized) : ∃ migrated,
    (spec.migrate store operator).value = .ok migrated
    ∧ (∀ output ∈ normalized.spec.outputs, ∃ (position : Nat) (found : EntityStatus),
      migrated.spec.outputs[position]? = some output
      ∧ normalized.status.output? output.name = some found
      ∧ (Output.display migrated.owned lookup).Finds migrated.spec.outputs
        normalized.status.outputs position { name := output.name, state := .accepted } found)
    ∧ ∀ pipeline ∈ normalized.spec.pipelines, ∃ (position : Nat) (source : Pipeline)
        (own found : EntityStatus), migrated.spec.pipelines[position]? = some source
      ∧ pipeline = source.pruned normalized.spec.outputNames
      ∧ own.name = pipeline.name ∧ (own.state = .accepted ∨ own.state = .degraded)
      ∧ normalized.status.pipeline? pipeline.name = some found
      ∧ (Pipeline.display migrated.spec.inputs normalized.spec.outputNames migrated.owned).Finds
        migrated.spec.pipelines normalized.status.pipelines position own found := by
  obtain ⟨migrated, hmigrate, hfailure, rfl⟩ := Spec.normalize_eq_ok_iff.1 h
  refine ⟨migrated, hmigrate, fun output hmem => ?_, fun pipeline hmem => ?_⟩
  · obtain ⟨position, houtput, hstatus⟩ :=
      Migrated.exists_position_of_mem_outputs_reviewed hfailure hmem
    obtain ⟨found, hfound, hfinds⟩ := (Migrated.isReport_outputs_reviewed hfailure).exists_lookup
      hstatus nofun (Migrated.nodup_names_outputs_reviewed hfailure)
    exact ⟨position, found, houtput, hfound, hfinds⟩
  · obtain ⟨position, source, own, hsource, hown, hkept, rfl⟩ :=
      Migrated.exists_position_of_mem_pipelines_reviewed hmem
    obtain ⟨found, hfound, hfinds⟩ := Migrated.isReport_pipelines_reviewed.exists_lookup hown
      hkept (Migrated.nodup_names_pipelines_reviewed hfailure)
    have hname : own.name = source.name := by
      obtain ⟨before, hstatus, -⟩ := Migrated.exists_status_reviewed lookup hsource
      obtain rfl := Option.some.inj (hstatus.symm.trans hown)
      exact Pipeline.name_status_of_ne_dropped hkept
    rw [hname] at hfound
    exact ⟨position, source, own, found, hsource, rfl, hname, State.ne_dropped_iff.1 hkept,
      hfound, hfinds⟩

/-- A specification that declares an output twice, first without an address. -/
def redeclaringSpec : Spec where
  outputs := [{ name := "sink", kind := .http },
    { name := "sink", kind := .http, url := "https://sink.example" }]
  pipelines := [{ name := "logs", inputRefs := ["application"], outputRefs := ["sink"] }]

/-- The name of the only pipeline finds the pipeline, which is accepted. -/
theorem lookup_normalize_redeclaringSpec : ∃ normalized found,
    (redeclaringSpec.normalize none (fun _ => .ok none) {}).value = .ok normalized
    ∧ normalized.status.pipeline? "logs" = some found ∧ found.state ≠ .dropped := by
  have h : (redeclaringSpec.normalize none (fun _ => .ok none) {}).value = .ok _ := rfl
  obtain ⟨migrated, hmigrate, -, hpipelines⟩ := lookup_normalize h
  obtain rfl := Except.ok.inj
    ((rfl : (redeclaringSpec.migrate none {}).value = .ok { spec := redeclaringSpec }).symm.trans
      hmigrate)
  obtain ⟨position, source, own, found, hsource, -, -, hown, hfound, hfinds⟩ :=
    hpipelines _ List.mem_cons_self
  have hfirst : position < 1 := (List.getElem?_eq_some_iff.1 hsource).1
  refine ⟨_, found, h, hfound, ?_⟩
  rw [hfinds.of_not_hidden (by rintro ⟨i, hlt, -⟩; omega)]
  exact State.ne_dropped_iff.2 hown

/-- The name of the output that is left finds the other one, which is dropped. -/
theorem exists_lookup_dropped : ∃ normalized found,
    (redeclaringSpec.normalize none (fun _ => .ok none) {}).value = .ok normalized
    ∧ normalized.spec.outputNames = ["sink"]
    ∧ normalized.status.output? "sink" = some found ∧ found.state = .dropped :=
  ⟨_, _, rfl, rfl, rfl, rfl⟩

end LogForwarding
