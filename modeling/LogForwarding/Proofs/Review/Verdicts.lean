import LogForwarding.Proofs.Review.Outputs
import LogForwarding.Proofs.Accounts

/-!
# The review of outputs against its reference

What the review of outputs does can be said without the review: of the sound outputs the
first of each name are kept, as they are; every other output is dropped, with the
conditions that say why. `OutputReviews.IsReference` is that description. It speaks of the
outputs and of what stands before each of them, and of no names collected on the way.

The difference is in outputs that are dropped. An output that is not sound takes no name, so
one that follows with its name can still be kept; and an output that is sound but not the
first takes no name that is not taken.

## What is proved

* `Output.aspects_conditions_sublist`, `Output.name_status_eq_ite`: the conditions of an output
  are in a fixed order, at most one of each, and decide under which name it is shown.
* `Output.isVerdictOn_status`: the status of an output is the reference's.
* `isReference_reviewOutputs`: where no look-up fails, the review is the reference.
-/

namespace LogForwarding

/-! ### One output -/

/-- Whether an output is kept that stands behind others: it is sound, and no sound one before
it has its name. -/
def Output.IsKeptAfter (output : Output) (earlier : List Output) (owned : Ownership)
    (lookup : SecretLookup) : Prop :=
  output.isSound owned lookup
    ∧ ∀ other ∈ earlier, other.isSound owned lookup → other.name ≠ output.name

/-- **What the status of an output says**, given whether the output is kept. -/
structure EntityStatus.IsVerdictOn (status : EntityStatus) (output : Output) (position : Nat)
    (kept : Prop) : Prop where
  /-- The output is accepted iff it is kept. -/
  accepted_iff : status.state = .accepted ↔ kept
  /-- Of an output that is kept the status says the name, and nothing else. -/
  of_kept : kept → status = { name := output.name, state := .accepted, conditions := [] }
  /-- An output that is not kept is dropped, for a reason. -/
  of_not_kept : ¬kept → status.state = .dropped ∧ status.conditions ≠ []
  /-- The conditions are in order, and no two are about the same. -/
  aspects : (status.conditions.map (·.aspect)).Sublist [.name, .kind, .endpoint, .secret]
  /-- An output is shown under its position if there is a condition on its name. -/
  of_name : .name ∈ status.conditions.map (·.aspect) → status.name = s!"output[{position}]"
  /-- Any other output is shown under its name. -/
  of_not_name : .name ∉ status.conditions.map (·.aspect) → status.name = output.name

namespace Output

variable {output : Output} {owned : Ownership} {lookup : SecretLookup} {taken : List String}
  {position : Nat}

/-- A check that finds one thing at most is about its own aspect, or about none. -/
theorem aspects_sublist {aspect : Aspect} {condition? : Option Condition}
    (h : ∀ condition ∈ condition?, condition.aspect = aspect) :
    (condition?.toList.map (·.aspect)).Sublist [aspect] := by
  cases condition? with
  | none => exact List.nil_sublist _
  | some condition => rw [Option.toList_some, List.map_singleton, h condition rfl]

theorem aspect_of_mem_nameCondition? :
    ∀ condition ∈ output.nameCondition? owned taken, condition.aspect = .name := by
  intro condition h
  obtain ⟨reason, -, rfl⟩ := Option.map_eq_some_iff.1 h
  rfl

theorem aspect_of_mem_kindCondition? :
    ∀ condition ∈ output.kindCondition?, condition.aspect = .kind := by
  intro condition h
  unfold kindCondition? at h
  split_ifs at h <;> cases h <;> rfl

theorem aspect_of_mem_endpointCondition? :
    ∀ condition ∈ output.endpointCondition?, condition.aspect = .endpoint := by
  intro condition h
  unfold endpointCondition? at h
  split_ifs at h
  · cases h
    rfl
  · cases h

theorem aspect_of_mem_secretFault? {name : String} {found : Option Secret} :
    ∀ condition ∈ output.secretFault? name found, condition.aspect = .secret := by
  intro condition h
  cases found with
  | none => cases h; rfl
  | some secret =>
    simp only [secretFault?] at h
    split_ifs at h
    · cases h
      rfl
    · cases h

theorem aspect_of_mem_secretCondition? :
    ∀ condition ∈ output.secretCondition? lookup, condition.aspect = .secret := by
  intro condition h
  unfold secretCondition? at h
  cases hsecret : output.secret with
  | none => simp [hsecret] at h
  | some ref =>
    rw [hsecret] at h
    dsimp only at h
    split_ifs at h
    · cases h
      rfl
    · cases hlookup : lookup ref.name with
      | error source => simp [hlookup] at h
      | ok found =>
        rw [hlookup] at h
        exact aspect_of_mem_secretFault? condition h

/-- The conditions of an output are about its name, its kind, its address and its secret, in
this order and at most one about each. -/
theorem aspects_conditions_sublist :
    ((output.conditions owned lookup taken).map (·.aspect)).Sublist
      [.name, .kind, .endpoint, .secret] := by
  simp only [conditions, conditionsWith, List.map_append]
  exact (((aspects_sublist aspect_of_mem_nameCondition?).append
    (aspects_sublist aspect_of_mem_kindCondition?)).append
    (aspects_sublist aspect_of_mem_endpointCondition?)).append
    (aspects_sublist aspect_of_mem_secretCondition?)

theorem name_mem_aspects_conditions_iff :
    .name ∈ (output.conditions owned lookup taken).map (·.aspect) ↔
      (output.nameFault? owned taken).isSome := by
  constructor
  · intro h
    obtain ⟨condition, hmem, hname⟩ := List.mem_map.1 h
    simp only [conditions, conditionsWith, List.mem_append, Option.mem_toList] at hmem
    rcases hmem with ((hmem | hmem) | hmem) | hmem
    · rw [nameCondition?, Option.map_eq_some_iff] at hmem
      obtain ⟨reason, hreason, -⟩ := hmem
      rw [hreason]
      rfl
    · rw [aspect_of_mem_kindCondition? condition hmem] at hname
      cases hname
    · rw [aspect_of_mem_endpointCondition? condition hmem] at hname
      cases hname
    · rw [aspect_of_mem_secretCondition? condition hmem] at hname
      cases hname
  · intro h
    obtain ⟨reason, hreason⟩ := Option.isSome_iff_exists.1 h
    simp [conditions, conditionsWith, nameCondition?, hreason]

/-- An output is shown under its position iff there is a condition on its name. -/
theorem name_status_eq_ite : (output.status owned lookup taken position).name =
    if .name ∈ (output.conditions owned lookup taken).map (·.aspect) then s!"output[{position}]"
    else output.name := by
  simp only [status, statusWith, name_mem_aspects_conditions_iff]

theorem state_status_of_ne_accepted
    (h : ¬(output.status owned lookup taken position).isAccepted) :
    (output.status owned lookup taken position).state = .dropped := by
  cases hstate : (output.status owned lookup taken position).state with
  | accepted => exact absurd (by simp [EntityStatus.isAccepted, hstate]) h
  | degraded => exact absurd hstate state_status_ne_degraded
  | dropped => rfl

/-- The status of an output is the verdict on it, where the names accepted before it are those
of the sound outputs before it. -/
theorem isVerdictOn_status {earlier : List Output} (hfailure : output.lookupFailure? lookup = none)
    (htaken : ∀ name, name ∈ taken ↔
      ∃ other ∈ earlier, other.isSound owned lookup ∧ other.name = name) :
    (output.status owned lookup taken position).IsVerdictOn output position
      (output.IsKeptAfter earlier owned lookup) := by
  have hkept : (output.status owned lookup taken position).isAccepted ↔
      output.IsKeptAfter earlier owned lookup := by
    rw [isAccepted_status hfailure, htaken, IsKeptAfter]
    simp
  constructor
  · rw [← hkept, EntityStatus.isAccepted, beq_iff_eq]
  · exact fun h => status_eq_of_isAccepted (hkept.2 h)
  · intro h
    rw [← hkept] at h
    exact ⟨state_status_of_ne_accepted h, fun hnil => h (isAccepted_status_iff_conditions.2 hnil)⟩
  · exact aspects_conditions_sublist
  · exact fun h => name_status_eq_ite.trans (if_pos h)
  · exact fun h => name_status_eq_ite.trans (if_neg h)

end Output

/-! ### All outputs -/

/-- **The review of outputs as it should be**, said of the outputs alone. -/
structure OutputReviews.IsReference (found : OutputReviews) (outputs : List Output)
    (owned : Ownership) (lookup : SecretLookup) : Prop where
  /-- The review does not fail. -/
  failure? : found.failure? = none
  /-- The accepted outputs are the sound ones, of each name the first. -/
  accepted : found.accepted =
    firstHolders Output.name [] (outputs.filter (·.isSound owned lookup))
  /-- The accepted names are theirs, each once. -/
  acceptedNames : found.acceptedNames = found.accepted.map (·.name) ∧ found.acceptedNames.Nodup
  /-- A name is accepted iff some sound output has it. -/
  mem_acceptedNames : ∀ name, name ∈ found.acceptedNames ↔
    ∃ output ∈ outputs, output.isSound owned lookup ∧ output.name = name
  /-- Every output has one status. -/
  length_statuses : found.statuses.length = outputs.length
  /-- The status of an output is the verdict on it. -/
  statuses : ∀ (position : Nat) (output : Output), outputs[position]? = some output →
    ∃ status, found.statuses[position]? = some status
      ∧ status.IsVerdictOn output position
          (output.IsKeptAfter (outputs.take position) owned lookup)
  /-- The accepted outputs are those whose status says so. -/
  accepted_eq_filter : found.accepted =
    ((outputs.zip found.statuses).filter (·.2.isAccepted)).map (·.1)

variable {owned : Ownership} {lookup : SecretLookup}

theorem accepted_reviewOutputs_eq_filter {outputs : List Output}
    (h : (reviewOutputs outputs owned lookup).failure? = none) :
    (reviewOutputs outputs owned lookup).accepted =
      ((outputs.zip (reviewOutputs outputs owned lookup).statuses).filter
        (·.2.isAccepted)).map (·.1) := by
  have hsame := OutputReviews.forall₂_accepted h
  refine List.ext_getElem ?_ fun i hleft hright => ?_
  · rw [List.length_map, hsame.length_eq]
  · rw [List.getElem_map]
    exact (List.forall₂_iff_get.1 hsame).2 i (by simpa using hright) hleft |>.1

theorem length_statuses_reviewOutputs {outputs : List Output}
    (h : (reviewOutputs outputs owned lookup).failure? = none) :
    (reviewOutputs outputs owned lookup).statuses.length = outputs.length := by
  conv_rhs => rw [← map_output_reviewOutputs h]
  rw [OutputReviews.statuses, List.length_map, List.length_map]

/-- **The review is the reference**: where no look-up fails, the review keeps the first sound
output of each name, as it is, and gives every output the verdict on it. -/
theorem isReference_reviewOutputs (outputs : List Output) (owned : Ownership)
    {lookup : SecretLookup} (hlookup : ∀ name, ∃ found, lookup name = .ok found) :
    (reviewOutputs outputs owned lookup).IsReference outputs owned lookup := by
  have hfailure : ∀ output : Output, output.lookupFailure? lookup = none := by
    intro output
    unfold Output.lookupFailure?
    cases output.secretName? with
    | none => rfl
    | some secret =>
      obtain ⟨found, hfound⟩ := hlookup secret
      simp only [hfound]
  have hnone : (reviewOutputs outputs owned lookup).failure? = none := by
    rw [failure?_reviewOutputs, List.findSome?_eq_none_iff]
    exact fun output _ => hfailure output
  refine ⟨hnone, accepted_reviewOutputs hnone, ⟨rfl, ?_⟩,
    fun _ => mem_acceptedNames_reviewOutputs hnone, length_statuses_reviewOutputs hnone,
    fun position output houtput => ?_, accepted_reviewOutputs_eq_filter hnone⟩
  · rw [OutputReviews.acceptedNames, accepted_reviewOutputs hnone]
    exact nodup_map_firstHolders _ _
  obtain ⟨before, hreview, hnames⟩ := getElem?_reviewOutputs hnone houtput
  refine ⟨_, ?_, Output.isVerdictOn_status (hfailure output) hnames⟩
  rw [OutputReviews.statuses, List.getElem?_map, hreview, Option.map_some]

/-- Sinks with one name: one without an address, then two that are sound; and among them one
without a name and one whose secret lacks what it needs. -/
def namesakeSinks : List Output :=
  [{ name := "sink", kind := .http },
    { name := "sink", kind := .loki, url := "https://loki.example", secret := some ⟨"token"⟩ },
    { name := "", kind := .http, url := "https://http.example" },
    { name := "sink", kind := .http, url := "https://http.example" },
    { name := "forward", kind := .fluentdForward, url := "tcp://forward.example",
      secret := some ⟨"token"⟩ }]

/-- A table with one secret, without the key that a Fluentd forward output needs. -/
def tokenTable : SecretTable := SecretTable.put .empty { name := "token" }

theorem isReference_reviewOutputs_namesakeSinks :
    (∀ name, ∃ found, tokenTable.lookup name = .ok found)
      ∧ (reviewOutputs namesakeSinks {} tokenTable.lookup).IsReference namesakeSinks {}
          tokenTable.lookup
      ∧ (reviewOutputs namesakeSinks {} tokenTable.lookup).accepted =
          [{ name := "sink", kind := .loki, url := "https://loki.example"
             secret := some ⟨"token"⟩ }] :=
  have hlookup (name : String) : ∃ found, tokenTable.lookup name = .ok found := ⟨_, rfl⟩
  ⟨hlookup, isReference_reviewOutputs namesakeSinks {} hlookup, by decide⟩

end LogForwarding
