import LogForwarding.Review.Outputs
import LogForwarding.Proofs.FirstHolders

/-!
# The review of outputs in closed form

`reviewOutputsFrom` goes through the outputs one by one and keeps the names it has
accepted. Here its result is stated without the loop. `Output.isSound` says of one
output, whatever stands before it, that nothing is wrong with it; what the review
accepts are the first holders of each name among the sound outputs, and it fails iff
some output needs a look-up that fails.

## What is proved

* `Output.value_evaluate`, `Output.journal_evaluate`: what the check of one output comes to.
* `Output.conditions_eq_nil_iff`: an output has no conditions iff it is sound and its
  name is free.
* `reviewOutputsFrom_cons`, `reviewOutputsFrom_cons_of_failure`: a review, output by output.
* `accepted_reviewOutputs`: the accepted outputs.
* `failure?_reviewOutputs`: the failure, which is that of the first failing look-up.
* `lookups_reviewOutputsFrom`: the look-ups, which go up to that one.
* `getElem?_reviewOutputs`: every review is that of the output at its position.
* `all_isAccepted_reviewOutputs_iff`: when all outputs are accepted.
-/

namespace LogForwarding

open Reserved (defaultOutput sharedKey)

namespace Output

/-- The condition on an output's secret. A look-up that fails gives none. -/
def secretCondition? (output : Output) (lookup : SecretLookup) : Option Condition :=
  match output.secret with
  | none => none
  | some ref =>
    if ref.name.isEmpty then some { aspect := .secret, reason := .missingSecretName }
    else
      match lookup ref.name with
      | .ok found => output.secretFault? ref.name found
      | .error _ => none

/-- The failure of the look-up that an output needs, if it needs one and it fails. -/
def lookupFailure? (output : Output) (lookup : SecretLookup) : Option ForwardingError :=
  match output.secretName? with
  | none => none
  | some secret =>
    match lookup secret with
    | .ok _ => none
    | .error source => some (.secretLookup output.name secret source)

/-- All conditions on an output. -/
def conditions (output : Output) (owned : Ownership) (lookup : SecretLookup)
    (accepted : List String) : List Condition :=
  output.conditionsWith owned accepted (output.secretCondition? lookup)

/-- The status of the output at a position, given the names accepted before it. -/
def status (output : Output) (owned : Ownership) (lookup : SecretLookup)
    (accepted : List String) (position : Nat) : EntityStatus :=
  output.statusWith owned accepted position (output.secretCondition? lookup)

/-- The look-up that an output needs, if it needs one, counted before it is made. -/
def lookupJournal (output : Output) : Journal :=
  output.secretName?.toList.flatMap fun secret => [.count .secretLookups 1, .lookup secret]

/-- Whether an output has the secret that it needs: it names none, or it names one
that is found and, for a Fluentd forward output, has the shared key. -/
def isSecured (output : Output) (lookup : SecretLookup) : Bool :=
  match output.secret with
  | none => true
  | some ref =>
    !ref.name.isEmpty &&
      match lookup ref.name with
      | .ok (some secret) => output.kind != .fluentdForward || secret.data.contains sharedKey
      | _ => false

/-- Whether nothing is wrong with an output, other outputs apart: it has a name that is
not the reserved one (unless that is recorded), a known kind, an address, and its secret. -/
def isSound (output : Output) (owned : Ownership) (lookup : SecretLookup) : Bool :=
  output.name != "" && (output.name != defaultOutput || owned.ownsOutput output.name)
    && output.kind.isRecognized && output.url != "" && output.isSecured lookup

/-- Whether an output names no secret, or one that can be looked up, found or not. -/
def IsAnswered (output : Output) (lookup : SecretLookup) : Prop :=
  ∀ secret ∈ output.secretName?, ∃ found, lookup secret = .ok found

variable {output : Output} {owned : Ownership} {lookup : SecretLookup} {taken : List String}

theorem isSound_iff : output.isSound owned lookup ↔ output.name ≠ ""
    ∧ (output.name = defaultOutput → owned.ownsOutput output.name)
    ∧ output.kind.isRecognized ∧ output.url ≠ "" ∧ output.isSecured lookup := by
  simp only [isSound, Bool.and_eq_true, Bool.or_eq_true, bne_iff_ne, and_assoc,
    Decidable.imp_iff_not_or, ne_eq]

/-! ### One output -/

/-- **What checking an output comes to**: its status, or the failure of its look-up. -/
theorem value_evaluate (output : Output) (owned : Ownership) (lookup : SecretLookup)
    (taken : List String) (position : Nat) :
    (output.evaluate owned lookup taken position).value =
      match output.lookupFailure? lookup with
      | some failure => .error failure
      | none => .ok (output.status owned lookup taken position) := by
  unfold evaluate checkSecret lookupFailure? status secretCondition? secretName?
  cases output.secret with
  | none => rfl
  | some ref =>
    by_cases hname : ref.name.isEmpty
    · simp [hname, Except.map]
    · cases hlookup : lookup ref.name <;>
        simp [hname, hlookup, SecretLookup.ask, secretOutcome, Except.map]

/-- What an observer sees of it is its look-up. -/
theorem journal_evaluate (output : Output) (owned : Ownership) (lookup : SecretLookup)
    (taken : List String) (position : Nat) :
    (output.evaluate owned lookup taken position).journal = output.lookupJournal := by
  unfold evaluate checkSecret lookupJournal secretName?
  cases output.secret with
  | none => rfl
  | some ref => by_cases hname : ref.name.isEmpty <;> simp [hname, SecretLookup.ask]

theorem lookupFailure?_eq_some_iff {failure : ForwardingError} :
    output.lookupFailure? lookup = some failure ↔
      ∃ secret source, output.secretName? = some secret ∧ lookup secret = .error source
        ∧ failure = .secretLookup output.name secret source := by
  unfold lookupFailure?
  cases output.secretName? with
  | none => simp
  | some secret => cases hlookup : lookup secret <;> simp [hlookup, eq_comm]

theorem lookupFailure?_eq_none_iff :
    output.lookupFailure? lookup = none ↔ output.IsAnswered lookup := by
  unfold lookupFailure? IsAnswered
  cases output.secretName? with
  | none => simp
  | some secret => cases hlookup : lookup secret <;> simp [hlookup]

theorem nameFault?_eq_none_iff : output.nameFault? owned taken = none ↔ output.name ≠ ""
    ∧ (output.name = defaultOutput → owned.ownsOutput output.name) ∧ output.name ∉ taken := by
  unfold nameFault?
  split_ifs with hname hreserved htaken
  · simp_all
  · simp only [Bool.and_eq_true, decide_eq_true_eq, Bool.not_eq_true'] at hreserved
    exact ⟨nofun, fun h => absurd (h.2.1 hreserved.1) (by simp [hreserved.2])⟩
  · simp_all
  · simp_all

theorem kindCondition?_eq_none_iff : output.kindCondition? = none ↔ output.kind.isRecognized := by
  unfold kindCondition?
  cases output.kind with
  | unrecognized written =>
    by_cases h : written = "" <;> simp [OutputKind.isMissing, OutputKind.isRecognized, h]
  | _ => simp [OutputKind.isMissing, OutputKind.isRecognized]

theorem endpointCondition?_eq_none_iff : output.endpointCondition? = none ↔ output.url ≠ "" := by
  simp [endpointCondition?]

theorem secretCondition?_eq_none_iff (h : output.lookupFailure? lookup = none) :
    output.secretCondition? lookup = none ↔ output.isSecured lookup := by
  unfold lookupFailure? secretName? at h
  unfold secretCondition? isSecured secretFault?
  cases hsecret : output.secret with
  | none => simp
  | some ref =>
    by_cases hname : ref.name.isEmpty
    · simp [hname]
    · cases hlookup : lookup ref.name with
      | error e => simp [hsecret, hname, hlookup] at h
      | ok found => cases found <;> simp [hname, hlookup, ← Decidable.imp_iff_not_or]

/-- An output whose secret is in order needs no look-up that fails. -/
theorem lookupFailure?_of_isSecured (h : output.isSecured lookup) :
    output.lookupFailure? lookup = none := by
  unfold isSecured at h
  unfold lookupFailure? secretName?
  cases hsecret : output.secret with
  | none => rfl
  | some ref =>
    by_cases hname : ref.name.isEmpty
    · simp [hname]
    · cases hlookup : lookup ref.name with
      | error e => simp [hsecret, hlookup] at h
      | ok found => simp [hname, hlookup]

theorem lookupFailure?_of_isSound (h : output.isSound owned lookup) :
    output.lookupFailure? lookup = none :=
  lookupFailure?_of_isSecured (isSound_iff.1 h).2.2.2.2

/-- An output has no conditions iff it is sound and its name is free. -/
theorem conditions_eq_nil_iff (h : output.lookupFailure? lookup = none) :
    output.conditions owned lookup taken = [] ↔
      output.isSound owned lookup ∧ output.name ∉ taken := by
  simp only [conditions, conditionsWith, List.append_eq_nil_iff, Option.toList_eq_nil_iff,
    nameCondition?, Option.map_eq_none_iff, nameFault?_eq_none_iff, kindCondition?_eq_none_iff,
    endpointCondition?_eq_none_iff, secretCondition?_eq_none_iff h, isSound_iff]
  tauto

theorem isAccepted_status {position : Nat} (h : output.lookupFailure? lookup = none) :
    (output.status owned lookup taken position).isAccepted ↔
      output.isSound owned lookup ∧ output.name ∉ taken := by
  rw [← conditions_eq_nil_iff h]
  simp only [status, statusWith, conditions, EntityStatus.isAccepted, beq_iff_eq,
    List.isEmpty_iff]
  split_ifs with hc <;> simp [hc]

/-- The status of an accepted output says no more than its name. -/
theorem status_eq_of_isAccepted {position : Nat}
    (h : (output.status owned lookup taken position).isAccepted) :
    output.status owned lookup taken position = { name := output.name } := by
  have hnil : output.conditionsWith owned taken (output.secretCondition? lookup) = [] := by
    by_contra hne
    simp [status, statusWith, EntityStatus.isAccepted, hne] at h
  have hname : output.nameFault? owned taken = none := by
    simp only [conditionsWith, List.append_eq_nil_iff, Option.toList_eq_nil_iff, nameCondition?,
      Option.map_eq_none_iff] at hnil
    exact hnil.1.1.1
  simp [status, statusWith, hnil, hname]

end Output

/-! ### Look-ups -/

/-- Of names that are looked up in turn, those that are tried: all up to the first failure,
that one included. -/
def SecretLookup.tried (lookup : SecretLookup) (names : List String) : List String :=
  names.take (names.findIdx (fun name => !(lookup name).isOk) + 1)

namespace SecretLookup

variable {lookup : SecretLookup} {name : String} {names : List String}

@[simp] theorem tried_nil : lookup.tried [] = [] := rfl

theorem tried_cons_of_ok {found : Option Secret} (h : lookup name = .ok found) :
    lookup.tried (name :: names) = name :: lookup.tried names := by
  simp [tried, List.findIdx_cons, h, Except.isOk, Except.toBool]

theorem tried_cons_of_error {source : SecretError} (h : lookup name = .error source) :
    lookup.tried (name :: names) = [name] := by
  simp [tried, List.findIdx_cons, h, Except.isOk, Except.toBool]

/-- Names that are answered for are tried, and so are those after them. -/
theorem tried_append_of_ok {rest : List String}
    (h : ∀ name ∈ names, ∃ found, lookup name = .ok found) :
    lookup.tried (names ++ rest) = names ++ lookup.tried rest := by
  induction names with
  | nil => rfl
  | cons name names ih =>
    rw [List.forall_mem_cons] at h
    obtain ⟨⟨found, hfound⟩, hnames⟩ := h
    rw [List.cons_append, tried_cons_of_ok hfound, ih hnames, List.cons_append]

end SecretLookup

/-! ### All outputs -/

variable {owned : Ownership} {lookup : SecretLookup}

@[simp] theorem OutputReviews.failure?_cons (review : OutputReview) (seen : Journal)
    (rest : OutputReviews) : (rest.cons review seen).failure? = rest.failure? := rfl

@[simp] theorem OutputReviews.journal_cons (review : OutputReview) (seen : Journal)
    (rest : OutputReviews) : (rest.cons review seen).journal = seen ++ rest.journal := rfl

@[simp] theorem OutputReviews.statuses_cons (review : OutputReview) (seen : Journal)
    (rest : OutputReviews) : (rest.cons review seen).statuses = review.status :: rest.statuses := rfl

theorem OutputReviews.accepted_cons (review : OutputReview) (seen : Journal)
    (rest : OutputReviews) : (rest.cons review seen).accepted =
      if review.status.isAccepted then review.output :: rest.accepted else rest.accepted := by
  simp only [accepted, cons, List.filter_cons]
  split_ifs <;> rfl

theorem Output.lookups_lookupJournal (output : Output) :
    output.lookupJournal.lookups = output.secretName?.toList := by
  unfold lookupJournal
  cases output.secretName? <;> rfl

theorem EntityStatus.lookups_outputJournal (status : EntityStatus) :
    status.outputJournal.lookups = [] := by
  unfold outputJournal
  split_ifs <;> rfl

theorem OutputReviews.all_isAccepted_iff {found : OutputReviews} :
    found.statuses.all (·.isAccepted) ↔ ∀ review ∈ found.reviews, review.status.isAccepted := by
  simp [statuses]

/-- **A look-up that fails** ends the review. -/
theorem reviewOutputsFrom_cons_of_failure {taken : List String} {position : Nat} {output : Output}
    {rest : List Output} {failure : ForwardingError}
    (h : output.lookupFailure? lookup = some failure) :
    reviewOutputsFrom owned lookup taken position (output :: rest) =
      { failure? := some failure, journal := output.lookupJournal } := by
  rw [reviewOutputsFrom, Output.value_evaluate, Output.journal_evaluate, h]

/-- **An output** whose look-up does not fail has its status, and the rest is reviewed. -/
theorem reviewOutputsFrom_cons {taken : List String} {position : Nat} {output : Output}
    {rest : List Output} (h : output.lookupFailure? lookup = none) :
    reviewOutputsFrom owned lookup taken position (output :: rest) =
      let status := output.status owned lookup taken position
      let taken := if status.isAccepted then output.name :: taken else taken
      (reviewOutputsFrom owned lookup taken (position + 1) rest).cons { output, status }
        (output.lookupJournal ++ status.outputJournal) := by
  rw [reviewOutputsFrom, Output.value_evaluate, Output.journal_evaluate, h]

theorem failure?_reviewOutputsFrom (taken : List String) (position : Nat)
    (outputs : List Output) :
    (reviewOutputsFrom owned lookup taken position outputs).failure? =
      outputs.findSome? (·.lookupFailure? lookup) := by
  induction outputs generalizing taken position with
  | nil => rfl
  | cons output rest ih =>
    rw [List.findSome?_cons]
    cases h : output.lookupFailure? lookup with
    | some failure => rw [reviewOutputsFrom_cons_of_failure h]
    | none => simp only [reviewOutputsFrom_cons h, OutputReviews.failure?_cons, ih]

/-- A review gets as far as the first output that needs a look-up that fails. -/
theorem length_reviewOutputsFrom (taken : List String) (position : Nat) (outputs : List Output) :
    (reviewOutputsFrom owned lookup taken position outputs).reviews.length =
      outputs.findIdx fun output => (output.lookupFailure? lookup).isSome := by
  induction outputs generalizing taken position with
  | nil => rfl
  | cons output rest ih =>
    rw [List.findIdx_cons]
    cases h : output.lookupFailure? lookup with
    | some failure =>
      rw [reviewOutputsFrom_cons_of_failure h]
      rfl
    | none =>
      rw [reviewOutputsFrom_cons h]
      exact congrArg (· + 1) (ih _ _)

/-- A review issues the look-ups that its outputs need, each in its turn, up to the first
one that fails. -/
theorem lookups_reviewOutputsFrom (taken : List String) (position : Nat) (outputs : List Output) :
    (reviewOutputsFrom owned lookup taken position outputs).journal.lookups =
      lookup.tried (outputs.filterMap (·.secretName?)) := by
  induction outputs generalizing taken position with
  | nil => rfl
  | cons output rest ih =>
    cases h : output.lookupFailure? lookup with
    | some failure =>
      obtain ⟨secret, source, hsecret, hlookup, -⟩ := Output.lookupFailure?_eq_some_iff.1 h
      rw [reviewOutputsFrom_cons_of_failure h, List.filterMap_cons_some hsecret,
        SecretLookup.tried_cons_of_error hlookup, Output.lookups_lookupJournal, hsecret,
        Option.toList_some]
    | none =>
      rw [reviewOutputsFrom_cons h]
      simp only [OutputReviews.journal_cons, Journal.lookups_append, Output.lookups_lookupJournal,
        EntityStatus.lookups_outputJournal, List.append_nil, ih]
      cases hsecret : output.secretName? with
      | none => rw [List.filterMap_cons_none hsecret, Option.toList_none, List.nil_append]
      | some secret =>
        obtain ⟨found, hfound⟩ := Output.lookupFailure?_eq_none_iff.1 h secret hsecret
        rw [List.filterMap_cons_some hsecret, SecretLookup.tried_cons_of_ok hfound,
          Option.toList_some, List.singleton_append]

/-- The failure of a review is that of the first look-up that fails. -/
theorem failure?_reviewOutputs (outputs : List Output) :
    (reviewOutputs outputs owned lookup).failure? =
      outputs.findSome? (·.lookupFailure? lookup) :=
  failure?_reviewOutputsFrom [] 0 outputs

theorem accepted_reviewOutputsFrom {taken : List String} {position : Nat}
    {outputs : List Output} (h : ∀ output ∈ outputs, output.lookupFailure? lookup = none) :
    (reviewOutputsFrom owned lookup taken position outputs).accepted =
      firstHolders Output.name taken (outputs.filter (·.isSound owned lookup)) := by
  induction outputs generalizing taken position with
  | nil => rfl
  | cons output rest ih =>
    rw [List.forall_mem_cons] at h
    rw [reviewOutputsFrom_cons h.1]
    simp only [OutputReviews.accepted_cons, Output.isAccepted_status h.1, ih h.2]
    by_cases hsound : output.isSound owned lookup
    · rw [List.filter_cons, if_pos hsound]
      by_cases hfree : output.name ∈ taken
      · simp [hfree, firstHolders_cons_of_mem]
      · simp [hsound, hfree, firstHolders_cons_of_notMem]
    · rw [List.filter_cons, if_neg hsound]
      simp [hsound]

theorem map_output_reviewOutputsFrom {taken : List String} {position : Nat}
    {outputs : List Output} (h : ∀ output ∈ outputs, output.lookupFailure? lookup = none) :
    (reviewOutputsFrom owned lookup taken position outputs).reviews.map (·.output) = outputs := by
  induction outputs generalizing taken position with
  | nil => rfl
  | cons output rest ih =>
    rw [List.forall_mem_cons] at h
    rw [reviewOutputsFrom_cons h.1]
    exact congrArg (output :: ·) (ih h.2)

/-- Where a review does not fail, every output has a review, in its place. -/
theorem map_output_reviewOutputs {outputs : List Output}
    (h : (reviewOutputs outputs owned lookup).failure? = none) :
    (reviewOutputs outputs owned lookup).reviews.map (·.output) = outputs := by
  rw [failure?_reviewOutputs, List.findSome?_eq_none_iff] at h
  exact map_output_reviewOutputsFrom h

/-- Every review is that of its output, for some names accepted before. -/
theorem exists_status_of_mem_reviewOutputsFrom {taken : List String} {position : Nat}
    {outputs : List Output} {review : OutputReview}
    (h : review ∈ (reviewOutputsFrom owned lookup taken position outputs).reviews) :
    ∃ before place, review.status = review.output.status owned lookup before place := by
  induction outputs generalizing taken position with
  | nil => exact absurd h List.not_mem_nil
  | cons output rest ih =>
    cases hfailure : output.lookupFailure? lookup with
    | some failure =>
      rw [reviewOutputsFrom_cons_of_failure hfailure] at h
      exact absurd h List.not_mem_nil
    | none =>
      rw [reviewOutputsFrom_cons hfailure] at h
      rcases List.mem_cons.1 h with rfl | h
      · exact ⟨taken, position, rfl⟩
      · exact ih h

/-- Every review is that of the output at its position. The names accepted before are those of
the sound outputs before it. -/
theorem getElem?_reviewOutputsFrom (taken : List String) (position : Nat) {outputs : List Output}
    {i : Nat} {output : Output} (hlookup : ∀ output ∈ outputs, output.lookupFailure? lookup = none)
    (h : outputs[i]? = some output) :
    ∃ before, (reviewOutputsFrom owned lookup taken position outputs).reviews[i]? =
        some ⟨output, output.status owned lookup before (position + i)⟩
      ∧ ∀ name, name ∈ before ↔ name ∈ taken ∨ ∃ earlier ∈ outputs.take i,
          earlier.isSound owned lookup ∧ earlier.name = name := by
  induction outputs generalizing taken position i with
  | nil => simp at h
  | cons head rest ih =>
    rw [List.forall_mem_cons] at hlookup
    rw [reviewOutputsFrom_cons hlookup.1]
    cases i with
    | zero =>
      obtain rfl : head = output := by simpa using h
      exact ⟨taken, rfl, by simp⟩
    | succ i =>
      obtain ⟨before, hbefore, hnames⟩ := ih _ (position + 1) hlookup.2 (by simpa using h)
      refine ⟨before, ?_, fun name => ?_⟩
      · simp only [OutputReviews.cons, List.getElem?_cons_succ]
        rw [hbefore, Nat.add_right_comm, Nat.add_assoc]
      · rw [hnames, List.take_succ_cons, List.exists_mem_cons_iff, ← or_assoc]
        refine or_congr_left ?_
        simp only [Output.isAccepted_status hlookup.1]
        -- A sound output whose name was accepted before adds none.
        split_ifs with haccepted
        · rw [List.mem_cons, or_comm]
          simp only [haccepted.1, true_and, eq_comm]
        · constructor
          · exact Or.inl
          · rintro (hmem | ⟨hsound, rfl⟩)
            · exact hmem
            · exact not_not.1 fun hfree => haccepted ⟨hsound, hfree⟩

/-- Where a review does not fail, every review is that of the output at its position. -/
theorem getElem?_reviewOutputs {outputs : List Output} {position : Nat} {output : Output}
    (hfailure : (reviewOutputs outputs owned lookup).failure? = none)
    (h : outputs[position]? = some output) :
    ∃ before, (reviewOutputs outputs owned lookup).reviews[position]? =
        some ⟨output, output.status owned lookup before position⟩
      ∧ ∀ name, name ∈ before ↔ ∃ earlier ∈ outputs.take position,
          earlier.isSound owned lookup ∧ earlier.name = name := by
  rw [failure?_reviewOutputs, List.findSome?_eq_none_iff] at hfailure
  obtain ⟨before, hreview, hnames⟩ := getElem?_reviewOutputsFrom [] 0 hfailure h
  rw [Nat.zero_add] at hreview
  exact ⟨before, hreview, by simpa using hnames⟩

/-- **The accepted outputs**: of the sound ones, the first holders of each name. -/
theorem accepted_reviewOutputs {outputs : List Output}
    (h : (reviewOutputs outputs owned lookup).failure? = none) :
    (reviewOutputs outputs owned lookup).accepted =
      firstHolders Output.name [] (outputs.filter (·.isSound owned lookup)) := by
  rw [failure?_reviewOutputs, List.findSome?_eq_none_iff] at h
  exact accepted_reviewOutputsFrom h

/-- A name is accepted iff some sound output has it. -/
theorem mem_acceptedNames_reviewOutputs {outputs : List Output} {x : String}
    (h : (reviewOutputs outputs owned lookup).failure? = none) :
    x ∈ (reviewOutputs outputs owned lookup).acceptedNames ↔
      ∃ output ∈ outputs, output.isSound owned lookup ∧ output.name = x := by
  rw [OutputReviews.acceptedNames, accepted_reviewOutputs h]
  simp [mem_map_firstHolders, and_assoc]

/-- All outputs are accepted iff the accepted ones are all there are. -/
theorem all_isAccepted_reviewOutputs_iff {outputs : List Output}
    (h : (reviewOutputs outputs owned lookup).failure? = none) :
    (reviewOutputs outputs owned lookup).statuses.all (·.isAccepted) ↔
      (reviewOutputs outputs owned lookup).accepted = outputs := by
  rw [OutputReviews.all_isAccepted_iff]
  constructor
  · intro haccepted
    rw [OutputReviews.accepted, List.filter_eq_self.2 haccepted]
    exact map_output_reviewOutputs h
  · intro heq
    have hlength := congrArg List.length (heq.trans (map_output_reviewOutputs h).symm)
    rw [OutputReviews.accepted, List.length_map, List.length_map] at hlength
    exact List.length_filter_eq_length_iff.1 hlength

/-- Where all outputs are accepted, their statuses are their names. -/
theorem statuses_reviewOutputs_of_all {outputs : List Output}
    (h : (reviewOutputs outputs owned lookup).failure? = none)
    (haccepted : (reviewOutputs outputs owned lookup).statuses.all (·.isAccepted)) :
    (reviewOutputs outputs owned lookup).statuses =
      outputs.map fun output => { name := output.name } := by
  rw [OutputReviews.all_isAccepted_iff] at haccepted
  conv_rhs => rw [← map_output_reviewOutputs h, List.map_map]
  refine List.map_congr_left fun review hmem => ?_
  obtain ⟨before, place, hstatus⟩ := exists_status_of_mem_reviewOutputsFrom hmem
  have hreview := haccepted review hmem
  rw [hstatus] at hreview
  rw [hstatus, Output.status_eq_of_isAccepted hreview]
  rfl

end LogForwarding
