import LogForwarding.Proofs.Accounts
import LogForwarding.Proofs.Outcome
import Mathlib.Tactic.Ring

/-!
# The ledger of a run

The counters of a run are raised where something happens, one step at a time: by the migration
where it makes outputs, by the reviews for each entity and each look-up, and at the end of the
run. A run may end at a look-up in the middle of the outputs, or before there is any review. Here
the counters are added up, and compared with what became of the specification.

## What is proved

* `Migrated.count_outputReviews`, `PipelineReviews.count_journal`, `Spec.count_migrate_of_ok`,
  `count_runJournal`: what each part of a run counts.
* `Migrated.warnings_outputReviews`, `PipelineReviews.warnings_journal`: what the reviews warn of.
* `Spec.count_normalize_of_ok`, `Spec.count_normalize_of_failure`, `Spec.count_normalize_of_error`:
  the counters of a run, by how it ends.
* `Spec.balances_normalize`, `Spec.stopsAt_normalize`, `Spec.count_normalize_of_noLogStore`: the
  ledger of a run that succeeds, that ends at a look-up, and that ends for lack of a store.
* `ledger_normalize`: the ledger of every run agrees with its result.
-/

namespace LogForwarding

/-! ### Reviews -/

namespace EntityStatus

/-- The status of an output is counted by its state. -/
theorem tally_raise_outputJournal (status : EntityStatus) (counter : Counter) :
    status.outputJournal.tally (Entry.raise counter) =
      if .outputs status.state = counter then 1 else 0 := by
  cases h : status.isAccepted <;> simp [outputJournal, h]

theorem tally_warns_outputJournal (status : EntityStatus) (message : String) :
    status.outputJournal.tally (Entry.warns message) =
      if "dropping output" = message ∧ status.state != .accepted then 1 else 0 := by
  unfold outputJournal isAccepted
  split_ifs <;> simp_all

end EntityStatus

section OutputReviews

variable {owned : Ownership} {lookup : SecretLookup} {worth : Entry → Nat} {each : Nat}

/-- The look-up that an output needs is worth as much as any, with the step that counts it. -/
theorem Output.tally_lookupJournal
    (h : ∀ secret, worth (.count .secretLookups 1) + worth (.lookup secret) = each)
    (output : Output) : output.lookupJournal.tally worth =
      each * output.lookupJournal.lookups.length := by
  rw [lookups_lookupJournal]
  unfold lookupJournal
  cases output.secretName? with
  | none => rfl
  | some secret => simp [h secret]

/-- **The review of outputs** is worth what its look-ups and the statuses of its outputs are. -/
theorem tally_reviewOutputsFrom
    (h : ∀ secret, worth (.count .secretLookups 1) + worth (.lookup secret) = each)
    (taken : List String) (position : Nat) (outputs : List Output) :
    let found := reviewOutputsFrom owned lookup taken position outputs
    found.journal.tally worth = each * found.journal.lookups.length
      + Journal.tally worth (found.statuses.flatMap (·.outputJournal)) := by
  intro found
  induction outputs generalizing taken position with
  | nil => rfl
  | cons output rest ih =>
    cases hfailure : output.lookupFailure? lookup with
    | some failure =>
      simp only [found, reviewOutputsFrom_cons_of_failure hfailure]
      exact output.tally_lookupJournal h
    | none =>
      simp only [found, reviewOutputsFrom_cons hfailure, OutputReviews.journal_cons,
        OutputReviews.statuses_cons, List.flatMap_cons, Journal.tally_append,
        Journal.lookups_append, List.length_append, EntityStatus.lookups_outputJournal,
        output.tally_lookupJournal h, ih, List.length_nil]
      ring

end OutputReviews

namespace Migrated

variable {lookup : SecretLookup}

/-- What the review of a migrated specification's outputs is worth. -/
theorem tally_outputReviews (migrated : Migrated) {worth : Entry → Nat} {each : Nat}
    (h : ∀ secret, worth (.count .secretLookups 1) + worth (.lookup secret) = each) :
    (migrated.outputReviews lookup).journal.tally worth =
      each * (migrated.outputReviews lookup).journal.lookups.length
        + Journal.tally worth
          ((migrated.outputReviews lookup).statuses.flatMap (·.outputJournal)) :=
  tally_reviewOutputsFrom h [] 0 migrated.spec.outputs

/-- **It counts** the outputs by their states, and the look-ups. -/
theorem count_outputReviews (migrated : Migrated) (counter : Counter) :
    (migrated.outputReviews lookup).journal.count counter = match counter with
      | .outputs state => Status.countState (migrated.outputReviews lookup).statuses state
      | .secretLookups => (migrated.outputReviews lookup).journal.lookups.length
      | _ => 0 := by
  have hstates : Journal.tally (Entry.raise counter)
      ((migrated.outputReviews lookup).statuses.flatMap (·.outputJournal)) =
        (migrated.outputReviews lookup).statuses.countP fun status =>
          .outputs status.state = counter :=
    Journal.tally_flatMap_eq_countP fun status _ => by
      simp only [status.tally_raise_outputJournal, decide_eq_true_eq]
  have hlookups : ∀ secret, Entry.raise counter (.count .secretLookups 1)
      + Entry.raise counter (.lookup secret) = if .secretLookups = counter then 1 else 0 := by
    intro secret
    rw [Entry.raise_count, Entry.raise_lookup, Nat.add_zero]
  rw [Journal.count_eq_tally, migrated.tally_outputReviews hlookups, hstates]
  cases counter <;> simp [Status.countState, beq_eq_decide]

/-- **It warns** of each output that is not accepted, and of nothing else. -/
theorem warnings_outputReviews (migrated : Migrated) (message : String) :
    (migrated.outputReviews lookup).journal.warnings message =
      if "dropping output" = message then
        (migrated.outputReviews lookup).statuses.countP (·.state != .accepted)
      else 0 := by
  rw [Journal.warnings_eq_tally, migrated.tally_outputReviews fun secret => by
    rw [Entry.warns_count, Entry.warns_lookup], Nat.zero_mul, Nat.zero_add]
  split_ifs with hmessage
  · exact Journal.tally_flatMap_eq_countP fun status _ => by
      simp only [status.tally_warns_outputJournal, hmessage, true_and]
  · exact Journal.tally_flatMap_eq_zero fun status _ => by
      simp only [status.tally_warns_outputJournal, hmessage, false_and, if_false]

end Migrated

namespace PipelineReview

/-- The review of a pipeline counts its state. -/
theorem tally_raise (review : PipelineReview) (counter : Counter) :
    review.journal.tally (Entry.raise counter) =
      if .pipelines review.status.state = counter then 1 else 0 := by
  unfold journal
  dsimp only
  split <;> simp

theorem tally_warns (review : PipelineReview) (message : String) :
    review.journal.tally (Entry.warns message) =
      if "dropping pipeline" = message ∧ review.status.state == .dropped then 1
      else if "pipeline degraded: some output references were dropped" = message
        ∧ review.status.state == .degraded then 1
      else 0 := by
  unfold journal
  dsimp only
  split <;> simp_all

end PipelineReview

namespace PipelineReviews

/-- **The review of pipelines** counts them by their states. -/
theorem count_journal (found : PipelineReviews) (counter : Counter) :
    found.journal.count counter = match counter with
      | .pipelines state => Status.countState found.statuses state
      | _ => 0 := by
  have hcount : found.journal.count counter =
      found.statuses.countP fun status => .pipelines status.state = counter := by
    rw [Journal.count_eq_tally, journal, statuses, List.countP_map]
    exact Journal.tally_flatMap_eq_countP fun review _ => by simp [review.tally_raise]
  rw [hcount]
  cases counter <;> simp [Status.countState, beq_eq_decide]

/-- It warns of each pipeline that is dropped, and of each that is degraded. -/
theorem warnings_journal (found : PipelineReviews) (message : String) :
    found.journal.warnings message =
      if "dropping pipeline" = message then Status.countState found.statuses .dropped
      else if "pipeline degraded: some output references were dropped" = message then
        Status.countState found.statuses .degraded
      else 0 := by
  rw [Journal.warnings_eq_tally, journal, Status.countState, Status.countState, statuses,
    List.countP_map, List.countP_map]
  split_ifs with hdropped hdegraded
  · subst hdropped
    exact Journal.tally_flatMap_eq_countP fun review _ => by simp [review.tally_warns]
  · subst hdegraded
    exact Journal.tally_flatMap_eq_countP fun review _ => by simp [review.tally_warns]
  · exact Journal.tally_flatMap_eq_zero fun review _ => by
      simp [review.tally_warns, hdropped, hdegraded]

end PipelineReviews

/-! ### The parts of a run -/

/-- **A migration that succeeds** counts the outputs that it makes. -/
theorem Spec.count_migrate_of_ok {spec : Spec} {store : Option Store} {operator : Operator}
    {migrated : Migrated} (h : (spec.migrate store operator).value = .ok migrated)
    (counter : Counter) :
    (spec.migrate store operator).journal.count counter = match counter with
      | .synthesizedOutputs kind =>
        if kind = Store.kindOf store then migrated.spec.outputs.length - spec.outputs.length else 0
      | _ => 0 := by
  rw [Journal.count_eq_tally, tally_migrate_of_ok (Entry.passesOver_raise counter) h]
  cases counter <;> simp [eq_comm]

/-- A migration warns of nothing but what it tells. -/
theorem Spec.warnings_migrate_of_ok {spec : Spec} {store : Option Store} {operator : Operator}
    {migrated : Migrated} (h : (spec.migrate store operator).value = .ok migrated)
    {message : String} (hmessage : message ∉ migrationMessages) :
    (spec.migrate store operator).journal.warnings message = 0 := by
  rw [Journal.warnings_eq_tally, tally_migrate_of_ok (Entry.passesOver_warns hmessage) h,
    Entry.warns_count]

theorem Normalized.count_journal (normalized : Normalized) (store : Option Store)
    (counter : Counter) : (normalized.journal store).count counter = 0 := rfl

theorem Normalized.warnings_journal (normalized : Normalized) (store : Option Store)
    (message : String) : (normalized.journal store).warnings message = 0 := by
  rw [Journal.warnings_eq_tally]
  simp [Normalized.journal]

/-- **The end of a run** counts a measurement, and the error if there is one. -/
theorem count_runJournal (result : Except ForwardingError Normalized) (counter : Counter) :
    (runJournal result).count counter = match counter, result with
      | .measuredRuns, _ => 1
      | .abortedRuns kind, .error error => if kind = error.kind then 1 else 0
      | _, _ => 0 := by
  rw [Journal.count_eq_tally]
  cases result <;> cases counter <;> simp [runJournal, ForwardingError.journal, eq_comm]

theorem warnings_runJournal (result : Except ForwardingError Normalized) (message : String) :
    (runJournal result).warnings message = 0 := by
  rw [Journal.warnings_eq_tally]
  cases result <;> simp [runJournal, ForwardingError.journal]

/-! ### Whole runs -/

namespace Spec

variable {spec : Spec} {store : Option Store} {lookup : SecretLookup} {operator : Operator}
  {migrated : Migrated}

/-- All look-ups of a run are those of the review of its outputs. -/
theorem lookups_normalize_of_migrate
    (hmigrate : (spec.migrate store operator).value = .ok migrated) :
    (spec.normalize store lookup operator).journal.lookups =
      (migrated.outputReviews lookup).journal.lookups := by
  rw [lookups_normalize, hmigrate]
  exact (lookups_reviewOutputsFrom [] 0 migrated.spec.outputs).symm

/-- **The counters of a run that succeeds.** -/
theorem count_normalize_of_ok (hmigrate : (spec.migrate store operator).value = .ok migrated)
    (hfailure : (migrated.outputReviews lookup).failure? = none) (counter : Counter) :
    (spec.normalize store lookup operator).journal.count counter = match counter with
      | .outputs state => Status.countState (migrated.reviewed lookup).status.outputs state
      | .pipelines state => Status.countState (migrated.reviewed lookup).status.pipelines state
      | .synthesizedOutputs kind =>
        if kind = Store.kindOf store then migrated.spec.outputs.length - spec.outputs.length else 0
      | .secretLookups => (spec.normalize store lookup operator).journal.lookups.length
      | .abortedRuns _ => 0
      | .measuredRuns => 1 := by
  rw [lookups_normalize_of_migrate hmigrate, journal_normalize_of_migrate hmigrate,
    Migrated.review_of_ok hfailure]
  simp only [Journal.count_append, count_migrate_of_ok hmigrate, Migrated.count_outputReviews,
    PipelineReviews.count_journal, Normalized.count_journal, count_runJournal]
  cases counter <;> simp only [Nat.zero_add, Nat.add_zero] <;> rfl

/-- **The counters of a run that ends at a look-up.** -/
theorem count_normalize_of_failure
    (hmigrate : (spec.migrate store operator).value = .ok migrated) {failure : ForwardingError}
    (hfailure : (migrated.outputReviews lookup).failure? = some failure) (counter : Counter) :
    (spec.normalize store lookup operator).journal.count counter = match counter with
      | .outputs state => Status.countState (migrated.outputReviews lookup).statuses state
      | .synthesizedOutputs kind =>
        if kind = Store.kindOf store then migrated.spec.outputs.length - spec.outputs.length else 0
      | .secretLookups => (spec.normalize store lookup operator).journal.lookups.length
      | .abortedRuns kind => if kind = failure.kind then 1 else 0
      | .measuredRuns => 1
      | .pipelines _ => 0 := by
  rw [lookups_normalize_of_migrate hmigrate, journal_normalize_of_migrate hmigrate,
    Migrated.review_of_failure hfailure]
  simp only [Journal.count_append, count_migrate_of_ok hmigrate, Migrated.count_outputReviews,
    count_runJournal]
  cases counter <;> simp only [Nat.zero_add, Nat.add_zero]

/-- **The counters of a run that ends for lack of a store.** -/
theorem count_normalize_of_error {error : ForwardingError}
    (hmigrate : (spec.migrate store operator).value = .error error) (counter : Counter) :
    (spec.normalize store lookup operator).journal.count counter = match counter with
      | .abortedRuns kind => if kind = error.kind then 1 else 0
      | .measuredRuns => 1
      | _ => 0 := by
  have hstore := (lacksStore_iff.1 (migrate_eq_error_iff.1 hmigrate).1).1
  rw [journal_normalize_of_error hmigrate, Journal.count_append, Journal.count_eq_tally,
    tally_migrate_of_unconfigured (Entry.passesOver_raise counter) hstore, count_runJournal,
    Nat.zero_add]
  cases counter <;> rfl

/-- **The warnings of a run that succeeds**, those of its migration apart. -/
theorem warnings_normalize_of_ok (hmigrate : (spec.migrate store operator).value = .ok migrated)
    (hfailure : (migrated.outputReviews lookup).failure? = none) {message : String}
    (hmessage : message ∉ migrationMessages) :
    (spec.normalize store lookup operator).journal.warnings message =
      (migrated.outputReviews lookup).journal.warnings message
        + (migrated.pipelineReviews (migrated.outputReviews lookup)).journal.warnings message := by
  rw [journal_normalize_of_migrate hmigrate, Migrated.review_of_ok hfailure]
  simp only [Journal.warnings_append, warnings_migrate_of_ok hmigrate hmessage,
    Normalized.warnings_journal, warnings_runJournal, Nat.zero_add, Nat.add_zero]

end Spec

/-! ### The look-up that ends a run -/

/-- The secrets of outputs that are answered for are looked up, and then those after them. -/
theorem Output.tried_append_of_isAnswered {lookup : SecretLookup} {outputs : List Output}
    (h : ∀ output ∈ outputs, output.IsAnswered lookup) (rest : List String) :
    lookup.tried (outputs.filterMap (·.secretName?) ++ rest) =
      outputs.filterMap (·.secretName?) ++ lookup.tried rest := by
  refine SecretLookup.tried_append_of_ok fun name hname => ?_
  obtain ⟨output, hmem, hsecret⟩ := List.mem_filterMap.1 hname
  exact h output hmem name hsecret

/-- Whether the look-up of the output at a position is the first to fail. -/
structure Migrated.FailsAt (migrated : Migrated) (lookup : SecretLookup) (position : Nat)
    (output : Output) (secret : String) (source : SecretError) : Prop where
  /-- The output is at the position. -/
  getElem? : migrated.spec.outputs[position]? = some output
  /-- It names a secret. -/
  secretName? : output.secretName? = some secret
  /-- The secret cannot be looked up. -/
  lookup_eq : lookup secret = .error source
  /-- The secrets of the outputs before it can. -/
  isAnswered : ∀ earlier ∈ migrated.spec.outputs.take position, earlier.IsAnswered lookup

namespace Migrated.FailsAt

variable {migrated : Migrated} {lookup : SecretLookup} {position : Nat} {output : Output}
  {secret : String} {source : SecretError}

theorem exists_of_firstFailure
    (h : FirstFailure migrated.spec.outputs lookup output secret source) :
    ∃ position, migrated.FailsAt lookup position output secret source := by
  obtain ⟨before, after, hsplit, hsecret, hlookup, hanswered⟩ := h
  refine ⟨before.length, ?_, hsecret, hlookup, ?_⟩
  · rw [hsplit, List.getElem?_append_right (Nat.le_refl _), Nat.sub_self, List.getElem?_cons_zero]
  · rw [hsplit, List.take_left]
    exact hanswered

theorem firstFailure (h : migrated.FailsAt lookup position output secret source) :
    FirstFailure migrated.spec.outputs lookup output secret source :=
  ⟨_, _, eq_take_append_cons_drop h.getElem?, h.secretName?, h.lookup_eq, h.isAnswered⟩

theorem failure? (h : migrated.FailsAt lookup position output secret source) :
    (migrated.outputReviews lookup).failure? = some (.secretLookup output.name secret source) :=
  Migrated.failure?_outputReviews_eq_some_iff.2 ⟨output, secret, source, h.firstFailure, rfl⟩

/-- Only the outputs before it are reviewed. -/
theorem length_statuses (h : migrated.FailsAt lookup position output secret source) :
    (migrated.outputReviews lookup).statuses.length = position := by
  have hfails : (output.lookupFailure? lookup).isSome := by
    rw [Output.lookupFailure?_eq_some_iff.2
      ⟨secret, source, h.secretName?, h.lookup_eq, rfl⟩, Option.isSome_some]
  obtain ⟨hlt, rfl⟩ := List.getElem?_eq_some_iff.1 h.getElem?
  rw [OutputReviews.statuses, List.length_map, outputReviews, reviewOutputs,
    length_reviewOutputsFrom, List.findIdx_eq hlt]
  refine ⟨hfails, fun j hj => ?_⟩
  have hearlier := h.isAnswered migrated.spec.outputs[j]
    (List.mem_take_iff_getElem.2 ⟨j, by omega, rfl⟩)
  rw [Output.lookupFailure?_eq_none_iff.2 hearlier, Option.isSome_none]

/-- All secrets up to its own are looked up. -/
theorem tried_eq (h : migrated.FailsAt lookup position output secret source) :
    lookup.tried (migrated.spec.outputs.filterMap (·.secretName?)) =
      (migrated.spec.outputs.take (position + 1)).filterMap (·.secretName?) := by
  have hsplit := eq_take_append_cons_drop h.getElem?
  rw [List.take_add_one, h.getElem?, Option.toList_some, List.filterMap_append]
  conv_lhs => rw [hsplit]
  rw [List.filterMap_append, Output.tried_append_of_isAnswered h.isAnswered, List.filterMap_cons,
    List.filterMap_cons, h.secretName?]
  dsimp only
  rw [SecretLookup.tried_cons_of_error h.lookup_eq, List.filterMap_nil]

end Migrated.FailsAt

/-- Every status is counted in one state. -/
theorem Status.sum_countState (statuses : List EntityStatus) :
    (State.all.map (Status.countState statuses)).sum = statuses.length := by
  simp only [State.all, List.map_cons, List.map_nil, List.sum_cons, List.sum_nil]
  induction statuses with
  | nil => rfl
  | cons status rest ih =>
    unfold Status.countState at *
    rw [List.countP_cons, List.countP_cons, List.countP_cons, List.length_cons]
    cases status.state <;> simp <;> omega

/-! ### The ledger -/

/-- Whether a journal agrees with the result of a run that succeeds, given its specification,
its store and the migrated specification. -/
structure Journal.Balances (journal : Journal) (spec : Spec) (store : Option Store)
    (migrated : Migrated) (summary : Summary) : Prop where
  /-- The outputs that are used are counted. -/
  outputs_accepted : journal.count (.outputs .accepted) = summary.outputsAccepted
  /-- No output is counted as degraded. -/
  outputs_degraded : journal.count (.outputs .degraded) = 0
  /-- The outputs that are not used are counted. -/
  outputs_dropped : journal.count (.outputs .dropped) = summary.outputsDropped
  /-- The pipelines that are used as declared are counted. -/
  pipelines_accepted : journal.count (.pipelines .accepted) = summary.pipelinesAccepted
  /-- The pipelines that lost outputs are counted. -/
  pipelines_degraded : journal.count (.pipelines .degraded) = summary.pipelinesDegraded
  /-- The pipelines that are not used are counted. -/
  pipelines_dropped : journal.count (.pipelines .dropped) = summary.pipelinesDropped
  /-- The log warns once of each output that is not used. -/
  warnings_output : journal.warnings "dropping output" = summary.outputsDropped
  /-- The log warns once of each pipeline that is not used. -/
  warnings_pipeline : journal.warnings "dropping pipeline" = summary.pipelinesDropped
  /-- The log warns once of each pipeline that lost outputs. -/
  warnings_degraded :
    journal.warnings "pipeline degraded: some output references were dropped" =
      summary.pipelinesDegraded
  /-- The secrets of all outputs are looked up. -/
  lookups : journal.lookups = migrated.spec.outputs.filterMap (·.secretName?)
  /-- The look-ups are counted. -/
  secretLookups : journal.count .secretLookups = journal.lookups.length
  /-- Outputs are added to the declared ones, under the kind of the store. -/
  synthesizedOutputs : spec.outputs.length
    + journal.count (.synthesizedOutputs (Store.kindOf store)) = migrated.spec.outputs.length
  /-- No output is added under another kind. -/
  synthesizedOutputs_other : ∀ kind ≠ Store.kindOf store,
    journal.count (.synthesizedOutputs kind) = 0
  /-- No error is counted. -/
  abortedRuns : ∀ kind, journal.count (.abortedRuns kind) = 0

/-- Whether a journal ends at the look-up that the output at a position needs. -/
structure Journal.StopsAt (journal : Journal) (migrated : Migrated) (position : Nat) : Prop where
  /-- The outputs before it are counted, each in one state. -/
  outputs : (State.all.map fun state => journal.count (.outputs state)).sum = position
  /-- The secrets up to its own are looked up. -/
  lookups : journal.lookups =
    (migrated.spec.outputs.take (position + 1)).filterMap (·.secretName?)
  /-- The look-ups are counted, the last one included. -/
  secretLookups : journal.count .secretLookups = journal.lookups.length
  /-- No pipeline is counted. -/
  pipelines : ∀ state, journal.count (.pipelines state) = 0
  /-- One error is counted, about a look-up. -/
  abortedRuns : ∀ kind, journal.count (.abortedRuns kind) = if kind = "secret_lookup" then 1 else 0

namespace Spec

variable {spec : Spec} {store : Option Store} {lookup : SecretLookup} {operator : Operator}
  {migrated : Migrated}

/-- The ledger of a run that succeeds balances. -/
theorem balances_normalize (hmigrate : (spec.migrate store operator).value = .ok migrated)
    (hfailure : (migrated.outputReviews lookup).failure? = none) :
    (spec.normalize store lookup operator).journal.Balances spec store migrated
      (migrated.reviewed lookup).status.summary := by
  have hcount := count_normalize_of_ok hmigrate hfailure
  have hnone : ∀ status ∈ (migrated.reviewed lookup).status.outputs, status.state ≠ .degraded :=
    (Migrated.isAccountOf_reviewed hfailure).output_state
  exact {
    outputs_accepted := hcount _
    outputs_degraded := by
      refine (hcount _).trans (List.countP_eq_zero.2 fun status hmem => ?_)
      simpa using hnone status hmem
    outputs_dropped := by
      rw [hcount]
      refine List.countP_congr fun status hmem => ?_
      have hstate := hnone status hmem
      cases hcase : status.state <;> simp_all
    pipelines_accepted := hcount _
    pipelines_degraded := hcount _
    pipelines_dropped := hcount _
    warnings_output := by
      rw [warnings_normalize_of_ok hmigrate hfailure (by decide), Migrated.warnings_outputReviews,
        PipelineReviews.warnings_journal, if_pos rfl, if_neg (by decide), if_neg (by decide),
        Nat.add_zero]
      rfl
    warnings_pipeline := by
      rw [warnings_normalize_of_ok hmigrate hfailure (by decide), Migrated.warnings_outputReviews,
        PipelineReviews.warnings_journal, if_pos rfl, if_neg (by decide), Nat.zero_add]
      rfl
    warnings_degraded := by
      rw [warnings_normalize_of_ok hmigrate hfailure (by decide), Migrated.warnings_outputReviews,
        PipelineReviews.warnings_journal, if_neg (by decide), if_neg (by decide), if_pos rfl,
        Nat.zero_add]
      rfl
    lookups := by
      have hanswered : ∀ output ∈ migrated.spec.outputs, output.IsAnswered lookup := fun output
        hmem => Output.lookupFailure?_eq_none_iff.1
          (Migrated.failure?_outputReviews_eq_none_iff.1 hfailure output hmem)
      rw [lookups_normalize, hmigrate]
      simpa using Output.tried_append_of_isAnswered hanswered []
    secretLookups := hcount _
    synthesizedOutputs := by
      rw [hcount]
      dsimp only
      rw [if_pos rfl, Nat.add_sub_cancel' (length_outputs_le_of_migrate hmigrate)]
    synthesizedOutputs_other := fun kind hkind => (hcount _).trans (if_neg hkind)
    abortedRuns := fun kind => hcount _ }

/-- The ledger of a run that ends at a look-up stops there. -/
theorem stopsAt_normalize (hmigrate : (spec.migrate store operator).value = .ok migrated)
    {position : Nat} {output : Output} {secret : String} {source : SecretError}
    (hfails : migrated.FailsAt lookup position output secret source) :
    (spec.normalize store lookup operator).journal.StopsAt migrated position := by
  have hcount := count_normalize_of_failure hmigrate hfails.failure?
  exact {
    outputs := by
      simp only [hcount]
      rw [Status.sum_countState, hfails.length_statuses]
    lookups := by
      rw [lookups_normalize, hmigrate]
      exact hfails.tried_eq
    secretLookups := hcount _
    pipelines := fun state => hcount _
    abortedRuns := fun kind => hcount _ }

/-- Every run is measured once. -/
theorem count_measuredRuns_normalize :
    (spec.normalize store lookup operator).journal.count .measuredRuns = 1 := by
  cases hmigrate : (spec.migrate store operator).value with
  | error error => exact count_normalize_of_error hmigrate _
  | ok migrated =>
    cases hfailure : (migrated.outputReviews lookup).failure? with
    | none => exact count_normalize_of_ok hmigrate hfailure _
    | some failure => exact count_normalize_of_failure hmigrate hfailure _

/-- The ledger of a run that ends for lack of a store holds nothing but that. -/
theorem count_normalize_of_noLogStore {names : List String}
    (h : (spec.normalize store lookup operator).value = .error (.noLogStore names))
    (counter : Counter) : (spec.normalize store lookup operator).journal.count counter =
      if counter = .measuredRuns ∨ counter = .abortedRuns "no_log_store" then 1 else 0 := by
  obtain hmigrate | ⟨migrated, -, hfailure⟩ := normalize_eq_error_iff.1 h
  · rw [count_normalize_of_error hmigrate]
    cases counter with
    | abortedRuns kind => by_cases h : kind = "no_log_store" <;> simp [ForwardingError.kind, h]
    | _ => simp
  · -- A review ends at a look-up only.
    obtain ⟨output, secret, source, -, herror⟩ :=
      Migrated.failure?_outputReviews_eq_some_iff.1 hfailure
    exact ForwardingError.noConfusion herror

/-- A run that fails does so for lack of a store, or at the look-up of an output. -/
theorem exists_failsAt_of_error {error : ForwardingError}
    (h : (spec.normalize store lookup operator).value = .error error) :
    (∃ names, error = .noLogStore names) ∨ ∃ migrated position output secret source,
      (spec.migrate store operator).value = .ok migrated
        ∧ migrated.FailsAt lookup position output secret source := by
  obtain hmigrate | ⟨migrated, hmigrate, hfailure⟩ := normalize_eq_error_iff.1 h
  · exact Or.inl ⟨_, (migrate_eq_error_iff.1 hmigrate).2⟩
  · obtain ⟨output, secret, source, hfirst, -⟩ :=
      Migrated.failure?_outputReviews_eq_some_iff.1 hfailure
    obtain ⟨position, hfails⟩ := Migrated.FailsAt.exists_of_firstFailure hfirst
    exact Or.inr ⟨migrated, position, output, secret, source, hmigrate, hfails⟩

end Spec

/-- **The ledger of a run.** Every run is measured once. If it succeeds, the counters and the
warnings agree with the summary of its status, with the look-ups and with the outputs that the
migration added. If it ends at the look-up of an output, they account for the outputs before that
one, and for the look-up. If it ends for lack of a store, nothing is counted but that. It ends in
no other way. -/
theorem ledger_normalize (spec : Spec) (store : Option Store) (lookup : SecretLookup)
    (operator : Operator) :
    let run := spec.normalize store lookup operator
    run.journal.count .measuredRuns = 1
      ∧ (∀ normalized, run.value = .ok normalized → ∃ migrated,
        (spec.migrate store operator).value = .ok migrated
          ∧ run.journal.Balances spec store migrated normalized.status.summary)
      ∧ (∀ migrated position output secret source,
        (spec.migrate store operator).value = .ok migrated →
        migrated.FailsAt lookup position output secret source →
          run.value = .error (.secretLookup output.name secret source)
            ∧ run.journal.StopsAt migrated position)
      ∧ (∀ names, run.value = .error (.noLogStore names) → ∀ counter, run.journal.count counter =
        if counter = .measuredRuns ∨ counter = .abortedRuns "no_log_store" then 1 else 0)
      ∧ (∀ error, run.value = .error error → (∃ names, error = .noLogStore names)
        ∨ ∃ migrated position output secret source,
          (spec.migrate store operator).value = .ok migrated
            ∧ migrated.FailsAt lookup position output secret source) := by
  intro run
  refine ⟨Spec.count_measuredRuns_normalize, fun normalized hrun => ?_,
    fun migrated position output secret source hmigrate hfails => ⟨?_, ?_⟩,
    fun names hrun => Spec.count_normalize_of_noLogStore hrun,
    fun error hrun => Spec.exists_failsAt_of_error hrun⟩
  · obtain ⟨migrated, hmigrate, hfailure, rfl⟩ := Spec.normalize_eq_ok_iff.1 hrun
    exact ⟨migrated, hmigrate, Spec.balances_normalize hmigrate hfailure⟩
  · exact Spec.normalize_eq_error_iff.2 (Or.inr ⟨migrated, hmigrate, hfails.failure?⟩)
  · exact Spec.stopsAt_normalize hmigrate hfails

/-- The output of the store is counted where it is added, and not where it takes the place of a
declared one. -/
example :
    let made := fun (outputs : List Output) => (Spec.normalize
      { outputs, pipelines := [{ inputRefs := ["audit"], outputRefs := ["default"] }] }
      (some (.elasticsearch "es")) (fun _ => .ok none) {}).journal.count
        (.synthesizedOutputs .elasticsearch)
    made [] = 1 ∧ made [{ name := "default" }] = 0 := by decide

end LogForwarding
