import LogForwarding.Proofs.Normalization
import LogForwarding.Proofs.Route.Journal

/-!
# How a run ends

A run can be given up in two places. The migration gives up where pipelines send to
`default` and there is no store; it never looks a secret up. The review of the migrated
outputs looks their secrets up, one after the other, and gives up at the first look-up that
fails. Any other run succeeds, whatever is wrong with its specification.

## What is proved

* `Spec.lookups_migrate`: a migration looks nothing up.
* `Spec.lookups_normalize`: a run issues the look-ups of its review.
* `normalize_outcome`: which runs fail, with which error, and the look-ups until then.
-/

namespace LogForwarding

open Reserved (defaultOutput)

/-! ### The look-ups of a run -/

/-- **A migration looks nothing up.** -/
theorem Spec.lookups_migrate {spec : Spec} {store : Option Store} {operator : Operator} :
    (spec.migrate store operator).journal.lookups = [] := by
  rw [Journal.lookups_eq_nil_iff]
  cases hstore : store.filter (·.isConfigured) with
  | none => exact tally_migrate_of_unconfigured Entry.passesOver_looksUp hstore
  | some place =>
    obtain ⟨rfl, hplace⟩ := Option.filter_eq_some_iff.1 hstore
    exact tally_migrate_of_isConfigured Entry.passesOver_looksUp hplace

/-- Pipelines are reviewed without a look-up. -/
theorem PipelineReviews.lookups_journal (found : PipelineReviews) :
    found.journal.lookups = [] := by
  refine Journal.lookups_eq_nil_iff.2 (Journal.tally_flatMap_eq_zero fun review _ => ?_)
  unfold PipelineReview.journal
  dsimp only
  split <;> rfl

theorem Migrated.lookups_review (migrated : Migrated) (store : Option Store)
    (lookup : SecretLookup) : (migrated.review store lookup).journal.lookups =
      lookup.tried (migrated.spec.outputs.filterMap (·.secretName?)) := by
  have hreviews : (migrated.outputReviews lookup).journal.lookups =
      lookup.tried (migrated.spec.outputs.filterMap (·.secretName?)) :=
    lookups_reviewOutputsFrom [] 0 migrated.spec.outputs
  cases hfailure : (migrated.outputReviews lookup).failure? with
  | some failure => rw [review_of_failure hfailure, hreviews]
  | none =>
    simp only [review_of_ok hfailure, Journal.lookups_append, PipelineReviews.lookups_journal,
      hreviews, Normalized.journal, Journal.lookups_cons_tell, Journal.lookups_nil,
      List.append_nil]

/-- **A run issues the look-ups of its review**, if it gets there. -/
theorem Spec.lookups_normalize (spec : Spec) (store : Option Store) (lookup : SecretLookup)
    (operator : Operator) : (spec.normalize store lookup operator).journal.lookups =
      match (spec.migrate store operator).value with
      | .ok migrated => lookup.tried (migrated.spec.outputs.filterMap (·.secretName?))
      | .error _ => [] := by
  have hend : ∀ result, (runJournal result).lookups = [] := by
    intro result
    cases result <;> rfl
  cases hmigrate : (spec.migrate store operator).value with
  | ok migrated =>
    simp only [journal_normalize_of_migrate hmigrate, Journal.lookups_append, lookups_migrate,
      migrated.lookups_review, hend, List.nil_append, List.append_nil]
  | error error =>
    simp only [journal_normalize_of_error hmigrate, Journal.lookups_append, lookups_migrate, hend,
      List.append_nil]

/-! ### The result of a run -/

/-- Whether some pipeline sends to `default`, and there is no log store. -/
def Spec.LacksStore (spec : Spec) (store : Option Store) : Prop :=
  (∀ place ∈ store, place.kind = .none)
    ∧ ∃ pipeline ∈ spec.pipelines, defaultOutput ∈ pipeline.outputRefs

/-- Whether a look-up is the first to fail of those that outputs need in turn: that of an
output, for a secret and with a failure. -/
def FirstFailure (outputs : List Output) (lookup : SecretLookup) (output : Output)
    (secret : String) (source : SecretError) : Prop :=
  ∃ before after, outputs = before ++ output :: after
    ∧ output.secretName? = some secret ∧ lookup secret = .error source
    ∧ ∀ earlier ∈ before, earlier.IsAnswered lookup

theorem Spec.lacksStore_iff {spec : Spec} {store : Option Store} :
    spec.LacksStore store ↔ store.filter (·.isConfigured) = none ∧ spec.usesDefault := by
  unfold LacksStore
  rw [Spec.usesDefault_iff, Option.filter_eq_none_iff]
  simp [Store.isConfigured]

/-- **The migration** fails for lack of a store only. -/
theorem Spec.migrate_eq_error_iff {spec : Spec} {store : Option Store} {operator : Operator}
    {error : ForwardingError} : (spec.migrate store operator).value = .error error ↔
      spec.LacksStore store ∧ error = .noLogStore spec.defaultReferrers := by
  rw [lacksStore_iff]
  cases hstore : store.filter (·.isConfigured) with
  | none =>
    rw [value_migrate_of_unconfigured hstore]
    split_ifs with huses <;> simp [huses, eq_comm]
  | some place =>
    obtain ⟨rfl, hplace⟩ := Option.filter_eq_some_iff.1 hstore
    obtain ⟨owned, -, hmigrate⟩ := migrate_of_isConfigured spec operator hplace
    simp [hmigrate]

/-- **The review** fails at the first look-up that fails only. -/
theorem Migrated.failure?_outputReviews_eq_some_iff {migrated : Migrated} {lookup : SecretLookup}
    {failure : ForwardingError} : (migrated.outputReviews lookup).failure? = some failure ↔
      ∃ output secret source, FirstFailure migrated.spec.outputs lookup output secret source
        ∧ failure = .secretLookup output.name secret source := by
  rw [outputReviews, failure?_reviewOutputs, List.findSome?_eq_some_iff]
  simp only [Output.lookupFailure?_eq_some_iff, Output.lookupFailure?_eq_none_iff]
  constructor
  · rintro ⟨before, output, after, hsplit, ⟨secret, source, hsecret, hlookup, rfl⟩, hbefore⟩
    exact ⟨output, secret, source, ⟨before, after, hsplit, hsecret, hlookup, hbefore⟩, rfl⟩
  · rintro ⟨output, secret, source, ⟨before, after, hsplit, hsecret, hlookup, hbefore⟩, rfl⟩
    exact ⟨before, output, after, hsplit, ⟨secret, source, hsecret, hlookup, rfl⟩, hbefore⟩

/-- **How a run ends.** Without the store that some pipelines send to, it fails with their
names, and looks nothing up. With it, or where it is not needed, the run looks up the secrets
of the migrated outputs in turn: it fails with the first look-up that fails, and succeeds if
none does. -/
theorem normalize_outcome (spec : Spec) (store : Option Store) (lookup : SecretLookup)
    (operator : Operator) :
    let run := spec.normalize store lookup operator
    (∀ names, run.value = .error (.noLogStore names) ↔
        spec.LacksStore store ∧ names = spec.defaultReferrers)
      ∧ (spec.LacksStore store → run.journal.lookups = [])
      ∧ (¬ spec.LacksStore store → ∃ migrated, (spec.migrate store operator).value = .ok migrated
        ∧ (∀ error, run.value = .error error ↔
            ∃ output secret source, FirstFailure migrated.spec.outputs lookup output secret source
              ∧ error = .secretLookup output.name secret source)
        ∧ ((∃ normalized, run.value = .ok normalized) ↔
            ∀ output ∈ migrated.spec.outputs, output.IsAnswered lookup)
        ∧ run.journal.lookups =
            lookup.tried (migrated.spec.outputs.filterMap (·.secretName?))) := by
  intro run
  refine ⟨fun names => ?_, fun hlacks => ?_, fun hstore => ?_⟩
  · rw [Spec.normalize_eq_error_iff, Spec.migrate_eq_error_iff, ForwardingError.noLogStore.injEq]
    refine or_iff_left ?_
    rintro ⟨migrated, -, hfailure⟩
    obtain ⟨output, secret, source, -, herror⟩ :=
      Migrated.failure?_outputReviews_eq_some_iff.1 hfailure
    exact ForwardingError.noConfusion herror
  · rw [Spec.lookups_normalize, Spec.migrate_eq_error_iff.2 ⟨hlacks, rfl⟩]
  · cases hmigrate : (spec.migrate store operator).value with
    | error error => exact absurd (Spec.migrate_eq_error_iff.1 hmigrate).1 hstore
    | ok migrated =>
      refine ⟨migrated, rfl, fun error => ?_, ?_, ?_⟩
      · rw [Spec.normalize_eq_error_iff, hmigrate, ← Migrated.failure?_outputReviews_eq_some_iff]
        simp
      · simp only [run, Spec.normalize_eq_ok_iff_of_migrate hmigrate, exists_and_left, exists_eq',
          and_true, Migrated.failure?_outputReviews_eq_none_iff,
          Output.lookupFailure?_eq_none_iff]
      · rw [Spec.lookups_normalize, hmigrate]

/-- An output without a name or an address is looked up for all the same, and the one after
the failure is not. -/
example : (Spec.normalize
    { outputs := [{ secret := some ⟨"token"⟩ }, { name := "sink", secret := some ⟨"cert"⟩ },
        { name := "late", secret := some ⟨"key"⟩ }] }
    none (fun name => if name = "cert" then .error (.reading "timeout") else .ok none)
    {}).journal.lookups = ["token", "cert"] := by decide

end LogForwarding
