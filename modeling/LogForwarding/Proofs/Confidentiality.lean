import LogForwarding.Normalization
import Mathlib.Tactic.SplitIfs

/-!
# Confidentiality of secrets

A run needs little of a secret: whether it is there, and, for a Fluentd forward output,
whether it has the shared key. Two places to look secrets up that agree on that much
(`SecretLookup.Alike`) cannot be told apart: the two runs return the same, and an observer
sees the same look-ups, events and counters in the same order. The proof goes through the
review of outputs one by one, with the names accepted so far the same on both sides.

## What is proved

* `Output.evaluate_of_alike`: one output is checked alike.
* `reviewOutputs_of_alike`: so do all, and the reviews fail alike.
* `normalize_of_alike`: whole runs are the same, journals included.
-/

namespace LogForwarding

open Reserved (sharedKey)

/-- Whether two answers to a look-up say the same about a secret, as far as outputs need it. -/
inductive Secret.AnswersAlike : Except SecretError (Option Secret) →
    Except SecretError (Option Secret) → Prop where
  /-- Both look-ups fail, in the same way. -/
  | failed (error : SecretError) : AnswersAlike (.error error) (.error error)
  /-- Neither finds a secret. -/
  | missing : AnswersAlike (.ok none) (.ok none)
  /-- Both find one, and either both or neither has the shared key. -/
  | found {first second : Secret} :
      first.data.contains sharedKey = second.data.contains sharedKey →
        AnswersAlike (.ok (some first)) (.ok (some second))

theorem Secret.AnswersAlike.refl (answer : Except SecretError (Option Secret)) :
    AnswersAlike answer answer := by
  rcases answer with error | _ | secret
  · exact .failed error
  · exact .missing
  · exact .found rfl

/-- Whether two places to look secrets up answer alike for every name. -/
def SecretLookup.Alike (first second : SecretLookup) : Prop :=
  ∀ name, Secret.AnswersAlike (first name) (second name)

variable {first second : SecretLookup}

/-! ### One output -/

namespace Output

variable {output : Output}

theorem secretOutcome_of_alike {answer other : Except SecretError (Option Secret)} (name : String)
    (h : Secret.AnswersAlike answer other) :
    output.secretOutcome name answer = output.secretOutcome name other := by
  cases h with
  | failed error => rfl
  | missing => rfl
  | found hkey => simp only [secretOutcome, secretFault?, hkey]

theorem checkSecret_of_alike
    (h : ∀ secret ∈ output.secretName?, Secret.AnswersAlike (first secret) (second secret)) :
    output.checkSecret first = output.checkSecret second := by
  unfold secretName? at h
  unfold checkSecret
  cases hsecret : output.secret with
  | none => rfl
  | some ref =>
    by_cases hname : ref.name.isEmpty
    · simp only [hname, if_true]
    · have halike := h ref.name (by simp [hsecret, hname])
      simp only [hname, if_false, Bool.false_eq_true]
      exact congrArg (Traced.mk _) (secretOutcome_of_alike ref.name halike)

/-- **One output** is checked alike: it ends in the same status or at the same failure, and an
observer sees the same. -/
theorem evaluate_of_alike
    (h : ∀ secret ∈ output.secretName?, Secret.AnswersAlike (first secret) (second secret))
    (owned : Ownership) (accepted : List String) (position : Nat) :
    output.evaluate owned first accepted position =
      output.evaluate owned second accepted position := by
  unfold evaluate
  rw [checkSecret_of_alike h]

end Output

/-! ### All outputs -/

/-- The names accepted so far are the same on both sides, so that the rest is reviewed
alike. -/
theorem reviewOutputsFrom_of_alike {outputs : List Output}
    (h : ∀ output ∈ outputs, ∀ secret ∈ output.secretName?,
      Secret.AnswersAlike (first secret) (second secret))
    (owned : Ownership) (accepted : List String) (position : Nat) :
    reviewOutputsFrom owned first accepted position outputs =
      reviewOutputsFrom owned second accepted position outputs := by
  induction outputs generalizing accepted position with
  | nil => rfl
  | cons output rest ih =>
    rw [List.forall_mem_cons] at h
    simp only [reviewOutputsFrom, Output.evaluate_of_alike h.1, ih h.2]

/-- **All outputs** are reviewed alike. -/
theorem reviewOutputs_of_alike {outputs : List Output}
    (h : ∀ output ∈ outputs, ∀ secret ∈ output.secretName?,
      Secret.AnswersAlike (first secret) (second secret))
    (owned : Ownership) : reviewOutputs outputs owned first = reviewOutputs outputs owned second :=
  reviewOutputsFrom_of_alike h owned [] 0

/-! ### A run -/

theorem Migrated.review_of_alike (h : first.Alike second) (migrated : Migrated)
    (store : Option Store) : migrated.review store first = migrated.review store second := by
  unfold review outputReviews
  rw [reviewOutputs_of_alike fun _ _ secret _ => h secret]

/-- **Secrets are confidential**: where two places to look secrets up answer alike, the runs
are the same. They return the same specification and status or the same error, and an observer
sees the same look-ups, the same events and the same counters. What a place tells of a look-up
itself is not part of the run: a directory of secrets tells how many entries it has loaded, and
`Spec.normalizeWith` puts such events behind the look-ups. -/
theorem normalize_of_alike {first second : SecretLookup} (h : first.Alike second) (spec : Spec)
    (store : Option Store) (operator : Operator) :
    spec.normalize store first operator = spec.normalize store second operator := by
  unfold Spec.normalize
  simp only [Migrated.review_of_alike h]

/-- Outputs whose secrets have the shared key, lack it, and are not there, and one more. -/
def guardedSpec (last : String) : Spec where
  outputs :=
    [{ name := "hub", kind := .fluentdForward, url := "tls://hub.svc:24224"
       secret := some { name := "keyed" } },
      { name := "bare", kind := .fluentdForward, url := "tls://bare.svc:24224"
        secret := some { name := "plain" } },
      { name := "sink", kind := .http, url := "https://sink.svc"
        secret := some { name := "absent" } },
      { name := "last", kind := .http, url := "https://last.svc", secret := some { name := last } }]
  pipelines := [{ name := "logs", inputRefs := ["audit"], outputRefs := ["hub", "bare", "last"] }]

/-- Secrets of an owner with a payload. -/
def ownedSecrets (owner : String) (payload : ByteArray) : SecretLookup := fun name =>
  if name = "keyed" then
    .ok (some { name := owner, data := .ofList [(sharedKey, payload), (owner, payload)] })
  else if name = "plain" then .ok (some { name := owner, data := .ofList [(owner, payload)] })
  else if name = "stuck" then .error (.reading "timeout")
  else .ok none

/-- Whose the secrets are and what they hold does not show, neither where the run succeeds nor
where it is given up. -/
theorem normalize_of_alike_guardedSpec :
    let run := fun last lookup => (guardedSpec last).normalize none lookup {}
    let first := ownedSecrets "ann" ⟨#[1]⟩
    let second := ownedSecrets "bob" ⟨#[2, 3]⟩
    first.Alike second
      ∧ run "plain" first = run "plain" second
      ∧ (run "plain" first).value.toOption.map (·.status.outputs.map (·.state)) =
          some [.accepted, .dropped, .dropped, .accepted]
      ∧ run "stuck" first = run "stuck" second
      ∧ (run "stuck" first).value = .error (.secretLookup "last" "stuck" (.reading "timeout")) := by
  intro run first second
  have h : first.Alike second := by
    intro name
    simp only [first, second, ownedSecrets]
    split_ifs with hkeyed hplain hstuck
    · exact .found (by decide)
    · exact .found (by decide)
    · exact .failed _
    · exact .missing
  exact ⟨h, normalize_of_alike h _ _ _, by decide, normalize_of_alike h _ _ _, rfl⟩

end LogForwarding
