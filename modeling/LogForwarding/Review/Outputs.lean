import LogForwarding.Route.Migration
import LogForwarding.Error

/-!
# Reviewing outputs

Each output is checked for its name, its kind, its address and its secret, and every
fault becomes a condition; an output with conditions is dropped. Of several outputs
with one name the first that is accepted keeps it. Secrets are looked up as they are
met; a look-up that fails ends the review. `reviewOutputs` holds what was found until
then, with the journal of how it was found.
-/

namespace LogForwarding

/-- Looks a secret up, so that an observer sees it. -/
def SecretLookup.ask (lookup : SecretLookup) (secret : String) :
    Traced (Except SecretError (Option Secret)) :=
  ⟨[.lookup secret], lookup secret⟩

namespace Output

/-- What is wrong with an output's name, given the names accepted before it. -/
def nameFault? (output : Output) (owned : Ownership) (accepted : List String) : Option Reason :=
  if output.name.isEmpty then some .missingName
  else if output.name = Reserved.defaultOutput && !owned.ownsOutput output.name then
    some .reservedNameConflict
  else if output.name ∈ accepted then some .nonUniqueName
  else none

/-- The condition on an output's name. -/
def nameCondition? (output : Output) (owned : Ownership) (accepted : List String) :
    Option Condition :=
  (output.nameFault? owned accepted).map fun reason => { aspect := .name, reason }

/-- The condition on an output's kind. -/
def kindCondition? (output : Output) : Option Condition :=
  if output.kind.isMissing then some { aspect := .kind, reason := .missingType }
  else if output.kind.isRecognized then none
  else
    some { aspect := .kind, reason := .unrecognizedType
           message := s!"The output type '{output.kind.name}' is not recognized." }

/-- The condition on an output's address. -/
def endpointCondition? (output : Output) : Option Condition :=
  if output.url.isEmpty then some { aspect := .endpoint, reason := .missingEndpoint } else none

/-- What is wrong with the secret that was found for an output. -/
def secretFault? (output : Output) (name : String) : Option Secret → Option Condition
  | none =>
    some { aspect := .secret, reason := .secretDoesNotExist
           message := s!"The referenced secret '{name}' does not exist." }
  | some secret =>
    if output.kind = .fluentdForward && !secret.data.contains Reserved.sharedKey then
      some { aspect := .secret, reason := .secretMissingSharedKey
             message :=
              s!"The referenced secret '{name}' is missing the '{Reserved.sharedKey}' entry." }
    else none

/-- What the answer to the look-up of an output's secret comes to. -/
def secretOutcome (output : Output) (name : String) :
    Except SecretError (Option Secret) → Except ForwardingError (Option Condition)
  | .ok found => .ok (output.secretFault? name found)
  | .error source => .error (.secretLookup output.name name source)

/-- Checks an output's secret, which may need a look-up. The look-up is counted before it is
made. -/
def checkSecret (output : Output) (lookup : SecretLookup) :
    Traced (Except ForwardingError (Option Condition)) :=
  match output.secret with
  | none => pure (.ok none)
  | some ref =>
    if ref.name.isEmpty then
      pure (.ok (some { aspect := .secret, reason := .missingSecretName }))
    else do
      Traced.note [.count .secretLookups 1]
      return output.secretOutcome ref.name (← lookup.ask ref.name)

/-- All conditions on an output, given the one on its secret. -/
def conditionsWith (output : Output) (owned : Ownership) (accepted : List String)
    (secret? : Option Condition) : List Condition :=
  (output.nameCondition? owned accepted).toList ++ output.kindCondition?.toList
    ++ output.endpointCondition?.toList ++ secret?.toList

/-- The status of the output at a position, given the names accepted before it and the
condition on its secret. -/
def statusWith (output : Output) (owned : Ownership) (accepted : List String) (position : Nat)
    (secret? : Option Condition) : EntityStatus :=
  let conditions := output.conditionsWith owned accepted secret?
  { name := if (output.nameFault? owned accepted).isSome then s!"output[{position}]"
      else output.name
    state := if conditions.isEmpty then .accepted else .dropped
    conditions }

/-- Checks the output at a position, given the names accepted before it. -/
def evaluate (output : Output) (owned : Ownership) (lookup : SecretLookup)
    (accepted : List String) (position : Nat) : Traced (Except ForwardingError EntityStatus) := do
  let checked ← output.checkSecret lookup
  return checked.map (output.statusWith owned accepted position)

end Output

/-- What was found about one output. -/
structure OutputReview where
  /-- The output as declared. -/
  output : Output
  /-- Its status. -/
  status : EntityStatus
  deriving DecidableEq, Repr, Inhabited

/-- What was found about outputs, up to the first failing look-up. -/
structure OutputReviews where
  /-- The outputs that were checked, in order. -/
  reviews : List OutputReview := []
  /-- The failure that ended the review: the look-up of the output after them. -/
  failure? : Option ForwardingError := none
  /-- What an observer saw of the review. -/
  journal : Journal := []
  deriving DecidableEq, Repr, Inhabited

namespace OutputReviews

/-- One more review in front, and what an observer saw of it. -/
def cons (review : OutputReview) (seen : Journal) (rest : OutputReviews) : OutputReviews :=
  { rest with reviews := review :: rest.reviews, journal := seen ++ rest.journal }

/-- The outputs that are used, as declared. -/
def accepted (found : OutputReviews) : List Output :=
  (found.reviews.filter (·.status.isAccepted)).map (·.output)

/-- The names of the outputs that are used. -/
def acceptedNames (found : OutputReviews) : List String :=
  found.accepted.map (·.name)

/-- The statuses of the outputs that were checked. -/
def statuses (found : OutputReviews) : List EntityStatus :=
  found.reviews.map (·.status)

end OutputReviews

/-- The reasons of a status as a log line shows them. -/
def EntityStatus.reasonsText (status : EntityStatus) : String :=
  Text.listed (status.reasons.map (·.label))

/-- What an observer sees of an output's status. -/
def EntityStatus.outputJournal (status : EntityStatus) : Journal :=
  [.tell .debug .outputs "evaluated output"
      [("output", .text status.name), ("state", .text status.state.name),
        ("conditions", .number status.conditions.length)],
    .count (.outputs status.state) 1]
  ++ if status.isAccepted then []
    else
      [.tell .warn .outputs "dropping output"
        [("output", .text status.name), ("reasons", .text status.reasonsText)]]

/-- Reviews outputs from a position on, given the names accepted before it. -/
def reviewOutputsFrom (owned : Ownership) (lookup : SecretLookup) :
    List String → Nat → List Output → OutputReviews
  | _, _, [] => {}
  | accepted, position, output :: rest =>
    let checked := output.evaluate owned lookup accepted position
    match checked.value with
    | .error failure => { failure? := some failure, journal := checked.journal }
    | .ok status =>
      let accepted := if status.isAccepted then output.name :: accepted else accepted
      (reviewOutputsFrom owned lookup accepted (position + 1) rest).cons { output, status }
        (checked.journal ++ status.outputJournal)

/-- Reviews a list of outputs. -/
def reviewOutputs (outputs : List Output) (owned : Ownership) (lookup : SecretLookup) :
    OutputReviews :=
  reviewOutputsFrom owned lookup [] 0 outputs

end LogForwarding
