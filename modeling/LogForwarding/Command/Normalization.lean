import LogForwarding.Command.Error
import LogForwarding.Normalization
import LogForwarding.Secret.Directory
import LogForwarding.Settings
import LogForwarding.Spec.File

/-!
# Normalizing a file

A command normalizes a specification file for the log store of its settings, with the
secrets in a directory. The command line may say otherwise about the kind and the name of
the store and about the directory.
-/

namespace LogForwarding

/-- What a command line says about the log store and the secrets. -/
structure StoreOptions where
  /-- The kind of log store, as it was typed. -/
  store : Option String := none
  /-- The name of the log store. -/
  storeName : Option String := none
  /-- The directory of secrets. -/
  secretsDirectory : Option String := none
  deriving DecidableEq, Repr, Inhabited

namespace StoreOptions

/-- The error of a word that is no kind of log store. -/
def unknownStore (typed : String) : CommandError :=
  .request s!"unknown log store type: {typed} (expected: none, elasticsearch, lokistack)"

/-- The kind of log store, if the command line names one. -/
def kind (options : StoreOptions) (usual : StoreKind) : Except CommandError StoreKind :=
  match options.store with
  | none => .ok usual
  | some typed =>
    match StoreKind.ofTyped? typed with
    | some kind => .ok kind
    | none => .error (unknownStore typed)

/-- The log store of a command, if there is one. -/
def resolve (options : StoreOptions) (settings : Settings) :
    Except CommandError (Option Store) := do
  let kind ← options.kind settings.store.kind
  let name := options.storeName.getD settings.store.name
  return { settings with store := { settings.store with kind, name } }.store?

end StoreOptions

namespace Spec

/-- What an observer sees when a specification file is about to be normalized. -/
def startJournal (path : String) (store : Option Store) (secrets : String) : Journal :=
  [.tell .info .commands "normalizing forwarding spec"
    [("spec", .text path), ("store", .text (Store.kindOf store).name),
      ("secrets_dir", .text secrets)]]

/-- Normalizes a specification with the secrets in a directory. -/
def normalizeWith (spec : Spec) (files : Files) (store : Option Store) (secrets : String)
    (operator : Operator) : Traced (Except ForwardingError Normalized) :=
  let traced := spec.normalize store (SecretDirectory.lookup files secrets) operator
  { traced with
    journal := traced.journal.withLookupEvents (SecretDirectory.lookupEvents files secrets) }

/-- Normalizes a specification file. -/
def normalizeFile (files : Files) (settings : Settings) (options : StoreOptions)
    (path : String) : Traced (Except CommandError Normalized) := do
  match ← load files path with
  | .error error => return .error (.forwarding error)
  | .ok spec =>
    match options.resolve settings, settings.operator.checked with
    | .error error, _ => return .error error
    | .ok _, .error error => return .error (.forwarding error)
    | .ok store, .ok operator =>
      let secrets := options.secretsDirectory.getD settings.secretsDirectory
      Traced.note (startJournal path store secrets)
      let normalized ← spec.normalizeWith files store secrets operator
      return normalized.mapError .forwarding

end Spec

end LogForwarding
