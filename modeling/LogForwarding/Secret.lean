import LogForwarding.Dictionary

/-!
# Secrets

A secret is a named set of entries with arbitrary bytes. Looking one up by name has
three outcomes: the secret, the answer that there is none, or a failure of the place
where secrets are kept. The last is no statement about the secret and ends whatever
needed it.
-/

namespace LogForwarding

/-- A named set of entries. -/
structure Secret where
  /-- The secret's name. -/
  name : String
  /-- The bytes of each entry. -/
  data : Dictionary ByteArray := .empty
  deriving Inhabited

/-- Why a secret could not be looked up. -/
inductive SecretError where
  /-- The place where secrets are kept does not answer for this name. -/
  | unavailable (name reason : String)
  /-- Reading failed underway. -/
  | reading (reason : String)
  deriving DecidableEq, Repr, Inhabited

namespace SecretError

/-- The text of an error. -/
def message : SecretError → String
  | unavailable name reason => s!"secret backend unavailable for '{name}': {reason}"
  | reading reason => s!"io error: {reason}"

end SecretError

/-- A way to look secrets up by name. -/
abbrev SecretLookup : Type := String → Except SecretError (Option Secret)

/-- Secrets kept in memory, by name. -/
abbrev SecretTable : Type := Dictionary Secret

namespace SecretTable

/-- The table with a secret put in under its own name. -/
def put (table : SecretTable) (secret : Secret) : SecretTable :=
  table.insert secret.name secret

/-- Looking a name up in a table never fails. -/
def lookup (table : SecretTable) : SecretLookup := fun name => .ok (table.get? name)

end SecretTable

end LogForwarding
