import LogForwarding.File.System
import LogForwarding.Journal
import LogForwarding.Secret

/-!
# Secrets in a directory

A directory of secrets holds one directory for each secret, and in it one file for each
entry. Files whose names start with a dot are passed over, and so is everything that is
not a file. A name that could lead out of the directory is the name of no secret.
-/

namespace LogForwarding.SecretDirectory

/-- The greatest size of an entry in bytes. -/
def sizeLimit : Nat := 1024 * 1024

/-- Whether a name can be that of a secret: one segment of a path, and not hidden. -/
def isSecretName (name : String) : Bool :=
  !name.isEmpty && !name.toList.head? == some '.' && !name.toList.contains '/'
    && !name.toList.contains '\\'

/-- What an observer sees of an entry whose name is not text. -/
def skippedEntry (secret : String) : Journal :=
  [.tell .warn .secretDirectory "skipping secret key with non UTF-8 name"
    [("secret", .text secret)]]

/-- The bytes of an entry, if it is a file. -/
def entry (files : Files) (secret path key : String) : Except SecretError (Option ByteArray) :=
  match files.metadata path with
  | .error error => .error (.reading error.message)
  | .ok metadata =>
    if metadata.kind != .file then .ok none
    else if metadata.size > sizeLimit then
      .error (.unavailable secret
        s!"key '{key}' exceeds maximum size ({metadata.size} > {sizeLimit})")
    else
      match files.read path with
      | .error error => .error (.reading error.message)
      | .ok content => .ok (some content)

/-- Reads the entries with the given names into a secret. -/
def entries (files : Files) (directory : String) (secret : Secret) :
    List (Option String) → Traced (Except SecretError Secret)
  | [] => ⟨[], .ok secret⟩
  | none :: rest => do
    Traced.note (skippedEntry secret.name)
    entries files directory secret rest
  | some key :: rest =>
    if key.toList.head? = some '.' then entries files directory secret rest
    else
      match entry files secret.name (Path.join directory key) key with
      | .error error => ⟨[], .error error⟩
      | .ok none => entries files directory secret rest
      | .ok (some content) =>
        entries files directory { secret with data := secret.data.insert key content } rest

/-- Reads the directory of a secret. -/
def readSecret (files : Files) (directory name : String) : Traced (Except SecretError Secret) :=
  match files.names directory with
  | .error error => ⟨[], .error (.reading error.message)⟩
  | .ok names => entries files directory { name } names

/-- Looks a secret up in the directory under a path, and tells what an observer sees. -/
def inspect (files : Files) (root name : String) :
    Traced (Except SecretError (Option Secret)) :=
  if !isSecretName name then
    ⟨[.tell .warn .secretDirectory "invalid secret name, treating as absent"
        [("secret", .text name)]], .ok none⟩
  else
    let directory := Path.join root name
    match files.metadata directory with
    | .error .notFound => ⟨[], .ok none⟩
    | .error error => ⟨[], .error (.unavailable name error.message)⟩
    | .ok metadata =>
      if metadata.kind != .directory then ⟨[], .ok none⟩
      else do
        match ← readSecret files directory name with
        | .error error => return .error error
        | .ok secret =>
          Traced.note [.tell .debug .secretDirectory "loaded secret"
            [("secret", .text name), ("keys", .number secret.data.size)]]
          return .ok (some secret)

/-- Looks secrets up in the directory under a path. -/
def lookup (files : Files) (root : String) : SecretLookup := fun name =>
  (inspect files root name).value

/-- The events of looking a secret up. -/
def lookupEvents (files : Files) (root name : String) : List Event :=
  (inspect files root name).journal.events

end LogForwarding.SecretDirectory
