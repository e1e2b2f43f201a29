import LogForwarding.Document.Settings
import LogForwarding.File.System
import LogForwarding.Toml.Reader

/-!
# Settings files

Settings are written in TOML. They are checked as they stand in their file, and once
more when the environment has had its say.
-/

namespace LogForwarding.Settings

/-- Reads settings from a text. -/
def ofText (text : String) : Except SettingsError Settings :=
  match Toml.read text with
  | none => .error (.parseFailed "the text is not a TOML document")
  | some document =>
    match reader .toml document with
    | .ok settings => .ok settings
    | .error error => .error (.parseFailed (error.message .toml))

/-- Reads settings from a file, without a look at the environment. -/
def ofFile (files : Files) (path : String) : Except ServiceError Settings :=
  match files.readText path with
  | .error .notFound => .error (.settings (.fileNotFound path))
  | .error error => .error (.inputOutput error.message)
  | .ok text => (ofText text >>= checked).mapError .settings

/-- Settings with the environment's say, checked. -/
def finished (settings : Settings) (environment : Environment) :
    Traced (Except ServiceError Settings) := do
  let settings ← settings.withEnvironment environment
  return settings.checked.mapError .settings

/-- Reads settings from a file, over which the environment takes precedence. -/
def load (files : Files) (environment : Environment) (path : String) :
    Traced (Except ServiceError Settings) :=
  match ofFile files path with
  | .error error => ⟨[], .error error⟩
  | .ok settings => settings.finished environment

end LogForwarding.Settings
