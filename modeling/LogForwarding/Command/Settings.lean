import LogForwarding.Command.Error
import LogForwarding.Settings.File

/-!
# Settings of a command

A command reads its settings from a file that it is told of, or else from the usual
file. That file may be missing; then the usual settings hold, over which the environment
takes precedence all the same.
-/

namespace LogForwarding.Settings

/-- The path of the usual settings file. -/
def usualPath : String := "logfwd.toml"

/-- What an observer sees when there is no usual file. -/
def missingFile (path : String) : Journal :=
  [.tell .warn .commands "configuration file not found, using defaults" [("path", .text path)]]

/-- Reads a settings file for a command. -/
def loadFile (files : Files) (environment : Environment) (path : String) :
    Traced (Except CommandError Settings) := do
  let loaded ← load files environment path
  return loaded.mapError .service

/-- The settings of a command without a file. -/
def usual (environment : Environment) (path : String) : Traced (Except CommandError Settings) := do
  Traced.note (missingFile path)
  let settings ← finished {} environment
  return settings.mapError .service

/-- Reads the settings of a command. -/
def loadOrUsual (files : Files) (environment : Environment) (path : String) :
    Traced (Except CommandError Settings) :=
  if Path.same path usualPath then
    match files.metadata path with
    | .error .notFound => usual environment path
    | .error error => ⟨[], .error (.inputOutput error.message)⟩
    | .ok _ => loadFile files environment path
  else loadFile files environment path

end LogForwarding.Settings
