import LogForwarding.Command.Run
import LogForwarding.File.Sighting

/-!
# The program

The program looks at the files that its command needs, runs the command on what it saw,
and writes the log and the report. Everything else is decided by `Invocation.run`.
-/

namespace LogForwarding.Program

/-- The number of an error, whichever sign it is given with. -/
def errorNumber (code : UInt32) : Nat := min code.toNat (0 - code).toNat

/-- The reason for which the system did not answer. -/
def reasonOf : IO.Error → FileError
  | .noFileOrDirectory _ code details => .ofCode (errorNumber code) details
  | .alreadyExists _ code details | .invalidArgument _ code details
  | .permissionDenied _ code details | .resourceExhausted _ code details
  | .inappropriateType _ code details | .noSuchThing _ code details =>
    .ofCode (errorNumber code) details
  | .otherError code details | .resourceBusy code details | .resourceVanished code details
  | .unsupportedOperation code details | .hardwareFault code details
  | .unsatisfiedConstraints code details | .illegalOperation code details
  | .protocolError code details | .timeExpired code details =>
    .ofCode (errorNumber code) details
  | error => .other (toString error)

/-- The answer of the system to a question. -/
def ask {α : Type} (question : IO α) : BaseIO (Except FileError α) := do
  return (← question.toBaseIO).mapError reasonOf

/-- The kind of something under a path. -/
def kindOf : IO.FS.FileType → FileKind
  | .file => .file
  | .dir => .directory
  | _ => .other

/-- Looks at what is under a path, and reads it if it is of a kind that the program would read:
to read from a pipe may mean to wait forever. -/
def look (kinds : List FileKind) (path : String) : IO Sighting := do
  if path.isEmpty then return .failed path .notFound
  if path.contains '\x00' then return .failed path .zeroInPath
  let place := (← IO.currentDir) / path
  match ← ask place.metadata with
  | .error error => return .failed path error
  | .ok found =>
    let kind := kindOf found.type
    let content ← if kind = .directory then pure (.error .isDirectory)
      else if kinds.contains kind then ask (IO.FS.readBinFile place)
      else pure (.error (.other "not a file"))
    let names ← if kind = .directory then ask place.readDir else pure (.error .notDirectory)
    return {
      path, content
      metadata := .ok { kind, size := found.byteSize.toNat }
      names := names.map fun entries => entries.toList.map fun entry => some entry.fileName }

/-- Looks at the files that a command needs. Settings and specifications may come through a pipe,
secrets are in files only. -/
def survey (invocation : Invocation) (environment : Environment) : IO Files := do
  let first ← (invocation.settingsPath :: invocation.specPath?.toList).mapM (look [.file, .other])
  let secrets ← (invocation.secretPaths (.ofSightings first) environment).mapM (look [.file])
  let entries ← (secrets.flatMap fun secret => secret.entryPaths).mapM (look [.file])
  return .ofSightings (first ++ secrets ++ entries)

/-- The environment as far as the program depends on it. -/
def readEnvironment : IO Environment := do
  let values ← Surroundings.variableNames.filterMapM fun name => do
    return (← IO.getEnv name).map fun value => (name, value)
  return .ofList values

/-- Runs a command and writes what it leaves behind. -/
def perform (invocation : Invocation) : IO UInt32 := do
  let environment ← readEnvironment
  let files ← survey invocation environment
  let coloured := Surroundings.wantsColours environment (← (← IO.getStdout).isTty)
  let run := invocation.run { files, environment, coloured }
  for event in run.log do
    IO.eprintln (event.line run.logFormat)
  IO.print run.outcome.output
  if let some error := run.outcome.error then
    IO.eprintln ("error: " ++ error.message)
  return run.exitCode.toUInt32

/-- Runs the program on its arguments and gives its exit code. -/
def run (arguments : List String) : IO UInt32 := do
  match Invocation.ofArguments arguments with
  | .ok invocation => perform invocation
  | .error error =>
    if error.exitCode = 0 then IO.println error.message else IO.eprintln error.message
    return error.exitCode.toUInt32

end LogForwarding.Program

/-- The program. -/
def main (arguments : List String) : IO UInt32 := LogForwarding.Program.run arguments
