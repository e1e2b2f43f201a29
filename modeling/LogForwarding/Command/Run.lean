import LogForwarding.Command.Arguments
import LogForwarding.Log.Filter
import LogForwarding.Log.Line
import LogForwarding.Toml.Writer

/-!
# Running a command

A run reads the settings, then the command does its work, writes a report and ends well
or in an error. The log begins once the settings are read, since they say how to log. A
command about settings reads them again by itself, so that it can tell what is wrong.
-/

namespace LogForwarding

/-- How a command ended. -/
structure Outcome where
  /-- The report, if there is one. -/
  output : String := ""
  /-- The error that the command ended in. -/
  error : Option CommandError := none
  deriving Repr, Inhabited

/-- What a command finds around it. -/
structure Surroundings where
  /-- The file system. -/
  files : Files
  /-- The variables of the environment. -/
  environment : Environment
  /-- Whether reports are coloured. -/
  coloured : Bool := false

namespace Surroundings

/-- Whether reports are coloured. One variable of the environment asks for colours,
others ask for none; by themselves only reports on a terminal are coloured. -/
def wantsColours (environment : Environment) (isTerminal : Bool) : Bool :=
  let isOn (name : String) := (environment.get? name).map (· != "0")
  if isOn "CLICOLOR_FORCE" = some true then true
  else if (isOn "NO_COLOR").isSome then false
  else (isOn "CLICOLOR").getD true && isTerminal

/-- The variables that a run of the program depends on. -/
def variableNames : List String :=
  [Settings.storeKindVariable, LogFilter.variableName, "CLICOLOR", "CLICOLOR_FORCE", "NO_COLOR"]
    ++ Settings.textOverrides.map fun change => Settings.variableStart ++ change.key

end Surroundings

/-- The error about a specification that is not accepted as a whole. -/
def CommandError.ofSummary (summary : Summary) : CommandError :=
  .rejected (s!"{summary.outputsDropped} outputs dropped, "
    ++ s!"{summary.pipelinesDegraded} pipelines degraded, "
    ++ s!"{summary.pipelinesDropped} pipelines dropped")

/-- Settings, or one section of them, as a settings file has them. -/
def Settings.show (settings : Settings) (part : Option String) : Except CommandError String :=
  match part with
  | none => .ok (Toml.write settings.toDocument)
  | some name =>
    match settings.sections.lookup name with
    | some document => .ok (Toml.write document)
    | none =>
      let names := ", ".intercalate (settings.sections.map (·.1))
      .error (.request s!"unknown section: {name} (expected: {names})")

namespace Invocation

/-- The outcome of a command that ends in a report. The report is taken to be written: output that
is refused, such as by a closed pipe, is not among the errors here. -/
def reported (invocation : Invocation) (surroundings : Surroundings) (report : Report)
    (error : Option CommandError := none) : Outcome where
  output := report.write invocation.format surroundings.coloured
  error

/-- Normalizes a specification for a command with the settings it was given. -/
def normalized (surroundings : Surroundings) (settings : Except CommandError Settings)
    (spec : String) (options : StoreOptions) : Traced (Except CommandError Normalized) :=
  match settings with
  | .error error => ⟨[], .error error⟩
  | .ok settings => Spec.normalizeFile surroundings.files settings options spec

/-- Normalizes a specification and shows the result. -/
def normalize (invocation : Invocation) (surroundings : Surroundings)
    (settings : Except CommandError Settings) (spec : String) (options : StoreOptions) :
    Traced Outcome := do
  match ← normalized surroundings settings spec options with
  | .error error => return { error }
  | .ok result => return invocation.reported surroundings (.normalized spec result)

/-- Tells what became of the entities of a specification. It is an error if one of them
is not accepted. -/
def validate (invocation : Invocation) (surroundings : Surroundings)
    (settings : Except CommandError Settings) (spec : String) (options : StoreOptions) :
    Traced Outcome := do
  match ← normalized surroundings settings spec options with
  | .error error => return { error }
  | .ok { status, .. } =>
    return invocation.reported surroundings (.validated spec status)
      (if status.isFullyAccepted then none else some (.ofSummary status.summary))

/-- What an observer sees of a command about settings. -/
def settingsJournal (invocation : Invocation) (message : String) : Journal :=
  [.tell .info .settingsCommands message [("path", .text invocation.settingsPath)]]

/-- Tells whether the settings are usable. It is an error if they are not. -/
def checkSettings (invocation : Invocation) (surroundings : Surroundings) : Traced Outcome := do
  Traced.note (invocation.settingsJournal "validating configuration")
  match ← Settings.load surroundings.files surroundings.environment invocation.settingsPath with
  | .ok _ =>
    return invocation.reported surroundings (.settingsCheck invocation.settingsPath true [])
  | .error error =>
    return invocation.reported surroundings
      (.settingsCheck invocation.settingsPath false [error.message])
      (some (.settings "configuration is invalid"))

/-- Shows the settings, or one section of them. -/
def showSettings (invocation : Invocation) (surroundings : Surroundings)
    (part : Option String) : Traced Outcome := do
  Traced.note (invocation.settingsJournal "loading configuration")
  match ← Settings.load surroundings.files surroundings.environment invocation.settingsPath with
  | .error error => return { error := some (.service error) }
  | .ok settings =>
    match settings.show part with
    | .error error => return { error }
    | .ok text =>
      return invocation.reported surroundings (.settings invocation.settingsPath part text)

/-- Does what was asked for. -/
def perform (invocation : Invocation) (surroundings : Surroundings)
    (settings : Except CommandError Settings) : Traced Outcome := do
  Traced.note
    [.tell .debug .program "logfwd starting" [("config", .text invocation.settingsPath)]]
  match invocation.request with
  | .normalize spec options => invocation.normalize surroundings settings spec options
  | .validate spec options => invocation.validate surroundings settings spec options
  | .checkSettings => invocation.checkSettings surroundings
  | .showSettings part => invocation.showSettings surroundings part

end Invocation

/-- What a run of the program leaves behind. -/
structure Run where
  /-- How its command ended. -/
  outcome : Outcome := {}
  /-- What was logged. -/
  log : List Event := []
  /-- How log lines are written. -/
  logFormat : LogFormat := .json
  deriving Repr, Inhabited

namespace Run

/-- The exit code of the program. -/
def exitCode (run : Run) : Nat :=
  match run.outcome.error with
  | none => 0
  | some error => error.exitCode

end Run

namespace Invocation

/-- How a command logs: as its settings say, or else as usual, but for a level among the
arguments. -/
def logSettings (invocation : Invocation) (settings : Except CommandError Settings) :
    LogSettings :=
  let log := match settings with
    | .ok settings => settings.log
    | .error _ => {}
  { log with level := invocation.logLevel.getD log.level }

/-- Runs a command. -/
def run (invocation : Invocation) (surroundings : Surroundings) : Run :=
  let settings := (Settings.loadOrUsual surroundings.files surroundings.environment
    invocation.settingsPath).value
  let log := invocation.logSettings settings
  match LogFormat.ofName? log.format with
  | none =>
    { outcome := { error := some (.request
        s!"unknown log format '{log.format}', expected 'json' or 'pretty'") } }
  | some logFormat =>
    let traced := invocation.perform surroundings settings
    let filter := LogFilter.inEnvironment surroundings.environment log.level
    { outcome := traced.value, log := traced.journal.events.filter filter.allows, logFormat }

/-- The path of the specification that a command reads. -/
def specPath? (invocation : Invocation) : Option String :=
  match invocation.request with
  | .normalize spec _ => some spec
  | .validate spec _ => some spec
  | _ => none

/-- What was said about the log store. -/
def storeOptions (invocation : Invocation) : StoreOptions :=
  match invocation.request with
  | .normalize _ options => options
  | .validate _ options => options
  | _ => {}

/-- The paths of the secrets that a command may look up: those of the outputs of its
specification and that of the collector. -/
def secretPaths (invocation : Invocation) (files : Files) (environment : Environment) :
    List String :=
  let settings := (Settings.loadOrUsual files environment invocation.settingsPath).value
  match settings, invocation.specPath?.map fun path => (Spec.load files path).value with
  | .ok settings, some (.ok spec) =>
    let root := invocation.storeOptions.secretsDirectory.getD settings.secretsDirectory
    let names := settings.operator.collectorSecret
      :: spec.outputs.filterMap fun output => output.secret.map (·.name)
    (names.filter SecretDirectory.isSecretName).map (Path.join root)
  | _, _ => []

end Invocation

end LogForwarding
