import LogForwarding.Document.Status
import LogForwarding.Json.Writer
import LogForwarding.Normalization
import LogForwarding.Text.Colour
import LogForwarding.Yaml.Writer

/-!
# Reports

A command tells its user what it found in a report. A report is written as text for a
reader, with or without colours, or as a JSON document for a program.
-/

namespace LogForwarding

/-- The ways to write a report. -/
inductive ReportFormat where
  /-- For a reader. -/
  | text
  /-- For a program. -/
  | json
  deriving DecidableEq, Repr, Inhabited

/-- The format with a name. -/
def ReportFormat.ofName? : String → Option ReportFormat
  | "text" => some .text
  | "json" => some .json
  | _ => none

/-- What a command tells its user. -/
inductive Report where
  /-- A normalized specification. -/
  | normalized (source : String) (normalized : Normalized)
  /-- What became of the entities of a specification. -/
  | validated (source : String) (status : Status)
  /-- The settings in use, or one section of them, as a settings file has them. -/
  | settings (source : String) (part : Option String) (text : String)
  /-- Whether settings are usable, and what is wrong with them. -/
  | settingsCheck (source : String) (usable : Bool) (errors : List String)
  deriving Repr

namespace Report

open Text (Emphasis padded)

/-- A line of a report. -/
def line (text : String) : String := text ++ "\n"

/-- How a state stands out. -/
def emphasisOf : State → Emphasis
  | .accepted => .green
  | .degraded => .yellow
  | .dropped => .red

/-- The width of the column of names. -/
def nameWidth : Nat := 32

/-- The width of the column of states. -/
def stateWidth : Nat := 10

/-- The lines about one entity. -/
def entityText (coloured : Bool) (entity : EntityStatus) : String :=
  line (padded nameWidth entity.name ++ " "
      ++ (emphasisOf entity.state).apply coloured (padded stateWidth entity.state.name))
    ++ String.join (entity.conditions.map fun condition =>
      line ("    " ++ condition.aspect.label ++ "/" ++ condition.reason.label ++ ": "
        ++ condition.message))

/-- A table of entities under a title. -/
def tableText (coloured : Bool) (title : String) (entities : List EntityStatus) : String :=
  line "" ++ line (padded nameWidth title ++ " " ++ padded stateWidth "STATE")
    ++ line (String.ofList (List.replicate (nameWidth + 1 + stateWidth) '-'))
    ++ String.join (entities.map (entityText coloured))

/-- The text of a status: a summary and two tables. -/
def statusText (coloured : Bool) (status : Status) : String :=
  let summary := status.summary
  let sources := ", ".intercalate (status.logSources.toList.map fun kind => kind.name)
  line s!"  Outputs:   {summary.outputsAccepted} accepted, {summary.outputsDropped} dropped"
    ++ line (s!"  Pipelines: {summary.pipelinesAccepted} accepted, "
      ++ s!"{summary.pipelinesDegraded} degraded, {summary.pipelinesDropped} dropped")
    ++ line ("  Log sources: " ++ sources)
    ++ tableText coloured "OUTPUT" status.outputs
    ++ tableText coloured "PIPELINE" status.pipelines

/-- The line that gives a verdict. -/
def verdictText (coloured good : Bool) : String :=
  line ("  Result: "
    ++ if good then Emphasis.boldGreen.apply coloured "VALID"
      else Emphasis.boldRed.apply coloured "INVALID")

/-- A report for a reader. -/
def text (coloured : Bool) : Report → String
  | normalized source result =>
    line ("Normalized: " ++ Emphasis.bold.apply coloured source)
      ++ statusText coloured result.status
      ++ line "" ++ line (Emphasis.bold.apply coloured "Normalized spec:")
      ++ Yaml.write result.spec.toDocument
  | validated source status =>
    line ("Spec Validation: " ++ Emphasis.bold.apply coloured source)
      ++ verdictText coloured status.isFullyAccepted ++ statusText coloured status
  | settings source none text =>
    line ("Configuration (source: " ++ Emphasis.bold.apply coloured source ++ ")")
      ++ line "" ++ text
  | settings source (some part) text =>
    line ("Configuration " ++ Emphasis.bold.apply coloured ("[" ++ part ++ "]") ++ " (source: "
        ++ source ++ ")")
      ++ line "" ++ text
  | settingsCheck source usable errors =>
    line ("Config Validation: " ++ Emphasis.bold.apply coloured source)
      ++ verdictText coloured usable
      ++ if usable then ""
        else String.join (errors.map fun error =>
          line ("  Error: " ++ Emphasis.red.apply coloured error))

/-- A report for a program. It does not repeat settings. -/
def toDocument : Report → Document
  | normalized source result =>
    .record [("source", .text source), ("summary", result.status.summary.toDocument),
      ("status", result.status.toDocument), ("spec", result.spec.toDocument)]
  | validated source status =>
    .record [("source", .text source), ("valid", .bool status.isFullyAccepted),
      ("summary", status.summary.toDocument), ("status", status.toDocument)]
  | settings source part _ =>
    .record ([("source", .text source)] ++ Document.optionalEntry "section" .text part)
  | settingsCheck source usable errors =>
    .record [("source", .text source), ("valid", .bool usable), ("errors", .texts errors)]

/-- A report in one of its formats. -/
def write (report : Report) (format : ReportFormat) (coloured : Bool) : String :=
  match format with
  | .text => report.text coloured
  | .json => line (Json.pretty "" report.toDocument)

end Report

end LogForwarding
