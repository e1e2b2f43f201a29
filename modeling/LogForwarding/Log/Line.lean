import LogForwarding.Journal
import LogForwarding.Json.Writer

/-!
# Log lines

An event takes one line in the log, either as a JSON document for a program or as text
for a reader. The fields of the event follow its message.
-/

namespace LogForwarding

/-- The ways to write log lines. -/
inductive LogFormat where
  /-- For a program. -/
  | json
  /-- For a reader. -/
  | pretty
  deriving DecidableEq, Repr, Inhabited

/-- The format with a name. -/
def LogFormat.ofName? : String → Option LogFormat
  | "json" => some .json
  | "pretty" => some .pretty
  | _ => none

/-- The document of a field's value. -/
def FieldValue.toDocument : FieldValue → Document
  | text value => .text value
  | number value => .integer value

/-- The text of a field's value. -/
def FieldValue.toText : FieldValue → String
  | text value => value
  | number value => toString value

namespace Event

/-- The document of an event. -/
def toDocument (event : Event) : Document :=
  .record [("level", .text event.level.name),
    ("fields", .record (("message", .text event.message)
      :: event.fields.map fun (name, value) => (name, value.toDocument))),
    ("target", .text event.component.target)]

/-- The text of an event. -/
def toText (event : Event) : String :=
  let fields := event.fields.map fun (name, value) => s!"{name}: {value.toText}"
  s!"  {event.level.name} {event.component.target}: "
    ++ ", ".intercalate (event.message :: fields)

/-- The log line of an event. -/
def line (event : Event) : LogFormat → String
  | .json => Json.compact event.toDocument
  | .pretty => event.toText

end Event

end LogForwarding
