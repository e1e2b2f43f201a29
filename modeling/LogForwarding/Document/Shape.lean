import LogForwarding.Document.Basic
import LogForwarding.Text.Quoted

/-!
# The shape of a document

A document has the shape of a type if its parts are of the kinds that the type's fields
ask for. This module reads scalars, lists, options, choices and records from documents.
A record is read field by field in the order of the document's entries, entries under
other names are passed over, and the first part of the wrong shape is reported as a
`ShapeError`. JSON and YAML differ in what they allow; `Dialect` says which rules hold.
-/

namespace LogForwarding

/-- Which rules hold for a document. -/
inductive Dialect where
  /-- A record may also be written as the list of its fields. -/
  | json
  /-- An absent list, map or record counts as an empty one. -/
  | yaml
  /-- A record may be written as a list that starts with its fields. -/
  | toml
  deriving DecidableEq, Repr

namespace Dialect

/-- Whether a record may be written as the list of its fields. -/
def recordsAsLists : Dialect → Bool
  | json => true
  | yaml => false
  | toml => true

/-- Whether such a list may go on after the fields. -/
def ignoresFurtherItems : Dialect → Bool
  | json => false
  | yaml => false
  | toml => true

/-- Whether the absent value stands for an empty list, map or record. -/
def nullAsEmpty : Dialect → Bool
  | json => false
  | yaml => true
  | toml => false

/-- What the absent value is called. -/
def nullText : Dialect → String
  | json => "null"
  | yaml => "unit value"
  | toml => "null"

/-- How numbers are written in messages. -/
def floats : Dialect → FloatFormat
  | json => .scientific
  | yaml => .plain
  | toml => .scientific

end Dialect

/-- What stands where something else was asked for. -/
inductive Found where
  /-- The absent value. -/
  | null
  /-- A truth value. -/
  | bool (value : Bool)
  /-- A whole number. -/
  | integer (value : Int)
  /-- Any other number. -/
  | float (value : Binary64)
  /-- A text. -/
  | text (value : String)
  /-- A list. -/
  | list
  /-- A map. -/
  | map
  deriving DecidableEq, Repr, Inhabited

/-- What a document is, without its tags and its parts. -/
def Document.found : Document → Found
  | .null => .null
  | .bool value => .bool value
  | .integer value => .integer value
  | .float value => .float value
  | .text value => .text value
  | .list _ => .list
  | .map _ => .map
  | .tagged _ value => value.found

namespace Found

/-- How a message names a value. -/
def describe (dialect : Dialect) : Found → String
  | null => dialect.nullText
  | bool value => s!"boolean `{value}`"
  | integer value => s!"integer `{value}`"
  | float value => s!"floating point `{dialect.floats.text value}`"
  | text value => s!"string {Text.quoted value}"
  | list => "sequence"
  | map => "map"

end Found

/-- Why a document does not have a shape. -/
inductive ShapeError where
  /-- Something else was asked for. -/
  | unexpected (found : Found) (wanted : String)
  /-- A field has to be there. -/
  | missingField (name : String)
  /-- A field is there twice. -/
  | duplicateField (name : String)
  /-- A choice is none of those allowed. -/
  | unknownVariant (name : String) (allowed : List String)
  /-- A choice is written as a map that does not have exactly one key. -/
  | ambiguousVariant
  /-- A list that stands for a record has too few or too many items. -/
  | wrongLength (length : Nat) (wanted : String)
  deriving DecidableEq, Repr, Inhabited

namespace ShapeError

/-- The text of an error. -/
def message (dialect : Dialect) : ShapeError → String
  | unexpected found wanted => s!"invalid type: {found.describe dialect}, expected {wanted}"
  | missingField name => s!"missing field `{name}`"
  | duplicateField name => s!"duplicate field `{name}`"
  | unknownVariant name allowed =>
    s!"unknown variant `{name}`, expected one of "
      ++ ", ".intercalate (allowed.map fun choice => s!"`{choice}`")
  | ambiguousVariant => "invalid value: map, expected map with a single key"
  | wrongLength length wanted => s!"invalid length {length}, expected {wanted}"

end ShapeError

/-- A way to read a value from a document. -/
abbrev Reader (α : Type) : Type := Document → Except ShapeError α

namespace Reader

/-- The error that a document is not what was asked for. -/
def refuse {α : Type} (document : Document) (wanted : String) : Except ShapeError α :=
  .error (.unexpected document.found wanted)

/-- Reads a text. -/
def text : Reader String := fun document =>
  match document.untag with
  | .text value => .ok value
  | other => refuse other "a string"

/-- Reads a truth value. -/
def bool : Reader Bool := fun document =>
  match document.untag with
  | .bool value => .ok value
  | other => refuse other "a boolean"

/-- Reads a list, item by item. -/
def list {α : Type} (dialect : Dialect) (item : Reader α) : Reader (List α) := fun document =>
  match document.untag with
  | .list items => items.mapM item
  | .null => if dialect.nullAsEmpty then .ok [] else refuse .null "a sequence"
  | other => refuse other "a sequence"

/-- Reads a value that may be absent. -/
def option {α : Type} (value : Reader α) : Reader (Option α) := fun document =>
  match document with
  | .null => .ok none
  | other => some <$> value other

/-- Reads the entries of a map from texts to texts. -/
def textEntries (dialect : Dialect) : Reader (List (String × String)) := fun document =>
  match document.untag with
  | .map entries => entries.mapM fun (key, value) => return (← text key, ← text value)
  | .null => if dialect.nullAsEmpty then .ok [] else refuse .null "a map"
  | other => refuse other "a map"

/-- Reads a choice by its name. -/
def variantName {α : Type} (choices : List (String × α)) (name : String) :
    Except ShapeError α :=
  match choices.lookup name with
  | some choice => .ok choice
  | none => .error (.unknownVariant name (choices.map (·.1)))

/-- Reads what a choice holds, which is nothing. -/
def nothing (dialect : Dialect) : Reader Unit := fun document =>
  match dialect, document.untag with
  | .json, .null => .ok ()
  | .yaml, .null => .ok ()
  | .toml, .list [] => .ok ()
  | .toml, .map [] => .ok ()
  | _, other => refuse other "unit"

/-- Reads a choice: its name, or a map from its name to nothing. -/
def variant {α : Type} (dialect : Dialect) (choices : List (String × α)) : Reader α :=
  fun document =>
  match document.untag with
  | .text name => variantName choices name
  | .map [(key, content)] => do
    let choice ← variantName choices (← text key)
    nothing dialect content
    return choice
  | .map _ => .error .ambiguousVariant
  | other => refuse other "string or map"

end Reader

/-- A field of a record of type `ρ`. -/
structure Field (ρ : Type) where
  /-- The field's name. -/
  name : String
  /-- Another name for the same field. -/
  otherName : Option String := none
  /-- Whether the field has to be there. -/
  required : Bool := false
  /-- Reads the field's value and puts it into a record. -/
  read : Document → ρ → Except ShapeError ρ

namespace Field

/-- A field that reads a value and stores it. -/
def of {ρ α : Type} (name : String) (reader : Reader α) (set : ρ → α → ρ) : Field ρ :=
  { name, read := fun document record => set record <$> reader document }

/-- Whether a name is one of the field's. -/
def isNamed {ρ : Type} (field : Field ρ) (name : String) : Bool :=
  field.name == name || field.otherName == some name

end Field

namespace Reader

/-- Reads the name of a field. -/
def fieldName : Reader String := fun document =>
  match document.untag with
  | .text value => .ok value
  | other => refuse other "field identifier"

/-- Reads entries into a record; `seen` holds the names of the fields already read. -/
def recordEntries {ρ : Type} (fields : List (Field ρ)) :
    List (Document × Document) → List String → ρ → Except ShapeError (List String × ρ)
  | [], seen, record => .ok (seen, record)
  | (key, value) :: rest, seen, record => do
    let name ← fieldName key
    match fields.find? (·.isNamed name) with
    | none => recordEntries fields rest seen record
    | some field =>
      if field.name ∈ seen then .error (.duplicateField field.name)
      else recordEntries fields rest (field.name :: seen) (← field.read value record)

/-- Reads the items of a list into the fields of a record in their order. -/
def recordItems {ρ : Type} (dialect : Dialect) (name : String) (count : Nat) :
    List (Field ρ) → List Document → Nat → ρ → Except ShapeError ρ
  | [], [], _, record => .ok record
  | [], rest, position, record =>
    if dialect.ignoresFurtherItems then .ok record
    else .error (.wrongLength (position + rest.length) "fewer elements in array")
  | field :: fields, [], position, record =>
    if field.required then .error (.wrongLength position s!"struct {name} with {count} elements")
    else recordItems dialect name count fields [] position record
  | field :: fields, item :: rest, position, record => do
    recordItems dialect name count fields rest (position + 1) (← field.read item record)

/-- Reads a record from entries: all fields that are there, then none may be missing. -/
def recordOfEntries {ρ : Type} (fields : List (Field ρ)) (empty : ρ)
    (entries : List (Document × Document)) : Except ShapeError ρ := do
  let (seen, record) ← recordEntries fields entries [] empty
  match fields.find? fun field => field.required && field.name ∉ seen with
  | some field => .error (.missingField field.name)
  | none => .ok record

/-- Reads a record with the given name and fields, starting from an empty one. -/
def record {ρ : Type} (dialect : Dialect) (name : String) (fields : List (Field ρ))
    (empty : ρ) : Reader ρ := fun document =>
  match document.untag with
  | .map entries => recordOfEntries fields empty entries
  | .list items =>
    if dialect.recordsAsLists then recordItems dialect name fields.length fields items 0 empty
    else refuse (.list items) s!"struct {name}"
  | .null =>
    if dialect.nullAsEmpty then recordOfEntries fields empty []
    else refuse .null s!"struct {name}"
  | other => refuse other s!"struct {name}"

end Reader

end LogForwarding
