import LogForwarding.Document.Spec
import LogForwarding.Error
import LogForwarding.File.Path
import LogForwarding.Json.Reader
import LogForwarding.Text.Blank
import LogForwarding.Yaml.Reader

/-!
# The text of a specification

A specification is written in YAML or in JSON. It is either the whole document, or the
value under the key `spec`, as in a resource manifest. A blank text and an absent value
are the empty specification.
-/

namespace LogForwarding

/-- How a specification is written. -/
inductive SpecFormat where
  /-- As YAML. -/
  | yaml
  /-- As JSON. -/
  | json
  deriving DecidableEq, Repr, Inhabited

namespace SpecFormat

/-- The name of a format in a message. -/
def name : SpecFormat → String
  | yaml => "YAML"
  | json => "JSON"

/-- The rules that hold for documents of a format. -/
def dialect : SpecFormat → Dialect
  | yaml => .yaml
  | json => .json

/-- The document of a text. -/
def read? : SpecFormat → String → Option Document
  | yaml => Yaml.read
  | json => Json.read

/-- The format of a file: JSON if its name ends in `.json`, in any case, else YAML. -/
def ofPath (path : String) : SpecFormat :=
  if (Path.extension? path).map (·.map Char.toLower) = some "json" then json else yaml

end SpecFormat

namespace Spec

/-- The key under which a manifest holds its specification. -/
def wrapperKey : String := "spec"

/-- Reads the specification that a document holds. -/
def ofDocument (dialect : Dialect) (document : Document) : Except ShapeError Spec :=
  let inner := (document.get? wrapperKey).getD document
  if inner.isNull then .ok {} else reader dialect inner

/-- Reads the specification that a text holds. The name of its source goes into errors. -/
def ofText (format : SpecFormat) (source text : String) : Except ForwardingError Spec :=
  if text.all Text.isBlank then .ok {}
  else
    match format.read? text with
    | none => .error (.specLoad source s!"invalid {format.name}: the text is not one document")
    | some document =>
      match ofDocument format.dialect document with
      | .ok spec => .ok spec
      | .error error =>
        .error (.specLoad source s!"invalid spec: {error.message format.dialect}")

end Spec

end LogForwarding
