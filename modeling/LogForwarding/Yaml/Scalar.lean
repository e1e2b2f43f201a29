import LogForwarding.Yaml.Node
import LogForwarding.Document.Basic

/-!
# What a text in YAML stands for

A text without quotes may stand for the absent value, a truth value or a number; any
other text stands for itself. A standard tag says what a text has to stand for, any other
full tag makes it a text. A tag of the document's own is kept.
-/

namespace LogForwarding.Yaml

/-- Whether a text stands for the absent value. -/
def isNullText (text : String) : Bool :=
  ["null", "Null", "NULL", "~"].contains text

/-- The truth value that a text stands for. -/
def boolOf? (text : String) : Option Bool :=
  if ["true", "True", "TRUE"].contains text then some true
  else if ["false", "False", "FALSE"].contains text then some false
  else none

/-- Whether a text looks like a whole number, but starts with a zero that does not
count. Such a text stands for itself. -/
def hasIdleZero (text : List Char) : Bool :=
  let digits := match text with
    | '-' :: rest => rest
    | '+' :: rest => rest
    | rest => rest
  match digits with
  | '0' :: rest => !rest.isEmpty && rest.all Number.isDigit
  | _ => false

/-- The whole number that digits stand for, with what says their base in front. -/
def naturalOf? : List Char → Option Nat
  | '0' :: 'x' :: rest => Number.natural? 16 rest
  | '0' :: 'o' :: rest => Number.natural? 8 rest
  | '0' :: 'b' :: rest => Number.natural? 2 rest
  | text => if hasIdleZero text then none else Number.natural? 10 text

/-- The whole number that a text stands for. It has to fit into 128 bits. -/
def integerOf? (text : List Char) : Option Int :=
  match text with
  | '-' :: rest => ((naturalOf? rest).filter (· ≤ Nat.pow 2 127)).map fun n => -(n : Int)
  | '+' :: rest => ((naturalOf? rest).filter (· < Nat.pow 2 128)).map (·)
  | rest => ((naturalOf? rest).filter (· < Nat.pow 2 128)).map (·)

/-- Whether a whole number fits into 64 bits. -/
def fits (n : Int) : Bool := -(Nat.pow 2 63 : Int) ≤ n && n < (Nat.pow 2 64 : Int)

/-- The number that a text without a plus sign stands for. It has to be finite unless it
is written with a name. -/
def unsignedFloatOf? (text : List Char) : Option Binary64 :=
  match String.ofList text with
  | ".inf" | ".Inf" | ".INF" => some (.infinity false)
  | _ =>
    let (negative, digits) := match text with
      | '-' :: rest => (true, rest)
      | rest => (false, rest)
    (Number.decimal? negative digits).filter (·.isFinite)

/-- The number that a text stands for. -/
def floatOf? (text : List Char) : Option Binary64 :=
  match String.ofList text with
  | "-.inf" | "-.Inf" | "-.INF" => some (.infinity true)
  | ".nan" | ".NaN" | ".NAN" => some .notANumber
  | _ =>
    match text with
    | '+' :: c :: rest => if c = '+' || c = '-' then none else unsignedFloatOf? (c :: rest)
    | text => unsignedFloatOf? text

/-- What a text without quotes stands for. A whole number of more than 64 bits stands for
nothing. -/
def plainValue? (text : String) : Option Document :=
  if text.isEmpty || isNullText text then some .null
  else
    match boolOf? text with
    | some value => some (.bool value)
    | none =>
      let characters := text.toList
      match integerOf? characters with
      | some n => if fits n then some (.integer n) else none
      | none =>
        if hasIdleZero characters then some (.text text)
        else
          match floatOf? characters with
          | some value => some (.float value)
          | none => some (.text text)

/-- A standard tag. -/
def standardTag (name : String) : List UInt8 := bytes "tag:yaml.org,2002:" ++ bytes name

/-- What a text with a full tag stands for. -/
def taggedValue? (tag : List UInt8) (text : String) : Option Document :=
  let characters := text.toList
  if tag = standardTag "bool" then (boolOf? text).map .bool
  else if tag = standardTag "int" then ((integerOf? characters).filter fits).map .integer
  else if tag = standardTag "float" then (floatOf? characters).map .float
  else if tag = standardTag "null" then if isNullText text then some .null else none
  else some (.text text)

/-- The name of a tag of the document's own, which starts with an exclamation mark. -/
def localTag? : List UInt8 → Option String
  | first :: rest =>
    if first = 0x21 then
      String.fromUTF8? (ByteArray.mk (if rest.isEmpty then [first] else rest).toArray)
    else none
  | [] => none

/-- What a text stands for, whose tag is of the document's own or missing. -/
def untaggedValue? (text : String) (isPlain : Bool) : Option Document :=
  if isPlain then plainValue? text else some (.text text)

/-- What a text stands for. -/
def scalarValue? (properties : Properties) (text : String) (isPlain : Bool) : Option Document :=
  match properties.tag with
  | none => untaggedValue? text isPlain
  | some tag =>
    if tag.head? = some 0x21 then untaggedValue? text isPlain else taggedValue? tag text

/-- A value with the tag of its node, if that is one of the document's own. -/
def withTag (properties : Properties) (value : Document) : Document :=
  match properties.tag.bind localTag? with
  | some tag => .tagged tag value
  | none => value

end LogForwarding.Yaml
