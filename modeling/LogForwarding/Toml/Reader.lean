import LogForwarding.Toml.Quoted
import LogForwarding.Toml.Scalar
import LogForwarding.Toml.Table

/-!
# Reading TOML

`Toml.read` reads a text into the document that it holds. A date or a time becomes a map
with the one key `datetime`, so that it is not taken for a text. Lists and tables in
brackets may be nested 80 deep, and line breaks, comments and a comma at the end are
allowed in both.
-/

namespace LogForwarding.Toml

/-- The deepest nesting of brackets. -/
def depthLimit : Nat := 80

/-- The document of a scalar. -/
def Scalar.toDocument : Scalar → Document
  | bool value => .bool value
  | integer value => .integer value
  | float value => .float value
  | moment text => .record [("datetime", .text text)]

/-- What follows the blanks at the start of a text. -/
def skipBlank (text : List Char) : List Char := text.dropWhile isBlank

/-- What follows a comment at the start of a text, if there is one. -/
def skipComment : List Char → List Char
  | '#' :: rest => rest.dropWhile isPrintable
  | text => text

/-- What follows the rest of a line, which holds at most blanks and a comment. -/
def endLine? (text : List Char) : Option (List Char) :=
  match skipComment (skipBlank text) with
  | [] => some []
  | rest => afterBreak? rest

/-- What follows blanks, comments and line breaks. -/
def skipLines : Nat → List Char → List Char
  | 0, text => text
  | fuel + 1, text =>
    let text := skipComment (skipBlank text)
    match afterBreak? text with
    | some rest => skipLines fuel rest
    | none => text

/-- Whether a character may stand in a key without quotes. -/
def isKeyChar (c : Char) : Bool := c.isAlphanum || c = '-' || c = '_'

/-- A key without dots, and what follows it. -/
def simpleKey? (fuel : Nat) (text : List Char) : Option (String × List Char) :=
  let bare := text.takeWhile isKeyChar
  if bare.isEmpty then line? fuel text else some (String.ofList bare, text.drop bare.length)

/-- A key with dots between its parts, and what follows it and the blanks behind it. -/
def key? : Nat → List Char → Option (List String × List Char)
  | 0, _ => none
  | fuel + 1, text => do
    let (first, rest) ← simpleKey? (fuel + 1) (skipBlank text)
    match skipBlank rest with
    | '.' :: rest =>
      let (more, rest) ← key? fuel rest
      return (first :: more, rest)
    | rest => return ([first], rest)

/-- What follows the sign between a key and its value. -/
def afterEquals? : List Char → Option (List Char)
  | '=' :: rest => some (skipBlank rest)
  | _ => none

mutual

/-- A value at the start of a text, and what follows it. The depth says how many more
levels of brackets are allowed. -/
def value? (fuel depth : Nat) (text : List Char) : Option (Document × List Char) :=
  match fuel, text with
  | 0, _ => none
  | fuel + 1, '[' :: rest =>
    match depth with
    | 0 => none
    | depth + 1 => (items? fuel depth (skipLines fuel rest) []).map fun (items, rest) =>
      (.list items, rest)
  | fuel + 1, '\x7b' :: rest =>
    match depth with
    | 0 => none
    | depth + 1 => (entries? fuel depth (skipLines fuel rest) .root).map fun (table, rest) =>
      (table.toDocument, rest)
  | fuel + 1, c :: rest =>
    if c = '"' || c = '\'' then
      (quoted? (fuel + 1) (c :: rest)).map fun (text, rest) => (.text text, rest)
    else
      let (written, rest) := Scalar.take (c :: rest)
      (Scalar.ofText? written).map fun scalar => (scalar.toDocument, rest)
  | _, [] => none

/-- The items of a list up to its end, onto the ones read so far in reverse. -/
def items? (fuel depth : Nat) (text : List Char) (seen : List Document) :
    Option (List Document × List Char) :=
  match fuel, text with
  | 0, _ => none
  | _, ']' :: rest => some (seen.reverse, rest)
  | fuel + 1, text =>
    match value? fuel depth text with
    | none => none
    | some (item, rest) =>
      match skipLines fuel rest with
      | ',' :: rest => items? fuel depth (skipLines fuel rest) (item :: seen)
      | ']' :: rest => some ((item :: seen).reverse, rest)
      | _ => none

/-- The entries of a table in brackets up to its end, put into the table read so far. -/
def entries? (fuel depth : Nat) (text : List Char) (table : Item) :
    Option (Item × List Char) :=
  match fuel, text with
  | 0, _ => none
  | _, '\x7d' :: rest => some (table, rest)
  | fuel + 1, text =>
    match (key? (fuel + 1) text).bind fun (path, rest) => (afterEquals? rest).map (path, ·) with
    | none => none
    | some (path, rest) =>
      match value? fuel depth rest with
      | none => none
      | some (value, rest) =>
        match table.assignPath? path value with
        | none => none
        | some table =>
          match skipLines fuel rest with
          | ',' :: rest => entries? fuel depth (skipLines fuel rest) table
          | '\x7d' :: rest => some (table, rest)
          | _ => none

end

/-- A document as far as it is read. -/
structure Reading where
  /-- The tables so far. -/
  root : Item := .root
  /-- The path of the table at hand. -/
  current : List String := []

namespace Reading

/-- Opens the table of a header. -/
def openHeader? (reading : Reading) (path : List String)
    (act : String → Item → Option Item) : Option Reading := do
  let key ← path.getLast?
  let root ← reading.root.change? false (act key) path.dropLast
  return { root, current := path }

/-- A header or an entry at the start of a line, and what follows its line. -/
def line? (fuel : Nat) (reading : Reading) : List Char → Option (Reading × List Char)
  | '[' :: '[' :: rest => do
    let (path, rest) ← key? fuel rest
    match rest with
    | ']' :: ']' :: rest => return (← reading.openHeader? path Item.openRow?, ← endLine? rest)
    | _ => none
  | '[' :: rest => do
    let (path, rest) ← key? fuel rest
    match rest with
    | ']' :: rest => return (← reading.openHeader? path Item.openTable?, ← endLine? rest)
    | _ => none
  | text => do
    let (path, rest) ← key? fuel text
    let (value, rest) ← value? fuel depthLimit (← afterEquals? rest)
    let root ← reading.root.change? false (Item.assignPath? path value) reading.current
    return ({ reading with root }, ← endLine? rest)

/-- Reads all lines. -/
def run? : Nat → Reading → List Char → Option Document
  | 0, _, _ => none
  | fuel + 1, reading, text =>
    match skipLines (fuel + 1) text with
    | [] => some reading.root.toDocument
    | text =>
      match reading.line? (fuel + 1) text with
      | some (reading, rest) => run? fuel reading rest
      | none => none

end Reading

/-- The text without a mark of its byte order. -/
def withoutByteOrderMark : List Char → List Char
  | '\uFEFF' :: rest => rest
  | text => text

/-- The document of a text. -/
def read (text : String) : Option Document :=
  let characters := withoutByteOrderMark text.toList
  Reading.run? (2 * characters.length + 2) {} characters

end LogForwarding.Toml
