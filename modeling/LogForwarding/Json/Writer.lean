import LogForwarding.Document.Basic

/-!
# Writing JSON

A document is written either on one line or with one item to a line, indented by two
spaces for each level. The entries of a map keep their order.
-/

namespace LogForwarding.Json

/-- A number below 65536 with four digits in base 16. -/
def fourDigits (n : Nat) : List Char :=
  let digits := Nat.toDigits 16 n
  List.replicate (4 - digits.length) '0' ++ digits

/-- How a character is written between quotes. -/
def escapeChar (c : Char) : List Char :=
  match c with
  | '"' => ['\\', '"']
  | '\\' => ['\\', '\\']
  | '\n' => ['\\', 'n']
  | '\r' => ['\\', 'r']
  | '\t' => ['\\', 't']
  | '\x08' => ['\\', 'b']
  | '\x0C' => ['\\', 'f']
  | c => if c.toNat < 0x20 then '\\' :: 'u' :: fourDigits c.toNat else [c]

/-- A text between quotes. -/
def quote (text : String) : String :=
  String.ofList ('"' :: text.toList.flatMap escapeChar ++ ['"'])

/-- The text of a scalar; lists and maps have none. -/
def scalarText : Document → String
  | .null => "null"
  | .bool value => toString value
  | .integer value => toString value
  | .float value => if value.isFinite then FloatFormat.scientific.text value else "null"
  | .text value => quote value
  | _ => ""

/-- The text of a key. -/
def keyText (key : Document) : String :=
  match key.untag with
  | .text value => quote value
  | key => quote (scalarText key)

mutual

/-- A document on one line. -/
def compact : Document → String
  | .list items => "[" ++ ",".intercalate (compactItems items) ++ "]"
  | .map entries => "\x7b" ++ ",".intercalate (compactEntries entries) ++ "\x7d"
  | .tagged _ value => compact value
  | scalar => scalarText scalar

/-- The items of a list, each on one line. -/
def compactItems : List Document → List String
  | [] => []
  | item :: rest => compact item :: compactItems rest

/-- The entries of a map, each on one line. -/
def compactEntries : List (Document × Document) → List String
  | [] => []
  | (key, value) :: rest => (keyText key ++ ":" ++ compact value) :: compactEntries rest

end

/-- Parts with one to a line, between brackets. -/
def block (opening closing : String) (indent : String) (parts : List String) : String :=
  if parts.isEmpty then opening ++ closing
  else
    opening ++ "\n" ++ ",\n".intercalate (parts.map (indent ++ "  " ++ ·)) ++ "\n" ++ indent
      ++ closing

mutual

/-- A document with one item to a line, below lines with the given indentation. -/
def pretty (indent : String) : Document → String
  | .list items => block "[" "]" indent (prettyItems (indent ++ "  ") items)
  | .map entries => block "\x7b" "\x7d" indent (prettyEntries (indent ++ "  ") entries)
  | .tagged _ value => pretty indent value
  | scalar => scalarText scalar

/-- The items of a list. -/
def prettyItems (indent : String) : List Document → List String
  | [] => []
  | item :: rest => pretty indent item :: prettyItems indent rest

/-- The entries of a map. -/
def prettyEntries (indent : String) : List (Document × Document) → List String
  | [] => []
  | (key, value) :: rest =>
    (keyText key ++ ": " ++ pretty indent value) :: prettyEntries indent rest

end

end LogForwarding.Json
