import LogForwarding.Yaml.Style

/-!
# Writing YAML

Every item of a list and every entry of a map has its own line. What is inside is
indented by two spaces, but the items of a list that is the value of an entry are not.
Empty lists and maps stand between brackets. Tags are not written.
-/

namespace LogForwarding.Yaml

/-- A number of spaces. -/
def spaces (count : Nat) : List Char := List.replicate count ' '

/-- A text with each of its lines indented, the first only if it is at the start of a
line. Empty lines stay empty. -/
def indentLines (indent : Nat) (atStart : Bool) : List Char → List Char
  | [] => []
  | c :: rest =>
    if isBreak c then c :: indentLines indent true rest
    else (if atStart then spaces indent else []) ++ c :: indentLines indent false rest

/-- A text between single quotes. Quotes inside are written twice. -/
def singleQuoted (indent : Nat) (text : List Char) : List Char :=
  let doubled := text.flatMap fun c => if c = '\'' then [c, c] else [c]
  let lastLine := if text.getLast?.any isBreak then spaces indent else []
  '\'' :: indentLines indent false doubled ++ lastLine ++ ['\'']

/-- A number in base 16 with a fixed count of digits. -/
def hexDigits (count n : Nat) : List Char :=
  let digits := (Nat.toDigits 16 n).map Char.toUpper
  List.replicate (count - digits.length) '0' ++ digits

/-- The escape for a character, without its backslash. -/
def escapeOf (c : Char) : List Char :=
  match c with
  | '\x00' => ['0']
  | '\x07' => ['a']
  | '\x08' => ['b']
  | '\t' => ['t']
  | '\n' => ['n']
  | '\x0B' => ['v']
  | '\x0C' => ['f']
  | '\r' => ['r']
  | '\x1B' => ['e']
  | '"' => ['"']
  | '\\' => ['\\']
  | '\u0085' => ['N']
  | '\u2028' => ['L']
  | '\u2029' => ['P']
  | c =>
    if c.toNat ≤ 0xFF then 'x' :: hexDigits 2 c.toNat
    else if c.toNat ≤ 0xFFFF then 'u' :: hexDigits 4 c.toNat
    else 'U' :: hexDigits 8 c.toNat

/-- Whether a character needs an escape between double quotes. -/
def needsEscape (c : Char) : Bool := !isPrinted c || isBreak c || c = '"' || c = '\\'

/-- A text between double quotes. -/
def doubleQuoted (text : List Char) : List Char :=
  '"' :: text.flatMap (fun c => if needsEscape c then '\\' :: escapeOf c else [c]) ++ ['"']

/-- How the header of a text on lines of its own tells about the breaks at its end: a
minus if there are none, a plus if all of them count. -/
def endMark (text : List Char) : List Char :=
  match text.reverse with
  | a :: b :: _ => if isBreak a then if isBreak b then ['+'] else [] else ['-']
  | [a] => if isBreak a then ['+'] else ['-']
  | [] => ['-']

/-- How the header of a text on lines of its own tells about its indentation, if its
first line does not show it. -/
def indentMark (text : List Char) : List Char :=
  if text.head?.any isSpaceOrBreak then ['2'] else []

/-- A text on lines of its own. -/
def literal (indent : Nat) (text : List Char) : List Char :=
  '|' :: indentMark text ++ endMark text ++ '\n' :: indentLines indent true text

/-- A text, with the indentation that its lines have, if it has several. -/
def textBody (indent : Nat) (text : String) : String :=
  let characters := text.toList
  match textStyle text with
  | .plain => text
  | .singleQuoted => String.ofList (singleQuoted indent characters)
  | .doubleQuoted => String.ofList (doubleQuoted characters)
  | .literal => String.ofList (literal indent characters)

/-- Whether a text on lines of its own ends its last line itself. -/
def endsItsLine (text : String) : Bool :=
  textStyle text = .literal && text.toList.getLast?.any isBreak

/-- Numbers have the same texts as elsewhere, but names instead of digits start with a
point. -/
def numbers : FloatFormat :=
  { FloatFormat.scientific with infinityText := ".inf", notANumberText := ".nan" }

/-- The text of a scalar; lists and maps have none. -/
def scalarBody (indent : Nat) : Document → String
  | .null => "null"
  | .bool value => toString value
  | .integer value => toString value
  | .float value => numbers.text value
  | .text value => textBody indent value
  | _ => ""

/-- A scalar behind a blank, with the end of its line. -/
def scalarLine (indent : Nat) (scalar : Document) : String :=
  let ended := match scalar with
    | .text value => endsItsLine value
    | _ => false
  " " ++ scalarBody indent scalar ++ if ended then "" else "\n"

/-- Lines with an indentation, but for the first. -/
def joined (indent : Nat) (parts : List String) : String :=
  (String.ofList (spaces indent)).intercalate parts

/-- Lines with an indentation. -/
def indented (indent : Nat) (parts : List String) : String :=
  String.ofList (spaces indent) ++ joined indent parts

/-- A key that stands in front of its colon. -/
def simpleKey? (indent : Nat) : Document → Option String
  | .text value => if isSimpleKey value then some (textBody indent value) else none
  | .list _ => none
  | .map _ => none
  | .tagged _ _ => none
  | scalar => some (scalarBody indent scalar)

mutual

/-- What follows the dash of an item whose dash has the given indentation. -/
def behindDash (indent : Nat) : Document → String
  | .list [] => " []\n"
  | .map [] => " \x7b\x7d\n"
  | .list items => " " ++ joined (indent + 2) (itemLines (indent + 2) items)
  | .map entries => " " ++ joined (indent + 2) (entryLines (indent + 2) entries)
  | .tagged _ value => behindDash indent value
  | scalar => scalarLine (indent + 2) scalar

/-- What follows the colon of an entry whose key has the given indentation. -/
def behindKey (indent : Nat) : Document → String
  | .list [] => " []\n"
  | .map [] => " \x7b\x7d\n"
  | .list items => "\n" ++ indented indent (itemLines indent items)
  | .map entries => "\n" ++ indented (indent + 2) (entryLines (indent + 2) entries)
  | .tagged _ value => behindKey indent value
  | scalar => scalarLine (indent + 2) scalar

/-- The lines of the items of a list. -/
def itemLines (indent : Nat) : List Document → List String
  | [] => []
  | item :: rest => ("-" ++ behindDash indent item) :: itemLines indent rest

/-- The lines of the entries of a map. A key that cannot stand in front of its colon
stands behind a question mark. -/
def entryLines (indent : Nat) : List (Document × Document) → List String
  | [] => []
  | (key, value) :: rest =>
    (match simpleKey? (indent + 2) key with
      | some text => text ++ ":" ++ behindKey indent value
      | none =>
        "?" ++ behindDash indent key ++ String.ofList (spaces indent) ++ ":"
          ++ behindDash indent value)
      :: entryLines indent rest

end

/-- Writes a document. -/
def write (document : Document) : String :=
  match document.untag with
  | .list [] => "[]\n"
  | .map [] => "\x7b\x7d\n"
  | .list items => joined 0 (itemLines 0 items)
  | .map entries => joined 0 (entryLines 0 entries)
  | scalar => ((scalarLine 2 scalar).drop 1).toString

end LogForwarding.Yaml
