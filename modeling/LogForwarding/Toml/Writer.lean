import LogForwarding.Document.Basic
import LogForwarding.Number.Literal

/-!
# Writing TOML

A document is written with its scalars first and then its sections, each under its name
in brackets. A text stands between double quotes if it needs no escapes that way,
otherwise between the first kind of quotes that can hold it as it is; if none can, it is
written with escapes.
-/

namespace LogForwarding.Toml

/-- A way to write a text. -/
inductive QuoteStyle where
  /-- On one line between double quotes, with escapes. -/
  | basic
  /-- On one line between single quotes. -/
  | literal
  /-- On several lines between double quotes, with escapes. -/
  | basicLines
  /-- On several lines between single quotes. -/
  | literalLines
  deriving DecidableEq, Repr

namespace QuoteStyle

/-- Whether a text may have several lines. -/
def hasLines : QuoteStyle → Bool
  | basic => false
  | literal => false
  | basicLines => true
  | literalLines => true

/-- Whether there are escapes. -/
def hasEscapes : QuoteStyle → Bool
  | basic => true
  | literal => false
  | basicLines => true
  | literalLines => false

/-- What stands on either side of a text. -/
def delimiter : QuoteStyle → List Char
  | basic => ['"']
  | literal => ['\'']
  | basicLines => ['"', '"', '"']
  | literalLines => ['\'', '\'', '\'']

end QuoteStyle

/-- Whether a character can only be written as an escape. -/
def isControl (c : Char) : Bool := (c < ' ' && c != '\t' && c != '\n') || c = '\x7F'

/-- The length of the longest run of a character in a text, if `count` of them stand
right before it. -/
def longestRun (mark : Char) (count : Nat) : List Char → Nat
  | [] => count
  | c :: rest =>
    if c = mark then longestRun mark (count + 1) rest else max count (longestRun mark 0 rest)

/-- Whether a style can hold a text as it is, tabs apart, which become escapes where there
are any. -/
def QuoteStyle.holds (style : QuoteStyle) (text : List Char) : Bool :=
  let allowed := if style.hasLines then 2 else 0
  let quote := if style.hasEscapes then '"' else '\''
  !text.any isControl && longestRun quote 0 text ≤ allowed
    && (style.hasLines || !text.contains '\n') && !(style.hasEscapes && text.contains '\\')

/-- The style for a text: the first that can hold it as it is, else one with escapes. -/
def quoteStyle (text : List Char) : QuoteStyle :=
  let styles : List QuoteStyle := [.basic, .literal, .basicLines, .literalLines]
  (styles.find? fun style => style.holds text).getD
    (if text.contains '\n' then .basicLines else .basic)

/-- The short escape of a character. -/
def shortEscape? (c : Char) : Option (List Char) :=
  match c with
  | '\x08' => some ['\\', 'b']
  | '\t' => some ['\\', 't']
  | '\x0C' => some ['\\', 'f']
  | '\r' => some ['\\', 'r']
  | '\\' => some ['\\', '\\']
  | _ => none

/-- The escape of a character by its code point. -/
def longEscape (c : Char) : List Char :=
  let digits := (Nat.toDigits 16 c.toNat).map Char.toUpper
  '\\' :: 'u' :: List.replicate (4 - digits.length) '0' ++ digits

/-- Writes a text with escapes. `quotes` counts the quotes right before it that were
written as they are; no more than `allowed` of them may stand in a row. -/
def escaped (hasLines : Bool) (quotes : Nat) : List Char → List Char
  | [] => []
  | c :: rest =>
    let allowed := if hasLines then 2 else 0
    if c = '"' then
      if quotes < allowed then c :: escaped hasLines (quotes + 1) rest
      else '\\' :: c :: escaped hasLines 0 rest
    else if c = '\n' then
      (if hasLines then [c] else ['\\', 'n']) ++ escaped hasLines 0 rest
    else
      match shortEscape? c with
      | some escape => escape ++ escaped hasLines 0 rest
      | none => (if isControl c then longEscape c else [c]) ++ escaped hasLines 0 rest

/-- A text between quotes. A text with line breaks begins on a line of its own. -/
def quote (text : String) : String :=
  let characters := text.toList
  let style := quoteStyle characters
  let start := if style.hasLines && characters.contains '\n' then ['\n'] else []
  let body := if style.hasEscapes then escaped style.hasLines 0 characters else characters
  String.ofList (style.delimiter ++ start ++ body ++ style.delimiter)

/-- Whether a key needs no quotes. -/
def isBareKey (key : String) : Bool :=
  !key.isEmpty && key.toList.all fun c => c.isAlphanum || c = '-' || c = '_'

/-- A key. -/
def keyText (key : Document) : String :=
  match key with
  | .text value => if isBareKey value then value else quote value
  | _ => ""

mutual

/-- A value on one line. There is no text for the absent value. -/
def valueText : Document → String
  | .bool value => toString value
  | .integer value => toString value
  | .float value => FloatFormat.plain.text value
  | .text value => quote value
  | .list items => "[" ++ ", ".intercalate (itemTexts items) ++ "]"
  | .map entries => "\x7b " ++ ", ".intercalate (entryTexts entries) ++ " \x7d"
  | .tagged _ value => valueText value
  | .null => ""

/-- The items of a list, each on one line. -/
def itemTexts : List Document → List String
  | [] => []
  | item :: rest => valueText item :: itemTexts rest

/-- The entries of a map, each on one line. -/
def entryTexts : List (Document × Document) → List String
  | [] => []
  | (key, value) :: rest => (keyText key ++ " = " ++ valueText value) :: entryTexts rest

end

/-- Whether an entry is a section. -/
def isSection : Document × Document → Bool
  | (_, .map _) => true
  | _ => false

/-- A section under its name. -/
def sectionText : Document × Document → String
  | (name, .map entries) =>
    String.join (("[" ++ keyText name ++ "]\n") :: (entryTexts entries).map (· ++ "\n"))
  | _ => ""

/-- Writes a document, the sections of which hold no further sections. -/
def write : Document → String
  | .map entries =>
    let (sections, others) := entries.partition isSection
    let first := String.join ((entryTexts others).map (· ++ "\n"))
    "\n".intercalate ((if others.isEmpty then [] else [first]) ++ sections.map sectionText)
  | other => valueText other

end LogForwarding.Toml
