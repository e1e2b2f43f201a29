import LogForwarding.Yaml.Scalar

/-!
# Ways to write a text in YAML

A text is written without quotes if that way it reads back as itself. Otherwise it stands
between quotes, single ones if it needs no escapes, or, if it has several lines, on lines
of its own.
-/

namespace LogForwarding.Yaml

/-- A way to write a text. -/
inductive TextStyle where
  /-- Without quotes. -/
  | plain
  /-- Between single quotes. -/
  | singleQuoted
  /-- Between double quotes, with escapes. -/
  | doubleQuoted
  /-- On lines of its own. -/
  | literal
  deriving DecidableEq, Repr

/-- Whether a character is written as it is; any other needs an escape. -/
def isPrinted (c : Char) : Bool :=
  c = '\n' || (' ' ≤ c && c ≤ '~') || ('\u00A0' ≤ c && c ≤ '\uFFFD' && c != '\uFEFF')

/-- Whether a character sets what stands before and behind it apart. -/
def isGap (c : Char) : Bool := isBlank c || isBreak c || c = '\x00'

/-- Whether a text begins with a gap or is at its end. -/
def gapAhead : List Char → Bool
  | [] => true
  | c :: _ => isGap c

/-- The characters that mean something at the start of a text. -/
def startMarks : List Char :=
  ['#', ',', '[', ']', '\x7b', '\x7d', '&', '*', '!', '|', '>', '\'', '"', '%', '@', '\x60']

/-- Whether a text begins with something that means more than text. -/
def startsWithMark : List Char → Bool
  | [] => false
  | '-' :: '-' :: '-' :: _ => true
  | '.' :: '.' :: '.' :: _ => true
  | c :: rest => c ∈ startMarks || ((c = '?' || c = '-') && gapAhead rest)

/-- Whether a text has a colon in front of a gap or a number sign behind one. -/
def hasMark (behindGap : Bool) : List Char → Bool
  | [] => false
  | c :: rest =>
    (c = ':' && gapAhead rest) || (c = '#' && behindGap) || hasMark (isGap c) rest

/-- Whether two neighbours in a text satisfy a test. -/
def hasNeighbours (test : Char → Char → Bool) : List Char → Bool
  | a :: b :: rest => test a b || hasNeighbours test (b :: rest)
  | _ => false

/-- Whether a text has a line break in front of a space. -/
def hasIndentedLine (text : List Char) : Bool := hasNeighbours (fun a b => isBreak a && b = ' ') text

/-- Whether a text has a line break behind a space. -/
def hasTrailingSpace (text : List Char) : Bool :=
  hasNeighbours (fun a b => a = ' ' && isBreak b) text

/-- Whether a character is a space or breaks the line. -/
def isSpaceOrBreak (c : Char) : Bool := c = ' ' || isBreak c

/-- Whether a text without quotes keeps its characters. -/
def allowsPlain (text : List Char) : Bool :=
  text.all isPrinted && !text.any isBreak && !text.head?.any isSpaceOrBreak
    && !text.getLast?.any isSpaceOrBreak && !startsWithMark text && !hasMark true text

/-- Whether a text in single quotes keeps its characters. -/
def allowsSingleQuotes (text : List Char) : Bool :=
  text.all isPrinted && !hasIndentedLine text && !hasTrailingSpace text

/-- Whether a text on lines of its own keeps its characters. -/
def allowsLiteral (text : List Char) : Bool :=
  text.all isPrinted && !hasTrailingSpace text && text.getLast? != some ' '

/-- Whether a text without quotes stands for itself, and does not look like a number. -/
def standsForItself (text : String) : Bool :=
  match plainValue? text with
  | some (.text _) => !hasIdleZero text.toList
  | _ => false

/-- The way to write a text. -/
def textStyle (text : String) : TextStyle :=
  let characters := text.toList
  if characters.contains '\n' then
    if allowsLiteral characters then .literal else .doubleQuoted
  else if standsForItself text && allowsPlain characters then .plain
  else if allowsSingleQuotes characters then .singleQuoted
  else .doubleQuoted

/-- The greatest length in bytes of a key that stands in front of its colon. -/
def keyLimit : Nat := 128

/-- Whether a text can be a key that stands in front of its colon. -/
def isSimpleKey (text : String) : Bool := text.utf8ByteSize ≤ keyLimit && !text.toList.any isBreak

end LogForwarding.Yaml
