/-!
# A place in a YAML text

A cursor stands before the part of a text that is still to be read. It knows its line
and column, since in YAML indentation has a meaning. Five characters break lines;
carriage return and line feed together are one break.
-/

namespace LogForwarding.Yaml

/-- Whether a character may occur in a YAML text. -/
def isAllowed (c : Char) : Bool :=
  c = '\t' || c = '\n' || c = '\r' || (' ' ≤ c && c ≤ '~') || c = '\u0085'
    || ('\u00A0' ≤ c && c ≤ '\uFFFD') || '\uFFFF' < c

/-- Whether a character breaks a line. -/
def isBreak (c : Char) : Bool :=
  c = '\n' || c = '\r' || c = '\u0085' || c = '\u2028' || c = '\u2029'

/-- Whether a character is a space or a tab. -/
def isBlank (c : Char) : Bool := c = ' ' || c = '\t'

/-- Whether a word ends before a text: at a blank, a break or the end. -/
def endsWord : List Char → Bool
  | [] => true
  | c :: _ => isBlank c || isBreak c

/-- Whether a line ends before a text. -/
def endsLine : List Char → Bool
  | [] => true
  | c :: _ => isBreak c

/-- Whether a character may be part of a name, such as that of an anchor. -/
def isNameChar (c : Char) : Bool := c.isAlphanum || c = '-' || c = '_'

/-- A place in a text. -/
structure Cursor where
  /-- What follows the place. -/
  rest : List Char
  /-- How many characters come before it. -/
  index : Nat := 0
  /-- How many lines come before it. -/
  line : Nat := 0
  /-- How many characters of its line come before it. -/
  column : Nat := 0
  deriving Repr, Inhabited

namespace Cursor

/-- The place behind the next character, which does not break the line. -/
def skip (cursor : Cursor) : Cursor :=
  { cursor with
    rest := cursor.rest.tail, index := cursor.index + 1, column := cursor.column + 1 }

/-- The place behind some characters, which do not break the line. -/
def skipMany (cursor : Cursor) (count : Nat) : Cursor :=
  { cursor with
    rest := cursor.rest.drop count
    index := cursor.index + count
    column := cursor.column + count }

/-- The start of the next line behind a break of the given length. -/
def nextLine (cursor : Cursor) (length : Nat) : Cursor where
  rest := cursor.rest.drop length
  index := cursor.index + length
  line := cursor.line + 1

/-- What a line break stands for, and the start of the next line. Of the five breaks
the two separators stand for themselves. -/
def takeBreak? (cursor : Cursor) : Option (Char × Cursor) :=
  match cursor.rest with
  | '\r' :: '\n' :: _ => some ('\n', cursor.nextLine 2)
  | '\u2028' :: _ => some ('\u2028', cursor.nextLine 1)
  | '\u2029' :: _ => some ('\u2029', cursor.nextLine 1)
  | c :: _ => if isBreak c then some ('\n', cursor.nextLine 1) else none
  | [] => none

/-- The start of the next line if a line break follows, else the same place. -/
def skipBreak (cursor : Cursor) : Cursor :=
  match cursor.takeBreak? with
  | some (_, next) => next
  | none => cursor

/-- The characters that satisfy a test, none of which breaks the line, and the place
behind them. -/
def takeWhile (cursor : Cursor) (test : Char → Bool) : List Char × Cursor :=
  let taken := cursor.rest.takeWhile test
  (taken, cursor.skipMany taken.length)

/-- The place behind the characters that satisfy a test. -/
def skipWhile (cursor : Cursor) (test : Char → Bool) : Cursor := (cursor.takeWhile test).2

/-- The place behind a comment, if one starts here. -/
def skipComment (cursor : Cursor) : Cursor :=
  match cursor.rest with
  | '#' :: _ => cursor.skipWhile fun c => !isBreak c
  | _ => cursor

/-- Whether the place is at the start of a line that begins with a mark of three equal
characters. -/
def atMark (cursor : Cursor) (mark : Char) : Bool :=
  cursor.column = 0 &&
    match cursor.rest with
    | a :: b :: c :: rest => a = mark && b = mark && c = mark && endsWord rest
    | _ => false

/-- Whether the line marks the start or the end of a document. -/
def atDocumentMark (cursor : Cursor) : Bool := cursor.atMark '-' || cursor.atMark '.'

/-- The place behind the blanks and the comment at the end of a line. Anything else
there is not allowed. -/
def endLine? (cursor : Cursor) : Option Cursor :=
  let cursor := (cursor.skipWhile isBlank).skipComment
  if endsLine cursor.rest then some cursor.skipBreak else none

end Cursor

end LogForwarding.Yaml
