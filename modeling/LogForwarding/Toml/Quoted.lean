import LogForwarding.Number.Literal

/-!
# Quoted texts in TOML

A text stands between double quotes, with escapes, or between single quotes, where every
character stands for itself. Three quotes of either kind enclose a text of several lines;
a line break right behind them is dropped, and a line break may end in any system's way.
-/

namespace LogForwarding.Toml

/-- Whether a character may stand in a text or a comment as it is. -/
def isPrintable (c : Char) : Bool := c = '\t' || (' ' ≤ c && c != '\x7F')

/-- Whether a character is a space or a tab. -/
def isBlank (c : Char) : Bool := c = ' ' || c = '\t'

/-- What follows a line break at the start of a text. -/
def afterBreak? : List Char → Option (List Char)
  | '\n' :: rest => some rest
  | '\r' :: '\n' :: rest => some rest
  | _ => none

/-- The character with a code point in digits, and what follows them. -/
def codePoint? (count : Nat) (text : List Char) : Option (Char × List Char) := do
  let digits := text.take count
  let code ← Number.natural? 16 digits
  if digits.length = count && code.isValidChar then return (Char.ofNat code, text.drop count)
  else none

/-- The character that an escape stands for, the backslash already read, and what
follows it. -/
def escape? : List Char → Option (Char × List Char)
  | 'b' :: rest => some ('\x08', rest)
  | 't' :: rest => some ('\t', rest)
  | 'n' :: rest => some ('\n', rest)
  | 'f' :: rest => some ('\x0C', rest)
  | 'r' :: rest => some ('\r', rest)
  | 'e' :: rest => some ('\x1B', rest)
  | '"' :: rest => some ('"', rest)
  | '\\' :: rest => some ('\\', rest)
  | 'x' :: rest => codePoint? 2 rest
  | 'u' :: rest => codePoint? 4 rest
  | 'U' :: rest => codePoint? 8 rest
  | _ => none

/-- Reads a text in double quotes to its end, onto what was read so far in reverse. -/
def basic? : Nat → List Char → List Char → Option (String × List Char)
  | 0, _, _ => none
  | _ + 1, _, [] => none
  | fuel + 1, seen, c :: rest =>
    if c = '"' then some (String.ofList seen.reverse, rest)
    else if c = '\\' then
      match escape? rest with
      | some (c, rest) => basic? fuel (c :: seen) rest
      | none => none
    else if isPrintable c then basic? fuel (c :: seen) rest
    else none

/-- Reads a text in single quotes to its end. -/
def literal? (text : List Char) : Option (String × List Char) :=
  let inner := text.takeWhile fun c => c != '\'' && isPrintable c
  match text.drop inner.length with
  | '\'' :: rest => some (String.ofList inner, rest)
  | _ => none

/-- What follows the blanks and line breaks at the start of a text, of which the first
line has to hold nothing else. -/
def afterLineEnd? (fuel : Nat) (text : List Char) : Option (List Char) :=
  (afterBreak? (text.dropWhile isBlank)).map (skip fuel)
where
  /-- Skips blanks and line breaks. -/
  skip : Nat → List Char → List Char
    | 0, text => text
    | fuel + 1, text =>
      let text := text.dropWhile isBlank
      match afterBreak? text with
      | some rest => skip fuel rest
      | none => text

/-- How many of the given quotes stand at the start of a text. -/
def quotes (quote : Char) (text : List Char) : Nat := (text.takeWhile (· = quote)).length

/-- Reads a text of several lines up to its three closing quotes, onto what was read so
far in reverse. Up to two more quotes before the closing ones are part of the text. -/
def lines? (quote : Char) : Nat → List Char → List Char → Option (String × List Char)
  | 0, _, _ => none
  | _ + 1, _, [] => none
  | fuel + 1, seen, c :: rest =>
    if c = quote then
      let count := quotes quote (c :: rest)
      if count < 3 then
        lines? quote fuel (List.replicate count quote ++ seen) (rest.drop (count - 1))
      else if count ≤ 5 then
        some (String.ofList (List.replicate (count - 3) quote ++ seen).reverse,
          rest.drop (count - 1))
      else none
    else if c = '\\' && quote = '"' then
      match rest.head? with
      | none => none
      | some d =>
        if isBlank d || d = '\n' || d = '\r' then
          match afterLineEnd? fuel rest with
          | some rest => lines? quote fuel seen rest
          | none => none
        else
          match escape? rest with
          | some (c, rest) => lines? quote fuel (c :: seen) rest
          | none => none
    else
      match afterBreak? (c :: rest) with
      | some rest => lines? quote fuel ('\n' :: seen) rest
      | none => if isPrintable c then lines? quote fuel (c :: seen) rest else none

/-- Reads a text of one line at the start of a text. -/
def line? (fuel : Nat) : List Char → Option (String × List Char)
  | '"' :: rest => basic? fuel [] rest
  | '\'' :: rest => literal? rest
  | _ => none

/-- Reads a quoted text at the start of a text. -/
def quoted? (fuel : Nat) (text : List Char) : Option (String × List Char) :=
  match text with
  | '"' :: '"' :: '"' :: rest => lines? '"' fuel [] ((afterBreak? rest).getD rest)
  | '\'' :: '\'' :: '\'' :: rest => lines? '\'' fuel [] ((afterBreak? rest).getD rest)
  | text => line? fuel text

end LogForwarding.Toml
