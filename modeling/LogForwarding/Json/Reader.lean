import LogForwarding.Document.Basic
import LogForwarding.Dictionary
import LogForwarding.Number.Literal

/-!
# Reading JSON

`Json.read` reads a JSON text into a document. The entries of an object come in
increasing order of their keys, and of equal keys the last one counts. A number without
fraction or exponent is a whole number if it fits into 64 bits, any other number a
floating point number; minus zero is one of those. Lists and objects may be nested 127
deep.
-/

namespace LogForwarding.Json

/-- The deepest nesting of lists and objects. -/
def depthLimit : Nat := 127

/-- Whether a character may stand between the parts of a text. -/
def isBlank (c : Char) : Bool := c = ' ' || c = '\n' || c = '\t' || c = '\r'

/-- The text without blanks at its start. -/
def skipBlank (text : List Char) : List Char := text.dropWhile isBlank

/-- The number that four digits in base 16 stand for, and what follows them. -/
def codeUnit? : List Char → Option (Nat × List Char)
  | a :: b :: c :: d :: rest => (Number.natural? 16 [a, b, c, d]).map (·, rest)
  | _ => none

/-- The character that an escape by code units stands for, the backslash and the letter
already read. A character beyond 16 bits is written as two escapes. -/
def unicodeEscape? (text : List Char) : Option (Char × List Char) := do
  let (first, rest) ← codeUnit? text
  if 0xDC00 ≤ first && first ≤ 0xDFFF then none
  else if 0xD800 ≤ first && first ≤ 0xDBFF then
    match rest with
    | '\\' :: 'u' :: rest =>
      let (second, rest) ← codeUnit? rest
      if 0xDC00 ≤ second && second ≤ 0xDFFF then
        some (Char.ofNat (0x10000 + (first - 0xD800) * 0x400 + (second - 0xDC00)), rest)
      else none
    | _ => none
  else some (Char.ofNat first, rest)

/-- The character that a short escape stands for. -/
def shortEscape? : Char → Option Char
  | '"' => some '"'
  | '\\' => some '\\'
  | '/' => some '/'
  | 'b' => some '\x08'
  | 'f' => some '\x0C'
  | 'n' => some '\n'
  | 'r' => some '\r'
  | 't' => some '\t'
  | _ => none

/-- The rest of a string after its opening quote, onto the characters read so far in
reverse, and what follows the closing quote. -/
def stringRest? (fuel : Nat) (text : List Char) (seen : List Char) :
    Option (String × List Char) :=
  match fuel, text with
  | 0, _ => none
  | _, [] => none
  | _, '"' :: rest => some (String.ofList seen.reverse, rest)
  | fuel + 1, '\\' :: 'u' :: rest =>
    match unicodeEscape? rest with
    | some (c, rest) => stringRest? fuel rest (c :: seen)
    | none => none
  | fuel + 1, '\\' :: letter :: rest =>
    match shortEscape? letter with
    | some c => stringRest? fuel rest (c :: seen)
    | none => none
  | fuel + 1, c :: rest =>
    if c = '\\' || c.toNat < 0x20 then none else stringRest? fuel rest (c :: seen)

/-- The parts of a number literal. The significand holds as many leading digits as fit
into 64 bits, the exponent counts the powers of ten it lacks. -/
structure Literal where
  /-- Whether there is a minus sign. -/
  negative : Bool
  /-- The leading digits as a whole number. -/
  significand : Nat
  /-- The power of ten to multiply it with. -/
  exponent : Int := 0
  /-- Whether some digits before the point did not fit. -/
  isLong : Bool := false
  /-- Whether there is a fraction or an exponent. -/
  isWhole : Bool := true

namespace Literal

/-- The literal with one more digit before the point. -/
def addWholeDigit (literal : Literal) (digit : Nat) : Literal :=
  let longer := 10 * literal.significand + digit
  if literal.isLong || longer ≥ Nat.pow 2 64 then
    { literal with isLong := true, exponent := literal.exponent + 1 }
  else { literal with significand := longer }

/-- The literal with the digits after the point. Those that do not fit are dropped. -/
def addFraction (literal : Literal) : List Nat → Literal
  | [] => literal
  | digit :: rest =>
    let longer := 10 * literal.significand + digit
    if longer ≥ Nat.pow 2 64 then literal
    else
      addFraction { literal with significand := longer, exponent := literal.exponent - 1 } rest

/-- The rounded power of ten for an exponent up to 308. -/
def tenTo (exponent : Nat) : Binary64 := .ofDecimal false 1 exponent

/-- A number times a power of ten, rounded after each step. A negative power is applied
in steps of at most 308. Nothing comes of a number that is too large. -/
def scaleByTen? : Nat → Binary64 → Int → Option Binary64
  | 0, value, _ => some value
  | steps + 1, value, exponent =>
    if exponent.natAbs ≤ 308 then
      let power := tenTo exponent.natAbs
      let value := if 0 ≤ exponent then value.times power else value.dividedBy power
      if value.isFinite then some value else none
    else if value.isZero then some value
    else if 0 ≤ exponent then none
    else scaleByTen? steps (value.dividedBy (tenTo 308)) (exponent + 308)

/-- The floating point number that a literal stands for. -/
def float? (literal : Literal) : Option Document :=
  (scaleByTen? 4 (.ofRatio false literal.significand 1) literal.exponent).map fun value =>
    .float (value.withSign literal.negative)

/-- The number that a literal stands for. -/
def value? (literal : Literal) : Option Document :=
  if !literal.isWhole || literal.isLong then literal.float?
  else if !literal.negative then some (.integer literal.significand)
  else if 0 < literal.significand && literal.significand ≤ Nat.pow 2 63 then
    some (.integer (-(literal.significand : Int)))
  else literal.float?

end Literal

/-- The decimal digits at the start of a text, and what follows them. -/
def digits (text : List Char) : List Nat × List Char :=
  ((text.takeWhile Number.isDigit).map fun c => c.toNat - '0'.toNat,
    text.dropWhile Number.isDigit)

/-- A literal with the fraction at the start of a text, and what follows it. -/
def readFraction? (literal : Literal) : List Char → Option (Literal × List Char)
  | '.' :: rest =>
    let (fraction, rest) := digits rest
    if fraction.isEmpty then none
    else some ({ literal.addFraction fraction with isWhole := false }, rest)
  | rest => some (literal, rest)

/-- A literal with the exponent at the start of a text, and what follows it. -/
def readExponent? (literal : Literal) : List Char → Option (Literal × List Char)
  | [] => some (literal, [])
  | letter :: rest =>
    if letter = 'e' || letter = 'E' then
      let (negative, rest) := Number.sign rest
      let (power, rest) := digits rest
      if power.isEmpty then none
      else
        let size : Nat := power.foldl (fun value digit => 10 * value + digit) 0
        let exponent := literal.exponent + if negative then -(size : Int) else size
        some ({ literal with exponent, isWhole := false }, rest)
    else some (literal, letter :: rest)

/-- A number literal, and what follows it. The first digit is zero only if it is the
only one before the point. -/
def readNumber? (text : List Char) : Option (Document × List Char) := do
  let (negative, rest) := match text with
    | '-' :: rest => (true, rest)
    | rest => (false, rest)
  let (whole, rest) := digits rest
  if whole.isEmpty || (whole.length > 1 && whole.head? = some 0) then none
  else
    let literal := whole.foldl Literal.addWholeDigit { negative, significand := 0 }
    let (literal, rest) ← readFraction? literal rest
    let (literal, rest) ← readExponent? literal rest
    let value ← literal.value?
    return (value, rest)

/-- The text after a word that has to stand at its start. -/
def afterWord? (word : String) (text : List Char) : Option (List Char) :=
  if word.toList.isPrefixOf text then some (text.drop word.length) else none

/-- The object with the given members. -/
def object (members : List (String × Document)) : Document :=
  .record (Dictionary.ofList members).entries

mutual

/-- A value at the start of a text, and what follows it. The depth says how many more
levels of nesting are allowed. -/
def readValue? (fuel depth : Nat) (text : List Char) : Option (Document × List Char) :=
  match fuel, skipBlank text with
  | 0, _ => none
  | _, [] => none
  | fuel + 1, '\x7b' :: rest =>
    match depth with
    | 0 => none
    | depth + 1 =>
      match skipBlank rest with
      | '\x7d' :: rest => some (object [], rest)
      | rest =>
        (readMembers? fuel depth rest []).map fun (members, rest) => (object members, rest)
  | fuel + 1, '[' :: rest =>
    match depth with
    | 0 => none
    | depth + 1 =>
      match skipBlank rest with
      | ']' :: rest => some (.list [], rest)
      | rest => (readItems? fuel depth rest []).map fun (items, rest) => (.list items, rest)
  | fuel + 1, '"' :: rest =>
    (stringRest? (fuel + rest.length + 1) rest []).map fun (value, rest) => (.text value, rest)
  | _, 'n' :: rest => (afterWord? "ull" rest).map (.null, ·)
  | _, 't' :: rest => (afterWord? "rue" rest).map (.bool true, ·)
  | _, 'f' :: rest => (afterWord? "alse" rest).map (.bool false, ·)
  | _, rest => readNumber? rest

/-- The items of a list up to its end, onto the ones read so far in reverse. -/
def readItems? (fuel depth : Nat) (text : List Char) (seen : List Document) :
    Option (List Document × List Char) :=
  match fuel with
  | 0 => none
  | fuel + 1 =>
    match readValue? fuel depth text with
    | none => none
    | some (value, rest) =>
      match skipBlank rest with
      | ',' :: rest => readItems? fuel depth rest (value :: seen)
      | ']' :: rest => some ((value :: seen).reverse, rest)
      | _ => none

/-- The members of an object up to its end, onto the ones read so far in reverse. -/
def readMembers? (fuel depth : Nat) (text : List Char) (seen : List (String × Document)) :
    Option (List (String × Document) × List Char) :=
  match fuel, skipBlank text with
  | fuel + 1, '"' :: rest =>
    match stringRest? (rest.length + 1) rest [] with
    | none => none
    | some (key, rest) =>
      match skipBlank rest with
      | ':' :: rest =>
        match readValue? fuel depth rest with
        | none => none
        | some (value, rest) =>
          match skipBlank rest with
          | ',' :: rest => readMembers? fuel depth rest ((key, value) :: seen)
          | '\x7d' :: rest => some (((key, value) :: seen).reverse, rest)
          | _ => none
      | _ => none
  | _, _ => none

end

/-- The document of a JSON text. -/
def read (text : String) : Option Document :=
  let characters := text.toList
  match readValue? (2 * characters.length + 2) depthLimit characters with
  | some (value, rest) => if (skipBlank rest).isEmpty then some value else none
  | none => none

end LogForwarding.Json
