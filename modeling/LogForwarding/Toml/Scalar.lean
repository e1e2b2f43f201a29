import LogForwarding.Number.Literal

/-!
# Scalars in TOML

Numbers, truth values and moments are written without quotes. Of a moment only the form
is read: dates and times stay texts. Underscores may stand between the digits of numbers.
-/

namespace LogForwarding.Toml

/-- A scalar that is written without quotes. -/
inductive Scalar where
  /-- A truth value. -/
  | bool (value : Bool)
  /-- A whole number. -/
  | integer (value : Int)
  /-- Any other number. -/
  | float (value : Binary64)
  /-- A date, a time or both. -/
  | moment (text : String)
  deriving DecidableEq, Repr, Inhabited

namespace Scalar

/-- Digits, of which there has to be one, without the underscores between them. At its
ends a number has none, and no two are next to each other. -/
def joined? (base : Nat) : List Char → Option (List Char)
  | [] => none
  | [c] => (Number.digitValue? base c).map fun _ => [c]
  | c :: '_' :: rest =>
    match Number.digitValue? base c with
    | some _ => (c :: ·) <$> joined? base rest
    | none => none
  | c :: rest =>
    match Number.digitValue? base c with
    | some _ => (c :: ·) <$> joined? base rest
    | none => none

/-- A number in the given base. -/
def natural? (base : Nat) (text : List Char) : Option Nat :=
  (joined? base text).bind (Number.natural? base)

/-- Whether digits have a zero in front that does not count. -/
def hasIdleZero : List Char → Bool
  | '0' :: _ :: _ => true
  | _ => false

/-- A whole number with or without a sign, or one with its base in front. It has to fit
into 128 bits. -/
def integer? (text : List Char) : Option Int :=
  let unsigned := fun base rest => ((natural? base rest).filter (· < Nat.pow 2 128)).map Int.ofNat
  match text with
  | '0' :: 'x' :: rest => unsigned 16 rest
  | '0' :: 'o' :: rest => unsigned 8 rest
  | '0' :: 'b' :: rest => unsigned 2 rest
  | '-' :: rest =>
    if hasIdleZero rest then none
    else ((natural? 10 rest).filter (· ≤ Nat.pow 2 127)).map fun n => -(n : Int)
  | '+' :: rest => if hasIdleZero rest then none else unsigned 10 rest
  | rest => if hasIdleZero rest then none else unsigned 10 rest

/-- A number without a sign that has a fraction or an exponent. -/
def decimal? (negative : Bool) (text : List Char) : Option Binary64 := do
  let isExponent := fun c => c = 'e' || c = 'E'
  let mantissa := text.takeWhile (!isExponent ·)
  let whole := mantissa.takeWhile (· != '.')
  let digits ← joined? 10 whole
  if hasIdleZero digits then none
  let fraction ← match mantissa.drop whole.length with
    | [] => if mantissa.length = text.length then none else some []
    | _ :: rest => ('.' :: ·) <$> joined? 10 rest
  let exponent ← match text.drop mantissa.length with
    | [] => some []
    | _ :: rest =>
      let sign := rest.takeWhile fun c => c = '+' || c = '-'
      if sign.length > 1 then none
      else (fun digits => 'e' :: sign ++ digits) <$> joined? 10 (rest.drop sign.length)
  Number.decimal? negative (digits ++ fraction ++ exponent)

/-- A number with a fraction or an exponent, or one written with a name. -/
def float? (text : List Char) : Option Binary64 :=
  let (negative, rest) := Number.sign text
  match String.ofList rest with
  | "inf" => some (.infinity negative)
  | "nan" => some .notANumber
  | _ => (decimal? negative rest).filter (·.isFinite)

/-! ### Moments -/

/-- A number of exactly the given count of digits in a range, and what follows it. -/
def field? (count least greatest : Nat) (text : List Char) : Option (Nat × List Char) := do
  let digits := text.take count
  let value ← Number.natural? 10 digits
  if digits.length = count && least ≤ value && value ≤ greatest then
    return (value, text.drop count)
  else none

/-- What follows a character that has to stand at the start. -/
def after? (c : Char) : List Char → Option (List Char)
  | d :: rest => if c = d then some rest else none
  | [] => none

/-- The number of days of a month. -/
def daysOf (year month : Nat) : Nat :=
  if month = 2 then
    if (year % 4 = 0 && year % 100 != 0) || year % 400 = 0 then 29 else 28
  else if month = 4 || month = 6 || month = 9 || month = 11 then 30
  else 31

/-- What follows a date. -/
def date? (text : List Char) : Option (List Char) := do
  let (year, rest) ← field? 4 0 9999 text
  let (month, rest) ← field? 2 1 12 (← after? '-' rest)
  let (_, rest) ← field? 2 1 (daysOf year month) (← after? '-' rest)
  return rest

/-- What follows the seconds of a time, if it has any. -/
def seconds? : List Char → Option (List Char)
  | ':' :: rest => do
    let (_, rest) ← field? 2 0 60 rest
    match rest with
    | '.' :: rest =>
      if rest.head?.any Number.isDigit then return rest.dropWhile Number.isDigit else none
    | rest => return rest
  | rest => some rest

/-- What follows a time. -/
def time? (text : List Char) : Option (List Char) := do
  let (_, rest) ← field? 2 0 23 text
  let (_, rest) ← field? 2 0 59 (← after? ':' rest)
  seconds? rest

/-- What follows the offset of a time zone, if there is one. -/
def offset? : List Char → Option (List Char)
  | 'Z' :: rest => some rest
  | 'z' :: rest => some rest
  | sign :: rest =>
    if sign = '+' || sign = '-' then do
      let (_, rest) ← field? 2 0 23 rest
      let (_, rest) ← field? 2 0 59 (← after? ':' rest)
      return rest
    else some (sign :: rest)
  | [] => some []

/-- Whether a text is a date, a time, or a date with a time behind it. -/
def isMoment (text : List Char) : Bool :=
  match date? text with
  | none => time? text == some []
  | some [] => true
  | some (separator :: rest) =>
    (separator = 'T' || separator = 't' || separator = ' ')
      && ((time? rest).bind offset?) == some []

/-- The scalar that a text without quotes stands for. -/
def ofText? (text : List Char) : Option Scalar :=
  match String.ofList text with
  | "true" => some (.bool true)
  | "false" => some (.bool false)
  | written =>
    if isMoment text then some (.moment written)
    else
      match integer? text with
      | some value => some (.integer value)
      | none => (float? text).map .float

/-- Whether a character may be part of a text without quotes. -/
def isScalarChar (c : Char) : Bool :=
  c.isAlphanum || c = '+' || c = '-' || c = '_' || c = '.' || c = ':'

/-- The text without quotes at the start of a text, and what follows it. A space between
a date and a time is part of it. -/
def take (text : List Char) : List Char × List Char :=
  let first := text.takeWhile isScalarChar
  match date? first, text.drop first.length with
  | some [], ' ' :: c :: rest =>
    if Number.isDigit c then
      let second := (c :: rest).takeWhile isScalarChar
      (first ++ ' ' :: second, (c :: rest).drop second.length)
    else (first, ' ' :: c :: rest)
  | _, rest => (first, rest)

end Scalar

end LogForwarding.Toml
