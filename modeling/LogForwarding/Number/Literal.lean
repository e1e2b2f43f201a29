import LogForwarding.Number.Binary64

/-!
# Decimal literals

A decimal literal is written with digits, perhaps a point among them, and perhaps a
power of ten. `Number.decimal?` reads one into its exact value; what is between the
digits, and whether they may be missing, is up to the format at hand.
-/

namespace LogForwarding.Number

/-- The value of a digit in a base up to 36, in either case. -/
def digitValue? (base : Nat) (c : Char) : Option Nat :=
  let value? :=
    if '0' ≤ c && c ≤ '9' then some (c.toNat - '0'.toNat)
    else if 'a' ≤ c && c ≤ 'z' then some (c.toNat - 'a'.toNat + 10)
    else if 'A' ≤ c && c ≤ 'Z' then some (c.toNat - 'A'.toNat + 10)
    else none
  value?.filter (· < base)

/-- The number that digits stand for; there has to be one. -/
def natural? (base : Nat) (digits : List Char) : Option Nat :=
  if digits.isEmpty then none
  else digits.foldlM (fun value c => (base * value + ·) <$> digitValue? base c) 0

/-- Whether a character is a decimal digit. -/
def isDigit (c : Char) : Bool := '0' ≤ c && c ≤ '9'

/-- A sign, if there is one, and what follows it. -/
def sign : List Char → Bool × List Char
  | '-' :: rest => (true, rest)
  | '+' :: rest => (false, rest)
  | rest => (false, rest)

/-- A whole number with or without a sign. -/
def integer? (text : List Char) : Option Int :=
  let (negative, digits) := sign text
  (natural? 10 digits).map fun n => if negative then -(n : Int) else n

/-- The value of a decimal literal without a sign. The digits before or after the point
may be missing, but not both. -/
def decimal? (negative : Bool) (text : List Char) : Option Binary64 := do
  let whole := text.takeWhile isDigit
  let rest := text.dropWhile isDigit
  let (fraction, rest) := match rest with
    | '.' :: rest => (rest.takeWhile isDigit, rest.dropWhile isDigit)
    | rest => ([], rest)
  let power ← match rest with
    | [] => some 0
    | c :: rest => if c = 'e' || c = 'E' then integer? rest else none
  let digits ← natural? 10 (whole ++ fraction)
  return Binary64.ofDecimal negative digits (power - fraction.length)

end LogForwarding.Number
