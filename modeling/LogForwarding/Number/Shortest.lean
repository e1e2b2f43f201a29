import LogForwarding.Number.Binary64

/-!
# The shortest decimal text of a number

A number is written with the fewest digits that read back as the same number. Of the
decimal numbers with that many digits the nearest one is taken. `FloatFormat` says
where the point stands and when an exponent is written.
-/

namespace LogForwarding

/-- A positive decimal number: its digits, the first of them before the point, and the
power of ten of the first digit. -/
structure Decimal where
  /-- The digits as a whole number. -/
  digits : Nat
  /-- The power of ten that the first digit stands for. -/
  power : Int
  deriving DecidableEq, Repr

namespace Binary64

/-- The power of ten of the first digit of a positive quotient. -/
def leadingPower (numerator denominator : Nat) : Int :=
  let shift : Nat := 400
  let whole := numerator * Nat.pow 10 shift / denominator
  ((Nat.toDigits 10 whole).length : Int) - 1 - shift

/-- A quotient in units of a power of ten, as another quotient. -/
def scaleTen (numerator denominator : Nat) (power : Int) : Nat × Nat :=
  if power < 0 then (numerator * Nat.pow 10 (-power).toNat, denominator)
  else (numerator, denominator * Nat.pow 10 power.toNat)

/-- The decimal number of the given count of digits nearest to `numerator / denominator`
among its two neighbours, if one of them lies in the interval of the numbers that read
back as the same: `below` and `above` are its ends over the same denominator. -/
def decimalOfLength? (numerator below above denominator : Nat) (closed : Bool)
    (power : Int) (count : Nat) : Option Decimal :=
  let unit : Int := power - (count : Int) + 1
  let (n, d) := scaleTen numerator denominator unit
  let (lo, _) := scaleTen below denominator unit
  let (hi, _) := scaleTen above denominator unit
  let inside (candidate : Nat) : Bool :=
    if closed then lo ≤ candidate * d && candidate * d ≤ hi
    else lo < candidate * d && candidate * d < hi
  let down := n / d
  let up := down + 1
  let upIsNearer := d < 2 * (n % d) || (d = 2 * (n % d) && down % 2 = 1)
  let choose (candidate : Nat) : Decimal :=
    if candidate = Nat.pow 10 count then ⟨Nat.pow 10 (count - 1), power + 1⟩
    else ⟨candidate, power⟩
  match inside down, inside up with
  | true, true => some (choose (if upIsNearer then up else down))
  | true, false => some (choose down)
  | false, true => some (choose up)
  | false, false => none

/-- The shortest decimal number that reads back as `significand * 2 ^ exponent`. -/
def shortest (significand : Nat) (exponent : Int) : Decimal :=
  let numerator := 4 * significand
  let narrow := significand = Nat.pow 2 52 && exponent > leastExponent
  let below := numerator - (if narrow then 1 else 2)
  let above := numerator + 2
  let times := Nat.pow 2 (exponent - 2).toNat
  let denominator := Nat.pow 2 (2 - exponent).toNat
  let closed := significand % 2 = 0
  let power := leadingPower (numerator * times) denominator
  ((List.range' 1 17).findSome? (decimalOfLength? (numerator * times) (below * times)
    (above * times) denominator closed power)).getD ⟨significand, power⟩

end Binary64

/-- How floating point numbers are written. -/
structure FloatFormat where
  /-- Whether the point stays within the digits for this power of the first digit. -/
  positional : Int → Bool
  /-- The text of an exponent. -/
  exponentText : Int → String
  /-- What stands for an infinity. -/
  infinityText : String
  /-- What stands for no number. -/
  notANumberText : String

namespace FloatFormat

/-- Digits with the point in its place. -/
def placePoint (digits : List Char) (power : Int) : String :=
  let count : Int := digits.length
  if power < 0 then
    String.ofList ('0' :: '.' :: List.replicate (-power - 1).toNat '0' ++ digits)
  else if count ≤ power + 1 then
    String.ofList (digits ++ List.replicate (power + 1 - count).toNat '0' ++ ['.', '0'])
  else
    let (before, after) := digits.splitAt (power + 1).toNat
    String.ofList (before ++ '.' :: after)

/-- The digits of a decimal number without zeros at the end. -/
def significantDigits (decimal : Decimal) : List Char :=
  let digits := (Nat.toDigits 10 decimal.digits).reverse.dropWhile (· = '0')
  if digits.isEmpty then ['0'] else digits.reverse

/-- The text of a positive decimal number. -/
def decimalText (format : FloatFormat) (decimal : Decimal) : String :=
  let digits := significantDigits decimal
  if format.positional decimal.power then placePoint digits decimal.power
  else
    match digits with
    | first :: second :: rest =>
      String.ofList (first :: '.' :: second :: rest) ++ format.exponentText decimal.power
    | digits => String.ofList digits ++ format.exponentText decimal.power

/-- The text of a number. -/
def text (format : FloatFormat) : Binary64 → String
  | .finite negative significand exponent =>
    (if negative then "-" else "") ++
      if significand = 0 then "0.0" else format.decimalText (Binary64.shortest significand exponent)
  | .infinity negative => (if negative then "-" else "") ++ format.infinityText
  | .notANumber => format.notANumberText

/-- Exponents are written from `1e+16` on and below `1e-5`, with their sign. -/
def scientific : FloatFormat where
  positional power := -5 ≤ power && power < 16
  exponentText power := if power < 0 then s!"e{power}" else s!"e+{power}"
  infinityText := "inf"
  notANumberText := "NaN"

/-- No exponents are written. -/
def plain : FloatFormat where
  positional _ := true
  exponentText _ := ""
  infinityText := "inf"
  notANumberText := "NaN"

end FloatFormat

end LogForwarding
