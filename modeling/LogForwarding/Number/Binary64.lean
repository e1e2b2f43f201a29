/-!
# Binary floating point numbers

A binary floating point number of 64 bits is a whole significand of at most 53 bits
times a power of two, an infinity, or not a number at all. `Binary64.ofRatio` gives
the number nearest to a quotient, to the even neighbour if two are equally near.
-/

namespace LogForwarding

/-- A binary floating point number of 64 bits. -/
inductive Binary64 where
  /-- The number `significand * 2 ^ exponent`, with its sign. The significand is below
  `2 ^ 53`, and not below `2 ^ 52` unless the exponent is the least one, `-1074`. -/
  | finite (negative : Bool) (significand : Nat) (exponent : Int)
  /-- A number too large to write. -/
  | infinity (negative : Bool)
  /-- Not a number. -/
  | notANumber
  deriving DecidableEq, Repr, Inhabited

namespace Binary64

/-- The least exponent. -/
def leastExponent : Int := -1074

/-- The greatest exponent. -/
def greatestExponent : Int := 971

/-- The whole number nearest to a quotient, the even one of two equally near. -/
def roundDiv (numerator denominator : Nat) : Nat :=
  let quotient := numerator / denominator
  let twice := 2 * (numerator % denominator)
  if twice < denominator then quotient
  else if denominator < twice then quotient + 1
  else quotient + quotient % 2

/-- A quotient in units of `2 ^ exponent`, as another quotient. -/
def scale (numerator denominator : Nat) (exponent : Int) : Nat × Nat :=
  if exponent < 0 then (numerator * Nat.pow 2 (-exponent).toNat, denominator)
  else (numerator, denominator * Nat.pow 2 exponent.toNat)

/-- The exponent at which a positive quotient has 53 bits before the point, or the
least one if that is too small. -/
def exponentOf (numerator denominator : Nat) : Int :=
  let guess : Int := (numerator.log2 : Int) - (denominator.log2 : Int) - 53
  let (scaled, unit) := scale numerator denominator guess
  let exponent := if scaled / unit < Nat.pow 2 53 then guess else guess + 1
  max exponent leastExponent

/-- The number nearest to a quotient. -/
def ofRatio (negative : Bool) (numerator denominator : Nat) : Binary64 :=
  if numerator = 0 then finite negative 0 leastExponent
  else
    let exponent := exponentOf numerator denominator
    let (scaled, unit) := scale numerator denominator exponent
    let significand := roundDiv scaled unit
    let (significand, exponent) :=
      if significand = Nat.pow 2 53 then (Nat.pow 2 52, exponent + 1) else (significand, exponent)
    if exponent > greatestExponent then infinity negative
    else finite negative significand exponent

/-- The number nearest to `digits * 10 ^ power`. A number with its first digit far
outside the range of the format is rounded without computing the power. -/
def ofDecimal (negative : Bool) (digits : Nat) (power : Int) : Binary64 :=
  let order := ((Nat.toDigits 10 digits).length : Int) + power
  if digits = 0 || order < -400 then finite negative 0 leastExponent
  else if order > 400 then infinity negative
  else if power < 0 then ofRatio negative digits (Nat.pow 10 (-power).toNat)
  else ofRatio negative (digits * Nat.pow 10 power.toNat) 1

/-- The number nearest to `significand * 2 ^ exponent / divisor`. -/
def ofScaled (negative : Bool) (significand : Nat) (exponent : Int) (divisor : Nat) : Binary64 :=
  if exponent < 0 then ofRatio negative significand (divisor * Nat.pow 2 (-exponent).toNat)
  else ofRatio negative (significand * Nat.pow 2 exponent.toNat) divisor

/-- The product of two positive numbers, rounded. -/
def times : Binary64 → Binary64 → Binary64
  | finite _ m p, finite _ n q => ofScaled false (m * n) (p + q) 1
  | _, _ => infinity false

/-- The quotient of two positive numbers, rounded. -/
def dividedBy : Binary64 → Binary64 → Binary64
  | finite _ m p, finite _ n q => ofScaled false m (p - q) n
  | _, _ => infinity false

/-- The number with the given sign. -/
def withSign (negative : Bool) : Binary64 → Binary64
  | finite _ m q => finite negative m q
  | infinity _ => infinity negative
  | notANumber => notANumber

/-- Whether the number is one of the two zeros. -/
def isZero : Binary64 → Bool
  | finite _ m _ => m = 0
  | _ => false

/-- Whether the number has a value. -/
def isFinite : Binary64 → Bool
  | finite _ _ _ => true
  | _ => false

/-- Whether two numbers are the same key. The two zeros are, and what is not a number
is the same as itself. -/
def sameValue : Binary64 → Binary64 → Bool
  | finite _ 0 _, finite _ 0 _ => true
  | a, b => a == b

end Binary64

end LogForwarding
