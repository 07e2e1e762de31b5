/-! Binary64 numbers as exact values, and their rounding from a quotient of natural numbers. Nothing
here uses the machine's floating-point arithmetic: a finite number is a sign, a significand below
2^53 and a power of two, in the form with the largest significand that the exponent range allows. -/
namespace DirectoryQuery

inductive Binary64
  | nan
  | infinite (negative : Bool)
  | finite (negative : Bool) (significand : Nat) (exponent : Int)
  deriving DecidableEq, Repr

namespace Binary64

def twoTo (exponent : Nat) : Nat := Nat.pow 2 exponent
def tenTo (exponent : Nat) : Nat := Nat.pow 10 exponent

def leastExponent : Int := -1074
def greatestExponent : Int := 971

/-- The natural number next to a quotient, the even one of two that are equally near. -/
def nearestEven (numerator denominator : Nat) : Nat :=
  let floor := numerator / denominator
  let rest := 2 * (numerator % denominator)
  if rest < denominator then floor
  else if denominator < rest then floor + 1
  else floor + floor % 2

/-- A quotient divided by a power of two. -/
def descale (numerator denominator : Nat) (exponent : Int) : Nat × Nat :=
  if 0 ≤ exponent then (numerator, denominator * twoTo exponent.toNat)
  else (numerator * twoTo (-exponent).toNat, denominator)

/-- The exponent that brings a positive quotient between 2^52 and 2^53, or the least there is. -/
def exponentOf (numerator denominator : Nat) : Int :=
  let low : Int := (numerator.log2 : Int) - denominator.log2 - 53
  let (top, bottom) := descale numerator denominator low
  max leastExponent (if twoTo 53 ≤ top / bottom then low + 1 else low)

/-- The binary64 number nearest to a quotient, with ties to the even significand. What rounds beyond
the largest finite number is infinite. -/
def ofQuotient (negative : Bool) (numerator denominator : Nat) : Binary64 :=
  if numerator = 0 then finite negative 0 leastExponent
  else
    let exponent := exponentOf numerator denominator
    let (top, bottom) := descale numerator denominator exponent
    let rounded := nearestEven top bottom
    let (significand, exponent) :=
      if rounded = twoTo 53 then (twoTo 52, exponent + 1) else (rounded, exponent)
    if greatestExponent < exponent then infinite negative
    else finite negative significand exponent

/-- The number nearest to `digits · 10^exponent`. Powers far outside the range are decided by the
count of digits alone, so that a huge exponent costs nothing. -/
def ofDecimal (negative : Bool) (digits : Nat) (exponent : Int) : Binary64 :=
  let magnitude : Int := (Nat.toDigits 10 digits).length + exponent
  if digits = 0 || magnitude < -330 then finite negative 0 leastExponent
  else if 310 < magnitude then infinite negative
  else if 0 ≤ exponent then ofQuotient negative (digits * tenTo exponent.toNat) 1
  else ofQuotient negative digits (tenTo (-exponent).toNat)

def isZero : Binary64 → Bool
  | finite _ significand _ => significand == 0
  | _ => false

/-- The number as an integer divided by `2^1074`, if it is finite. -/
def units? : Binary64 → Option Int
  | finite negative significand exponent =>
    let magnitude : Int := significand * twoTo (exponent - leastExponent).toNat
    some (if negative then -magnitude else magnitude)
  | _ => none

/-- Numerical equality: zero has one value, and nothing equals what is not a number. -/
def agrees : Binary64 → Binary64 → Bool
  | nan, _ | _, nan => false
  | infinite negative, infinite other => negative == other
  | x, y => x.units?.isSome && x.units? == y.units?

def agreesInt (x : Binary64) (n : Int) : Bool := x.units? == some (n * twoTo 1074)

end Binary64

end DirectoryQuery
