import DirectoryQuery.Number.Binary64

/-! The text of a binary64 number: the fewest significant digits that read back as the number, and of
these the nearest, laid out positionally for moderate exponents and with a power of ten otherwise. -/
namespace DirectoryQuery

/-- The number `0.d₁d₂…dₙ · 10^point`. -/
structure Decimal where
  digits : List Char
  point : Int

/-- How a decimal is laid out: the exponents of the first digit that are written positionally, and the
least number of digits of a written exponent. -/
structure Layout where
  firstPositional : Int
  firstBeyond : Int
  exponentDigits : Nat

/-- Positional from 10^-4 to below 10^16, and exponents of at least two digits. -/
def Layout.common : Layout := ⟨-4, 16, 2⟩

namespace Binary64

/-- The numbers that round to `significand · 2^exponent`, as four times the significand and the two
ends on the scale `2^(exponent - 2)`. Below a power of two the neighbour is only half as far. -/
def interval (significand : Nat) (exponent : Int) : Nat × Nat × Nat :=
  let below := if significand = twoTo 52 ∧ leastExponent < exponent then 1 else 2
  (4 * significand - below, 4 * significand, 4 * significand + 2)

/-- The exponent `p` with `10^(p-1) ≤ numerator / denominator < 10^p`. Scaled by 10^350, every
positive binary64 number has a digit before its point. -/
def decimalExponent (numerator denominator : Nat) : Int :=
  (Nat.toDigits 10 (numerator * tenTo 350 / denominator)).length - 350

/-- The decimal of the given number of digits that lies in the interval and nearest to the value, if
the interval holds one. All four bounds are numerators over one denominator. -/
def onGrid? (low value high denominator : Nat) (closed : Bool) (p : Int) (count : Nat) : Option Nat :=
  let shift : Int := p - count
  let (step, scale) : Nat × Nat :=
    if 0 ≤ shift then (denominator * tenTo shift.toNat, 1)
    else (denominator, tenTo (-shift).toNat)
  let floor := value * scale / step
  let inside (k : Nat) : Bool :=
    if closed then low * scale ≤ k * step && k * step ≤ high * scale
    else low * scale < k * step && k * step < high * scale
  let nearest := nearestEven (value * scale) step
  if inside nearest then some nearest
  else if inside floor then some floor
  else if inside (floor + 1) then some (floor + 1)
  else none

/-- Seventeen digits always suffice, so the search ends with a result. -/
def shortest (significand : Nat) (exponent : Int) : Decimal :=
  let (low, value, high) := interval significand exponent
  let power := exponent - 2
  let (factor, denominator) : Nat × Nat :=
    if 0 ≤ power then (twoTo power.toNat, 1) else (1, twoTo (-power).toNat)
  let p := decimalExponent (value * factor) denominator
  let found := (List.range 17).findSome? fun less =>
    (onGrid? (low * factor) (value * factor) (high * factor) denominator
      (significand % 2 == 0) p (less + 1)).map fun k => (k, p - (less + 1))
  let (k, shift) := found.getD (0, 0)
  let digits := Nat.toDigits 10 k
  ⟨(digits.reverse.dropWhile (· == '0')).reverse, digits.length + shift⟩

end Binary64

def Decimal.written (layout : Layout) (d : Decimal) : List Char :=
  let exponent := d.point - 1
  let size : Int := d.digits.length
  if layout.firstPositional ≤ exponent ∧ exponent < layout.firstBeyond then
    if d.point ≤ 0 then '0' :: '.' :: List.replicate (-d.point).toNat '0' ++ d.digits
    else if size ≤ d.point then d.digits ++ List.replicate (d.point - size).toNat '0' ++ ['.', '0']
    else d.digits.take d.point.toNat ++ '.' :: d.digits.drop d.point.toNat
  else
    let power := Nat.toDigits 10 exponent.natAbs
    d.digits.take 1 ++ (if d.digits.length ≤ 1 then [] else '.' :: d.digits.drop 1) ++
      ['e', if exponent < 0 then '-' else '+'] ++
      List.replicate (layout.exponentDigits - power.length) '0' ++ power

def Binary64.text (layout : Layout) : Binary64 → String
  | nan => "nan"
  | infinite negative => if negative then "-inf" else "inf"
  | finite negative significand exponent =>
    let magnitude :=
      if significand = 0 then ['0', '.', '0']
      else (shortest significand exponent).written layout
    String.ofList (if negative then '-' :: magnitude else magnitude)

end DirectoryQuery
