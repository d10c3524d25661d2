/-
Finite double-precision numbers.

A double is a sign, a significand below `2^53` and a power of two, so its value is an exact
ratio and every operation is arithmetic of natural numbers followed by one rounding: to the
nearest double, a half going to the even significand. A magnitude beyond the greatest double has
no value here.
-/

namespace Podkeeper

namespace Double

/-- The least exponent; doubles below `2^52` units of it are subnormal. -/
def minExponent : Int := -1074

def maxExponent : Int := 971

/-- The least significand of 53 bits, `2^52`. -/
def leastFull : Nat := 4503599627370496

/-- There is a double of these parts: the significand has 53 bits, or fewer with the least
exponent. -/
def Fits (significand : Nat) (exponent : Int) : Prop :=
  significand < 2 * leastFull ∧ (leastFull ≤ significand ∨ exponent = minExponent) ∧
    minExponent ≤ exponent ∧ exponent ≤ maxExponent

instance (significand : Nat) (exponent : Int) : Decidable (Fits significand exponent) :=
  inferInstanceAs (Decidable (_ ∧ _))

end Double

/-- The number `±significand · 2^exponent`. -/
structure Double where
  negative : Bool
  significand : Nat
  exponent : Int
  fits : Double.Fits significand exponent
deriving DecidableEq, Repr

namespace Double

def zero (negative : Bool) : Double := ⟨negative, 0, minExponent, by decide⟩

/-- The double of these parts, if there is one. -/
def ofParts? (negative : Bool) (significand : Nat) (exponent : Int) : Option Double :=
  if fits : Fits significand exponent then some ⟨negative, significand, exponent, fits⟩ else none

/-- The value is zero, of either sign. -/
def isZero (x : Double) : Bool := x.significand == 0

/-- The same magnitude with another sign. -/
def withSign (negative : Bool) (x : Double) : Double := { x with negative }

def ratio (x : Double) : Nat × Nat :=
  if 0 ≤ x.exponent then (x.significand * Nat.pow 2 x.exponent.toNat, 1)
  else (x.significand, Nat.pow 2 (-x.exponent).toNat)

/-- `num / den` in units of `2^exponent`, as a ratio. -/
def inUnits (num den : Nat) (exponent : Int) : Nat × Nat :=
  if 0 ≤ exponent then (num, den * Nat.pow 2 exponent.toNat)
  else (num * Nat.pow 2 (-exponent).toNat, den)

/-- The quotient rounded to the nearest natural number, a half to the even one. -/
def roundDiv (num den : Nat) : Nat :=
  let q := num / den
  let twice := 2 * (num % den)
  if twice < den then q else if den < twice then q + 1 else if q % 2 = 0 then q else q + 1

/-- The exponent at which `num / den` has 53 bits, or the least one. -/
def exponentOf (num den : Nat) : Int :=
  let guess : Int := num.log2 - den.log2 - 52
  let (n, d) := inUnits num den guess
  let exact := if n / d < leastFull then guess - 1 else guess
  max exact minExponent

/-- The double nearest to `num / den`; none if that is beyond the greatest. -/
def ofRatio (negative : Bool) (num den : Nat) : Option Double :=
  if num = 0 then some (zero negative)
  else
    let e := exponentOf num den
    let (n, d) := inUnits num den e
    let m := roundDiv n d
    let (m, e) := if m = 2 * leastFull then (leastFull, e + 1) else (m, e)
    ofParts? negative m e

/-- The double nearest to a natural number. -/
def ofNat (n : Nat) : Option Double := ofRatio false n 1

/-- The product of two magnitudes, rounded. -/
def mul (x y : Double) : Option Double :=
  let (a, b) := x.ratio
  let (c, d) := y.ratio
  ofRatio false (a * c) (b * d)

/-- The quotient of two magnitudes, rounded; the divisor is not zero. -/
def div (x y : Double) : Option Double :=
  let (a, b) := x.ratio
  let (c, d) := y.ratio
  ofRatio false (a * d) (b * c)

/-- The powers of ten from `10^0` to `10^308` are doubles after one rounding. -/
def pow10 (k : Nat) : Option Double := ofNat (Nat.pow 10 k)

/-- Divides by `10^308` until the remaining power is in range; zero stays zero. -/
def scaleDown (fuel : Nat) (x : Double) (k : Nat) : Option Double :=
  match fuel with
  | 0 => some x
  | fuel + 1 =>
    if k ≤ 308 then do x.div (← pow10 k)
    else if x.isZero then some x
    else do scaleDown fuel (← x.div (← pow10 308)) (k - 308)

/-- `significand · 10^exponent` in two roundings, first of the significand and then of the
product or quotient; none if the result is too great. -/
def ofDecimal (negative : Bool) (significand : Nat) (exponent : Int) : Option Double := do
  let x ← ofNat significand
  let y ←
    if exponent < 0 then scaleDown ((-exponent).toNat / 308 + 1) x (-exponent).toNat
    else if exponent ≤ 308 then x.mul (← pow10 exponent.toNat)
    else if x.isZero then some x
    else none
  some (y.withSign negative)

end Double

end Podkeeper
