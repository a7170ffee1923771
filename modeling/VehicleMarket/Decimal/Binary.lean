import VehicleMarket.Decimal.Power

/-!
Binary floating-point numbers of 64 bits, computed exactly on natural numbers.
A finite number is a sign, a significand and a power of two; every operation takes the exact
result and rounds it once, to the nearest number and at a tie to the even significand.
-/
namespace VehicleMarket

/-- The bits are sign, eleven bits of exponent and fifty-two bits of fraction. -/
structure Binary64 where
  bits : UInt64
  deriving DecidableEq, Repr

namespace Binary64

def negative (x : Binary64) : Bool :=
  x.bits.toNat / twoTo 63 == 1

def exponentField (x : Binary64) : Nat :=
  x.bits.toNat / twoTo 52 % 2048

def fraction (x : Binary64) : Nat :=
  x.bits.toNat % twoTo 52

def isFinite (x : Binary64) : Bool :=
  x.exponentField != 2047

def isInfinite (x : Binary64) : Bool :=
  x.exponentField == 2047 && x.fraction == 0

def isNaN (x : Binary64) : Bool :=
  x.exponentField == 2047 && x.fraction != 0

def significand (x : Binary64) : Nat :=
  if x.exponentField = 0 then x.fraction else twoTo 52 + x.fraction

/-- A finite number is its significand times two to this power, less 1074. -/
def scale (x : Binary64) : Nat :=
  x.exponentField - 1

/-- The size of a finite number in units of the least positive one. -/
def units (x : Binary64) : Nat :=
  x.significand * twoTo x.scale

def signedUnits (x : Binary64) : Int :=
  if x.negative then -(x.units : Int) else x.units

def ofFields (negative : Bool) (rest : Nat) : Binary64 :=
  ⟨UInt64.ofNat ((if negative then twoTo 63 else 0) + rest)⟩

def infinity (negative : Bool) : Binary64 :=
  ofFields negative (2047 * twoTo 52)

def nan : Binary64 :=
  ofFields false (2047 * twoTo 52 + twoTo 51)

def zero (negative : Bool) : Binary64 :=
  ofFields negative 0

/-- The quotient rounded to the nearest integer, a half to the even one. -/
def roundQuotient (num den : Nat) : Nat :=
  let q := num / den
  let r := num % den
  if 2 * r < den then q
  else if den < 2 * r then q + 1
  else q + q % 2

/-- The power of two, above -1074, in whose multiples a quotient of units is rounded:
the least that leaves at most fifty-three binary places. -/
def roundingScale (num den : Nat) : Nat :=
  let quotient := num / den
  if quotient < twoTo 53 then 0 else quotient.log2 - 52

/-- The number nearest to num / den units of the least positive number. -/
def ofUnits (negative : Bool) (num den : Nat) : Binary64 :=
  let scale := roundingScale num den
  let rest := scale * twoTo 52 + roundQuotient num (den * twoTo scale)
  if rest < 2047 * twoTo 52 then ofFields negative rest else infinity negative

def ofRatio (negative : Bool) (num den : Nat) : Binary64 :=
  ofUnits negative (num * twoTo 1074) den

def ofNat (n : Nat) : Binary64 :=
  ofRatio false n 1

def ofInt (n : Int) : Binary64 :=
  ofRatio (n < 0) n.natAbs 1

def neg (x : Binary64) : Binary64 :=
  ofFields (!x.negative) (x.bits.toNat % twoTo 63)

/-- The exact sum rounded; a sum of zero is positive unless both parts are negative. -/
def add (x y : Binary64) : Binary64 :=
  if x.isNaN || y.isNaN then nan
  else if x.isInfinite then
    if y.isInfinite && x.negative != y.negative then nan else x
  else if y.isInfinite then y
  else
    let sum := x.signedUnits + y.signedUnits
    if sum = 0 then zero (x.negative && y.negative)
    else ofUnits (sum < 0) sum.natAbs 1

def mulFinite (x y : Binary64) : Binary64 :=
  ofUnits (x.negative != y.negative) (x.units * y.units) (twoTo 1074)

def divFinite (x y : Binary64) : Binary64 :=
  ofUnits (x.negative != y.negative) (x.units * twoTo 1074) y.units

/-- Order of numbers; nothing is less than or equal to NaN. -/
def le (x y : Binary64) : Bool :=
  if x.isNaN || y.isNaN then false
  else if x.isInfinite then x.negative || (y.isInfinite && !y.negative)
  else if y.isInfinite then !y.negative
  else x.signedUnits ≤ y.signedUnits

def lt (x y : Binary64) : Bool :=
  !x.isNaN && !y.isNaN && !le y x

/-- Equality of numbers: the two zeros are equal and NaN equals nothing. -/
def same (x y : Binary64) : Bool :=
  le x y && le y x

end Binary64

end VehicleMarket
