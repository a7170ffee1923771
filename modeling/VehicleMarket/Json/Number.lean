import VehicleMarket.Decimal.Notation
import VehicleMarket.Json.Fault
import VehicleMarket.Json.Value

/-!
Numbers in JSON text. Digits are gathered into a significand of 64 bits; digits that no longer
fit only move the exponent. A number with a point, an exponent or too many digits is binary: its
significand is rounded, then multiplied or divided once by a rounded power of ten, so it need not
be the nearest to the decimal that was written.
-/
namespace VehicleMarket.Json

open Decimal (isDigit digitValue)

def largestSignificand : Nat := 18446744073709551615

def largestExponent : Nat := 2147483647

def gather (limit : Nat) (n count : Nat) : List Char → Nat × Nat × List Char
  | [] => (n, count, [])
  | c :: rest =>
    if isDigit c && 10 * n + digitValue c ≤ limit then
      gather limit (10 * n + digitValue c) (count + 1) rest
    else (n, count, c :: rest)

def startsWithDigit : List Char → Bool
  | [] => false
  | c :: _ => isDigit c

def powerOfTen (n : Nat) : Binary64 :=
  Binary64.ofNat (tenTo n)

/-- Divides by a power of ten, 308 places at a time. -/
def divideByPower (x : Binary64) (n : Nat) : Nat → Binary64
  | 0 => x
  | steps + 1 =>
    if n ≤ 308 then x.divFinite (powerOfTen n)
    else if x.units = 0 then x
    else divideByPower (x.divFinite (powerOfTen 308)) (n - 308) steps

def scaled? (significand : Nat) (exponent : Int) : Option Binary64 :=
  let x := Binary64.ofNat significand
  if exponent < 0 then some (divideByPower x exponent.natAbs 4)
  else if exponent ≤ 308 then
    let product := x.mulFinite (powerOfTen exponent.toNat)
    if product.isInfinite then none else some product
  else if x.units = 0 then some x
  else none

def withSign (negative : Bool) (x : Binary64) : Binary64 :=
  if negative then x.neg else x

def finishFloat (negative : Bool) (significand : Nat) (exponent : Int) (rest : List Char) :
    Reading Json :=
  match scaled? significand exponent with
  | some x => .ok (.float (withSign negative x), rest)
  | none => stopAt .numberOutOfRange rest

/-- Exponents beyond 32 bits stay at the end of that range. -/
def clampExponent (n : Int) : Int :=
  max (-2147483648) (min n 2147483647)

/-- The digits of an exponent. One that is too large gives zero or is out of range. -/
def readExponentDigits (negative : Bool) (significand : Nat) (start : Int)
    (negativeExponent : Bool) (cs : List Char) : Reading Json :=
  let (n, _, rest) := gather largestExponent 0 0 cs
  if startsWithDigit rest then
    if significand ≠ 0 && !negativeExponent then stopAt .numberOutOfRange (rest.drop 1)
    else .ok (.float (Binary64.zero negative), rest.dropWhile isDigit)
  else
    let exponent := if negativeExponent then start - n else start + n
    finishFloat negative significand (clampExponent exponent) rest

def readExponent (negative : Bool) (significand : Nat) (start : Int) (cs : List Char) :
    Reading Json :=
  let (negativeExponent, digits) := match cs with
    | '+' :: rest => (false, rest)
    | '-' :: rest => (true, rest)
    | rest => (false, rest)
  match digits with
  | [] => stopAt .endInValue []
  | c :: rest =>
    if isDigit c then readExponentDigits negative significand start negativeExponent (c :: rest)
    else stopOn .invalidNumber (c :: rest)

def readScale (negative : Bool) (significand : Nat) (exponent : Int) (cs : List Char) :
    Reading Json :=
  match cs with
  | 'e' :: rest | 'E' :: rest => readExponent negative significand exponent rest
  | rest => finishFloat negative significand exponent rest

def readPlaces (negative : Bool) (significand : Nat) (exponent : Int) (cs : List Char) :
    Reading Json :=
  let (n, count, rest) := gather largestSignificand significand 0 cs
  if startsWithDigit rest then readScale negative n (exponent - count) (rest.dropWhile isDigit)
  else if count = 0 then
    match rest with
    | [] => stopAt .endInValue []
    | c :: rest => stopOn .invalidNumber (c :: rest)
  else readScale negative n (exponent - count) rest

/-- What follows a significand, some of whose digits may have been left out. -/
def readFraction (negative : Bool) (significand : Nat) (exponent : Int) (cs : List Char) :
    Reading Json :=
  match cs with
  | '.' :: rest => readPlaces negative significand exponent rest
  | rest => readScale negative significand exponent rest

/-- Whole numbers of 64 bits stay whole; minus zero and others do not. -/
def wholeNumber (negative : Bool) (significand : Nat) : Json :=
  if !negative then .int significand
  else if 0 < significand && significand ≤ 9223372036854775808 then .int (-(significand : Int))
  else .float (Binary64.ofNat significand).neg

def endsWhole : List Char → Bool
  | '.' :: _ | 'e' :: _ | 'E' :: _ => false
  | _ => true

def readNumber (negative : Bool) (cs : List Char) : Reading Json :=
  match cs with
  | [] => stopAt .endInValue []
  | c :: rest =>
    if !isDigit c then stopOn .invalidNumber (c :: rest)
    else if c = '0' && startsWithDigit rest then stopOn .invalidNumber rest
    else
      let (n, _, after) := gather largestSignificand 0 0 (c :: rest)
      if startsWithDigit after then
        readFraction negative n (after.takeWhile isDigit).length (after.dropWhile isDigit)
      else if endsWhole after then .ok (wholeNumber negative n, after)
      else readFraction negative n 0 after

end VehicleMarket.Json
