import VehicleMarket.Decimal.Binary

/-!
The shortest decimal that reads back as a given binary number.
The reals that round to the number form an interval. The decimal grids are tried from the
coarsest on, each at its two points next to the number; the first grid with a point in the
interval gives the digits, and of two such points the nearer one.
-/
namespace VehicleMarket.Decimal

/-- A numeral is its digits, read as a natural number, times a power of ten. -/
structure Numeral where
  digits : Nat
  exponent : Int
  deriving DecidableEq, Repr

/-- Which of two equally near decimals is taken. -/
inductive Tie where
  | even
  | up
  deriving DecidableEq, Repr

/-- The reals that round to a number, in units of the least positive number divided by four. -/
structure Interval where
  low : Nat
  middle : Nat
  high : Nat
  closed : Bool
  deriving DecidableEq, Repr

/-- Below a power of two the neighbouring number is only half as far away. -/
def Interval.of (x : Binary64) : Interval :=
  let unit := twoTo x.scale
  let m := 4 * x.significand
  let below := if x.fraction = 0 && 1 < x.exponentField then 1 else 2
  ⟨(m - below) * unit, m * unit, (m + 2) * unit, x.significand % 2 == 0⟩

def Interval.holds (i : Interval) (point : Nat) : Bool :=
  if i.closed then i.low ≤ point && point ≤ i.high else i.low < point && point < i.high

def Interval.times (i : Interval) (factor : Nat) : Interval :=
  ⟨i.low * factor, i.middle * factor, i.high * factor, i.closed⟩

def decimalLength (n : Nat) : Nat :=
  (Nat.toDigits 10 n).length

/-- One more than the decimal exponent of the leading digit. -/
def Interval.magnitude (i : Interval) : Int :=
  (decimalLength (i.middle * tenTo 325 / twoTo 1076) : Int) - 325

/-- The point of the grid of multiples of a power of ten that stands for the interval. -/
def Interval.gridPoint? (i : Interval) (tie : Tie) (exponent : Int) : Option Nat :=
  let stretched := i.times (tenTo (-exponent).toNat)
  let step := twoTo 1076 * tenTo exponent.toNat
  let below := stretched.middle / step
  let above := below + 1
  match stretched.holds (below * step), stretched.holds (above * step) with
  | false, false => none
  | true, false => some below
  | false, true => some above
  | true, true =>
    let down := stretched.middle - below * step
    let up := above * step - stretched.middle
    if down < up then some below
    else if up < down then some above
    else match tie with
      | .even => some (if below % 2 = 0 then below else above)
      | .up => some above

/-- Tries ever finer grids, a digit more at each. -/
def Interval.search (i : Interval) (tie : Tie) (exponent : Int) : Nat → Numeral
  | 0 => ⟨i.middle * tenTo (-exponent).toNat / (twoTo 1076 * tenTo exponent.toNat), exponent⟩
  | tries + 1 =>
    match i.gridPoint? tie exponent with
    | some digits => ⟨digits, exponent⟩
    | none => i.search tie (exponent - 1) tries

def Numeral.trimmed (d : Numeral) : Nat → Numeral
  | 0 => d
  | allowed + 1 =>
    if d.digits ≠ 0 && d.digits % 10 = 0 then
      Numeral.trimmed ⟨d.digits / 10, d.exponent + 1⟩ allowed
    else d

/-- The shortest decimal of a finite number's size; zero is the digit zero. -/
def shortest (tie : Tie) (x : Binary64) : Numeral :=
  if x.units = 0 then ⟨0, 0⟩
  else
    let interval := Interval.of x
    (interval.search tie (interval.magnitude - 1) 17).trimmed 17

end VehicleMarket.Decimal
