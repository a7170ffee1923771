import VehicleMarket.Decimal.Shortest

/-!
How decimals are written and read: positional or with an exponent, with a fixed number of
places, and the reading of a decimal text, which rounds its exact value once.
-/
namespace VehicleMarket.Decimal

def digitChars (n : Nat) : List Char :=
  Nat.toDigits 10 n

def positional (d : Numeral) : List Char :=
  let digits := digitChars d.digits
  let point := (digits.length : Int) + d.exponent
  if 0 ≤ d.exponent then digits ++ List.replicate d.exponent.toNat '0'
  else if 0 < point then digits.take point.toNat ++ '.' :: digits.drop point.toNat
  else '0' :: '.' :: (List.replicate (-point).toNat '0' ++ digits)

def scientific (d : Numeral) : List Char :=
  let digits := digitChars d.digits
  let exponent := (digits.length : Int) - 1 + d.exponent
  let head := match digits with
    | [] => ['0']
    | [digit] => [digit]
    | digit :: rest => digit :: '.' :: rest
  head ++ 'e' :: (if exponent < 0 then '-' else '+') :: digitChars exponent.natAbs

def signed (negative : Bool) (text : List Char) : List Char :=
  if negative then '-' :: text else text

/-- The spelling in JSON text of a finite number: positional with at least one place where the
leading digit stands between the fifth place and the sixteenth position, else scientific. -/
def jsonSpelling (x : Binary64) : List Char :=
  let d := shortest .even x
  let exponent := (decimalLength d.digits : Int) - 1 + d.exponent
  signed x.negative <|
    if -5 ≤ exponent && exponent ≤ 15 then
      if 0 ≤ d.exponent then positional d ++ ['.', '0'] else positional d
    else scientific d

def unboundedSpelling (x : Binary64) : List Char :=
  if x.isNaN then ['N', 'a', 'N'] else signed x.negative ['i', 'n', 'f']

/-- The spelling in messages: always positional, and as short as it can be. -/
def plainSpelling (x : Binary64) : List Char :=
  if x.isFinite then signed x.negative (positional (shortest .up x)) else unboundedSpelling x

/-- Amounts have two places; a half goes to the even neighbour. -/
def amountSpelling (x : Binary64) : List Char :=
  if x.isFinite then
    let hundredths := Binary64.roundQuotient (x.units * 100) (twoTo 1074)
    let places := digitChars (hundredths % 100)
    signed x.negative
      (digitChars (hundredths / 100) ++ '.' :: (List.replicate (2 - places.length) '0' ++ places))
  else unboundedSpelling x

def isDigit (c : Char) : Bool :=
  '0' ≤ c && c ≤ '9'

def digitValue (c : Char) : Nat :=
  c.toNat - '0'.toNat

def ofDigits (cs : List Char) : Nat :=
  cs.foldl (fun n c => 10 * n + digitValue c) 0

/-- The number nearest to a decimal; exponents far outside the range are not computed out. -/
def nearest (negative : Bool) (d : Numeral) : Binary64 :=
  let magnitude := (decimalLength d.digits : Int) + d.exponent
  if d.digits = 0 || magnitude < -400 then Binary64.zero negative
  else if 400 < magnitude then Binary64.infinity negative
  else Binary64.ofRatio negative (d.digits * tenTo d.exponent.toNat) (tenTo (-d.exponent).toNat)

def readExponent? : List Char → Option Int
  | [] => some 0
  | mark :: rest =>
    if mark = 'e' || mark = 'E' then
      let (negative, digits) := match rest with
        | '-' :: ds => (true, ds)
        | '+' :: ds => (false, ds)
        | ds => (false, ds)
      if digits.isEmpty || !digits.all isDigit then none
      else
        let n := ofDigits digits
        some (if negative then -(n : Int) else n)
    else none

def readUnsigned? (negative : Bool) (cs : List Char) : Option Binary64 :=
  let whole := cs.takeWhile isDigit
  let (places, rest) := match cs.dropWhile isDigit with
    | '.' :: rest => (rest.takeWhile isDigit, rest.dropWhile isDigit)
    | rest => ([], rest)
  if whole.isEmpty && places.isEmpty then none
  else (readExponent? rest).map fun exponent =>
    nearest negative ⟨ofDigits (whole ++ places), exponent - places.length⟩

/-- Reads a decimal text, or one of the names of infinity and NaN in any case. -/
def read? (text : String) : Option Binary64 :=
  let (negative, rest) := match text.toList with
    | '-' :: cs => (true, cs)
    | '+' :: cs => (false, cs)
    | cs => (false, cs)
  let name := String.ofList (rest.map Char.toLower)
  if name = "inf" || name = "infinity" then some (Binary64.infinity negative)
  else if name = "nan" then some Binary64.nan
  else readUnsigned? negative rest

end VehicleMarket.Decimal
