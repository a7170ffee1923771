import VehicleMarket.Decimal.Notation
import VehicleMarket.Toml.Fault
import VehicleMarket.Toml.Value

/-!
TOML values that are one word: booleans, whole numbers in four bases, decimal numbers, and dates
and times, which must exist in the calendar.
-/
namespace VehicleMarket.Toml

open Decimal (isDigit ofDigits)

def hexDigit? (c : Char) : Option Nat :=
  if isDigit c then some (c.toNat - 48)
  else if 'a' ≤ c && c ≤ 'f' then some (c.toNat - 87)
  else if 'A' ≤ c && c ≤ 'F' then some (c.toNat - 55)
  else none

def isDigitIn (base : Nat) (c : Char) : Bool :=
  match hexDigit? c with
  | some d => d < base
  | none => false

def ungrouped? (base : Nat) : List Char → Option (List Char)
  | [] => none
  | [c] => if isDigitIn base c then some [c] else none
  | c :: '_' :: rest =>
    if isDigitIn base c then (ungrouped? base rest).map (c :: ·) else none
  | c :: rest => if isDigitIn base c then (ungrouped? base rest).map (c :: ·) else none

def numberIn (base : Nat) (digits : List Char) : Nat :=
  digits.foldl (fun n c => base * n + (hexDigit? c).getD 0) 0

/-- Decimal digits; a zero in front stands alone. -/
def wholeDigits? (cs : List Char) : Option (List Char) :=
  match ungrouped? 10 cs with
  | some ('0' :: _ :: _) => none
  | digits => digits

def splitSign : List Char → Bool × List Char
  | '-' :: rest => (true, rest)
  | '+' :: rest => (false, rest)
  | cs => (false, cs)

def integer? (cs : List Char) : Option Int :=
  match cs with
  | '0' :: 'x' :: rest => (ungrouped? 16 rest).map fun ds => (numberIn 16 ds : Int)
  | '0' :: 'o' :: rest => (ungrouped? 8 rest).map fun ds => (numberIn 8 ds : Int)
  | '0' :: 'b' :: rest => (ungrouped? 2 rest).map fun ds => (numberIn 2 ds : Int)
  | cs =>
    let (negative, digits) := splitSign cs
    (wholeDigits? digits).map fun ds =>
      if negative then -(numberIn 10 ds : Int) else numberIn 10 ds

def isGrouped (c : Char) : Bool :=
  isDigit c || c = '_'

def exponent? : List Char → Option (List Char)
  | [] => some []
  | mark :: rest =>
    if mark = 'e' || mark = 'E' then
      match rest with
      | '-' :: ds => (ungrouped? 10 ds).map fun ds => 'e' :: '-' :: ds
      | '+' :: ds => (ungrouped? 10 ds).map fun ds => 'e' :: ds
      | ds => (ungrouped? 10 ds).map fun ds => 'e' :: ds
    else none

def places? : List Char → Option (List Char)
  | [] => none
  | '.' :: rest =>
    match ungrouped? 10 (rest.takeWhile isGrouped), exponent? (rest.dropWhile isGrouped) with
    | some ds, some e => some ('.' :: ds ++ e)
    | _, _ => none
  | cs => exponent? cs

def floatText? (cs : List Char) : Option (List Char) :=
  match cs with
  | ['i', 'n', 'f'] | ['n', 'a', 'n'] => some cs
  | cs =>
    match wholeDigits? (cs.takeWhile isGrouped), places? (cs.dropWhile isGrouped) with
    | some whole, some places => some (whole ++ places)
    | _, _ => none

def float? (cs : List Char) : Option Binary64 :=
  let (negative, unsigned) := splitSign cs
  match floatText? unsigned with
  | none => none
  | some text =>
    Decimal.read? (String.ofList (if negative then '-' :: text else text))

def namesInfinity (cs : List Char) : Bool :=
  (splitSign cs).2 == ['i', 'n', 'f']

def fixedDigits? (count : Nat) (cs : List Char) : Option (Nat × List Char) :=
  let digits := cs.take count
  if digits.length = count && digits.all isDigit then some (ofDigits digits, cs.drop count)
  else none

def isLeapYear (year : Nat) : Bool :=
  year % 4 = 0 && (year % 100 ≠ 0 || year % 400 = 0)

def daysInMonth (year month : Nat) : Nat :=
  if month = 2 then (if isLeapYear year then 29 else 28)
  else if month = 4 || month = 6 || month = 9 || month = 11 then 30
  else 31

def afterDate? (cs : List Char) : Option (List Char) :=
  match fixedDigits? 4 cs with
  | some (year, '-' :: cs) =>
    match fixedDigits? 2 cs with
    | some (month, '-' :: cs) =>
      match fixedDigits? 2 cs with
      | some (day, rest) =>
        if 1 ≤ month && month ≤ 12 && 1 ≤ day && day ≤ daysInMonth year month then some rest
        else none
      | none => none
    | _ => none
  | _ => none

def afterPlaces? : List Char → Option (List Char)
  | '.' :: rest =>
    if (rest.takeWhile isDigit).isEmpty then none else some (rest.dropWhile isDigit)
  | rest => some rest

def afterSeconds? : List Char → Option (List Char)
  | ':' :: rest =>
    match fixedDigits? 2 rest with
    | some (second, rest) => if second ≤ 60 then afterPlaces? rest else none
    | none => none
  | rest => some rest

def afterTime? (cs : List Char) : Option (List Char) :=
  match fixedDigits? 2 cs with
  | some (hour, ':' :: cs) =>
    match fixedDigits? 2 cs with
    | some (minute, rest) => if hour ≤ 23 && minute ≤ 59 then afterSeconds? rest else none
    | none => none
  | _ => none

/-- A distance from universal time; there may be none. -/
def isOffset : List Char → Bool
  | [] | ['Z'] | ['z'] => true
  | sign :: rest =>
    (sign = '+' || sign = '-') &&
      match fixedDigits? 2 rest with
      | some (hour, ':' :: rest) =>
        match fixedDigits? 2 rest with
        | some (minute, []) => hour ≤ 23 && minute ≤ 59
        | _ => false
      | _ => false

def isDate (cs : List Char) : Bool :=
  afterDate? cs == some []

/-- A date, a time, or both with or without an offset. -/
def isDatetime (cs : List Char) : Bool :=
  match afterDate? cs with
  | some [] => true
  | some (mark :: rest) =>
    (mark = 'T' || mark = 't' || mark = ' ') &&
      match afterTime? rest with
      | some rest => isOffset rest
      | none => false
  | none => afterTime? cs == some []

/-- Whole numbers of at most 128 bits can be stored. -/
def ofInteger (n : Int) : Except Fault Toml :=
  if -(twoTo 127 : Int) ≤ n ∧ n < twoTo 128 then .ok (.integer n) else .error .outOfRange

def ofFloat (cs : List Char) (x : Binary64) : Except Fault Toml :=
  if x.isInfinite && !namesInfinity cs then .error .outOfRange else .ok (.float x)

def ofWord (cs : List Char) : Except Fault Toml :=
  if cs = ['t', 'r', 'u', 'e'] then .ok (.boolean true)
  else if cs = ['f', 'a', 'l', 's', 'e'] then .ok (.boolean false)
  else if isDatetime cs then .ok (.datetime (String.ofList cs))
  else
    match integer? cs with
    | some n => ofInteger n
    | none =>
      match float? cs with
      | some x => ofFloat cs x
      | none => .error .invalidScalar

end VehicleMarket.Toml
