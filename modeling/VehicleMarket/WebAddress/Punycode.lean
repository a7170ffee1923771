/-!
Punycode: text beyond ASCII spelled in letters, digits and dashes. What stands before the last dash
is plain; behind it each character that is missing is given by its distance from the one before,
counted over all characters and all places, in digits whose thresholds adapt.
-/
namespace VehicleMarket.WebAddress.Punycode

def digit? (c : Char) : Option Nat :=
  if 'a' ≤ c && c ≤ 'z' then some (c.toNat - 97)
  else if 'A' ≤ c && c ≤ 'Z' then some (c.toNat - 65)
  else if '0' ≤ c && c ≤ '9' then some (c.toNat - 22)
  else none

def threshold (place bias : Nat) : Nat :=
  min 26 (max 1 (place - bias))

/-- Takes a distance down to the range of the first digit; also counts places. -/
def flatten (distance places : Nat) : Nat × Nat :=
  if 455 < distance then flatten (distance / 35) (places + 36) else (distance, places)
termination_by distance
decreasing_by omega

def adapt (distance count : Nat) (isFirst : Bool) : Nat :=
  let damped := if isFirst then distance / 700 else distance / 2
  let (rest, places) := flatten (damped + damped / count) 0
  places + 36 * rest / (rest + 38)

def largest : Nat := 4294967295

def readDistance (bias place weight position : Nat) : List Char → Option (Nat × List Char)
  | [] => none
  | c :: rest =>
    match digit? c with
    | none => none
    | some digit =>
      let position := position + digit * weight
      let t := threshold place bias
      if largest < position then none
      else if digit < t then some (position, rest)
      else if largest < weight * (36 - t) then none
      else readDistance bias (place + 36) (weight * (36 - t)) position rest

def insertAll (output : List Char) (code position bias : Nat) :
    Nat → List Char → Option (List Char)
  | _, [] => some output
  | 0, _ => none
  | steps + 1, digits =>
    match readDistance bias 36 1 position digits with
    | none => none
    | some (after, rest) =>
      let count := output.length + 1
      let code := code + after / count
      let place := after % count
      if code.isValidChar then
        insertAll (output.take place ++ Char.ofNat code :: output.drop place) code (place + 1)
          (adapt (after - position) count (position == 0)) steps rest
      else none

/-- The plain part of a text and its digits. Without a dash, or with none but the first, all of
the text is digits. -/
def split (text : List Char) : List Char × List Char :=
  let digits := (text.reverse.takeWhile (· != '-')).reverse
  let plain := text.take (text.length - digits.length - 1)
  if plain.isEmpty then ([], text) else (plain, digits)

def decode? (text : List Char) : Option (List Char) :=
  let (plain, digits) := split text
  if plain.all fun c => c.toNat < 0x80 then insertAll plain 128 0 72 digits.length digits
  else none

end VehicleMarket.WebAddress.Punycode
