import VehicleMarket.Text.CaseTable
import VehicleMarket.WebAddress.DirectionTable

/-!
The direction of labels. Where a name holds a letter that is written from right to left, each of
its labels begins with a letter of one direction, holds nothing of the other, and ends with a
letter or digit, marks aside.
-/
namespace VehicleMarket.WebAddress.DomainName

open Text (inRanges)

inductive Direction where
  | rightward
  | leftward
  | digit
  | leftwardDigit
  | attached
  | neutral
  deriving DecidableEq, Repr

def Direction.of (c : Char) : Direction :=
  let n := c.toNat
  if n < 0x80 then
    if c.isAlpha then .rightward else if c.isDigit then .digit else .neutral
  else if inRanges leftwardRanges n then .leftward
  else if inRanges leftwardDigitRanges n then .leftwardDigit
  else if inRanges digitRanges n then .digit
  else if inRanges attachedRanges n then .attached
  else if inRanges neutralRanges n then .neutral
  else .rightward

def lastDirection? (ds : List Direction) : Option Direction :=
  (ds.reverse.dropWhile (· == .attached)).head?

def isLeftward (ds : List Direction) : Bool :=
  ds.all (· != .rightward) &&
    (match lastDirection? ds with
      | some .leftward | some .digit | some .leftwardDigit => true
      | _ => false) &&
    !(ds.contains .digit && ds.contains .leftwardDigit)

def isRightward (ds : List Direction) : Bool :=
  ds.all (fun d => d != .leftward && d != .leftwardDigit) &&
    (match lastDirection? ds with
      | some .rightward | some .digit => true
      | _ => false)

/-- An empty label has no direction to keep. -/
def keepsDirection (label : List Char) : Bool :=
  let ds := label.map Direction.of
  match ds with
  | [] => true
  | .leftward :: _ => isLeftward ds
  | .rightward :: _ => isRightward ds
  | _ => false

def turnsLeft (label : List Char) : Bool :=
  label.any fun c => Direction.of c == .leftward || Direction.of c == .leftwardDigit

end VehicleMarket.WebAddress.DomainName
