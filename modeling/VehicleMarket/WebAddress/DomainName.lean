import VehicleMarket.WebAddress.Direction
import VehicleMarket.WebAddress.Ipv4
import VehicleMarket.WebAddress.NameTable
import VehicleMarket.WebAddress.Punycode

/-!
Names of hosts. Characters are brought into the form in which names are compared, as far as that
bears on whether a name is well formed: letters beyond ASCII stay, and what stands for ASCII text
gives way to it. Each label then has to be well formed, those in Punycode once they are decoded.
-/
namespace VehicleMarket.WebAddress.DomainName

open Text (inRanges)

def isForbidden (c : Char) : Bool :=
  c.toNat ≤ 0x20 || c.toNat = 0x7F ||
    ['%', '#', '/', ':', '<', '>', '?', '@', '[', '\\', ']', '^', '|'].contains c

def inRuns (runs : List (Nat × Nat × Nat)) (n : Nat) : Bool :=
  runs.any fun (first, last, step) => first ≤ n && n ≤ last && (n - first) % step == 0

def asciiText? (n : Nat) : Option (List Char) :=
  match asciiRuns.find? fun (first, last, _) => first ≤ n && n ≤ last with
  | some (first, _, ascii) => some [Char.ofNat (ascii + (n - first))]
  | none => (asciiTexts.find? fun entry => entry.1 == n).map fun entry => entry.2.toList

/-- What a character becomes; a refused one becomes nothing. -/
def settled? (c : Char) : Option (List Char) :=
  let n := c.toNat
  if n < 0x80 then some [c.toLower]
  else if inRanges refusedRanges n then none
  else if inRanges droppedRanges n then some []
  else some ((asciiText? n).getD [c])

def settleAll? : List Char → Option (List Char)
  | [] => some []
  | c :: rest =>
    match settled? c, settleAll? rest with
    | some cs, some others => some (cs ++ others)
    | _, _ => none

def isSettled (c : Char) : Bool :=
  let n := c.toNat
  if n < 0x80 then !c.isUpper
  else !inRanges refusedRanges n && !inRanges droppedRanges n && !inRuns replacedRuns n

def isMark (c : Char) : Bool :=
  inRanges markRanges c.toNat

def isVirama (c : Char) : Bool :=
  inRanges viramaRanges c.toNat

def reaches (ranges : List (Nat × Nat)) (cs : List Char) : Bool :=
  match cs.dropWhile fun c => inRanges transparentRanges c.toNat with
  | [] => false
  | c :: _ => inRanges ranges c.toNat

/-- A joiner follows a virama; one that keeps letters apart may also stand between two that would
join. What comes before it is given in reverse. -/
def joinerStands (c : Char) (before after : List Char) : Bool :=
  match before with
  | [] => false
  | last :: _ =>
    isVirama last ||
      (c.toNat = 0x200C && reaches joinsNextRanges before && reaches joinsLastRanges after)

def joinersStand (before : List Char) : List Char → Bool
  | [] => true
  | c :: rest =>
    (if c.toNat = 0x200C || c.toNat = 0x200D then joinerStands c before rest else true) &&
      joinersStand (c :: before) rest

/-- A label does not begin with a mark, and its joiners have something to join. -/
def isLabel (label : List Char) : Bool :=
  (match label with
    | [] => true
    | c :: _ => !isMark c) &&
  joinersStand [] label && !label.any isForbidden

def longestSpelled : Nat := 2000

/-- The label that a Punycode label spells; it holds a character beyond ASCII, and nothing that
would not stand as it is. -/
def spelled? (text : List Char) : Option (List Char) :=
  if longestSpelled < text.length then none
  else
    match Punycode.decode? text with
    | some label =>
      if label.all isSettled && label.any fun c => 0x80 ≤ c.toNat then some label else none
    | none => none

def label? : List Char → Option (List Char)
  | 'x' :: 'n' :: '-' :: '-' :: text => spelled? text
  | label => some label

def labels? : List (List Char) → Option (List (List Char))
  | [] => some []
  | label :: rest =>
    match label? label, labels? rest with
    | some label, some others => some (label :: others)
    | _, _ => none

def areLabels (labels : List (List Char)) : Bool :=
  labels.all isLabel && (!labels.any turnsLeft || labels.all keepsDirection)

def normalized? (name : List Char) : Option (List Char) :=
  match settleAll? name with
  | none => none
  | some settled =>
    match labels? (Ipv4.parts settled) with
    | none => none
    | some labels => if areLabels labels then some settled else none

end VehicleMarket.WebAddress.DomainName
