import VehicleMarket.WebAddress.Fault

/-!
Numeric hosts. A host whose last part is a number is an IPv4 address: up to four parts, each
decimal, octal after a zero or hexadecimal after 0x; the last part fills the places left over.
-/
namespace VehicleMarket.WebAddress.Ipv4

def parts : List Char → List (List Char)
  | [] => [[]]
  | c :: rest =>
    if c = '.' then [] :: parts rest
    else match parts rest with
      | [] => [[c]]
      | part :: others => (c :: part) :: others

def digit? (c : Char) : Option Nat :=
  if '0' ≤ c && c ≤ '9' then some (c.toNat - 48)
  else if 'a' ≤ c && c ≤ 'f' then some (c.toNat - 87)
  else if 'A' ≤ c && c ≤ 'F' then some (c.toNat - 55)
  else none

/-- A row of digits in a base; no digits stand for zero. -/
def numberIn? (base : Nat) (cs : List Char) : Option Nat :=
  cs.foldl (fun n? c =>
    match n?, digit? c with
    | some n, some d => if d < base then some (n * base + d) else none
    | _, _ => none) (some 0)

def number? : List Char → Option Nat
  | [] => none
  | '0' :: 'x' :: rest | '0' :: 'X' :: rest => numberIn? 16 rest
  | '0' :: c :: rest => numberIn? 8 (c :: rest)
  | cs => numberIn? 10 cs

def dropEmptyLast (ps : List (List Char)) : List (List Char) :=
  match ps.reverse with
  | [] :: rest => rest.reverse
  | _ => ps

/-- Whether a host counts as numeric: its last part is a number, or all its digits are decimal. -/
def isNumeric (host : List Char) : Bool :=
  match (dropEmptyLast (parts host)).getLast? with
  | none => false
  | some last =>
    (!last.isEmpty && last.all fun c => '0' ≤ c && c ≤ '9') || (number? last).isSome

def numbers? : List (List Char) → Option (List Nat)
  | [] => some []
  | part :: rest =>
    match number? part, numbers? rest with
    | some n, some ns => if n < UInt32.size then some (n :: ns) else none
    | _, _ => none

/-- Every part but the last is a byte, and the last fits into what they leave. -/
def fits (ns : List Nat) : Bool :=
  match ns.getLast? with
  | none => false
  | some last => ns.dropLast.all (· ≤ 255) && last < Nat.pow 256 (5 - ns.length)

def isAddress (host : List Char) : Bool :=
  let ps := dropEmptyLast (parts host)
  ps.length ≤ 4 &&
    match numbers? ps with
    | some ns => fits ns
    | none => false

end VehicleMarket.WebAddress.Ipv4
