import VehicleMarket.WebAddress.Ipv4

/-!
IPv6 hosts: eight pieces of up to four hexadecimal digits, of which one row may be left out
between two colons, and the last two of which may be written as four decimal bytes.
-/
namespace VehicleMarket.WebAddress.Ipv6

def pieceDigits (cs : List Char) : List Char :=
  (cs.take 4).takeWhile fun c => (Ipv4.digit? c).isSome

def isByte (cs : List Char) : Bool :=
  match cs with
  | [] => false
  | '0' :: rest => rest.isEmpty
  | cs => cs.length ≤ 3 &&
    match Ipv4.numberIn? 10 cs with
    | some n => n ≤ 255
    | none => false

def isDotted (cs : List Char) : Bool :=
  let ps := Ipv4.parts cs
  ps.length == 4 && ps.all isByte

/-- Counts pieces, in at most the given number of steps; a row may be left out only once. -/
def pieces (shortened : Bool) (count : Nat) : Nat → List Char → Bool
  | 0, _ => false
  | _ + 1, [] => shortened || count == 8
  | steps + 1, c :: rest =>
    if count = 8 then false
    else if c = ':' then !shortened && pieces true (count + 1) steps rest
    else
      let digits := pieceDigits (c :: rest)
      match (c :: rest).drop digits.length with
      | [] => pieces shortened (count + 1) steps []
      | '.' :: _ => !digits.isEmpty && count ≤ 6 && isDotted (c :: rest) && (shortened || count == 6)
      | ':' :: after => !after.isEmpty && pieces shortened (count + 1) steps after
      | _ => false

def isAddress (cs : List Char) : Bool :=
  match cs with
  | ':' :: ':' :: rest => pieces true 1 (rest.length + 1) rest
  | ':' :: _ => false
  | cs => pieces false 0 (cs.length + 1) cs

end VehicleMarket.WebAddress.Ipv6
