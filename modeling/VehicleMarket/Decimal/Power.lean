/-!
Powers of two and of ten, of which binary and decimal numbers are made.
-/
namespace VehicleMarket

def twoTo (n : Nat) : Nat :=
  Nat.pow 2 n

def tenTo (n : Nat) : Nat :=
  Nat.pow 10 n

end VehicleMarket
