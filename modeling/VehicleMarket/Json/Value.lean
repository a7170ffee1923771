import VehicleMarket.Decimal.Binary
import VehicleMarket.Table

/-!
JSON values. Whole numbers are kept apart from binary floating-point ones.
A value that was read has the members of every object in strictly increasing key order;
a value that is to be written has them in the order of writing.
-/
namespace VehicleMarket

inductive Json where
  | null
  | bool (b : Bool)
  | int (n : Int)
  | float (x : Binary64)
  | string (s : String)
  | array (items : List Json)
  | object (members : List (String × Json))
  deriving Repr, BEq

namespace Json

/-- An object by its members, sorted; of two members with one key the later counts. -/
def ofMembers (members : List (String × Json)) : Json :=
  .object (Table.ofList members)

mutual

/-- The value as it is read back: every object's members sorted. -/
def sorted : Json → Json
  | .array items => .array (sortedItems items)
  | .object members => ofMembers (sortedMembers members)
  | .null => .null
  | .bool b => .bool b
  | .int n => .int n
  | .float x => .float x
  | .string s => .string s

def sortedItems : List Json → List Json
  | [] => []
  | item :: rest => sorted item :: sortedItems rest

def sortedMembers : List (String × Json) → List (String × Json)
  | [] => []
  | (key, value) :: rest => (key, sorted value) :: sortedMembers rest

end

end Json

end VehicleMarket
