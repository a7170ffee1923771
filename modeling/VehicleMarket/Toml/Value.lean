import VehicleMarket.Decimal.Binary
import VehicleMarket.Table

/-!
TOML values and the tables of a document. A table remembers how it came to be, since that decides
how it may be extended: a header opens a table once, a dotted key extends only tables that dotted
keys have made, and nothing extends an inline table.
-/
namespace VehicleMarket

/-- How a table came to be. -/
inductive TableOrigin where
  | header
  | implied
  | dotted
  | inline
  deriving DecidableEq, Repr

inductive Toml where
  | string (text : String)
  | integer (n : Int)
  | float (x : Binary64)
  | boolean (b : Bool)
  | datetime (text : String)
  | array (items : List Toml)
  | tables (items : List Toml)
  | table (origin : TableOrigin) (members : List (String × Toml))
  deriving Repr, BEq

namespace Toml

abbrev Members := Table String Toml

/-- Changes the table under a key, and of several tables the last. A table that is not there is
implied. -/
def within (members : Members) (key : String) (change : Members → Option Members) :
    Option Members :=
  match Table.find? members key with
  | none => (change []).map fun inner => Table.insert members key (.table .implied inner)
  | some (.table .inline _) => none
  | some (.table origin inner) =>
    (change inner).map fun inner => Table.insert members key (.table origin inner)
  | some (.tables items) =>
    match items.getLast? with
    | some (.table origin inner) =>
      (change inner).map fun inner =>
        Table.insert members key (.tables (items.dropLast ++ [.table origin inner]))
    | _ => none
  | some _ => none

def atHeader (change : Members → Option Members) : List String → Members → Option Members
  | [], members => change members
  | key :: rest, members => within members key fun inner => atHeader change rest inner

/-- Opens a table; only an implied one may be there already. -/
def openHere (key : String) (members : Members) : Option Members :=
  match Table.find? members key with
  | none => some (Table.insert members key (.table .header []))
  | some (.table .implied inner) => some (Table.insert members key (.table .header inner))
  | some _ => none

def addHere (key : String) (members : Members) : Option Members :=
  match Table.find? members key with
  | none => some (Table.insert members key (.tables [.table .header []]))
  | some (.tables items) =>
    some (Table.insert members key (.tables (items ++ [.table .header []])))
  | some _ => none

def atLast (change : String → Members → Option Members) (path : List String)
    (members : Members) : Option Members :=
  match path.getLast? with
  | none => none
  | some key => atHeader (change key) path.dropLast members

/-- Gives a dotted key a value. The table of the last part must be one that dotted keys have
made. -/
def assign (value : Toml) : List String → Members → Option Members
  | [], _ => none
  | [key], members =>
    if Table.contains members key then none else some (Table.insert members key value)
  | key :: next :: rest, members =>
    match Table.find? members key with
    | none =>
      (assign value (next :: rest) []).map fun inner =>
        Table.insert members key (.table .dotted inner)
    | some (.table .dotted inner) =>
      (assign value (next :: rest) inner).map fun inner =>
        Table.insert members key (.table .dotted inner)
    | some (.table .implied inner) =>
      if rest.isEmpty then none
      else
        (assign value (next :: rest) inner).map fun inner =>
          Table.insert members key (.table .implied inner)
    | some _ => none

end Toml

end VehicleMarket
