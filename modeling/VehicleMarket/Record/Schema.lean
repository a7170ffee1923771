import VehicleMarket.Identifier
import VehicleMarket.Json.Value

/-!
How the members of an object are brought into the canonical shape of a record before they are
read: older keys are renamed, embedded records give way to their identifiers, blank enumeration
fields count as absent, and absent timestamps take the time of reading.
-/
namespace VehicleMarket

abbrev Members := List (String × Json)

/-- The rules for the keys of one object. -/
structure KeyRules where
  /-- An older key and the canonical one it stands for. -/
  renames : List (String × String)
  /-- A key with an embedded record and the key for its identifier. -/
  references : List (String × String)
  /-- Keys whose blank or null value counts as absent. -/
  blankable : List String
  /-- Keys that take the time of reading when they are absent or null. -/
  timestamps : List String
  deriving DecidableEq, Repr

structure Schema where
  kind : RecordKind
  keys : KeyRules
  nested : List (String × KeyRules)
  deriving DecidableEq, Repr

namespace KeyRules

/-- An older key is dropped; its value moves only to a canonical key that is absent. -/
def rename (members : Members) (rule : String × String) : Members :=
  match Table.find? members rule.1 with
  | none => members
  | some value =>
    let rest := Table.erase members rule.1
    if Table.contains rest rule.2 then rest else Table.insert rest rule.2 value

def embeddedId? : Json → Option Json
  | .object inner => Table.find? inner "id"
  | .string id => some (.string id)
  | _ => none

/-- An embedded value is dropped; its identifier moves only to a key that is absent. -/
def resolve (members : Members) (rule : String × String) : Members :=
  match Table.find? members rule.1 with
  | none => members
  | some value =>
    let rest := Table.erase members rule.1
    if Table.contains rest rule.2 then rest
    else match embeddedId? value with
      | some id => Table.insert rest rule.2 id
      | none => rest

def isBlankValue : Json → Bool
  | .null => true
  | .string s => Text.isBlank s
  | _ => false

def dropBlank (members : Members) (key : String) : Members :=
  match Table.find? members key with
  | none => members
  | some value => if isBlankValue value then Table.erase members key else members

def isNull : Json → Bool
  | .null => true
  | _ => false

def stamp (now : Int) (members : Members) (key : String) : Members :=
  match Table.find? members key with
  | none => Table.insert members key (.int now)
  | some value => if isNull value then Table.insert members key (.int now) else members

/-- The rules that do not need the time, in their order. -/
def settle (rules : KeyRules) (members : Members) : Members :=
  let renamed := rules.renames.foldl rename members
  let resolved := rules.references.foldl resolve renamed
  rules.blankable.foldl dropBlank resolved

def stampAll (rules : KeyRules) (now : Int) (members : Members) : Members :=
  rules.timestamps.foldl (stamp now) members

def normalize (rules : KeyRules) (now : Int) (members : Members) : Members :=
  rules.stampAll now (rules.settle members)

end KeyRules

namespace Schema

def normalizeNested (now : Int) (members : Members) (rule : String × KeyRules) : Members :=
  match Table.find? members rule.1 with
  | some (.object inner) => Table.insert members rule.1 (.object (rule.2.normalize now inner))
  | _ => members

def normalize (schema : Schema) (now : Int) (members : Members) : Members :=
  schema.keys.stampAll now
    (schema.nested.foldl (normalizeNested now) (schema.keys.settle members))

end Schema

end VehicleMarket
