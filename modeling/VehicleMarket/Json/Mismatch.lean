import VehicleMarket.Decimal.Notation
import VehicleMarket.Json.Printer
import VehicleMarket.Status
import VehicleMarket.Text.Quoted
import VehicleMarket.Time.Instant

/-!
Reading data out of a JSON value: what was found where something else was expected, and readers
for the plain types of the record format.
-/
namespace VehicleMarket.Json

inductive Found where
  | null
  | bool (b : Bool)
  | int (n : Int)
  | float (x : Binary64)
  | string (s : String)
  | sequence
  | map
  deriving DecidableEq, Repr

def Found.of : Json → Found
  | .null => .null
  | .bool b => .bool b
  | .int n => .int n
  | .float x => .float x
  | .string s => .string s
  | .array _ => .sequence
  | .object _ => .map

def Found.message : Found → String
  | .null => "null"
  | .bool b => "boolean `" ++ (if b then "true" else "false") ++ "`"
  | .int n => "integer `" ++ String.ofList (integer n) ++ "`"
  | .float x => "floating point `" ++ String.ofList (Decimal.jsonSpelling x) ++ "`"
  | .string s => "string " ++ Text.quote s
  | .sequence => "sequence"
  | .map => "map"

inductive Mismatch where
  | invalidType (found : Found) (expected : String)
  | invalidValue (found : Found) (expected : String)
  | unknownSpelling (name : String) (known : List String)
  | missingField (name : String)
  | invalidLength (length : Nat) (expected : String)
  | notAnInstant (n : Int)
  deriving DecidableEq, Repr

def Mismatch.message : Mismatch → String
  | .invalidType found expected => "invalid type: " ++ found.message ++ ", expected " ++ expected
  | .invalidValue found expected => "invalid value: " ++ found.message ++ ", expected " ++ expected
  | .unknownSpelling name known =>
    "unknown variant `" ++ name ++ "`, expected one of " ++
      ", ".intercalate (known.map fun s => "`" ++ s ++ "`")
  | .missingField name => "missing field `" ++ name ++ "`"
  | .invalidLength length expected =>
    "invalid length " ++ toString length ++ ", expected " ++ expected
  | .notAnInstant n => "value is not a legal timestamp: " ++ String.ofList (integer n)

abbrev Decoder (α : Type) := Json → Except Mismatch α

def wrongType {α : Type} (expected : String) (value : Json) : Except Mismatch α :=
  .error (.invalidType (Found.of value) expected)

def decodeString : Decoder String
  | .string s => .ok s
  | value => wrongType "a string" value

def decodeBool : Decoder Bool
  | .bool b => .ok b
  | value => wrongType "a boolean" value

def decodeCount : Decoder UInt32
  | .int n =>
    if 0 ≤ n ∧ n < 4294967296 then .ok (UInt32.ofNat n.toNat)
    else .error (.invalidValue (.int n) "u32")
  | value => wrongType "u32" value

def decodeYear : Decoder Int32
  | .int n =>
    if -2147483648 ≤ n ∧ n ≤ 2147483647 then .ok (Int32.ofInt n)
    else .error (.invalidValue (.int n) "i32")
  | value => wrongType "i32" value

/-- Any number; a whole one is rounded. -/
def decodeAmount : Decoder Binary64
  | .int n => .ok (Binary64.ofInt n)
  | .float x => .ok x
  | value => wrongType "f64" value

def decodeInstant : Decoder Instant
  | .int n =>
    match Instant.ofMillis? n with
    | some instant => .ok instant
    | none => .error (.notAnInstant n)
  | value => wrongType "a unix timestamp in milliseconds" value

def decodeInstant? : Decoder (Option Instant)
  | .null => .ok none
  | value =>
    match decodeInstant value with
    | .ok instant => .ok (some instant)
    | .error mismatch => .error mismatch

def decodeSpelling {α : Type} [Spelled α] (s : String) : Except Mismatch α :=
  match Spelled.ofSpelling? s with
  | some value => .ok value
  | none => .error (.unknownSpelling s (Spelled.known α))

/-- A spelling, or an object with a spelling as its only key and null under it. -/
def decodeSpelled {α : Type} [Spelled α] : Decoder α
  | .string s => decodeSpelling s
  | .object [(s, content)] =>
    match decodeSpelling s with
    | .error mismatch => .error mismatch
    | .ok value =>
      match content with
      | .null => .ok value
      | content => wrongType "unit" content
  | .object _ => .error (.invalidValue .map "map with a single key")
  | value => wrongType "string or map" value

def decodeAll {α : Type} (item : Decoder α) : List Json → Except Mismatch (List α)
  | [] => .ok []
  | value :: rest =>
    match item value with
    | .error mismatch => .error mismatch
    | .ok first =>
      match decodeAll item rest with
      | .error mismatch => .error mismatch
      | .ok others => .ok (first :: others)

def decodeList {α : Type} (item : Decoder α) : Decoder (List α)
  | .array items => decodeAll item items
  | value => wrongType "a sequence" value

def field? {α : Type} (members : List (String × Json)) (key : String) (decode : Decoder α) :
    Except Mismatch (Option α) :=
  match Table.find? members key with
  | none => .ok none
  | some value =>
    match decode value with
    | .ok read => .ok (some read)
    | .error mismatch => .error mismatch

def field {α : Type} (members : List (String × Json)) (key : String) (decode : Decoder α)
    (absent : α) : Except Mismatch α :=
  match field? members key decode with
  | .error mismatch => .error mismatch
  | .ok found => .ok (found.getD absent)

/-- A member that must be there; it is asked for after all members have been read. -/
def required {α : Type} (key : String) : Option α → Except Mismatch α
  | some value => .ok value
  | none => .error (.missingField key)

def item {α : Type} (items : List Json) (place : Nat) (decode : Decoder α) (absent : α) :
    Except Mismatch α :=
  match items[place]? with
  | none => .ok absent
  | some value => decode value

def requiredItem {α : Type} (items : List Json) (place : Nat) (decode : Decoder α)
    (expected : String) : Except Mismatch α :=
  match items[place]? with
  | none => .error (.invalidLength place expected)
  | some value => decode value

def atMost (count : Nat) (items : List Json) : Except Mismatch Unit :=
  if items.length ≤ count then .ok ()
  else .error (.invalidLength items.length "fewer elements in array")

/-- A record is given by an object with its fields or by a list of them in order. -/
def decodeRecord {α : Type} (expected : String)
    (ofMembers : List (String × Json) → Except Mismatch α)
    (ofItems : List Json → Except Mismatch α) : Decoder α
  | .object members => ofMembers members
  | .array items => ofItems items
  | value => wrongType expected value

end VehicleMarket.Json
