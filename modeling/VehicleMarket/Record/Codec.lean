import VehicleMarket.Json.Reader
import VehicleMarket.Record.History
import VehicleMarket.Record.Listing
import VehicleMarket.Record.Message
import VehicleMarket.Record.User
import VehicleMarket.Time.Clock

/-!
Reading and writing records. A record is read from an object that may use older keys and leave
fields out; the clock is read once for each object. It is written with all its fields under
their canonical keys. In a text of lines each line that is not blank holds one record.
-/
namespace VehicleMarket

/-- A kind of record that is read from objects and written as JSON. -/
class Record (α : Type) where
  schema : Schema
  ofMembers : Members → Except Json.Mismatch α
  toJson : α → Json

instance : Record User := ⟨User.schema, User.ofMembers, User.toJson⟩
instance : Record Vehicle := ⟨Vehicle.schema, Vehicle.ofMembers, Vehicle.toJson⟩
instance : Record Listing := ⟨Listing.schema, Listing.ofMembers, Listing.toJson⟩
instance : Record Message := ⟨Message.schema, Message.ofMembers, Message.toJson⟩

instance : Record VehicleHistory :=
  ⟨VehicleHistory.schema, VehicleHistory.ofMembers, VehicleHistory.toJson⟩

namespace Record

variable {α : Type} [Record α]

def kindName (α : Type) [Record α] : String :=
  (schema α).kind.name

def encode (record : α) : String :=
  Json.compact (toJson record)

def encodePretty (record : α) : String :=
  Json.pretty (toJson record)

def ofObject (now : Instant) (members : Members) : Except Json.Mismatch α :=
  ofMembers ((schema α).normalize now.millis members)

def undecodable (α : Type) [Record α] (line : Option Nat) (fault : DecodeFault) : Failure :=
  .problem (.undecodable (kindName α) line fault)

/-- Reads a record out of a value; the clock is read only for an object. -/
def decodeValue (line : Option Nat) (value : Json) (clock : Clock) :
    Except Failure α × Clock :=
  match value with
  | .object members =>
    match clock.read? with
    | none => (.error .clockPastRange, clock.next)
    | some (now, clock) =>
      match ofObject now members with
      | .ok record => (.ok record, clock)
      | .error mismatch => (.error (undecodable α line (.data mismatch)), clock)
  | _ => (.error (undecodable α line .notObject), clock)

def decodeAt (line : Option Nat) (text : String) (clock : Clock) : Except Failure α × Clock :=
  match Json.read text with
  | .error error => (.error (undecodable α line (.malformed error)), clock)
  | .ok value => decodeValue line value clock

def decode (text : String) (clock : Clock) : Except Failure α × Clock :=
  decodeAt none text clock

/-- Reads a record from each line that is not blank; lines are counted from one. -/
def decodeNumbered : List (Nat × String) → Clock → Except Failure (List α) × Clock
  | [], clock => (.ok [], clock)
  | (number, line) :: rest, clock =>
    if Text.isBlank line then decodeNumbered rest clock
    else
      match decodeAt (some number) line clock with
      | (.error failure, clock) => (.error failure, clock)
      | (.ok record, clock) =>
        match decodeNumbered rest clock with
        | (.error failure, clock) => (.error failure, clock)
        | (.ok records, clock) => (.ok (record :: records), clock)

def numbered (number : Nat) : List String → List (Nat × String)
  | [] => []
  | line :: rest => (number, line) :: numbered (number + 1) rest

def decodeLines (text : String) (clock : Clock) : Except Failure (List α) × Clock :=
  decodeNumbered (numbered 1 (Text.lines text)) clock

def encodeLines (records : List α) : String :=
  String.join (records.map fun record => encode record ++ "\n")

def normalizeLines (α : Type) [Record α] (text : String) (clock : Clock) :
    Except Failure String × Clock :=
  match decodeLines (α := α) text clock with
  | (.error failure, clock) => (.error failure, clock)
  | (.ok records, clock) => (.ok (encodeLines records), clock)

end Record

end VehicleMarket
