import VehicleMarket.Record.Schema
import VehicleMarket.Validation.Field

/-!
Histories of vehicles: maintenance, repairs and accidents, each in the order of recording.
-/
namespace VehicleMarket

structure MaintenanceEvent where
  date : Instant
  mileage : UInt32
  kind : String
  description : String
  cost : Binary64
  garage : String
  deriving DecidableEq, Repr

structure Repair where
  date : Instant
  mileage : UInt32
  description : String
  cost : Binary64
  garage : String
  deriving DecidableEq, Repr

structure Accident where
  date : Instant
  description : String
  severity : AccidentSeverity
  repairedAt : Option Instant
  deriving DecidableEq, Repr

structure VehicleHistory where
  vehicleId : VehicleId
  maintenance : List MaintenanceEvent
  repairs : List Repair
  accidents : List Accident
  deriving DecidableEq, Repr

namespace MaintenanceEvent

/-- Fields are read in the order of their keys. -/
def ofMembers (members : Members) : Except Json.Mismatch MaintenanceEvent := do
  let cost ← Json.field members "cost" Json.decodeAmount (.zero false)
  let date? ← Json.field? members "date" Json.decodeInstant
  let description ← Json.field members "description" Json.decodeString ""
  let garage ← Json.field members "garage" Json.decodeString ""
  let kind ← Json.field members "kind" Json.decodeString ""
  let mileage ← Json.field members "mileage" Json.decodeCount 0
  let date ← Json.required "date" date?
  return { date, mileage, kind, description, cost, garage }

/-- Fields given as a list, in the order of writing; those at the end may be left out. -/
def ofItems (items : List Json) : Except Json.Mismatch MaintenanceEvent := do
  let date ←
    Json.requiredItem items 0 Json.decodeInstant "struct MaintenanceEvent with 6 elements"
  let mileage ← Json.item items 1 Json.decodeCount 0
  let kind ← Json.item items 2 Json.decodeString ""
  let description ← Json.item items 3 Json.decodeString ""
  let cost ← Json.item items 4 Json.decodeAmount (.zero false)
  let garage ← Json.item items 5 Json.decodeString ""
  Json.atMost 6 items
  return { date, mileage, kind, description, cost, garage }

def decode : Json.Decoder MaintenanceEvent :=
  Json.decodeRecord "struct MaintenanceEvent" ofMembers ofItems

def toJson (event : MaintenanceEvent) : Json :=
  .object
    [("date", .int event.date.millis), ("mileage", .int event.mileage.toNat),
      ("kind", .string event.kind), ("description", .string event.description),
      ("cost", .float event.cost), ("garage", .string event.garage)]

end MaintenanceEvent

namespace Repair

def ofMembers (members : Members) : Except Json.Mismatch Repair := do
  let cost ← Json.field members "cost" Json.decodeAmount (.zero false)
  let date? ← Json.field? members "date" Json.decodeInstant
  let description ← Json.field members "description" Json.decodeString ""
  let garage ← Json.field members "garage" Json.decodeString ""
  let mileage ← Json.field members "mileage" Json.decodeCount 0
  let date ← Json.required "date" date?
  return { date, mileage, description, cost, garage }

def ofItems (items : List Json) : Except Json.Mismatch Repair := do
  let date ← Json.requiredItem items 0 Json.decodeInstant "struct Repair with 5 elements"
  let mileage ← Json.item items 1 Json.decodeCount 0
  let description ← Json.item items 2 Json.decodeString ""
  let cost ← Json.item items 3 Json.decodeAmount (.zero false)
  let garage ← Json.item items 4 Json.decodeString ""
  Json.atMost 5 items
  return { date, mileage, description, cost, garage }

def decode : Json.Decoder Repair :=
  Json.decodeRecord "struct Repair" ofMembers ofItems

def toJson (repair : Repair) : Json :=
  .object
    [("date", .int repair.date.millis), ("mileage", .int repair.mileage.toNat),
      ("description", .string repair.description), ("cost", .float repair.cost),
      ("garage", .string repair.garage)]

end Repair

namespace Accident

def ofMembers (members : Members) : Except Json.Mismatch Accident := do
  let date? ← Json.field? members "date" Json.decodeInstant
  let description ← Json.field members "description" Json.decodeString ""
  let repairedAt ← Json.field members "repairedAt" Json.decodeInstant? none
  let severity ← Json.field members "severity" Json.decodeSpelled AccidentSeverity.minor
  let date ← Json.required "date" date?
  return { date, description, severity, repairedAt }

def ofItems (items : List Json) : Except Json.Mismatch Accident := do
  let date ← Json.requiredItem items 0 Json.decodeInstant "struct Accident with 4 elements"
  let description ← Json.item items 1 Json.decodeString ""
  let severity ← Json.item items 2 Json.decodeSpelled AccidentSeverity.minor
  let repairedAt ← Json.item items 3 Json.decodeInstant? none
  Json.atMost 4 items
  return { date, description, severity, repairedAt }

def decode : Json.Decoder Accident :=
  Json.decodeRecord "struct Accident" ofMembers ofItems

def toJson (accident : Accident) : Json :=
  .object
    [("date", .int accident.date.millis), ("description", .string accident.description),
      ("severity", .string (Spelled.name accident.severity)),
      ("repairedAt", match accident.repairedAt with
        | some instant => .int instant.millis
        | none => .null)]

end Accident

namespace VehicleHistory

def create (vehicleId : VehicleId) : VehicleHistory where
  vehicleId := vehicleId
  maintenance := []
  repairs := []
  accidents := []

def recordMaintenance (history : VehicleHistory) (event : MaintenanceEvent) : VehicleHistory :=
  { history with maintenance := history.maintenance ++ [event] }

def recordRepair (history : VehicleHistory) (repair : Repair) : VehicleHistory :=
  { history with repairs := history.repairs ++ [repair] }

def recordAccident (history : VehicleHistory) (accident : Accident) : VehicleHistory :=
  { history with accidents := history.accidents ++ [accident] }

def setRepairCosts (history : VehicleHistory) (cost : Binary64) : VehicleHistory :=
  { history with repairs := history.repairs.map fun repair => { repair with cost } }

def isAccidentFree (history : VehicleHistory) : Bool :=
  history.accidents.isEmpty

/-- Sums start from minus zero, so that nothing is added to a single amount. -/
def sum (amounts : List Binary64) : Binary64 :=
  amounts.foldl Binary64.add (.zero true)

def totalCost (history : VehicleHistory) : Binary64 :=
  (sum (history.maintenance.map MaintenanceEvent.cost)).add
    (sum (history.repairs.map Repair.cost))

def schema : Schema where
  kind := .history
  keys :=
    { renames :=
        [("vehiculeId", "vehicleId"), ("entretiens", "maintenance"), ("reparations", "repairs")]
      references := []
      blankable := []
      timestamps := [] }
  nested := []

def ofMembers (members : Members) : Except Json.Mismatch VehicleHistory := do
  let accidents ← Json.field members "accidents" (Json.decodeList Accident.decode) []
  let maintenance ← Json.field members "maintenance" (Json.decodeList MaintenanceEvent.decode) []
  let repairs ← Json.field members "repairs" (Json.decodeList Repair.decode) []
  let vehicleId ← Json.field members "vehicleId" Json.decodeString ""
  return { vehicleId := ⟨vehicleId⟩, maintenance, repairs, accidents }

def toJson (history : VehicleHistory) : Json :=
  .object
    [("vehicleId", .string history.vehicleId.text),
      ("maintenance", .array (history.maintenance.map MaintenanceEvent.toJson)),
      ("repairs", .array (history.repairs.map Repair.toJson)),
      ("accidents", .array (history.accidents.map Accident.toJson))]

def checkCosts : List Binary64 → Except Problem Unit
  | [] => .ok ()
  | cost :: rest =>
    if Validation.isAmount cost then checkCosts rest
    else .error (.invalid "history" "cost" (.invalidAmount "cost" cost))

def costs (history : VehicleHistory) : List Binary64 :=
  history.maintenance.map MaintenanceEvent.cost ++ history.repairs.map Repair.cost

def validate (history : VehicleHistory) : Except Problem Unit := do
  Validation.checkNotBlank "history" "vehicleId" history.vehicleId.text
  checkCosts history.costs

end VehicleHistory

end VehicleMarket
