import VehicleMarket.Record.Schema
import VehicleMarket.Validation.Field

/-!
Vehicles, on their own or as what a listing offers.
-/
namespace VehicleMarket

structure Vehicle where
  id : VehicleId
  make : String
  model : String
  /-- Zero stands for a year that is not given. -/
  year : Int32
  mileage : UInt32
  price : Binary64
  color : String
  fuelType : String
  transmission : String
  photoUrls : List String
  description : String
  sellerId : UserId
  status : VehicleStatus
  publishedAt : Instant
  deriving DecidableEq, Repr

namespace Vehicle

def blank (now : Instant) : Vehicle where
  id := .empty
  make := ""
  model := ""
  year := 0
  mileage := 0
  price := .zero false
  color := ""
  fuelType := ""
  transmission := ""
  photoUrls := []
  description := ""
  sellerId := .empty
  status := .available
  publishedAt := now

def create (id : VehicleId) (sellerId : UserId) (make model : String) (now : Instant) : Vehicle :=
  { blank now with id, sellerId, make, model }

def title (vehicle : Vehicle) : String :=
  let name := Text.trim (vehicle.make ++ " " ++ vehicle.model)
  if 0 < vehicle.year.toInt then name ++ " (" ++ toString vehicle.year.toInt ++ ")" else name

def coverPhoto? (vehicle : Vehicle) : Option String :=
  vehicle.photoUrls.head?

def keyRules : KeyRules where
  renames :=
    [("marque", "make"), ("modele", "model"), ("annee", "year"), ("kilometrage", "mileage"),
      ("prix", "price"), ("couleur", "color"), ("carburant", "fuelType"),
      ("photosUrls", "photoUrls"), ("vendeurId", "sellerId"), ("statut", "status"),
      ("datePublication", "publishedAt")]
  references := []
  blankable := ["status"]
  timestamps := ["publishedAt"]

def schema : Schema where
  kind := .vehicle
  keys := keyRules
  nested := []

def ofMembers (members : Members) : Except Json.Mismatch Vehicle := do
  let color ← Json.field members "color" Json.decodeString ""
  let description ← Json.field members "description" Json.decodeString ""
  let fuelType ← Json.field members "fuelType" Json.decodeString ""
  let id ← Json.field members "id" Json.decodeString ""
  let make ← Json.field members "make" Json.decodeString ""
  let mileage ← Json.field members "mileage" Json.decodeCount 0
  let model ← Json.field members "model" Json.decodeString ""
  let photoUrls ← Json.field members "photoUrls" (Json.decodeList Json.decodeString) []
  let price ← Json.field members "price" Json.decodeAmount (.zero false)
  let publishedAt? ← Json.field? members "publishedAt" Json.decodeInstant
  let sellerId ← Json.field members "sellerId" Json.decodeString ""
  let status ← Json.field members "status" Json.decodeSpelled VehicleStatus.available
  let transmission ← Json.field members "transmission" Json.decodeString ""
  let year ← Json.field members "year" Json.decodeYear 0
  let publishedAt ← Json.required "publishedAt" publishedAt?
  return {
    id := ⟨id⟩, make, model, year, mileage, price, color, fuelType, transmission, photoUrls,
    description, sellerId := ⟨sellerId⟩, status, publishedAt }

def ofItems (items : List Json) : Except Json.Mismatch Vehicle := do
  let id ← Json.item items 0 Json.decodeString ""
  let make ← Json.item items 1 Json.decodeString ""
  let model ← Json.item items 2 Json.decodeString ""
  let year ← Json.item items 3 Json.decodeYear 0
  let mileage ← Json.item items 4 Json.decodeCount 0
  let price ← Json.item items 5 Json.decodeAmount (.zero false)
  let color ← Json.item items 6 Json.decodeString ""
  let fuelType ← Json.item items 7 Json.decodeString ""
  let transmission ← Json.item items 8 Json.decodeString ""
  let photoUrls ← Json.item items 9 (Json.decodeList Json.decodeString) []
  let description ← Json.item items 10 Json.decodeString ""
  let sellerId ← Json.item items 11 Json.decodeString ""
  let status ← Json.item items 12 Json.decodeSpelled VehicleStatus.available
  let publishedAt ←
    Json.requiredItem items 13 Json.decodeInstant "struct Vehicle with 14 elements"
  Json.atMost 14 items
  return {
    id := ⟨id⟩, make, model, year, mileage, price, color, fuelType, transmission, photoUrls,
    description, sellerId := ⟨sellerId⟩, status, publishedAt }

def decode : Json.Decoder Vehicle :=
  Json.decodeRecord "struct Vehicle" ofMembers ofItems

def toJson (vehicle : Vehicle) : Json :=
  .object
    [("id", .string vehicle.id.text), ("make", .string vehicle.make),
      ("model", .string vehicle.model), ("year", .int vehicle.year.toInt),
      ("mileage", .int vehicle.mileage.toNat), ("price", .float vehicle.price),
      ("color", .string vehicle.color), ("fuelType", .string vehicle.fuelType),
      ("transmission", .string vehicle.transmission),
      ("photoUrls", .array (vehicle.photoUrls.map .string)),
      ("description", .string vehicle.description), ("sellerId", .string vehicle.sellerId.text),
      ("status", .string (Spelled.name vehicle.status)),
      ("publishedAt", .int vehicle.publishedAt.millis)]

def checkPhotos : List String → Except Problem Unit
  | [] => .ok ()
  | url :: rest => do
    Validation.checkAddress "vehicle" "photoUrls" url
    checkPhotos rest

def checkYear (vehicle : Vehicle) (rules : Validation.Rules) : Except Problem Unit :=
  if vehicle.year = 0 then .ok ()
  else
    Validation.checkIntRange "vehicle" "year" vehicle.year.toInt rules.minYear.toInt
      rules.maxYear.toInt

def checkPrice (vehicle : Vehicle) : Except Problem Unit :=
  if Validation.isAmount vehicle.price then .ok ()
  else .error (.invalid "vehicle" "price" (.invalidAmount "price" vehicle.price))

def validate (vehicle : Vehicle) (rules : Validation.Rules) : Except Problem Unit := do
  Validation.checkNotBlank "vehicle" "id" vehicle.id.text
  vehicle.checkYear rules
  Validation.checkIntRange "vehicle" "mileage" vehicle.mileage.toNat 0 rules.maxMileage.toNat
  vehicle.checkPrice
  checkPhotos vehicle.photoUrls

end Vehicle

end VehicleMarket
