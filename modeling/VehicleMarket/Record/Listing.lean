import VehicleMarket.Record.Vehicle

/-!
Listings: offers that own their vehicle and refer to their seller. A listing that is sold keeps
its status, and a change of status carries over to the vehicle.
-/
namespace VehicleMarket

structure Listing where
  id : ListingId
  vehicle : Vehicle
  sellerId : UserId
  viewCount : UInt32
  favoriteCount : UInt32
  status : ListingStatus
  deriving DecidableEq, Repr

namespace Listing

def create (id : ListingId) (vehicle : Vehicle) (sellerId : UserId) : Listing where
  id := id
  vehicle := vehicle
  sellerId := sellerId
  viewCount := 0
  favoriteCount := 0
  status := .active

/-- One more, but no more than the greatest count. -/
def countUp (n : UInt32) : UInt32 :=
  if n.toNat + 1 = UInt32.size then n else n + 1

def countDown (n : UInt32) : UInt32 :=
  if n.toNat = 0 then n else n - 1

def recordView (listing : Listing) : Listing :=
  { listing with viewCount := countUp listing.viewCount }

def recordFavorite (listing : Listing) : Listing :=
  { listing with favoriteCount := countUp listing.favoriteCount }

def removeFavorite (listing : Listing) : Listing :=
  { listing with favoriteCount := countDown listing.favoriteCount }

def isActive (listing : Listing) : Bool :=
  listing.status == .active

/-- The status of the vehicle after its listing has come to a status. -/
def vehicleStatusAfter (vehicle : VehicleStatus) : ListingStatus → VehicleStatus
  | .sold => .sold
  | .active => if vehicle = .withdrawn then .available else vehicle
  | .expired => vehicle

/-- The status the listing has already is no change; a final one admits no other. -/
def setStatus (listing : Listing) (target : ListingStatus) : Except Problem Listing :=
  if listing.status = target then .ok listing
  else if listing.status.isFinal then
    .error (.transition (Spelled.name listing.status) (Spelled.name target))
  else
    .ok { listing with
      status := target
      vehicle := { listing.vehicle with
        status := vehicleStatusAfter listing.vehicle.status target } }

def markSold (listing : Listing) : Except Problem Listing :=
  listing.setStatus .sold

def expire (listing : Listing) : Except Problem Listing :=
  listing.setStatus .expired

def schema : Schema where
  kind := .listing
  keys :=
    { renames :=
        [("vehicule", "vehicle"), ("nbVues", "viewCount"), ("nbFavoris", "favoriteCount"),
          ("statut", "status")]
      references := [("vendeur", "sellerId"), ("seller", "sellerId")]
      blankable := ["status"]
      timestamps := [] }
  nested := [("vehicle", Vehicle.keyRules)]

def ofMembers (members : Members) : Except Json.Mismatch Listing := do
  let favoriteCount ← Json.field members "favoriteCount" Json.decodeCount 0
  let id ← Json.field members "id" Json.decodeString ""
  let sellerId ← Json.field members "sellerId" Json.decodeString ""
  let status ← Json.field members "status" Json.decodeSpelled ListingStatus.active
  let vehicle? ← Json.field? members "vehicle" Vehicle.decode
  let viewCount ← Json.field members "viewCount" Json.decodeCount 0
  let vehicle ← Json.required "vehicle" vehicle?
  return { id := ⟨id⟩, vehicle, sellerId := ⟨sellerId⟩, viewCount, favoriteCount, status }

def toJson (listing : Listing) : Json :=
  .object
    [("id", .string listing.id.text), ("vehicle", listing.vehicle.toJson),
      ("sellerId", .string listing.sellerId.text), ("viewCount", .int listing.viewCount.toNat),
      ("favoriteCount", .int listing.favoriteCount.toNat),
      ("status", .string (Spelled.name listing.status))]

def validate (listing : Listing) (rules : Validation.Rules) : Except Problem Unit := do
  Validation.checkNotBlank "listing" "id" listing.id.text
  listing.vehicle.validate rules

end Listing

end VehicleMarket
