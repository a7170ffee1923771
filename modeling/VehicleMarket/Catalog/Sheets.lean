import VehicleMarket.Catalog.Query
import VehicleMarket.Csv.Writer
import VehicleMarket.Time.Calendar

/-!
The sheets of a catalog: one row for each record under a header, and the bundle of all sheets.
Vehicles on their own come before those that listings own; photo addresses share one cell.
-/
namespace VehicleMarket.Catalog

def count (n : Nat) : String :=
  toString n

def amount (x : Binary64) : String :=
  String.ofList (Decimal.amountSpelling x)

def userHeader : List String :=
  ["id", "firstName", "lastName", "email", "phone", "accountType", "profilePhotoUrl", "city",
    "registeredAt"]

def userRow (user : User) : List String :=
  [user.id.text, user.firstName, user.lastName, user.email, user.phone,
    Spelled.name user.accountType, user.profilePhotoUrl, user.city,
    Calendar.timestamp user.registeredAt]

def vehicleHeader : List String :=
  ["id", "make", "model", "year", "mileage", "price", "color", "fuelType", "transmission",
    "photoUrls", "description", "sellerId", "status", "publishedAt"]

def photoCell (vehicle : Vehicle) : String :=
  "|".intercalate vehicle.photoUrls

def vehicleRow (vehicle : Vehicle) : List String :=
  [vehicle.id.text, vehicle.make, vehicle.model, toString vehicle.year.toInt,
    count vehicle.mileage.toNat, amount vehicle.price, vehicle.color, vehicle.fuelType,
    vehicle.transmission, photoCell vehicle, vehicle.description, vehicle.sellerId.text,
    Spelled.name vehicle.status, Calendar.timestamp vehicle.publishedAt]

def listingHeader : List String :=
  ["id", "vehicleId", "sellerId", "title", "price", "viewCount", "favoriteCount", "status"]

def listingRow (listing : Listing) : List String :=
  [listing.id.text, listing.vehicle.id.text, listing.sellerId.text, listing.vehicle.title,
    amount listing.vehicle.price, count listing.viewCount.toNat,
    count listing.favoriteCount.toNat, Spelled.name listing.status]

def messageHeader : List String :=
  ["id", "senderId", "recipientId", "listingId", "content", "timestamp", "read"]

def messageRow (message : Message) : List String :=
  [message.id.text, message.senderId.text, message.recipientId.text, message.listingId.text,
    message.content, Calendar.timestamp message.timestamp,
    if message.read then "true" else "false"]

def userRows (catalog : Catalog) : List (List String) :=
  userHeader :: (Table.values catalog.users).map userRow

def vehicleRows (catalog : Catalog) : List (List String) :=
  vehicleHeader :: catalog.allVehicles.map vehicleRow

def listingRows (catalog : Catalog) : List (List String) :=
  listingHeader :: (Table.values catalog.listings).map listingRow

def messageRows (catalog : Catalog) : List (List String) :=
  messageHeader :: (Table.values catalog.messages).map messageRow

def usersCsv (catalog : Catalog) : String :=
  Csv.render catalog.userRows

def vehiclesCsv (catalog : Catalog) : String :=
  Csv.render catalog.vehicleRows

def listingsCsv (catalog : Catalog) : String :=
  Csv.render catalog.listingRows

def messagesCsv (catalog : Catalog) : String :=
  Csv.render catalog.messageRows

/-- Histories have no rows; they are bundled as a list. -/
def historiesJson (catalog : Catalog) : String :=
  Json.pretty (.array ((Table.values catalog.histories).map VehicleHistory.toJson))

def bundle (catalog : Catalog) : List (String × String) :=
  [("users.csv", catalog.usersCsv), ("vehicles.csv", catalog.vehiclesCsv),
    ("listings.csv", catalog.listingsCsv), ("messages.csv", catalog.messagesCsv),
    ("histories.json", catalog.historiesJson)]

end VehicleMarket.Catalog
