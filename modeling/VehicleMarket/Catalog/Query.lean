import VehicleMarket.Catalog.Basic

/-!
Questions to a catalog: records by identifier, the vehicles of the market, and the messages of a
conversation or of a reader in the order of their times.
-/
namespace VehicleMarket.Catalog

def ownedVehicles (catalog : Catalog) : List Vehicle :=
  (Table.values catalog.listings).map Listing.vehicle

/-- Vehicles on their own, then those that listings own. -/
def allVehicles (catalog : Catalog) : List Vehicle :=
  Table.values catalog.vehicles ++ catalog.ownedVehicles

def findUser? (catalog : Catalog) (id : UserId) : Option User :=
  Table.find? catalog.users id

/-- A vehicle on its own goes before one that a listing owns. -/
def findVehicle? (catalog : Catalog) (id : VehicleId) : Option Vehicle :=
  match Table.find? catalog.vehicles id with
  | some vehicle => some vehicle
  | none => catalog.ownedVehicles.find? fun vehicle => vehicle.id == id

def findListing? (catalog : Catalog) (id : ListingId) : Option Listing :=
  Table.find? catalog.listings id

def findMessage? (catalog : Catalog) (id : MessageId) : Option Message :=
  Table.find? catalog.messages id

def findHistory? (catalog : Catalog) (id : VehicleId) : Option VehicleHistory :=
  Table.find? catalog.histories id

def sellerOf? (catalog : Catalog) (listing : Listing) : Option User :=
  catalog.findUser? listing.sellerId

def listingsBySeller (catalog : Catalog) (seller : UserId) : List Listing :=
  (Table.values catalog.listings).filter fun listing => listing.sellerId == seller

def activeListings (catalog : Catalog) : List Listing :=
  (Table.values catalog.listings).filter Listing.isActive

/-- Earlier messages come first, and of two at one time the one with the lesser identifier. -/
def comesBefore (a b : Message) : Bool :=
  a.timestamp.millis < b.timestamp.millis ||
    (a.timestamp.millis == b.timestamp.millis && !decide (b.id < a.id))

def inOrder (messages : List Message) : List Message :=
  messages.mergeSort comesBefore

def conversation (catalog : Catalog) (listing : ListingId) (a b : UserId) : List Message :=
  inOrder ((Table.values catalog.messages).filter fun message =>
    message.listingId == listing && message.isBetween a b)

def unreadFor (catalog : Catalog) (user : UserId) : List Message :=
  inOrder ((Table.values catalog.messages).filter fun message =>
    message.recipientId == user && !message.read)

end VehicleMarket.Catalog
