import VehicleMarket.Record.Codec

/-!
The catalog: a table of records for each kind, each record under its own identifier. Insertion
keeps identifiers distinct and not blank, and no vehicle that is identified is there twice,
whether on its own or in a listing. Changes are made in place: each gives the catalog that it
leaves, also when it fails.
-/
namespace VehicleMarket

structure Catalog where
  users : Table UserId User
  vehicles : Table VehicleId Vehicle
  listings : Table ListingId Listing
  messages : Table MessageId Message
  histories : Table VehicleId VehicleHistory
  deriving DecidableEq, Repr

structure Summary where
  users : Nat
  vehicles : Nat
  listings : Nat
  messages : Nat
  histories : Nat
  deriving DecidableEq, Repr

namespace Catalog

def empty : Catalog :=
  ⟨[], [], [], [], []⟩

def summary (catalog : Catalog) : Summary where
  users := catalog.users.length
  vehicles := catalog.vehicles.length
  listings := catalog.listings.length
  messages := catalog.messages.length
  histories := catalog.histories.length

def isEmpty (catalog : Catalog) : Bool :=
  catalog.summary == ⟨0, 0, 0, 0, 0⟩

def insertUnique {κ : RecordKind} {α : Type} (kind : RecordKind)
    (table : Table (Identifier κ) α) (id : Identifier κ) (record : α) :
    Except Problem Unit × Table (Identifier κ) α :=
  if id.isBlank then (.error (.invalid kind.name "id" .blankIdentifier), table)
  else if Table.contains table id then (.error (.duplicate kind.name id.text), table)
  else (.ok (), Table.insert table id record)

def insertUser (catalog : Catalog) (user : User) : Except Problem Unit × Catalog :=
  match insertUnique .user catalog.users user.id user with
  | (result, users) => (result, { catalog with users })

def ownsVehicle (catalog : Catalog) (id : VehicleId) : Bool :=
  (Table.values catalog.listings).any fun listing => listing.vehicle.id == id

def insertVehicle (catalog : Catalog) (vehicle : Vehicle) : Except Problem Unit × Catalog :=
  if catalog.ownsVehicle vehicle.id then
    (.error (.duplicate "vehicle" vehicle.id.text), catalog)
  else
    match insertUnique .vehicle catalog.vehicles vehicle.id vehicle with
    | (result, vehicles) => (result, { catalog with vehicles })

def ownsVehicleElsewhere (catalog : Catalog) (id : VehicleId) (listing : ListingId) : Bool :=
  (Table.values catalog.listings).any fun other =>
    other.vehicle.id == id && other.id != listing

/-- A vehicle without an identifier is never taken for another one. -/
def insertListing (catalog : Catalog) (listing : Listing) : Except Problem Unit × Catalog :=
  let id := listing.vehicle.id
  if !id.isBlank &&
      (catalog.ownsVehicleElsewhere id listing.id || Table.contains catalog.vehicles id) then
    (.error (.duplicate "vehicle" id.text), catalog)
  else
    match insertUnique .listing catalog.listings listing.id listing with
    | (result, listings) => (result, { catalog with listings })

def insertMessage (catalog : Catalog) (message : Message) : Except Problem Unit × Catalog :=
  match insertUnique .message catalog.messages message.id message with
  | (result, messages) => (result, { catalog with messages })

def insertHistory (catalog : Catalog) (history : VehicleHistory) :
    Except Problem Unit × Catalog :=
  match insertUnique .history catalog.histories history.vehicleId history with
  | (result, histories) => (result, { catalog with histories })

def noListing (id : ListingId) : Problem :=
  .invalid "listing" "id" (.absent "listing" id.text)

def noHistory (id : VehicleId) : Problem :=
  .invalid "history" "vehicleId" (.absent "history" id.text)

def changeListing (catalog : Catalog) (id : ListingId)
    (change : Listing → Except Problem Listing) : Except Problem Listing × Catalog :=
  match Table.find? catalog.listings id with
  | none => (.error (noListing id), catalog)
  | some listing =>
    match change listing with
    | .error problem => (.error problem, catalog)
    | .ok changed =>
      (.ok changed, { catalog with
        listings := Table.modify catalog.listings id fun _ => changed })

def changeHistory (catalog : Catalog) (id : VehicleId)
    (change : VehicleHistory → Except Problem VehicleHistory) :
    Except Problem VehicleHistory × Catalog :=
  match Table.find? catalog.histories id with
  | none => (.error (noHistory id), catalog)
  | some history =>
    match change history with
    | .error problem => (.error problem, catalog)
    | .ok changed =>
      (.ok changed, { catalog with
        histories := Table.modify catalog.histories id fun _ => changed })

def finished {α : Type} (change : Except Problem α × Catalog) : Except Problem Unit × Catalog :=
  (change.1.map fun _ => (), change.2)

/-- A message that its reader has received about a listing and not read. -/
def awaits (listing : ListingId) (reader : UserId) (message : Message) : Bool :=
  message.listingId == listing && message.recipientId == reader && !message.read

/-- Marks what a reader has received about a listing as read, and counts the changes. -/
def markConversationRead (catalog : Catalog) (listing : ListingId) (reader : UserId) :
    Nat × Catalog :=
  ((Table.values catalog.messages).countP (awaits listing reader),
    { catalog with
      messages := Table.mapValues catalog.messages fun message =>
        if awaits listing reader message then message.markRead else message })

end Catalog

end VehicleMarket
