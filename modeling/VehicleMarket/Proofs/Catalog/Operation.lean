import VehicleMarket.Catalog.Document
import VehicleMarket.Catalog.Query

/-!
Operations on a catalog: the insertions, reading a conversation, and the methods of the listings and
histories in it. The reachable catalogs are those that
operations make out of the empty catalog or out of one that was read from a document.
-/
namespace VehicleMarket

inductive ListingEdit where
  | recordView
  | recordFavorite
  | removeFavorite
  | setStatus (target : ListingStatus)
  | markSold
  | expire
  deriving DecidableEq, Repr

def ListingEdit.apply (listing : Listing) : ListingEdit → Except Problem Listing
  | .recordView => .ok listing.recordView
  | .recordFavorite => .ok listing.recordFavorite
  | .removeFavorite => .ok listing.removeFavorite
  | .setStatus target => listing.setStatus target
  | .markSold => listing.markSold
  | .expire => listing.expire

inductive HistoryEdit where
  | recordMaintenance (event : MaintenanceEvent)
  | recordRepair (repair : Repair)
  | recordAccident (accident : Accident)
  deriving DecidableEq, Repr

def HistoryEdit.apply (history : VehicleHistory) : HistoryEdit → VehicleHistory
  | .recordMaintenance event => history.recordMaintenance event
  | .recordRepair repair => history.recordRepair repair
  | .recordAccident accident => history.recordAccident accident

namespace Catalog

inductive Operation where
  | insertUser (user : User)
  | insertVehicle (vehicle : Vehicle)
  | insertListing (listing : Listing)
  | insertMessage (message : Message)
  | insertHistory (history : VehicleHistory)
  | markConversationRead (listing : ListingId) (reader : UserId)
  | editListing (id : ListingId) (edit : ListingEdit)
  | editHistory (id : VehicleId) (edit : HistoryEdit)
  deriving DecidableEq, Repr

/-- Whether an operation succeeds, and the catalog that it leaves. -/
def perform (catalog : Catalog) : Operation → Except Problem Unit × Catalog
  | .insertUser user => catalog.insertUser user
  | .insertVehicle vehicle => catalog.insertVehicle vehicle
  | .insertListing listing => catalog.insertListing listing
  | .insertMessage message => catalog.insertMessage message
  | .insertHistory history => catalog.insertHistory history
  | .markConversationRead listing reader =>
    (.ok (), (catalog.markConversationRead listing reader).2)
  | .editListing id edit => finished (catalog.changeListing id edit.apply)
  | .editHistory id edit =>
    finished (catalog.changeHistory id fun history => .ok (edit.apply history))

def step (catalog : Catalog) (operation : Operation) : Catalog :=
  (catalog.perform operation).2

def run (catalog : Catalog) (operations : List Operation) : Catalog :=
  operations.foldl step catalog

inductive Reachable : Catalog → Prop where
  | empty : Reachable .empty
  | loaded {text : String} {clock later : Clock} {catalog : Catalog} :
      ofDocument text clock = (.ok catalog, later) → Reachable catalog
  | step {catalog : Catalog} (operation : Operation) :
      Reachable catalog → Reachable (catalog.step operation)

theorem Reachable.run {catalog : Catalog} (h : Reachable catalog) (operations : List Operation) :
    Reachable (catalog.run operations) := by
  induction operations generalizing catalog with
  | nil => exact h
  | cons operation rest ih => exact ih (h.step operation)

end Catalog

end VehicleMarket
