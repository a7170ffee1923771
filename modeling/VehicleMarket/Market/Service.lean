import VehicleMarket.Catalog.Integrity
import VehicleMarket.Catalog.Sheets
import VehicleMarket.Market.Snapshot

/-!
The market: a snapshot with the folder for its exports. Every operation starts from the snapshot
as it is stored; one that changes the catalog loads it, changes it and saves it, and a change that
fails saves nothing.
-/
namespace VehicleMarket

def defaultBundleName : String := "market_export.zip"

structure Market where
  snapshot : Snapshot
  exports : Folder
  options : Integrity.Options
  bundleName : String
  deriving DecidableEq, Repr

/-- What a market works on. -/
structure Premises where
  disk : Disk
  clock : Clock

namespace Market

variable {σ : Type}

/-- Loads the catalog; only the clock moves. -/
def load (market : Market) (premises : Premises) : Except Failure Catalog × Premises :=
  match market.snapshot.load premises.disk premises.clock with
  | (result, clock) => (result, { premises with clock })

def save (market : Market) (catalog : Catalog) (premises : Premises) :
    Except Failure Catalog × Premises :=
  match market.snapshot.save catalog premises.disk with
  | (.error problem, disk) => (.error (.problem problem), { premises with disk })
  | (.ok (), disk) => (.ok catalog, { premises with disk })

def check (market : Market) (thisYear : Int32) (premises : Premises) :
    Except Failure (Summary × Integrity.Report) × Premises :=
  match market.load premises with
  | (.error failure, premises) => (.error failure, premises)
  | (.ok catalog, premises) =>
    (.ok (catalog.summary, Integrity.check thisYear market.options catalog), premises)

def exportBundle (market : Market) (premises : Premises) : Except Failure String × Premises :=
  match market.load premises with
  | (.error failure, premises) => (.error failure, premises)
  | (.ok catalog, premises) =>
    match market.exports.write market.bundleName (.archive catalog.bundle) premises.disk with
    | (.error fault, disk) => (.error (.problem (.io fault)), { premises with disk })
    | (.ok (), disk) => (.ok market.bundleName, { premises with disk })

/-- Changes the stored catalog in place. The change may carry a state of its own, which it keeps when
it fails; what it has made of the catalog by then is given up. -/
def update (market : Market) (change : Catalog → σ → Except Failure Unit × Catalog × σ) (state : σ)
    (premises : Premises) : Except Failure Catalog × σ × Premises :=
  match market.load premises with
  | (.error failure, premises) => (.error failure, state, premises)
  | (.ok catalog, premises) =>
    match change catalog state with
    | (.error failure, _, state) => (.error failure, state, premises)
    | (.ok (), catalog, state) =>
      match market.save catalog premises with
      | (result, premises) => (result, state, premises)

def statusChange (id : ListingId) (status : ListingStatus) (catalog : Catalog) :
    Except Problem Unit × Catalog :=
  Catalog.finished (catalog.changeListing id fun listing => listing.setStatus status)

def setListingStatus (market : Market) (id : ListingId) (status : ListingStatus)
    (premises : Premises) : Except Failure Listing × Premises :=
  let change (catalog : Catalog) (_ : Unit) : Except Failure Unit × Catalog × Unit :=
    match statusChange id status catalog with
    | (result, catalog) => (result.mapError .problem, catalog, ())
  match market.update change () premises with
  | (.error failure, _, premises) => (.error failure, premises)
  | (.ok catalog, _, premises) =>
    match catalog.findListing? id with
    | some listing => (.ok listing, premises)
    | none => (.error (.problem (Catalog.noListing id)), premises)

end Market

end VehicleMarket
