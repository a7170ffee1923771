import VehicleMarket.Proofs.Catalog.Reread
import VehicleMarket.Proofs.Market.Refinement

/-!
What is on the disk after an update. An update that fails leaves every file as it was; one that
succeeds has written a snapshot that loads as the catalog it gave back, provided that every number
in it is read back from its own spelling. Nothing checks the numbers before they are written: an
update with a price that is not finite succeeds, and its snapshot no longer loads.
-/
namespace VehicleMarket

open Json (ReadsBack)

namespace Catalog

/-- What a change that keeps the identifiers of the records can make of a catalog: operations, those
that fail among them, and any new content of a listing or a history that is found in it. -/
inductive EditedTo (catalog : Catalog) : Catalog → Prop where
  | same : EditedTo catalog catalog
  | operation {edited : Catalog} (operation : Operation) :
      EditedTo catalog edited → EditedTo catalog (edited.step operation)
  | listing {edited : Catalog} {id : ListingId} {stored : Listing} (listing : Listing) :
      EditedTo catalog edited → edited.findListing? id = some stored → listing.id = stored.id →
        listing.vehicle.id = stored.vehicle.id → EditedTo catalog (edited.withListing id listing)
  | history {edited : Catalog} {id : VehicleId} {stored : VehicleHistory}
      (history : VehicleHistory) :
      EditedTo catalog edited → edited.findHistory? id = some stored →
        history.vehicleId = stored.vehicleId → EditedTo catalog (edited.withHistory id history)

theorem EditedTo.invariant {catalog edited : Catalog} (h : catalog.EditedTo edited)
    (hcatalog : Invariant catalog) : Invariant edited := by
  induction h with
  | same => exact hcatalog
  | operation operation _ ih => exact ih.step operation
  | listing listing _ hfind hid hvehicle ih =>
    exact ih.of_sameIds (sameIds_withListing hfind hid hvehicle)
  | history history _ hfind hid ih => exact ih.of_sameIds (sameIds_withHistory hfind hid)

end Catalog

variable {σ : Type}

namespace Market

variable {market : Market} {premises later : Premises} {catalog changed : Catalog}
  {change : Catalog → σ → Except Failure Unit × Catalog × σ} {state after : σ}

/-- Of a snapshot that loads, an update that fails changes no file. One that succeeds, with a change
that keeps the identifiers, leaves a snapshot that loads as the catalog it gave back just when every
number in that catalog is read back from its own spelling, and that does not load at all just when
one of them is not finite. -/
theorem update_durable_iff (hload : (market.load premises).1 = .ok catalog)
    (hchange : ∀ changed after, change catalog state = (.ok (), changed, after) →
      catalog.EditedTo changed) :
    (∀ changed after later, market.update change state premises = (.ok changed, after, later) →
      ∀ clock, Clock.after? changed.size later.clock = some clock →
        ((market.load later).1 = .ok changed ↔ ∀ x ∈ changed.amounts, ReadsBack x) ∧
        (Refuses (market.load later).1 ↔ ∃ x ∈ changed.amounts, x.isFinite = false)) ∧
    ∀ failure after later, market.update change state premises = (.error failure, after, later) →
      Disk.SameFiles premises.disk later.disk := by
  constructor
  · intro changed after later hupdate clock hclock
    obtain ⟨hchanged, hsave⟩ := update_eq_ok hload hupdate
    have hcatalog : Catalog.Invariant catalog := by
      rw [load_fst] at hload
      exact (Snapshot.reachable_of_load hload).invariant
    have hinvariant := (hchange changed after hchanged).invariant hcatalog
    rw [(load_of_save hsave).2]
    exact ⟨Catalog.ofDocument_own_eq_iff hinvariant hclock,
      Catalog.ofDocument_own_refused_iff hinvariant hclock⟩
  · intro failure after later hupdate
    exact sameFiles_of_update_error hload hupdate

def setPrice (id : ListingId) (price : Binary64) (catalog : Catalog) (state : Unit) :
    Except Failure Unit × Catalog × Unit :=
  match catalog.changeListing id fun listing =>
    .ok { listing with vehicle := { listing.vehicle with price } } with
  | (.error problem, catalog) => (.error (.problem problem), catalog, state)
  | (.ok _, catalog) => (.ok (), catalog, state)

theorem editedTo_setPrice {id : ListingId} {price : Binary64} {state after : Unit}
    (h : setPrice id price catalog state = (.ok (), changed, after)) :
    catalog.EditedTo changed := by
  unfold setPrice at h
  split at h
  · exact absurd h (by simp)
  · rename_i edited changed hchange
    cases h
    obtain ⟨stored, hfind, hedited, rfl⟩ := Catalog.changeListing_eq_ok.mp hchange
    cases hedited
    exact .listing _ .same hfind rfl rfl

def repricedCatalog (price : Binary64) : Catalog :=
  let vehicle := { Vehicle.blank .epoch with price }
  { Catalog.empty with
    listings := [(⟨"l1"⟩, { Listing.create ⟨"l1"⟩ vehicle .empty with viewCount := 3 })] }

def repricing (price : Binary64) : Except Failure Catalog × Unit × Premises :=
  (sampleMarket "market.json").update (setPrice ⟨"l1"⟩ price) ()
    (samplePremises "market.json" olderDocument)

theorem older_market_loads :
    ((sampleMarket "market.json").load (samplePremises "market.json" olderDocument)).1 =
      .ok olderCatalog := by
  decide +kernel

theorem repriced_market_loads :
    (repricing (.ofNat 990)).1 = .ok (repricedCatalog (.ofNat 990)) ∧
      ((sampleMarket "market.json").load (repricing (.ofNat 990)).2.2).1 =
        .ok (repricedCatalog (.ofNat 990)) := by
  have hchanged : (repricing (.ofNat 990)).1 = .ok (repricedCatalog (.ofNat 990)) := by
    decide +kernel
  have hamounts : ∀ x ∈ (repricedCatalog (.ofNat 990)).amounts, ReadsBack x := by decide +kernel
  have hchange : ∀ changed after, setPrice ⟨"l1"⟩ (.ofNat 990) olderCatalog () =
      (.ok (), changed, after) → olderCatalog.EditedTo changed := fun _ _ => editedTo_setPrice
  obtain ⟨hloads, _⟩ := update_durable_iff older_market_loads hchange
  rcases hupdate : repricing (.ofNat 990) with ⟨result, after, later⟩
  rw [hupdate] at hchanged
  obtain rfl : result = .ok (repricedCatalog (.ofNat 990)) := hchanged
  have hlater : Clock.after? (repricedCatalog (.ofNat 990)).size later.clock =
      some (.fixed .epoch) := by
    rw [clock_of_update rfl hupdate]
    exact Clock.after?_fixed _ _
  exact ⟨rfl, (hloads _ _ _ hupdate _ hlater).1.mpr hamounts⟩

/-- A price that is not finite: the update succeeds, and the snapshot does not load. -/
theorem infinite_price_not_loaded :
    ((sampleMarket "market.json").load (samplePremises "market.json" olderDocument)).1 =
        .ok olderCatalog ∧
      olderCatalog.EditedTo (repricedCatalog (.infinity false)) ∧
      (repricing (.infinity false)).1 = .ok (repricedCatalog (.infinity false)) ∧
      Refuses ((sampleMarket "market.json").load (repricing (.infinity false)).2.2).1 := by
  have hprice : setPrice ⟨"l1"⟩ (.infinity false) olderCatalog () =
      (.ok (), repricedCatalog (.infinity false), ()) := by decide +kernel
  have hchanged : (repricing (.infinity false)).1 = .ok (repricedCatalog (.infinity false)) := by
    decide +kernel
  have hmem : Binary64.infinity false ∈ (repricedCatalog (.infinity false)).amounts := by decide
  refine ⟨older_market_loads, editedTo_setPrice hprice, hchanged, ?_⟩
  rcases hupdate : repricing (.infinity false) with ⟨result, after, later⟩
  rw [hupdate] at hchanged
  obtain rfl : result = .ok (repricedCatalog (.infinity false)) := hchanged
  obtain ⟨_, hsave⟩ := update_eq_ok older_market_loads hupdate
  rw [(load_of_save hsave).2]
  exact Catalog.ofDocument_not_finite ⟨_, hmem, by decide⟩ later.clock

end Market

end VehicleMarket
