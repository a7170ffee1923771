import VehicleMarket.Proofs.Catalog.Integrity
import VehicleMarket.Proofs.Market.Durability

/-!
The sale of a listing. A sale always succeeds and carries over to the vehicle, unless the listing
was sold before: then nothing is changed, and a vehicle that was not sold with it stays so. The
snapshot loads after the sale, whatever its numbers are, and just such listings are then in the
report.
-/
namespace VehicleMarket

namespace Listing

def afterSale (listing : Listing) : Listing :=
  if listing.status = .sold then listing
  else { listing with status := .sold, vehicle := { listing.vehicle with status := .sold } }

theorem setStatus_sold (listing : Listing) : listing.setStatus .sold = .ok listing.afterSale := by
  by_cases hsold : listing.status = .sold
  · rw [setStatus_self hsold, afterSale, if_pos hsold]
  · rw [setStatus_moved hsold hsold, afterSale, if_neg hsold]
    rfl

variable (listing : Listing)

theorem status_afterSale : listing.afterSale.status = .sold := by
  unfold afterSale
  split
  · assumption
  · rfl

theorem vehicle_sold_afterSale_iff :
    listing.afterSale.vehicle.status = .sold ↔ ¬ listing.HalfSold := by
  unfold afterSale HalfSold
  by_cases hsold : listing.status = .sold
  · simp [hsold]
  · simp [hsold]

theorem price_afterSale : listing.afterSale.vehicle.price = listing.vehicle.price := by
  unfold afterSale
  split <;> rfl

theorem halfSold_afterSale_iff : listing.afterSale.HalfSold ↔ listing.HalfSold := by
  rw [HalfSold, Ne, vehicle_sold_afterSale_iff, Decidable.not_not]
  exact and_iff_right listing.status_afterSale

end Listing

namespace Catalog

variable {catalog : Catalog} {id : ListingId} {stored edited : Listing}

theorem amounts_withListing (hfind : catalog.findListing? id = some stored)
    (hprice : edited.vehicle.price = stored.vehicle.price) :
    (catalog.withListing id edited).amounts = catalog.amounts := by
  have hview : Table.mapValues (catalog.withListing id edited).listings
      (fun listing => listing.vehicle.price) =
      Table.mapValues catalog.listings fun listing => listing.vehicle.price :=
    Table.mapValues_modify hfind hprice
  have hprices := Table.values_eq_of_mapValues hview
  have hvehicles : (catalog.withListing id edited).vehicles = catalog.vehicles := rfl
  have hhistories : (catalog.withListing id edited).histories = catalog.histories := rfl
  simp only [amounts, allVehicles, ownedVehicles, List.map_append, List.map_map,
    Function.comp_def, hvehicles, hhistories, hprices]

theorem statusChange_sold (hfind : catalog.findListing? id = some stored) :
    Market.statusChange id .sold catalog = (.ok (), catalog.withListing id stored.afterSale) :=
  Market.statusChange_eq_ok.mpr ⟨stored, stored.afterSale, hfind, stored.setStatus_sold, rfl⟩

theorem findListing?_reread (hfind : catalog.findListing? id = some stored) :
    catalog.reread.findListing? id = some stored.reread := by
  rw [findListing?] at hfind ⊢
  rw [reread, Table.find?_mapValues, hfind, Option.map_some]

/-- A keyed catalog has one listing under an identifier, whose issues are those of that name. -/
theorem Invariant.vehicleNotSold_mem_check (h : Invariant catalog)
    (hfind : catalog.findListing? id = some stored) {options : Integrity.Options}
    {thisYear : Int32} :
    (∃ status, ⟨.warning, .listing, id.text, .vehicleNotSold status⟩ ∈
      Integrity.check thisYear options catalog) ↔ stored.HalfSold := by
  have hentry := Table.mem_of_find? hfind
  have hid : id = stored.id := (h.listings.own _ hentry).1
  simp only [Integrity.vehicleNotSold_mem_check]
  constructor
  · rintro ⟨_, listing, hmem, htext, hsold, hvehicle, _⟩
    have hsame : listing.id = id := by
      cases hl : listing.id with
      | mk text => rw [hl] at htext; cases id; exact congrArg Identifier.mk htext
    have hlisting : catalog.findListing? listing.id = some listing := h.listings.find? hmem
    rw [hsame, hfind] at hlisting
    rw [Option.some.inj hlisting]
    exact ⟨hsold, hvehicle⟩
  · rintro ⟨hsold, hvehicle⟩
    exact ⟨_, stored, List.mem_map_of_mem hentry, congrArg Identifier.text hid.symm, hsold,
      hvehicle, rfl⟩

end Catalog

namespace Market

open Integrity (Issue)

variable {market : Market} {premises later : Premises} {now : Moment} {catalog : Catalog}

theorem stored_of_listing (hclock : premises.clock = .fixed now)
    (hload : (market.load premises).1 = .ok catalog) {id : ListingId} {stored : Listing}
    (hfind : catalog.findListing? id = some stored) : Stored market now catalog premises := by
  refine stored_of_load hclock hload ?_
  intro hmissing
  rw [load_fst, Snapshot.load, hmissing] at hload
  cases hload
  cases hfind

theorem load_reread_of_save (hsave : market.save catalog premises = (.ok catalog, later))
    (hinvariant : Catalog.Invariant catalog) (hfinite : ∀ x ∈ catalog.amounts, x.isFinite = true)
    (hclock : later.clock = .fixed now) : (market.load later).1 = .ok catalog.reread := by
  have hlater : Clock.after? catalog.size later.clock = some (.fixed now) := by
    rw [hclock]
    exact Clock.after?_fixed _ _
  rw [(load_of_save hsave).2, Catalog.ofDocument_reread hinvariant hfinite hlater]

theorem save_of_stored (h : Stored market now catalog premises) (changed : Catalog) :
    ∃ later, market.save changed premises = (.ok changed, later) ∧ later.clock = .fixed now := by
  obtain ⟨disk, hsave⟩ := h.save changed
  exact ⟨{ premises with disk }, save_eq_ok.mpr ⟨rfl, disk, hsave, rfl⟩, h.clock⟩

theorem setListingStatus_of_save (h : Stored market now catalog premises) {changed : Catalog}
    {id : ListingId} {status : ListingStatus} {listing : Listing}
    (hchange : statusChange id status catalog = (.ok (), changed))
    (hsave : market.save changed premises = (.ok changed, later))
    (hfound : changed.findListing? id = some listing) :
    market.setListingStatus id status premises = (.ok listing, later) := by
  have hload : (market.load premises).1 = .ok catalog := congrArg Prod.fst h.market_load
  have hupdate : market.update (statusUpdate id status) () premises = (.ok changed, (), later) := by
    rw [update_of_change hload (statusUpdate_eq_ok.mpr hchange), h.market_load, hsave]
  exact setListingStatus_of_update hupdate hfound

/-- The sale of a stored listing is saved: the snapshot then loads with the listing sold. -/
theorem sale_of_stored (h : Stored market now catalog premises) {id : ListingId}
    {stored : Listing} (hfind : catalog.findListing? id = some stored) :
    ∃ later, market.setListingStatus id .sold premises = (.ok stored.afterSale, later) ∧
      (market.load later).1 = .ok (catalog.withListing id stored.afterSale).reread := by
  obtain ⟨later, hsave, hclock⟩ :=
    save_of_stored h (catalog.withListing id stored.afterSale)
  have hset := setListingStatus_of_save h (Catalog.statusChange_sold hfind) hsave
    (Catalog.findListing?_withListing hfind)
  have hinvariant : Catalog.Invariant (catalog.withListing id stored.afterSale) := by
    obtain ⟨hid, hvehicle⟩ := Catalog.setStatus_keeps_ids stored.setStatus_sold
    exact h.reachable.invariant.of_sameIds (Catalog.sameIds_withListing hfind hid hvehicle)
  have hfinite : ∀ x ∈ (catalog.withListing id stored.afterSale).amounts, x.isFinite = true := by
    have hload := h.load
    rw [h.clock] at hload
    rw [Catalog.amounts_withListing hfind stored.price_afterSale]
    exact Snapshot.finite_of_load hload
  exact ⟨later, hset, load_reread_of_save hsave hinvariant hfinite hclock⟩

/-- On a fixed clock, a sale succeeds, of a stored listing as of any other, and the snapshot loads
after it. The listing that is given back and the one that is loaded are sold; vehicle and report
agree with that just when the listing was not half sold before. -/
theorem sale_settles_iff (hclock : premises.clock = .fixed now)
    (hload : (market.load premises).1 = .ok catalog) {id : ListingId} {stored : Listing}
    (hfind : catalog.findListing? id = some stored) :
    (∀ listing : Listing, ∃ sold, listing.markSold = .ok sold ∧ sold.status = .sold ∧
      (sold.vehicle.status = .sold ↔ ¬ listing.HalfSold)) ∧
    ∃ sold later reloaded again, market.setListingStatus id .sold premises = (.ok sold, later) ∧
      sold.status = .sold ∧ (sold.vehicle.status = .sold ↔ ¬ stored.HalfSold) ∧
      (market.load later).1 = .ok reloaded ∧ reloaded.findListing? id = some again ∧
      again.status = .sold ∧ (again.vehicle.status = .sold ↔ ¬ stored.HalfSold) ∧
      ∀ thisYear, ∃ summary report, (market.check thisYear later).1 = .ok (summary, report) ∧
        ((∃ status, (⟨.warning, .listing, id.text, .vehicleNotSold status⟩ : Issue) ∈ report) ↔
          stored.HalfSold) := by
  refine ⟨fun listing => ⟨listing.afterSale, listing.setStatus_sold, listing.status_afterSale,
    listing.vehicle_sold_afterSale_iff⟩, ?_⟩
  have hstored := stored_of_listing hclock hload hfind
  obtain ⟨later, hset, hreload⟩ := sale_of_stored hstored hfind
  have hagain : (catalog.withListing id stored.afterSale).reread.findListing? id =
      some stored.afterSale.reread :=
    Catalog.findListing?_reread (Catalog.findListing?_withListing hfind)
  refine ⟨stored.afterSale, later, _, _, hset, stored.status_afterSale,
    stored.vehicle_sold_afterSale_iff, hreload, hagain, stored.status_afterSale,
    stored.vehicle_sold_afterSale_iff, ?_⟩
  intro thisYear
  have hinvariant := (Snapshot.reachable_of_load (load_fst market later ▸ hreload)).invariant
  refine ⟨_, _, congrArg Prod.fst (check_of_load thisYear hreload), ?_⟩
  rw [hinvariant.vehicleNotSold_mem_check hagain]
  exact stored.halfSold_afterSale_iff

theorem older_listing_sold :
    ∃ sold later reloaded again, (sampleMarket "market.json").setListingStatus ⟨"l1"⟩ .sold
        (samplePremises "market.json" olderDocument) = (.ok sold, later) ∧
      sold.status = .sold ∧ sold.vehicle.status = .sold ∧
      ((sampleMarket "market.json").load later).1 = .ok reloaded ∧
      reloaded.findListing? ⟨"l1"⟩ = some again ∧ again.status = .sold ∧
      again.vehicle.status = .sold := by
  have hload : ((sampleMarket "market.json").load (samplePremises "market.json" olderDocument)).1 =
      .ok olderCatalog := by decide +kernel
  have hfind : olderCatalog.findListing? ⟨"l1"⟩ =
      some { Listing.create ⟨"l1"⟩ { Vehicle.blank .epoch with price := Record.sampleAmount } .empty
        with viewCount := 3 } := by decide +kernel
  obtain ⟨_, sold, later, reloaded, again, hset, hsold, hvehicle, hloaded, hagain, hstays,
    hreloaded, _⟩ := sale_settles_iff rfl hload hfind
  exact ⟨sold, later, reloaded, again, hset, hsold, hvehicle.mpr (by decide), hloaded, hagain,
    hstays, hreloaded.mpr (by decide)⟩

def halfSoldDocument : String :=
  "\x7b\"listings\": [\x7b\"id\": \"l1\", \"statut\": \"vendue\", " ++
    "\"vehicule\": \x7b\"id\": \"v1\"\x7d\x7d]\x7d"

def halfSoldListing : Listing :=
  { Listing.create ⟨"l1"⟩ { Vehicle.blank .epoch with id := ⟨"v1"⟩ } .empty with status := .sold }

/-- A sale, from the market or of its own account, that leaves the vehicle available. -/
theorem half_sold_listing_stays :
    ((sampleMarket "market.json").setListingStatus ⟨"l1"⟩ .sold
        (samplePremises "market.json" halfSoldDocument)).1 = .ok halfSoldListing ∧
      halfSoldListing.markSold = .ok halfSoldListing ∧
      halfSoldListing.vehicle.status = .available := by
  decide +kernel

end Market

end VehicleMarket
