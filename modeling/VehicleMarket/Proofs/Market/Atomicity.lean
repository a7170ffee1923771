import VehicleMarket.Proofs.Market.Sale

/-!
An update is all or nothing. A market that cannot be loaded, or a change that fails, leaves the disk
as it is, byte by byte, even when the change had already altered the catalog it was given. An update
that succeeds writes one file, the snapshot, with the document of the catalog that it gives back;
for a change of status that is the catalog as it was loaded, but for the statuses of the one listing
and of its vehicle.
-/
namespace VehicleMarket

namespace Market

variable {σ : Type} {market : Market} {premises later : Premises} {catalog changed : Catalog}
  {state after : σ} {id : ListingId} {status : ListingStatus}

/-! ## Changes of status -/

theorem statusChange_of_unknown (hfind : catalog.findListing? id = none) :
    statusChange id status catalog = (.error (Catalog.noListing id), catalog) := by
  have hlookup : Table.find? catalog.listings id = none := hfind
  unfold statusChange Catalog.changeListing
  rw [hlookup]
  rfl

theorem statusChange_of_sold {stored : Listing} (hfind : catalog.findListing? id = some stored)
    (hsold : stored.status = .sold) (hstatus : status ≠ .sold) :
    statusChange id status catalog =
      (.error (.transition (Spelled.name ListingStatus.sold) (Spelled.name status)), catalog) := by
  have hlookup : Table.find? catalog.listings id = some stored := hfind
  unfold statusChange Catalog.changeListing
  rw [hlookup]
  simp only [Listing.setStatus_of_sold hsold hstatus]
  rfl

theorem saved_of_setListingStatus {listing : Listing}
    (h : market.setListingStatus id status premises = (.ok listing, later)) :
    ∃ catalog stored, (market.load premises).1 = .ok catalog ∧
      catalog.findListing? id = some stored ∧ stored.setStatus status = .ok listing ∧
      market.Saved premises (catalog.withListing id listing) later := by
  obtain ⟨saved, hupdate, hfound⟩ := update_of_setListingStatus h
  obtain ⟨catalog, hload, hchange, hsaved⟩ := saved_of_update hupdate
  obtain ⟨stored, changed, hfind, hset, rfl⟩ :=
    statusChange_eq_ok.mp (statusUpdate_eq_ok.mp hchange)
  have hchanged : (catalog.withListing id changed).findListing? id = some changed :=
    Catalog.findListing?_withListing hfind
  obtain rfl : changed = listing := Option.some.inj (hchanged.symm.trans hfound)
  exact ⟨catalog, stored, hload, hfind, hset, hsaved⟩

theorem setListingStatus_of_stored {stored listing : Listing} {disk : Disk}
    (hload : (market.load premises).1 = .ok catalog)
    (hfind : catalog.findListing? id = some stored) (hset : stored.setStatus status = .ok listing)
    (hsave : market.snapshot.save (catalog.withListing id listing) premises.disk = (.ok (), disk)) :
    ∃ later, market.setListingStatus id status premises = (.ok listing, later) ∧
      later.disk = disk := by
  have hchange : statusChange id status catalog = (.ok (), catalog.withListing id listing) :=
    statusChange_eq_ok.mpr ⟨stored, listing, hfind, hset, rfl⟩
  obtain ⟨later, hupdate, hlater⟩ :=
    update_of_save hload (statusUpdate_eq_ok.mpr hchange) hsave
  exact ⟨later, setListingStatus_of_update hupdate (Catalog.findListing?_withListing hfind), hlater⟩

/-! ## All or nothing -/

/-- A call that fails because the market cannot be loaded or because its change fails gives that
failure and leaves the disk alone; any other one succeeds if the snapshot can be written. An update
that succeeds writes what its change made of the catalog into the snapshot and into no other file,
and a change of status makes no other change. -/
theorem update_all_or_nothing (market : Market) (premises : Premises)
    (edit : Catalog → σ → Except Failure Unit × Catalog × σ) (state : σ) (id : ListingId)
    (status : ListingStatus) :
    (∀ failure, (market.load premises).1 = .error failure →
      (∃ later, market.update edit state premises = (.error failure, state, later) ∧
        later.disk = premises.disk) ∧
      ∃ later, market.setListingStatus id status premises = (.error failure, later) ∧
        later.disk = premises.disk) ∧
    (∀ catalog, (market.load premises).1 = .ok catalog →
      (∀ failure touched after, edit catalog state = (.error failure, touched, after) →
        ∃ later, market.update edit state premises = (.error failure, after, later) ∧
          later.disk = premises.disk) ∧
      (∀ changed after disk, edit catalog state = (.ok (), changed, after) →
        market.snapshot.save changed premises.disk = (.ok (), disk) →
        ∃ later, market.update edit state premises = (.ok changed, after, later) ∧
          later.disk = disk) ∧
      (catalog.findListing? id = none →
        ∃ later, market.setListingStatus id status premises =
            (.error (.problem (Catalog.noListing id)), later) ∧
          later.disk = premises.disk) ∧
      ∀ stored, catalog.findListing? id = some stored →
        (stored.status = .sold → status ≠ .sold →
          ∃ later, market.setListingStatus id status premises =
              (.error (.problem (.transition (Spelled.name ListingStatus.sold)
                (Spelled.name status))), later) ∧
            later.disk = premises.disk) ∧
        ∀ listing disk, stored.setStatus status = .ok listing →
          market.snapshot.save (catalog.withListing id listing) premises.disk = (.ok (), disk) →
          ∃ later, market.setListingStatus id status premises = (.ok listing, later) ∧
            later.disk = disk) ∧
    (∀ changed after later,
      market.update edit state premises = (.ok changed, after, later) →
      ∃ catalog, (market.load premises).1 = .ok catalog ∧
        edit catalog state = (.ok (), changed, after) ∧ market.Saved premises changed later) ∧
    ∀ listing later, market.setListingStatus id status premises = (.ok listing, later) →
      ∃ catalog stored, (market.load premises).1 = .ok catalog ∧
        catalog.findListing? id = some stored ∧
        listing = { stored with
          status := status, vehicle := { stored.vehicle with status := listing.vehicle.status } } ∧
        market.Saved premises (catalog.withListing id listing) later := by
  have hdisk := load_disk market premises
  refine ⟨?unloaded, ?loaded, ?updated, ?settled⟩
  case unloaded =>
    intro failure hload
    exact ⟨⟨_, update_of_load_error hload, hdisk⟩, _,
      setListingStatus_of_update_error (update_of_load_error hload), hdisk⟩
  case loaded =>
    intro catalog hload
    refine ⟨?_, ?_, ?_, ?_⟩
    · intro failure touched after hedit
      exact ⟨_, update_of_change_error hload hedit, hdisk⟩
    · intro changed after disk hedit hsave
      exact update_of_save hload hedit hsave
    · intro hfind
      have hrefused : (statusChange id status catalog).1 = .error (Catalog.noListing id) := by
        rw [statusChange_of_unknown hfind]
      exact ⟨_, setListingStatus_of_refused hload hrefused, hdisk⟩
    · intro stored hfind
      constructor
      · intro hsold hstatus
        have hrefused := congrArg Prod.fst (statusChange_of_sold hfind hsold hstatus)
        exact ⟨_, setListingStatus_of_refused hload hrefused, hdisk⟩
      · intro listing disk hset hsave
        exact setListingStatus_of_stored hload hfind hset hsave
  case updated =>
    intro changed after later hupdate
    exact saved_of_update hupdate
  case settled =>
    intro listing later hset
    obtain ⟨catalog, stored, hload, hfind, hstatus, hsaved⟩ := saved_of_setListingStatus hset
    exact ⟨catalog, stored, hload, hfind, Listing.eq_of_setStatus hstatus, hsaved⟩

/-- An edit that takes all listings out of a catalog before it comes to an end, good or bad. -/
def clearListings (outcome : Except Failure Unit) (catalog : Catalog) (_ : Unit) :
    Except Failure Unit × Catalog × Unit :=
  (outcome, { catalog with listings := [] }, ())

/-- A text that cannot be loaded, an edit that fails half-way, an unknown listing and one that was
sold already; then an edit that is saved, and a listing that expires. -/
theorem older_market_all_or_nothing :
    (∃ failure later, (sampleMarket "market.json").update (clearListings (.ok ())) ()
        (samplePremises "market.json" "x") = (.error failure, (), later) ∧
      later.disk = (samplePremises "market.json" "x").disk) ∧
    (∃ later, (sampleMarket "market.json").update
        (clearListings (.error .clockPastRange)) ()
        (samplePremises "market.json" olderDocument) = (.error .clockPastRange, (), later) ∧
      later.disk = (samplePremises "market.json" olderDocument).disk) ∧
    (∃ later, (sampleMarket "market.json").setListingStatus ⟨"l2"⟩ .expired
        (samplePremises "market.json" olderDocument) =
          (.error (.problem (Catalog.noListing ⟨"l2"⟩)), later) ∧
      later.disk = (samplePremises "market.json" olderDocument).disk) ∧
    (∃ later, (sampleMarket "market.json").setListingStatus ⟨"l1"⟩ .active
        (samplePremises "market.json" halfSoldDocument) =
          (.error (.problem (.transition "sold" "active")), later) ∧
      later.disk = (samplePremises "market.json" halfSoldDocument).disk) ∧
    (∃ later, (sampleMarket "market.json").update (clearListings (.ok ())) ()
        (samplePremises "market.json" olderDocument) = (.ok .empty, (), later) ∧
      (sampleMarket "market.json").Saved (samplePremises "market.json" olderDocument) .empty
        later) ∧
    ∃ listing later, (sampleMarket "market.json").setListingStatus ⟨"l1"⟩ .expired
        (samplePremises "market.json" olderDocument) = (.ok listing, later) ∧
      (sampleMarket "market.json").Saved (samplePremises "market.json" olderDocument)
        (olderCatalog.withListing ⟨"l1"⟩ listing) later := by
  have hunreadable : ∃ failure, ((sampleMarket "market.json").load
      (samplePremises "market.json" "x")).1 = .error failure := by
    cases hload : ((sampleMarket "market.json").load (samplePremises "market.json" "x")).1 with
    | error failure => exact ⟨failure, rfl⟩
    | ok catalog =>
      have hfails : ((sampleMarket "market.json").load
          (samplePremises "market.json" "x")).1.isOk = false := by decide +kernel
      rw [hload] at hfails
      exact absurd hfails.symm Bool.false_ne_true
  have hhalf : ((sampleMarket "market.json").load
      (samplePremises "market.json" halfSoldDocument)).1 =
        .ok (Catalog.empty.step (.insertListing halfSoldListing)) := by decide +kernel
  have hcleared : ((sampleMarket "market.json").update (clearListings (.ok ())) ()
      (samplePremises "market.json" olderDocument)).1 = .ok .empty := by decide +kernel
  have hexpired : ((sampleMarket "market.json").setListingStatus ⟨"l1"⟩ .expired
      (samplePremises "market.json" olderDocument)).1.isOk = true := by decide +kernel
  refine ⟨?unreadable, ?halfway, ?unknown, ?sold, ?cleared, ?expires⟩
  case unreadable =>
    obtain ⟨failure, hload⟩ := hunreadable
    obtain ⟨later, hupdate, hdisk⟩ := ((update_all_or_nothing _ _
      (clearListings (.ok ())) () ⟨"l1"⟩ .sold).1 failure hload).1
    exact ⟨failure, later, hupdate, hdisk⟩
  case halfway =>
    exact ((update_all_or_nothing _ _ (clearListings (.error .clockPastRange)) () ⟨"l1"⟩ .sold).2.1
      olderCatalog older_market_loads).1 _ _ _ rfl
  case unknown =>
    exact ((update_all_or_nothing _ _ (clearListings (.ok ())) () ⟨"l2"⟩ .expired).2.1
      olderCatalog older_market_loads).2.2.1 (by decide)
  case sold =>
    exact (((update_all_or_nothing _ _ (clearListings (.ok ())) () ⟨"l1"⟩ .active).2.1
      _ hhalf).2.2.2 halfSoldListing (by decide +kernel)).1 rfl (by decide)
  case cleared =>
    rcases hupdate : (sampleMarket "market.json").update (clearListings (.ok ())) ()
      (samplePremises "market.json" olderDocument) with ⟨result, after, later⟩
    rw [hupdate] at hcleared
    obtain rfl : result = .ok .empty := hcleared
    obtain ⟨catalog, _, _, hsaved⟩ := (update_all_or_nothing _ _ (clearListings (.ok ())) () ⟨"l1"⟩
      .sold).2.2.1 _ _ _ hupdate
    exact ⟨later, rfl, hsaved⟩
  case expires =>
    rcases hset : (sampleMarket "market.json").setListingStatus ⟨"l1"⟩ .expired
      (samplePremises "market.json" olderDocument) with ⟨result, later⟩
    rw [hset] at hexpired
    cases result with
    | error failure => exact absurd hexpired Bool.false_ne_true
    | ok listing =>
      obtain ⟨catalog, stored, hload, _, _, hsaved⟩ := (update_all_or_nothing _ _
        (clearListings (.ok ())) () ⟨"l1"⟩ .expired).2.2.2 _ _ hset
      obtain rfl : olderCatalog = catalog :=
        Except.ok.inj (older_market_loads.symm.trans hload)
      exact ⟨listing, later, rfl, hsaved⟩

end Market

end VehicleMarket
