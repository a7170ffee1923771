import VehicleMarket.Market.Service
import VehicleMarket.Proofs.Market.Snapshot

/-!
What the operations of a market do, an equation for each way they can end. Loading moves nothing but
the clock and saving nothing but files; an update is a load, a change and a save, and it stops where
the first of them fails.
-/
namespace VehicleMarket.Market

variable {σ : Type} {market : Market} {premises later : Premises} {catalog changed : Catalog}

/-! ## Loading and saving -/

theorem load_fst (market : Market) (premises : Premises) :
    (market.load premises).1 = (market.snapshot.load premises.disk premises.clock).1 := by
  unfold load
  cases market.snapshot.load premises.disk premises.clock with
  | mk result clock => rfl

theorem load_disk (market : Market) (premises : Premises) :
    (market.load premises).2.disk = premises.disk := by
  unfold load
  cases market.snapshot.load premises.disk premises.clock with
  | mk result clock => rfl

theorem load_clock {now : Moment} (hclock : premises.clock = .fixed now) :
    (market.load premises).2.clock = .fixed now := by
  have hload : (market.snapshot.load premises.disk premises.clock).2 = .fixed now := by
    rw [hclock]
    exact Snapshot.load_fixed market.snapshot premises.disk
  unfold load
  cases hresult : market.snapshot.load premises.disk premises.clock with
  | mk result clock =>
    rw [hresult] at hload
    exact hload

theorem save_eq_ok : market.save catalog premises = (.ok changed, later) ↔
    changed = catalog ∧ ∃ disk, market.snapshot.save catalog premises.disk = (.ok (), disk) ∧
      later = { premises with disk } := by
  unfold save
  constructor
  · intro h
    split at h
    · exact absurd h (by simp)
    · rename_i disk hsave
      cases h
      exact ⟨rfl, disk, hsave, rfl⟩
  · rintro ⟨rfl, disk, hsave, rfl⟩
    rw [hsave]

theorem snapshot_save_of_save (h : (market.save catalog premises).1 = .ok catalog) :
    ∃ later, market.snapshot.save catalog premises.disk = (.ok (), later) := by
  rcases hsave : market.save catalog premises with ⟨result, later⟩
  rw [hsave] at h
  obtain rfl : result = .ok catalog := h
  obtain ⟨_, disk, hdisk, _⟩ := save_eq_ok.mp hsave
  exact ⟨disk, hdisk⟩

/-- A catalog that was saved is loaded as what its document is read as. -/
theorem load_of_save (h : market.save catalog premises = (.ok changed, later)) :
    changed = catalog ∧
      (market.load later).1 = (Catalog.ofDocument catalog.toDocument later.clock).1 := by
  obtain ⟨rfl, disk, hsave, rfl⟩ := save_eq_ok.mp h
  exact ⟨rfl, by rw [load_fst, Snapshot.load_of_save hsave]⟩

theorem sameFiles_of_save_error {failure : Failure}
    (h : market.save catalog premises = (.error failure, later)) :
    Disk.SameFiles premises.disk later.disk := by
  unfold save at h
  split at h
  · rename_i problem disk hsave
    cases h
    unfold Snapshot.save at hsave
    split at hsave
    · rename_i fault written hwrite
      cases hsave
      exact Folder.sameFiles_of_write_error hwrite
    · exact absurd hsave (by simp)
  · exact absurd h (by simp)

/-- The snapshot holds the document of a catalog, and every other file is as it was. -/
def Saved (market : Market) (premises : Premises) (catalog : Catalog) (later : Premises) : Prop :=
  premises.disk.Rewritten (market.snapshot.folder.fullPath market.snapshot.fileName)
    (.ofText catalog.toDocument) later.disk

theorem saved_of_save (h : market.save catalog premises = (.ok changed, later)) :
    market.Saved premises catalog later := by
  obtain ⟨rfl, disk, hsave, rfl⟩ := save_eq_ok.mp h
  exact Folder.rewritten_of_write (Snapshot.save_eq_ok.mp hsave)

/-! ## Checks -/

theorem check_of_load_error {failure : Failure} (thisYear : Int32)
    (hload : (market.load premises).1 = .error failure) :
    market.check thisYear premises = (.error failure, (market.load premises).2) := by
  rcases hloaded : market.load premises with ⟨result, loaded⟩
  rw [hloaded] at hload
  obtain rfl : result = .error failure := hload
  unfold check
  rw [hloaded]

theorem check_of_load (thisYear : Int32) (hload : (market.load premises).1 = .ok catalog) :
    market.check thisYear premises =
      (.ok (catalog.summary, Integrity.check thisYear market.options catalog),
        (market.load premises).2) := by
  rcases hloaded : market.load premises with ⟨result, loaded⟩
  rw [hloaded] at hload
  obtain rfl : result = .ok catalog := hload
  unfold check
  rw [hloaded]

/-! ## Exports -/

theorem exportBundle_of_load_error {failure : Failure}
    (hload : (market.load premises).1 = .error failure) :
    market.exportBundle premises = (.error failure, (market.load premises).2) := by
  rcases hloaded : market.load premises with ⟨result, loaded⟩
  rw [hloaded] at hload
  obtain rfl : result = .error failure := hload
  unfold exportBundle
  rw [hloaded]

theorem exportBundle_of_load (hload : (market.load premises).1 = .ok catalog) :
    market.exportBundle premises =
      match market.exports.write market.bundleName (.archive catalog.bundle) premises.disk with
      | (.error fault, disk) =>
        (.error (.problem (.io fault)), { (market.load premises).2 with disk })
      | (.ok (), disk) => (.ok market.bundleName, { (market.load premises).2 with disk }) := by
  have hdisk := load_disk market premises
  rcases hloaded : market.load premises with ⟨result, loaded⟩
  rw [hloaded] at hload hdisk
  obtain rfl : result = .ok catalog := hload
  change loaded.disk = premises.disk at hdisk
  unfold exportBundle
  rw [← hdisk]
  rcases hwrite : market.exports.write market.bundleName (.archive catalog.bundle) loaded.disk with
    ⟨fault | _, disk⟩
  · simp only [hloaded, hwrite]
  · simp only [hloaded, hwrite]

/-! ## Updates -/

section Update

variable {change : Catalog → σ → Except Failure Unit × Catalog × σ} {state after : σ}

theorem update_of_load_error {failure : Failure}
    (hload : (market.load premises).1 = .error failure) :
    market.update change state premises = (.error failure, state, (market.load premises).2) := by
  rcases hloaded : market.load premises with ⟨result, loaded⟩
  rw [hloaded] at hload
  obtain rfl : result = .error failure := hload
  unfold update
  simp only [hloaded]

theorem update_of_change_error (hload : (market.load premises).1 = .ok catalog)
    {failure : Failure} {touched : Catalog}
    (hchange : change catalog state = (.error failure, touched, after)) :
    market.update change state premises = (.error failure, after, (market.load premises).2) := by
  rcases hloaded : market.load premises with ⟨result, loaded⟩
  rw [hloaded] at hload
  obtain rfl : result = .ok catalog := hload
  unfold update
  simp only [hloaded, hchange]

theorem update_of_change (hload : (market.load premises).1 = .ok catalog)
    (hchange : change catalog state = (.ok (), changed, after)) :
    market.update change state premises =
      ((market.save changed (market.load premises).2).1, after,
        (market.save changed (market.load premises).2).2) := by
  rcases hloaded : market.load premises with ⟨result, loaded⟩
  rw [hloaded] at hload
  obtain rfl : result = .ok catalog := hload
  unfold update
  simp only [hloaded, hchange]

theorem update_of_save {disk : Disk} (hload : (market.load premises).1 = .ok catalog)
    (hchange : change catalog state = (.ok (), changed, after))
    (hsave : market.snapshot.save changed premises.disk = (.ok (), disk)) :
    ∃ later, market.update change state premises = (.ok changed, after, later) ∧
      later.disk = disk := by
  rw [← load_disk market premises] at hsave
  have hsaved : market.save changed (market.load premises).2 =
      (.ok changed, { (market.load premises).2 with disk }) :=
    save_eq_ok.mpr ⟨rfl, disk, hsave, rfl⟩
  refine ⟨{ (market.load premises).2 with disk }, ?_, rfl⟩
  rw [update_of_change hload hchange, hsaved]

theorem update_eq_ok (hload : (market.load premises).1 = .ok catalog)
    (h : market.update change state premises = (.ok changed, after, later)) :
    change catalog state = (.ok (), changed, after) ∧
      market.save changed (market.load premises).2 = (.ok changed, later) := by
  rcases hchange : change catalog state with ⟨outcome, edited, carried⟩
  cases outcome with
  | error failure =>
    rw [update_of_change_error hload hchange] at h
    exact absurd h (by simp)
  | ok =>
    rw [update_of_change hload hchange] at h
    rcases hsaved : market.save edited (market.load premises).2 with ⟨saved, disk⟩
    rw [hsaved] at h
    cases h
    obtain ⟨rfl, _⟩ := load_of_save hsaved
    exact ⟨rfl, hsaved⟩

/-- An update that fails has not been saved, whether it was the change or the saving that failed. -/
theorem sameFiles_of_update_error (hload : (market.load premises).1 = .ok catalog)
    {failure : Failure}
    (h : market.update change state premises = (.error failure, after, later)) :
    Disk.SameFiles premises.disk later.disk := by
  rw [← load_disk market premises]
  rcases hchange : change catalog state with ⟨outcome, edited, carried⟩
  cases outcome with
  | error problem =>
    rw [update_of_change_error hload hchange] at h
    cases h
    exact .refl _
  | ok =>
    rw [update_of_change hload hchange] at h
    rcases hsaved : market.save edited (market.load premises).2 with ⟨saved, disk⟩
    rw [hsaved] at h
    cases h
    exact sameFiles_of_save_error hsaved

theorem saved_of_update
    (h : market.update change state premises = (.ok changed, after, later)) :
    ∃ catalog, (market.load premises).1 = .ok catalog ∧
      change catalog state = (.ok (), changed, after) ∧ market.Saved premises changed later := by
  cases hload : (market.load premises).1 with
  | error failure =>
    rw [update_of_load_error hload] at h
    exact absurd h (by simp)
  | ok catalog =>
    obtain ⟨hchange, hsave⟩ := update_eq_ok hload h
    have hsaved := saved_of_save hsave
    unfold Saved at hsaved
    rw [load_disk] at hsaved
    exact ⟨catalog, rfl, hchange, hsaved⟩

theorem clock_of_update {now : Moment} (hclock : premises.clock = .fixed now)
    (h : market.update change state premises = (.ok changed, after, later)) :
    later.clock = .fixed now := by
  cases hload : (market.load premises).1 with
  | error failure =>
    rw [update_of_load_error hload] at h
    exact absurd h (by simp)
  | ok catalog =>
    obtain ⟨_, hsave⟩ := update_eq_ok hload h
    obtain ⟨_, disk, _, rfl⟩ := save_eq_ok.mp hsave
    exact load_clock hclock

end Update

/-! ## Changes of status -/

section StatusChange

variable {id : ListingId} {status : ListingStatus}

theorem statusChange_eq_ok : statusChange id status catalog = (.ok (), changed) ↔
    ∃ stored edited, catalog.findListing? id = some stored ∧
      stored.setStatus status = .ok edited ∧ changed = catalog.withListing id edited := by
  unfold statusChange
  rw [Catalog.finished_eq_ok]
  constructor
  · rintro ⟨edited, hchange⟩
    obtain ⟨stored, hfind, hset, hchanged⟩ := Catalog.changeListing_eq_ok.mp hchange
    exact ⟨stored, edited, hfind, hset, hchanged⟩
  · rintro ⟨stored, edited, hfind, hset, hchanged⟩
    exact ⟨edited, Catalog.changeListing_eq_ok.mpr ⟨stored, hfind, hset, hchanged⟩⟩

def statusUpdate (id : ListingId) (status : ListingStatus) (catalog : Catalog) (_ : Unit) :
    Except Failure Unit × Catalog × Unit :=
  match statusChange id status catalog with
  | (result, catalog) => (result.mapError .problem, catalog, ())

theorem statusUpdate_eq_ok : statusUpdate id status catalog () = (.ok (), changed, ()) ↔
    statusChange id status catalog = (.ok (), changed) := by
  unfold statusUpdate
  rcases statusChange id status catalog with ⟨problem | _, edited⟩
  · simp [Except.mapError]
  · simp [Except.mapError]

def statusOutcome (id : ListingId) :
    Except Failure Catalog × Unit × Premises → Except Failure Listing × Premises
  | (.error failure, _, premises) => (.error failure, premises)
  | (.ok catalog, _, premises) =>
    match catalog.findListing? id with
    | some listing => (.ok listing, premises)
    | none => (.error (.problem (Catalog.noListing id)), premises)

theorem setListingStatus_eq : market.setListingStatus id status premises =
    statusOutcome id (market.update (statusUpdate id status) () premises) := by
  unfold setListingStatus statusOutcome
  rfl

theorem setListingStatus_of_update_error {failure : Failure}
    (h : market.update (statusUpdate id status) () premises = (.error failure, (), later)) :
    market.setListingStatus id status premises = (.error failure, later) := by
  rw [setListingStatus_eq, h]
  rfl

/-- A listing that is not there, or that does not admit the status, leaves everything as it is. -/
theorem setListingStatus_of_refused {problem : Problem}
    (hload : (market.load premises).1 = .ok catalog)
    (hchange : (statusChange id status catalog).1 = .error problem) :
    market.setListingStatus id status premises =
      (.error (.problem problem), (market.load premises).2) := by
  have hfails : statusUpdate id status catalog () =
      (.error (.problem problem), (statusChange id status catalog).2, ()) := by
    rcases hstatus : statusChange id status catalog with ⟨result, touched⟩
    rw [hstatus] at hchange
    obtain rfl : result = .error problem := hchange
    unfold statusUpdate
    rw [hstatus]
    rfl
  exact setListingStatus_of_update_error (update_of_change_error hload hfails)

theorem setListingStatus_of_update {listing : Listing}
    (h : market.update (statusUpdate id status) () premises = (.ok changed, (), later))
    (hfound : changed.findListing? id = some listing) :
    market.setListingStatus id status premises = (.ok listing, later) := by
  rw [setListingStatus_eq, h]
  unfold statusOutcome
  simp only [hfound]

theorem update_of_setListingStatus {listing : Listing}
    (h : market.setListingStatus id status premises = (.ok listing, later)) :
    ∃ changed, market.update (statusUpdate id status) () premises = (.ok changed, (), later) ∧
      changed.findListing? id = some listing := by
  rw [setListingStatus_eq] at h
  rcases hupdate : market.update (statusUpdate id status) () premises with ⟨result, _, between⟩
  rw [hupdate] at h
  unfold statusOutcome at h
  cases result with
  | error failure => exact absurd h (by simp)
  | ok changed =>
    cases hfound : changed.findListing? id with
    | none =>
      simp only [hfound] at h
      exact absurd h (by simp)
    | some found =>
      simp only [hfound] at h
      cases h
      exact ⟨changed, rfl, hfound⟩

end StatusChange

end VehicleMarket.Market
