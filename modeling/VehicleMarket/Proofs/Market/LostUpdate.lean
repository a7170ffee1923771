import VehicleMarket.Proofs.Catalog.Statuses
import VehicleMarket.Proofs.Market.Concurrency
import VehicleMarket.Proofs.Market.Sale

/-!
What is left of two changes of status that are made at the same time. After calls that were made one
after the other both changes are there. After two calls that overlap the snapshot is what the one
that saved last made of it, and the listing of the other one has the status it had before.
-/
namespace VehicleMarket

namespace Catalog

variable {seen changed : Catalog} {id : ListingId} {status : ListingStatus}

theorem ShowsStatus.reread (h : changed.ShowsStatus id status) :
    changed.reread.ShowsStatus id status := by
  obtain ⟨listing, hfind, hstatus⟩ := h
  exact ⟨listing.reread, findListing?_reread hfind, hstatus⟩

/-- What a change of status makes of a catalog: it can be written and read again, and only the one
listing has another status in it. -/
structure StatusGiven (seen : Catalog) (id : ListingId) (status : ListingStatus)
    (changed : Catalog) : Prop where
  invariant : Invariant changed
  finite : changed.FiniteAmounts
  before : ∃ earlier, seen.ShowsStatus id earlier
  shows : changed.ShowsStatus id status
  others : ∀ other, other ≠ id → ∀ kept, seen.ShowsStatus other kept →
    changed.ShowsStatus other kept

theorem statusGiven_of_statusChange (hinvariant : Invariant seen) (hfinite : seen.FiniteAmounts)
    (h : Market.statusChange id status seen = (.ok (), changed)) :
    StatusGiven seen id status changed := by
  obtain ⟨stored, edited, hfind, hset, rfl⟩ := Market.statusChange_eq_ok.mp h
  obtain ⟨hid, hvehicle⟩ := setStatus_keeps_ids hset
  have hedited := Listing.eq_of_setStatus hset
  refine ⟨?_, ?_, ⟨stored.status, stored, hfind, rfl⟩, ?_, ?_⟩
  · exact hinvariant.of_sameIds (sameIds_withListing hfind hid hvehicle)
  · have hprice : edited.vehicle.price = stored.vehicle.price := by rw [hedited]
    have hamounts : (seen.withListing id edited).amounts = seen.amounts :=
      amounts_withListing hfind hprice
    intro x hx
    exact hfinite x (hamounts ▸ hx)
  · exact ⟨edited, findListing?_withListing hfind, by rw [hedited]⟩
  · rintro other hne kept ⟨listing, hother, hstatus⟩
    exact ⟨listing, (Table.find?_modify_of_ne _ _ hne).trans hother, hstatus⟩

end Catalog

namespace Market

variable {market : Market} {disk left : Disk} {result : Catalog} {id : ListingId}
  {status : ListingStatus} {edit : Catalog → Except Failure Unit × Catalog}

/-! ## What the snapshot shows -/

/-- The snapshot of a disk can be loaded, whenever the clock lasts for it. -/
def Loadable (market : Market) (disk : Disk) : Prop :=
  ∃ size, ∀ clock, (Clock.after? size clock).isSome = true →
    ∃ catalog, (market.snapshot.load disk clock).1 = .ok catalog

/-- The snapshot of a disk can be loaded, and it shows a listing with a status at every time. -/
structure Shows (market : Market) (disk : Disk) (id : ListingId) (status : ListingStatus) :
    Prop where
  loaded : ∃ clock catalog, (market.snapshot.load disk clock).1 = .ok catalog
  always : ∀ clock catalog, (market.snapshot.load disk clock).1 = .ok catalog →
    catalog.ShowsStatus id status

theorem shows_of_load {clock : Clock} {seen : Catalog}
    (hload : (market.snapshot.load disk clock).1 = .ok seen) (h : seen.ShowsStatus id status) :
    market.Shows disk id status := by
  refine ⟨⟨clock, seen, hload⟩, fun later catalog hlater => ?_⟩
  rcases Snapshot.document_of_load hload with hempty | ⟨text, htext⟩
  · rw [hempty] at hload hlater
    cases hload
    cases hlater
    exact h
  · rw [htext] at hload hlater
    exact Catalog.showsStatus_of_ofDocument hload hlater h

theorem Shows.unique {other : ListingStatus} (h : market.Shows disk id status)
    (hother : market.Shows disk id other) : other = status := by
  obtain ⟨clock, catalog, hload⟩ := h.loaded
  obtain ⟨listing, hfind, rfl⟩ := h.always clock catalog hload
  obtain ⟨same, hsame, rfl⟩ := hother.always clock catalog hload
  rw [Option.some.inj (hsame.symm.trans hfind)]

section Saved

variable (hinvariant : Catalog.Invariant result) (hfinite : result.FiniteAmounts)
  (hsave : market.snapshot.save result disk = (.ok (), left))
include hinvariant hfinite hsave

theorem load_of_saved {clock later : Clock} (hclock : Clock.after? result.size clock = some later) :
    (market.snapshot.load left clock).1 = .ok result.reread := by
  rw [Snapshot.load_of_save hsave, Catalog.ofDocument_reread hinvariant hfinite hclock]

theorem loadable_of_saved : market.Loadable left := by
  refine ⟨result.size, fun clock hclock => ?_⟩
  obtain ⟨later, hlater⟩ := Option.isSome_iff_exists.mp hclock
  exact ⟨result.reread, load_of_saved hinvariant hfinite hsave hlater⟩

theorem shows_of_saved (h : result.ShowsStatus id status) : market.Shows left id status :=
  shows_of_load
    (load_of_saved hinvariant hfinite hsave (Clock.after?_fixed result.size .epoch)) h.reread

end Saved

/-! ## Changes of status -/

def statusEdit (id : ListingId) (status : ListingStatus) (catalog : Catalog) :
    Except Failure Unit × Catalog :=
  match statusChange id status catalog with
  | (result, catalog) => (result.mapError .problem, catalog)

theorem changeOf_statusEdit : changeOf (statusEdit id status) = statusUpdate id status :=
  rfl

theorem Makes.statusGiven (h : market.Makes (statusEdit id status) disk result) :
    ∃ clock seen, (market.snapshot.load disk clock).1 = .ok seen ∧
      seen.StatusGiven id status result := by
  obtain ⟨clock, seen, hload, hedit⟩ := h
  have hchange : statusUpdate id status seen () = (.ok (), result, ()) := by
    rw [← changeOf_statusEdit]
    exact changeOf_eq_ok.mpr hedit
  exact ⟨clock, seen, hload, Catalog.statusGiven_of_statusChange
    (Snapshot.reachable_of_load hload).invariant (Snapshot.finite_of_load hload)
    (statusUpdate_eq_ok.mp hchange)⟩

/-- What a call on its own has made of a disk by a change of status. -/
structure StatusLeft (market : Market) (disk : Disk) (id : ListingId) (status : ListingStatus)
    (result : Catalog) (left : Disk) : Prop where
  result : result.ShowsStatus id status
  loadable : market.Loadable left
  before : ∃ earlier, market.Shows disk id earlier
  shows : market.Shows left id status
  others : ∀ other, other ≠ id → ∀ kept, market.Shows disk other kept →
    market.Shows left other kept

theorem Alone.statusLeft (h : market.Alone (statusEdit id status) disk result left) :
    market.StatusLeft disk id status result left := by
  obtain ⟨hmakes, hsave⟩ := alone_iff.mp h
  obtain ⟨clock, seen, hload, hgiven⟩ := hmakes.statusGiven
  obtain ⟨earlier, hbefore⟩ := hgiven.before
  refine ⟨hgiven.shows, loadable_of_saved hgiven.invariant hgiven.finite hsave,
    ⟨earlier, shows_of_load hload hbefore⟩,
    shows_of_saved hgiven.invariant hgiven.finite hsave hgiven.shows, ?_⟩
  intro other hne kept hother
  have hkept := hgiven.others other hne kept (hother.always _ _ hload)
  exact shows_of_saved hgiven.invariant hgiven.finite hsave hkept

/-! ## Calls that succeed -/

section Succeed

variable {now : Moment} {catalog changed : Catalog} {premises : Premises} {sharing : Sharing}
  {edits : Side → Catalog → Except Failure Unit × Catalog} {results : Side → Catalog} {side : Side}

end Succeed

/-! ## Two calls -/

section Calls

variable {ids : Side → ListingId} {statuses : Side → ListingStatus} {results : Side → Catalog}

def statusEdits (ids : Side → ListingId) (statuses : Side → ListingStatus) (side : Side) :
    Catalog → Except Failure Unit × Catalog :=
  statusEdit (ids side) (statuses side)

theorem ids_other_ne (h : ids .left ≠ ids .right) (side : Side) : ids side.other ≠ ids side := by
  cases side with
  | left => exact h.symm
  | right => exact h

theorem Alone.load (h : market.Alone edit disk result left) (clock : Clock) :
    market.snapshot.load left clock = Catalog.ofDocument result.toDocument clock :=
  Snapshot.load_of_save (alone_iff.mp h).2 clock

/-- Both calls give back their own change, and what they leave can be loaded. -/
structure StatusesGiven (market : Market) (ids : Side → ListingId)
    (statuses : Side → ListingStatus) (results : Side → Catalog) (left : Disk) : Prop where
  results : ∀ side, (results side).ShowsStatus (ids side) (statuses side)
  loadable : market.Loadable left

/-- The second call finds the change of the first one, and leaves it where it is. -/
theorem Consecutive.shows {first : Side} (hids : ids .left ≠ ids .right)
    (h : market.Consecutive (statusEdits ids statuses) first disk results left) :
    market.StatusesGiven ids statuses results left ∧
      ∀ side, market.Shows left (ids side) (statuses side) := by
  obtain ⟨between, hfirst, hsecond⟩ := h
  have hearlier := hfirst.statusLeft
  have hlater := hsecond.statusLeft
  refine ⟨⟨fun side => ?_, hlater.loadable⟩, fun side => ?_⟩
  · rcases side.eq_or_eq_other first with rfl | rfl
    · exact hearlier.result
    · exact hlater.result
  · rcases side.eq_or_eq_other first with rfl | rfl
    · exact hlater.others _ (ids_other_ne hids _).symm _ hearlier.shows
    · exact hlater.shows

/-- The call that saved last has loaded what was there before both. -/
theorem Overwriting.shows {last : Side} (hids : ids .left ≠ ids .right)
    (h : market.Overwriting (statusEdits ids statuses) last disk results left) :
    market.StatusesGiven ids statuses results left ∧
      market.Shows left (ids last) (statuses last) ∧
      ∃ kept, market.Shows disk (ids last.other) kept ∧
        market.Shows left (ids last.other) kept := by
  obtain ⟨hlast, lost, hlost⟩ := h
  have hkept := hlast.statusLeft
  have hother := hlost.statusLeft
  obtain ⟨kept, hbefore⟩ := hother.before
  refine ⟨⟨fun side => ?_, hkept.loadable⟩, hkept.shows, kept, hbefore,
    hkept.others _ (ids_other_ne hids last) kept hbefore⟩
  rcases side.eq_or_eq_other last with rfl | rfl
  · exact hkept.result
  · exact hother.result

end Calls

end Market

end VehicleMarket
