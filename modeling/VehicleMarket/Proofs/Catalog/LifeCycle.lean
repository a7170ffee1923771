import Mathlib.Data.List.Induction
import VehicleMarket.Proofs.Catalog.Operation

/-!
The life of a listing from its making on. Whatever calls come, in whatever order, a sale is final
and takes the vehicle with it, the counts stop at their bounds, and nothing of the listing changes
but the counts and the two statuses. A call that fails has not touched the listing.
-/
namespace VehicleMarket

namespace Listing

theorem toNat_countUp (n : UInt32) : (countUp n).toNat = min (n.toNat + 1) (UInt32.size - 1) := by
  have hlt : n.toNat < UInt32.size := n.toNat_lt_size
  unfold countUp
  split
  · omega
  · rw [UInt32.toNat_add, UInt32.toNat_one]
    simp only [UInt32.size] at *
    omega

theorem toNat_countDown (n : UInt32) : (countDown n).toNat = n.toNat - 1 := by
  unfold countDown
  split
  · omega
  · have hone : (1 : UInt32) ≤ n := by
      rw [UInt32.le_iff_toNat_le, UInt32.toNat_one]
      omega
    rw [UInt32.toNat_sub_of_le _ _ hone, UInt32.toNat_one]

/-! ## Changes of status -/

variable {listing edited : Listing} {target : ListingStatus}

def withVehicleStatus (listing : Listing) (status : VehicleStatus) : Listing :=
  { listing with vehicle := { listing.vehicle with status } }

/-- The listing with a status that it did not have, and with what that makes of its vehicle. -/
def moved (listing : Listing) (target : ListingStatus) : Listing :=
  { listing with
    status := target
    vehicle := { listing.vehicle with
      status := vehicleStatusAfter listing.vehicle.status target } }

theorem isFinal_iff {status : ListingStatus} : status.isFinal = true ↔ status = .sold := by
  cases status with
  | active => simp [ListingStatus.isFinal]
  | expired => simp [ListingStatus.isFinal]
  | sold => simp [ListingStatus.isFinal]

theorem setStatus_self (hsame : listing.status = target) :
    listing.setStatus target = .ok listing := by
  rw [setStatus, if_pos hsame]

theorem setStatus_moved (hother : listing.status ≠ target) (hopen : listing.status ≠ .sold) :
    listing.setStatus target = .ok (listing.moved target) := by
  rw [setStatus, if_neg hother, if_neg (mt isFinal_iff.mp hopen), moved]

theorem setStatus_of_sold (hsold : listing.status = .sold) (htarget : target ≠ .sold) :
    listing.setStatus target =
      .error (.transition (Spelled.name ListingStatus.sold) (Spelled.name target)) := by
  rw [setStatus, hsold, if_neg htarget.symm]
  rfl

theorem setStatus_eq_ok : listing.setStatus target = .ok edited ↔
    (listing.status = target ∧ edited = listing) ∨
      (listing.status ≠ target ∧ listing.status ≠ .sold ∧ edited = listing.moved target) := by
  by_cases hsame : listing.status = target
  · simp [setStatus_self hsame, hsame, eq_comm]
  · by_cases hsold : listing.status = .sold
    · have htarget : target ≠ .sold := fun heq => hsame (hsold.trans heq.symm)
      simp [setStatus_of_sold hsold htarget, hsold, htarget.symm]
    · simp [setStatus_moved hsame hsold, hsame, hsold, eq_comm]

theorem eq_of_setStatus (h : listing.setStatus target = .ok edited) :
    edited = { listing with
      status := target, vehicle := { listing.vehicle with status := edited.vehicle.status } } := by
  rcases setStatus_eq_ok.mp h with ⟨hsame, rfl⟩ | ⟨_, _, rfl⟩
  · rw [← hsame]
  · rfl

/-! ## Calls -/

/-- A change of status as a call on the listing in place: the listing that it leaves behind has all
that was assigned to it, whether the call fails or not. -/
def assignStatus (listing : Listing) (target : ListingStatus) : Except Problem Unit × Listing :=
  if listing.status = target then (.ok (), listing)
  else if listing.status.isFinal then
    (.error (.transition (Spelled.name listing.status) (Spelled.name target)), listing)
  else
    let assigned := { listing with status := target }
    match target with
    | .sold => (.ok (), assigned.withVehicleStatus .sold)
    | .active =>
      if assigned.vehicle.status = .withdrawn then (.ok (), assigned.withVehicleStatus .available)
      else (.ok (), assigned)
    | .expired => (.ok (), assigned)

theorem assignStatus_of_sold (hsold : listing.status = .sold) (htarget : target ≠ .sold) :
    listing.assignStatus target =
      (.error (.transition (Spelled.name ListingStatus.sold) (Spelled.name target)), listing) := by
  rw [assignStatus, hsold, if_neg htarget.symm]
  rfl

theorem assignStatus_moved (hother : listing.status ≠ target) (hopen : listing.status ≠ .sold) :
    listing.assignStatus target = (.ok (), listing.moved target) := by
  rw [assignStatus, if_neg hother, if_neg (mt isFinal_iff.mp hopen)]
  cases target with
  | sold => rfl
  | expired => rfl
  | active =>
    by_cases hwithdrawn : listing.vehicle.status = .withdrawn
    · simp [withVehicleStatus, moved, vehicleStatusAfter, hwithdrawn]
    · simp [moved, vehicleStatusAfter, hwithdrawn]

theorem assignStatus_eq (listing : Listing) (target : ListingStatus) :
    listing.assignStatus target =
      match listing.setStatus target with
      | .ok edited => (.ok (), edited)
      | .error problem => (.error problem, listing) := by
  by_cases hsame : listing.status = target
  · rw [setStatus_self hsame, assignStatus, if_pos hsame]
  · by_cases hsold : listing.status = .sold
    · have htarget : target ≠ .sold := fun heq => hsame (hsold.trans heq.symm)
      rw [setStatus_of_sold hsold htarget, assignStatus_of_sold hsold htarget]
    · rw [setStatus_moved hsame hsold, assignStatus_moved hsame hsold]

end Listing

namespace ListingEdit

def target? : ListingEdit → Option ListingStatus
  | .setStatus target => some target
  | .markSold => some .sold
  | .expire => some .expired
  | _ => none

def favoriteChange : ListingEdit → Int
  | .recordFavorite => 1
  | .removeFavorite => -1
  | _ => 0

def call (listing : Listing) : ListingEdit → Except Problem Unit × Listing
  | .recordView => (.ok (), listing.recordView)
  | .recordFavorite => (.ok (), listing.recordFavorite)
  | .removeFavorite => (.ok (), listing.removeFavorite)
  | .setStatus target => listing.assignStatus target
  | .markSold => listing.assignStatus .sold
  | .expire => listing.assignStatus .expired

theorem call_eq (listing : Listing) (edit : ListingEdit) :
    edit.call listing =
      match edit.apply listing with
      | .ok edited => (.ok (), edited)
      | .error problem => (.error problem, listing) := by
  cases edit with
  | recordView => rfl
  | recordFavorite => rfl
  | removeFavorite => rfl
  | setStatus target => exact listing.assignStatus_eq target
  | markSold => exact listing.assignStatus_eq .sold
  | expire => exact listing.assignStatus_eq .expired

/-- The favourites after a run of calls that starts without any: a walk that stops at its bounds. -/
def favorites (edits : List ListingEdit) : Int :=
  edits.foldl (fun count edit => max 0 (min (count + edit.favoriteChange) (UInt32.size - 1))) 0

end ListingEdit

namespace Listing

def step (listing : Listing) (edit : ListingEdit) : Listing :=
  (edit.call listing).2

def after (listing : Listing) (edits : List ListingEdit) : Listing :=
  edits.foldl step listing

/-- What a run of calls has made of a new listing. -/
structure Lived (id : ListingId) (vehicle : Vehicle) (seller : UserId) (edits : List ListingEdit)
    (listing : Listing) : Prop where
  id_kept : listing.id = id
  seller_kept : listing.sellerId = seller
  vehicle_kept : listing.vehicle = { vehicle with status := listing.vehicle.status }
  vehicle_sold_iff : listing.vehicle.status = .sold ↔
    vehicle.status = .sold ∨ listing.status = .sold
  views : listing.viewCount.toNat = min (edits.count .recordView) (UInt32.size - 1)
  favorites : (listing.favoriteCount.toNat : Int) = ListingEdit.favorites edits
  favorites_bounded : listing.favoriteCount.toNat ≤ UInt32.size - 1

variable {id : ListingId} {vehicle : Vehicle} {seller : UserId} {edits : List ListingEdit}
  {listing : Listing}

theorem lived_create : Lived id vehicle seller [] (create id vehicle seller) where
  id_kept := rfl
  seller_kept := rfl
  vehicle_kept := rfl
  vehicle_sold_iff := by simp [create]
  views := rfl
  favorites := rfl
  favorites_bounded := Nat.zero_le _

theorem left_assignStatus (listing : Listing) (target : ListingStatus) :
    (listing.assignStatus target).2 = listing ∨
      listing.status ≠ target ∧ listing.status ≠ .sold ∧
        (listing.assignStatus target).2 = listing.moved target := by
  rw [assignStatus_eq]
  cases hset : listing.setStatus target with
  | error problem => exact .inl rfl
  | ok edited =>
    rcases setStatus_eq_ok.mp hset with ⟨_, rfl⟩ | hmoved
    · exact .inl rfl
    · exact .inr hmoved

theorem vehicle_sold_moved_iff (listing : Listing) (target : ListingStatus) :
    (listing.moved target).vehicle.status = .sold ↔
      listing.vehicle.status = .sold ∨ target = .sold := by
  cases target with
  | sold => simp [moved, vehicleStatusAfter]
  | expired => simp [moved, vehicleStatusAfter]
  | active =>
    by_cases hwithdrawn : listing.vehicle.status = .withdrawn
    · simp [moved, vehicleStatusAfter, hwithdrawn]
    · simp [moved, vehicleStatusAfter, hwithdrawn]

theorem favorites_append (edits : List ListingEdit) (edit : ListingEdit) :
    ListingEdit.favorites (edits ++ [edit]) =
      max 0 (min (ListingEdit.favorites edits + edit.favoriteChange) (UInt32.size - 1)) := by
  rw [ListingEdit.favorites, List.foldl_append]
  rfl

theorem views_append (edits : List ListingEdit) (edit : ListingEdit) :
    (edits ++ [edit]).count .recordView =
      edits.count .recordView + if edit = .recordView then 1 else 0 := by
  simp [List.count_append, List.count_singleton]

theorem count_bounded (n : UInt32) : n.toNat ≤ UInt32.size - 1 :=
  Nat.le_pred_of_lt n.toNat_lt_size

theorem Lived.views_same (h : Lived id vehicle seller edits listing) (edit : ListingEdit)
    (hother : edit ≠ .recordView) :
    listing.viewCount.toNat = min ((edits ++ [edit]).count .recordView) (UInt32.size - 1) := by
  rw [views_append, if_neg hother, Nat.add_zero, h.views]

theorem Lived.favorites_same (h : Lived id vehicle seller edits listing) (edit : ListingEdit)
    (hnone : edit.favoriteChange = 0) :
    (listing.favoriteCount.toNat : Int) = ListingEdit.favorites (edits ++ [edit]) := by
  have hbounded := h.favorites_bounded
  rw [UInt32.size] at hbounded
  rw [favorites_append, hnone, ← h.favorites, UInt32.size]
  omega

theorem Lived.assignStatus (h : Lived id vehicle seller edits listing) {edit : ListingEdit}
    (hviews : edit ≠ .recordView) (hfavorites : edit.favoriteChange = 0) (target : ListingStatus) :
    Lived id vehicle seller (edits ++ [edit]) (listing.assignStatus target).2 := by
  have hcounts : Lived id vehicle seller (edits ++ [edit]) listing :=
    { h with views := h.views_same edit hviews, favorites := h.favorites_same edit hfavorites }
  rcases left_assignStatus listing target with hleft | ⟨_, hopen, hleft⟩
  · rw [hleft]
    exact hcounts
  · rw [hleft]
    refine { hcounts with vehicle_kept := ?_, vehicle_sold_iff := ?_ }
    · rw [moved, h.vehicle_kept]
    · rw [vehicle_sold_moved_iff, h.vehicle_sold_iff, or_iff_left hopen]
      rfl

/-- What one call does to a listing carries on what all the calls before it have done. -/
theorem Lived.step (h : Lived id vehicle seller edits listing) (edit : ListingEdit) :
    Lived id vehicle seller (edits ++ [edit]) (listing.step edit) := by
  have hbounded := h.favorites_bounded
  rw [UInt32.size] at hbounded
  cases edit with
  | recordView =>
    have hfavorites := h.favorites_same .recordView rfl
    refine { h with views := ?_, favorites := hfavorites }
    change (countUp listing.viewCount).toNat = _
    rw [toNat_countUp, views_append, if_pos rfl, h.views, UInt32.size]
    omega
  | recordFavorite =>
    have hviews := h.views_same .recordFavorite (by decide)
    refine { h with views := hviews, favorites := ?_, favorites_bounded := count_bounded _ }
    change ((countUp listing.favoriteCount).toNat : Int) = _
    rw [toNat_countUp, favorites_append, ← h.favorites, UInt32.size, ListingEdit.favoriteChange]
    omega
  | removeFavorite =>
    have hviews := h.views_same .removeFavorite (by decide)
    refine { h with views := hviews, favorites := ?_, favorites_bounded := count_bounded _ }
    change ((countDown listing.favoriteCount).toNat : Int) = _
    rw [toNat_countDown, favorites_append, ← h.favorites, UInt32.size, ListingEdit.favoriteChange]
    omega
  | setStatus target => exact h.assignStatus (by simp) rfl target
  | markSold => exact h.assignStatus (by decide) rfl .sold
  | expire => exact h.assignStatus (by decide) rfl .expired

theorem lived_after (id : ListingId) (vehicle : Vehicle) (seller : UserId)
    (edits : List ListingEdit) :
    Lived id vehicle seller edits ((create id vehicle seller).after edits) := by
  induction edits using List.reverseRecOn with
  | nil => exact lived_create
  | append_singleton edits edit ih =>
    rw [after, List.foldl_append]
    exact ih.step edit

/-! ## Sold for good -/

theorem step_cases (listing : Listing) (edit : ListingEdit) :
    (listing.step edit).status = listing.status ∧
        (listing.step edit).vehicle = listing.vehicle ∨
      ∃ target, edit.target? = some target ∧ listing.status ≠ target ∧ listing.status ≠ .sold ∧
        listing.step edit = listing.moved target := by
  have hstatus {target : ListingStatus}
      (hstep : listing.step edit = (listing.assignStatus target).2)
      (hedit : edit.target? = some target) :
      (listing.step edit).status = listing.status ∧
          (listing.step edit).vehicle = listing.vehicle ∨
        ∃ target, edit.target? = some target ∧ listing.status ≠ target ∧ listing.status ≠ .sold ∧
          listing.step edit = listing.moved target := by
    rw [hstep]
    rcases left_assignStatus listing target with hleft | ⟨hother, hopen, hleft⟩
    · rw [hleft]
      exact .inl ⟨rfl, rfl⟩
    · exact .inr ⟨target, hedit, hother, hopen, hleft⟩
  cases edit with
  | recordView => exact .inl ⟨rfl, rfl⟩
  | recordFavorite => exact .inl ⟨rfl, rfl⟩
  | removeFavorite => exact .inl ⟨rfl, rfl⟩
  | setStatus target => exact hstatus rfl rfl
  | markSold => exact hstatus rfl rfl
  | expire => exact hstatus rfl rfl

theorem after_of_sold (hsold : listing.status = .sold) (later : List ListingEdit) :
    (listing.after later).status = .sold ∧ (listing.after later).vehicle = listing.vehicle := by
  induction later generalizing listing with
  | nil => exact ⟨hsold, rfl⟩
  | cons edit rest ih =>
    rcases step_cases listing edit with ⟨hstatus, hvehicle⟩ | ⟨_, _, _, hopen, _⟩
    · obtain ⟨hlast, hkept⟩ := ih (hstatus.trans hsold)
      exact ⟨hlast, hkept.trans hvehicle⟩
    · exact absurd hsold hopen

theorem call_of_sold (hsold : listing.status = .sold) {edit : ListingEdit} {target : ListingStatus}
    (hedit : edit.target? = some target) (htarget : target ≠ .sold) :
    edit.call listing =
      (.error (.transition (Spelled.name ListingStatus.sold) (Spelled.name target)), listing) := by
  cases edit with
  | setStatus other =>
    cases hedit
    exact assignStatus_of_sold hsold htarget
  | markSold =>
    cases hedit
    exact absurd rfl htarget
  | expire =>
    cases hedit
    exact assignStatus_of_sold hsold htarget
  | _ => exact absurd hedit (by simp [ListingEdit.target?])

theorem call_cases (listing : Listing) (edit : ListingEdit) :
    (∃ edited, edit.apply listing = .ok edited ∧ edit.call listing = (.ok (), edited)) ∨
      ∃ problem, edit.apply listing = .error problem ∧
        edit.call listing = (.error problem, listing) := by
  rw [ListingEdit.call_eq]
  cases edit.apply listing with
  | ok edited => exact .inl ⟨edited, rfl, rfl⟩
  | error problem => exact .inr ⟨problem, rfl, rfl⟩

theorem step_sells {edit : ListingEdit} (hopen : listing.vehicle.status ≠ .sold)
    (hsold : (listing.step edit).vehicle.status = .sold) :
    edit.target? = some .sold ∧ listing.status ≠ .sold ∧ (listing.step edit).status = .sold := by
  rcases step_cases listing edit with ⟨_, hvehicle⟩ | ⟨target, hedit, _, hlisting, hmoved⟩
  · rw [hvehicle] at hsold
    exact absurd hsold hopen
  · rw [hmoved, vehicle_sold_moved_iff] at hsold
    obtain rfl : target = .sold := hsold.resolve_left hopen
    rw [hmoved]
    exact ⟨hedit, hlisting, rfl⟩

/-- However a new listing is called, its counts and its vehicle follow from the calls, a call that
fails leaves it as it was, its vehicle is sold with it and not otherwise, and then it stays so. -/
theorem life_cycle (id : ListingId) (vehicle : Vehicle) (seller : UserId)
    (edits : List ListingEdit) :
    let listing := (create id vehicle seller).after edits
    Lived id vehicle seller edits listing ∧
      (listing.status = .sold →
        listing.vehicle.status = .sold ∧
        (∀ later, (listing.after later).status = .sold ∧
          (listing.after later).vehicle = listing.vehicle) ∧
        ∀ edit target, ListingEdit.target? edit = some target → target ≠ .sold →
          edit.call listing =
            (.error (.transition (Spelled.name ListingStatus.sold) (Spelled.name target)),
              listing)) ∧
      (∀ edit : ListingEdit,
        (∃ edited, edit.apply listing = .ok edited ∧ edit.call listing = (.ok (), edited)) ∨
          ∃ problem, edit.apply listing = .error problem ∧
            edit.call listing = (.error problem, listing)) ∧
      ∀ edit, listing.vehicle.status ≠ .sold → (listing.step edit).vehicle.status = .sold →
        edit.target? = some .sold ∧ listing.status ≠ .sold ∧
          (listing.step edit).status = .sold := by
  intro listing
  have hlived : Lived id vehicle seller edits listing := lived_after id vehicle seller edits
  refine ⟨hlived, ?_, call_cases listing, fun _ hopen hsold => step_sells hopen hsold⟩
  intro hsold
  exact ⟨hlived.vehicle_sold_iff.mpr (.inr hsold), after_of_sold hsold,
    fun _ _ hedit htarget => call_of_sold hsold hedit htarget⟩

def sampleEdits : List ListingEdit :=
  [.recordView, .removeFavorite, .expire, .setStatus .active, .recordFavorite, .markSold, .expire]

theorem sample_life :
    let vehicle := { Vehicle.blank .epoch with status := .withdrawn }
    let listing := (create ⟨"l1"⟩ vehicle ⟨"u1"⟩).after sampleEdits
    listing.status = .sold ∧ listing.vehicle = { vehicle with status := .sold } ∧
      listing.viewCount = 1 ∧ listing.favoriteCount = 1 ∧
      ∀ later, (listing.after later).status = .sold := by
  intro vehicle listing
  have hsold : listing.status = .sold := by decide
  obtain ⟨_, hfinal, _⟩ := life_cycle ⟨"l1"⟩ vehicle ⟨"u1"⟩ sampleEdits
  exact ⟨hsold, by decide, by decide, by decide, fun later => ((hfinal hsold).2.1 later).1⟩

end Listing

end VehicleMarket
