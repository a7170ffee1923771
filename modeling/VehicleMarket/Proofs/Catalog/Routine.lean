import VehicleMarket.Proofs.Catalog.Integrity
import VehicleMarket.Proofs.Catalog.Invariant

/-!
Everyday operations and the report. Counting views and favourites, changing the status of a listing
and reading a conversation leave the report as it is, issue by issue. A report does not tell the
counts of a listing and whether a message is read, and it tells the statuses of a listing and of its
vehicle only when the listing is half sold, which no change of status makes it or cures it of.
-/
namespace VehicleMarket

/-- What is done to a catalog day by day. -/
inductive Routine where
  | edit (id : ListingId) (change : ListingEdit)
  | read (listing : ListingId) (reader : UserId)
  deriving DecidableEq, Repr

def Routine.operation : Routine → Catalog.Operation
  | .edit id change => .editListing id change
  | .read listing reader => .markConversationRead listing reader

/-! ## What a report can see -/

namespace Listing

/-- A listing without what no report tells of it. -/
def seen (listing : Listing) : Listing :=
  if listing.HalfSold then { listing with viewCount := 0, favoriteCount := 0 }
  else { listing with
    viewCount := 0, favoriteCount := 0, status := .active,
    vehicle := { listing.vehicle with status := .available } }

theorem seen_of_halfSold {listing : Listing} (h : listing.HalfSold) :
    listing.seen = { listing with viewCount := 0, favoriteCount := 0 } :=
  if_pos h

theorem seen_of_not_halfSold {listing : Listing} (h : ¬ listing.HalfSold) :
    listing.seen = { listing with
      viewCount := 0, favoriteCount := 0, status := .active,
      vehicle := { listing.vehicle with status := .available } } :=
  if_neg h

theorem seen_setStatus {listing edited : Listing} {target : ListingStatus}
    (h : listing.setStatus target = .ok edited) : edited.seen = listing.seen := by
  rcases setStatus_eq_ok.mp h with ⟨_, rfl⟩ | ⟨_, hopen, rfl⟩
  · rfl
  · have hbefore : ¬ listing.HalfSold := fun hhalf => hopen hhalf.1
    rw [seen_of_not_halfSold hbefore, seen_of_not_halfSold]
    · rfl
    · rintro ⟨rfl, hvehicle⟩
      exact hvehicle rfl

end Listing

theorem ListingEdit.seen_apply {listing edited : Listing} {edit : ListingEdit}
    (h : edit.apply listing = .ok edited) : edited.seen = listing.seen := by
  cases edit with
  | recordView => cases h; rfl
  | recordFavorite => cases h; rfl
  | removeFavorite => cases h; rfl
  | setStatus target => exact Listing.seen_setStatus h
  | markSold => exact Listing.seen_setStatus h
  | expire => exact Listing.seen_setStatus h

def Message.seen (message : Message) : Message :=
  { message with read := false }

namespace Catalog

def seen (catalog : Catalog) : Catalog :=
  { catalog with
    listings := Table.mapValues catalog.listings Listing.seen
    messages := Table.mapValues catalog.messages Message.seen }

theorem seen_step (catalog : Catalog) (routine : Routine) :
    (catalog.step routine.operation).seen = catalog.seen := by
  cases routine with
  | edit id change =>
    rcases step_cases catalog (.editListing id change) with hperform | ⟨_, _, hsame⟩
    · obtain ⟨edited, hchange⟩ := finished_eq_ok.mp hperform
      obtain ⟨listing, hfind, happly, hchanged⟩ := changeListing_eq_ok.mp hchange
      have hlistings : Table.mapValues (Table.modify catalog.listings id fun _ => edited)
          Listing.seen = Table.mapValues catalog.listings Listing.seen :=
        Table.mapValues_modify hfind (ListingEdit.seen_apply happly)
      rw [Routine.operation, hchanged]
      simp only [seen, hlistings]
    · rw [Routine.operation, hsame]
  | read listing reader =>
    have hmessages : Table.mapValues (catalog.markConversationRead listing reader).2.messages
        Message.seen = Table.mapValues catalog.messages Message.seen :=
      mapValues_markConversationRead (fun _ => rfl) catalog listing reader
    show (catalog.markConversationRead listing reader).2.seen = catalog.seen
    exact congrArg (fun messages => { catalog.seen with messages }) hmessages

theorem seen_run (catalog : Catalog) (routines : List Routine) :
    (catalog.run (routines.map Routine.operation)).seen = catalog.seen := by
  induction routines generalizing catalog with
  | nil => rfl
  | cons routine rest ih =>
    exact (ih (catalog.step routine.operation)).trans (seen_step catalog routine)

end Catalog

/-! ## The report -/

namespace Integrity

variable (options : Options) (catalog : Catalog)

theorem contains_seen (id : ListingId) :
    Table.contains catalog.seen.listings id = Table.contains catalog.listings id := by
  unfold Table.contains Catalog.seen
  rw [Table.find?_mapValues, Option.isSome_map]

theorem ownedVehicles_seen :
    catalog.seen.ownedVehicles =
      (Table.values catalog.listings).map fun listing => listing.seen.vehicle := by
  unfold Catalog.ownedVehicles Catalog.seen
  rw [Table.values_mapValues, List.map_map]
  rfl

theorem vehicle_id_seen (listing : Listing) : listing.seen.vehicle.id = listing.vehicle.id := by
  by_cases h : listing.HalfSold
  · rw [Listing.seen_of_halfSold h]
  · rw [Listing.seen_of_not_halfSold h]

theorem findVehicle_isSome_seen (id : VehicleId) :
    (catalog.seen.findVehicle? id).isSome = (catalog.findVehicle? id).isSome := by
  have howned : (catalog.seen.ownedVehicles.find? fun vehicle => vehicle.id == id).isSome =
      (catalog.ownedVehicles.find? fun vehicle => vehicle.id == id).isSome := by
    rw [ownedVehicles_seen, Catalog.ownedVehicles, List.find?_map, List.find?_map,
      Option.isSome_map, Option.isSome_map]
    simp only [Function.comp_def, vehicle_id_seen]
  have hvehicles : catalog.seen.vehicles = catalog.vehicles := rfl
  unfold Catalog.findVehicle?
  rw [hvehicles]
  cases Table.find? catalog.vehicles id with
  | none => exact howned
  | some vehicle => rfl

theorem vehicleIssues_seen (listing : Listing) :
    vehicleIssues options catalog.seen (listing.seen.vehicle, effectiveSeller listing.seen) =
      vehicleIssues options catalog (listing.vehicle, effectiveSeller listing) := by
  by_cases h : listing.HalfSold
  · rw [Listing.seen_of_halfSold h]
    rfl
  · rw [Listing.seen_of_not_halfSold h]
    rfl

theorem listingIssues_seen (thisYear : Int32) (listing : Listing) :
    listingIssues thisYear options catalog.seen listing.seen =
      listingIssues thisYear options catalog listing := by
  by_cases h : listing.HalfSold
  · rw [Listing.seen_of_halfSold h]
    rfl
  · have hquiet : (listing.status == .sold && listing.vehicle.status != .sold) = false := by
      simpa [Listing.HalfSold] using h
    rw [Listing.seen_of_not_halfSold h, listingIssues, listingIssues, hquiet]
    rfl

theorem messageIssues_seen (message : Message) :
    messageIssues options catalog.seen message.seen = messageIssues options catalog message := by
  unfold messageIssues
  rw [contains_seen]
  rfl

theorem historyIssues_seen :
    historyIssues options catalog.seen = historyIssues options catalog := by
  funext history
  unfold historyIssues
  rw [findVehicle_isSome_seen]

theorem vehiclesWithSellers_seen :
    vehiclesWithSellers catalog.seen =
      ((Table.values catalog.vehicles).map fun vehicle => (vehicle, vehicle.sellerId)) ++
        ((Table.values catalog.listings).map fun listing =>
          (listing.seen.vehicle, effectiveSeller listing.seen)) := by
  unfold vehiclesWithSellers Catalog.seen
  rw [Table.values_mapValues, List.map_map]
  rfl

theorem check_seen (thisYear : Int32) :
    check thisYear options catalog.seen = check thisYear options catalog := by
  have husers : catalog.seen.users = catalog.users := rfl
  have hhistories : catalog.seen.histories = catalog.histories := rfl
  have hlistings : Table.values catalog.seen.listings =
      (Table.values catalog.listings).map Listing.seen := Table.values_mapValues _ _
  have hmessages : Table.values catalog.seen.messages =
      (Table.values catalog.messages).map Message.seen := Table.values_mapValues _ _
  have hstandalone (vehicle : Vehicle) :
      vehicleIssues options catalog.seen (vehicle, vehicle.sellerId) =
        vehicleIssues options catalog (vehicle, vehicle.sellerId) := rfl
  unfold check
  rw [husers, hhistories, hlistings, hmessages, vehiclesWithSellers_seen, vehiclesWithSellers]
  simp only [List.flatMap_append, List.flatMap_map, hstandalone, vehicleIssues_seen,
    listingIssues_seen, messageIssues_seen, historyIssues_seen]

/-- Everyday operations, whether they succeed or not, leave the report of any catalog as it is. -/
theorem check_run_routine (thisYear : Int32) (routines : List Routine) :
    check thisYear options (catalog.run (routines.map Routine.operation)) =
      check thisYear options catalog := by
  rw [← check_seen options (catalog.run _), Catalog.seen_run, check_seen]

end Integrity

end VehicleMarket
