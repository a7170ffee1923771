import VehicleMarket.Proofs.Catalog.LifeCycle
import VehicleMarket.Proofs.Table
import VehicleMarket.Proofs.Text.Trim

/-!
What every reachable catalog keeps to: each record stands under its own identifier, which is not
blank, and no two vehicles with an identifier share it, be they on their own or in a listing.
Insertion is the only operation that adds identifiers; the others are seen to keep them.
-/
namespace VehicleMarket

namespace Catalog

/-- A table whose records stand under their own identifiers, none of them blank. -/
structure Keyed {kind : RecordKind} {α : Type} (id : α → Identifier kind)
    (table : Table (Identifier kind) α) : Prop where
  sorted : Table.Sorted table
  own : ∀ entry ∈ table, entry.1 = id entry.2 ∧ entry.1.isBlank = false

/-- No two vehicles with an identifier share it. -/
def Distinct (ids : List VehicleId) : Prop :=
  ids.Pairwise fun a b => a.isBlank = false → a ≠ b

def vehicleIds (catalog : Catalog) : List VehicleId :=
  catalog.allVehicles.map Vehicle.id

structure Invariant (catalog : Catalog) : Prop where
  users : Keyed User.id catalog.users
  vehicles : Keyed Vehicle.id catalog.vehicles
  listings : Keyed Listing.id catalog.listings
  messages : Keyed Message.id catalog.messages
  histories : Keyed VehicleHistory.vehicleId catalog.histories
  distinct : Distinct catalog.vehicleIds

section Keyed

variable {kind : RecordKind} {α : Type} {id : α → Identifier kind}
  {table changed : Table (Identifier kind) α}

theorem keyed_nil : Keyed id [] where
  sorted := List.Pairwise.nil
  own _ hmem := absurd hmem List.not_mem_nil

theorem Keyed.insert (h : Keyed id table) {record : α} (hnamed : (id record).isBlank = false) :
    Keyed id (Table.insert table (id record) record) where
  sorted := h.sorted.insert _ _
  own entry hmem := by
    rcases Table.mem_insert hmem with heq | hmem
    · rw [heq]
      exact ⟨rfl, hnamed⟩
    · exact h.own entry hmem

theorem Keyed.of_view (h : Keyed id table)
    (hview : Table.mapValues changed id = Table.mapValues table id) : Keyed id changed where
  sorted := h.sorted.of_keys (by
    rw [← Table.keys_mapValues changed id, hview, Table.keys_mapValues])
  own entry hmem := by
    have hentry : (entry.1, id entry.2) ∈ Table.mapValues table id := by
      rw [← hview]
      exact List.mem_map.mpr ⟨entry, hmem, rfl⟩
    obtain ⟨old, hold, heq⟩ := List.mem_map.mp hentry
    obtain ⟨hkey, hid⟩ := Prod.mk.inj heq
    rw [← hkey, ← hid]
    exact h.own old hold

theorem Keyed.find? (h : Keyed id table) {record : α} (hmem : record ∈ Table.values table) :
    Table.find? table (id record) = some record := by
  obtain ⟨entry, hentry, heq⟩ := List.mem_map.mp hmem
  have hkey : entry.1 = id record := heq ▸ (h.own entry hentry).1
  rw [← hkey, ← heq]
  exact h.sorted.find?_of_mem hentry

theorem Keyed.not_mem (h : Keyed id table) {key : Identifier kind}
    (hnone : Table.find? table key = none) : ∀ record ∈ Table.values table, id record ≠ key := by
  intro record hmem heq
  have hfind := h.find? hmem
  rw [heq, hnone] at hfind
  exact absurd hfind (Option.some_ne_none record).symm

theorem Keyed.find?_eq_some_iff (h : Keyed id table) {key : Identifier kind} {record : α} :
    Table.find? table key = some record ↔ record ∈ Table.values table ∧ id record = key := by
  constructor
  · intro hfind
    have hentry := Table.mem_of_find? hfind
    exact ⟨List.mem_map_of_mem hentry, (h.own _ hentry).1.symm⟩
  · rintro ⟨hmem, rfl⟩
    exact h.find? hmem

theorem Keyed.contains_iff (h : Keyed id table) {key : Identifier kind} :
    Table.contains table key = true ↔ ∃ record ∈ Table.values table, id record = key := by
  rw [Table.contains, Option.isSome_iff_exists]
  exact exists_congr fun record => h.find?_eq_some_iff

theorem Keyed.ids_increase (h : Keyed id table) :
    ((Table.values table).map id).Pairwise (· < ·) := by
  have hkeys : (Table.values table).map id = Table.keys table := by
    rw [Table.values, Table.keys, List.map_map]
    exact List.map_congr_left fun entry hentry => (h.own entry hentry).1.symm
  rw [hkeys]
  exact (Table.sorted_iff_keys table).mp h.sorted

end Keyed

/-! ## What an insertion asks for -/

section Unique

variable {κ : RecordKind} {α β : Type} {kind : RecordKind} {table : Table (Identifier κ) α}
  {id : Identifier κ} {record : α} {changed : β}

theorem insertUnique_eq_ok (put : Table (Identifier κ) α → β) :
    Prod.map (fun result => result) put (insertUnique kind table id record) = (.ok (), changed) ↔
      id.isBlank = false ∧ Table.find? table id = none ∧
        changed = put (Table.insert table id record) := by
  unfold insertUnique
  by_cases hblank : id.isBlank = true
  · simp [hblank]
  · cases hfind : Table.find? table id with
    | some other => simp [hblank, hfind, Table.contains]
    | none => simp [hblank, hfind, Table.contains, eq_comm]

theorem insertUnique_eq_error (put : Table (Identifier κ) α → β) {problem : Problem}
    (h : Prod.map (fun result => result) put (insertUnique kind table id record) =
      (.error problem, changed)) : changed = put table := by
  unfold insertUnique at h
  split at h
  · cases h
    rfl
  · split at h
    · cases h
      rfl
    · exact absurd h (by simp)

end Unique

variable {catalog changed : Catalog}

theorem insertUser_eq_ok {user : User} :
    catalog.insertUser user = (.ok (), changed) ↔
      user.id.isBlank = false ∧ Table.find? catalog.users user.id = none ∧
        changed = { catalog with users := Table.insert catalog.users user.id user } :=
  insertUnique_eq_ok fun users => ({ catalog with users } : Catalog)

theorem insertMessage_eq_ok {message : Message} :
    catalog.insertMessage message = (.ok (), changed) ↔
      message.id.isBlank = false ∧ Table.find? catalog.messages message.id = none ∧
        changed = { catalog with
          messages := Table.insert catalog.messages message.id message } :=
  insertUnique_eq_ok fun messages => ({ catalog with messages } : Catalog)

theorem insertHistory_eq_ok {history : VehicleHistory} :
    catalog.insertHistory history = (.ok (), changed) ↔
      history.vehicleId.isBlank = false ∧
        Table.find? catalog.histories history.vehicleId = none ∧
        changed = { catalog with
          histories := Table.insert catalog.histories history.vehicleId history } :=
  insertUnique_eq_ok fun histories => ({ catalog with histories } : Catalog)

theorem insertVehicle_eq_ok {vehicle : Vehicle} :
    catalog.insertVehicle vehicle = (.ok (), changed) ↔
      (∀ listing ∈ Table.values catalog.listings, listing.vehicle.id ≠ vehicle.id) ∧
        vehicle.id.isBlank = false ∧ Table.find? catalog.vehicles vehicle.id = none ∧
        changed = { catalog with
          vehicles := Table.insert catalog.vehicles vehicle.id vehicle } := by
  have howner : catalog.ownsVehicle vehicle.id = false ↔
      ∀ listing ∈ Table.values catalog.listings, listing.vehicle.id ≠ vehicle.id := by
    simp [ownsVehicle]
  rw [insertVehicle, ← howner]
  by_cases howns : catalog.ownsVehicle vehicle.id = true
  · simp [howns]
  · rw [if_neg howns]
    refine (insertUnique_eq_ok fun vehicles => ({ catalog with vehicles } : Catalog)).trans ?_
    simp [howns]

theorem insertListing_eq_ok {listing : Listing} :
    catalog.insertListing listing = (.ok (), changed) ↔
      (listing.vehicle.id.isBlank = false →
        (∀ other ∈ Table.values catalog.listings,
          other.vehicle.id = listing.vehicle.id → other.id = listing.id) ∧
        Table.find? catalog.vehicles listing.vehicle.id = none) ∧
      listing.id.isBlank = false ∧ Table.find? catalog.listings listing.id = none ∧
      changed = { catalog with
        listings := Table.insert catalog.listings listing.id listing } := by
  have hguard : (!listing.vehicle.id.isBlank &&
      (catalog.ownsVehicleElsewhere listing.vehicle.id listing.id ||
        Table.contains catalog.vehicles listing.vehicle.id)) = false ↔
      (listing.vehicle.id.isBlank = false →
        (∀ other ∈ Table.values catalog.listings,
          other.vehicle.id = listing.vehicle.id → other.id = listing.id) ∧
        Table.find? catalog.vehicles listing.vehicle.id = none) := by
    simp [ownsVehicleElsewhere, Table.contains]
  simp only [insertListing]
  rw [← hguard]
  split
  · rename_i htaken
    simp [htaken]
  · rename_i hfree
    refine (insertUnique_eq_ok fun listings => ({ catalog with listings } : Catalog)).trans ?_
    simp [hfree]

/-! ## What a refused insertion leaves -/

theorem insertVehicle_eq_error {vehicle : Vehicle} {problem : Problem}
    (h : catalog.insertVehicle vehicle = (.error problem, changed)) : changed = catalog := by
  unfold insertVehicle at h
  split at h
  · cases h
    rfl
  · exact insertUnique_eq_error (fun vehicles => ({ catalog with vehicles } : Catalog)) h

theorem insertListing_eq_error {listing : Listing} {problem : Problem}
    (h : catalog.insertListing listing = (.error problem, changed)) : changed = catalog := by
  simp only [insertListing] at h
  split at h
  · cases h
    rfl
  · exact insertUnique_eq_error (fun listings => ({ catalog with listings } : Catalog)) h

/-! ## What an edit keeps -/

theorem setStatus_keeps_ids {listing edited : Listing} {target : ListingStatus}
    (h : listing.setStatus target = .ok edited) :
    edited.id = listing.id ∧ edited.vehicle.id = listing.vehicle.id := by
  rw [Listing.eq_of_setStatus h]
  exact ⟨rfl, rfl⟩

theorem edit_keeps_ids {listing edited : Listing} {edit : ListingEdit}
    (h : edit.apply listing = .ok edited) :
    edited.id = listing.id ∧ edited.vehicle.id = listing.vehicle.id := by
  cases edit with
  | recordView => cases h; exact ⟨rfl, rfl⟩
  | recordFavorite => cases h; exact ⟨rfl, rfl⟩
  | removeFavorite => cases h; exact ⟨rfl, rfl⟩
  | setStatus target => exact setStatus_keeps_ids h
  | markSold => exact setStatus_keeps_ids h
  | expire => exact setStatus_keeps_ids h

theorem changeListing_eq_ok {id : ListingId} {change : Listing → Except Problem Listing}
    {edited : Listing} :
    catalog.changeListing id change = (.ok edited, changed) ↔
      ∃ listing, Table.find? catalog.listings id = some listing ∧ change listing = .ok edited ∧
        changed = { catalog with
          listings := Table.modify catalog.listings id fun _ => edited } := by
  unfold changeListing
  cases hfind : Table.find? catalog.listings id with
  | none => simp
  | some listing =>
    cases hchange : change listing with
    | error problem => simp [hchange]
    | ok given =>
      simp only [hchange, Prod.mk.injEq, Except.ok.injEq, Option.some.injEq, exists_eq_left']
      constructor
      · rintro ⟨rfl, rfl⟩
        exact ⟨rfl, rfl⟩
      · rintro ⟨rfl, rfl⟩
        exact ⟨rfl, rfl⟩

theorem changeListing_eq_error {id : ListingId} {change : Listing → Except Problem Listing}
    {problem : Problem} (h : catalog.changeListing id change = (.error problem, changed)) :
    changed = catalog := by
  unfold changeListing at h
  split at h
  · cases h
    rfl
  · split at h
    · cases h
      rfl
    · exact absurd h (by simp)

theorem changeHistory_cases (catalog : Catalog) (id : VehicleId)
    (change : VehicleHistory → VehicleHistory) :
    (∃ history, Table.find? catalog.histories id = some history ∧
        (catalog.changeHistory id fun history => .ok (change history)) =
          (.ok (change history), { catalog with
            histories := Table.modify catalog.histories id fun _ => change history })) ∨
      Table.find? catalog.histories id = none ∧
        (catalog.changeHistory id fun history => .ok (change history)) =
          (.error (noHistory id), catalog) := by
  unfold changeHistory
  cases hfind : Table.find? catalog.histories id with
  | none => exact .inr ⟨rfl, rfl⟩
  | some history => exact .inl ⟨history, rfl, rfl⟩

theorem finished_eq_ok {α : Type} {change : Except Problem α × Catalog} :
    finished change = (.ok (), changed) ↔ ∃ given, change = (.ok given, changed) := by
  obtain ⟨result, left⟩ := change
  cases result with
  | error problem => simp [finished, Except.map]
  | ok given => simp [finished, Except.map]

theorem finished_eq_error {α : Type} {change : Except Problem α × Catalog} {problem : Problem} :
    finished change = (.error problem, changed) ↔ change = (.error problem, changed) := by
  obtain ⟨result, left⟩ := change
  cases result with
  | error other => simp [finished, Except.map]
  | ok given => simp [finished, Except.map]

theorem vehicleIds_eq (catalog : Catalog) :
    catalog.vehicleIds = (Table.values catalog.vehicles).map Vehicle.id ++
      (Table.values catalog.listings).map fun listing => listing.vehicle.id := by
  simp [vehicleIds, allVehicles, ownedVehicles]

/-! ## The invariant along a run -/

theorem Distinct.of_perm {ids others : List VehicleId} (h : Distinct ids)
    (hperm : ids.Perm others) : Distinct others := by
  refine (hperm.pairwise_iff ?_).mp h
  intro a b hdiffer hnamed heq
  exact hdiffer (heq ▸ hnamed) heq.symm

theorem Distinct.cons {ids : List VehicleId} (h : Distinct ids) {id : VehicleId}
    (hnew : id.isBlank = false → id ∉ ids) : Distinct (id :: ids) := by
  refine List.pairwise_cons.mpr ⟨?_, h⟩
  intro other hmem hnamed heq
  exact hnew hnamed (heq ▸ hmem)

theorem invariant_empty : Invariant .empty where
  users := keyed_nil
  vehicles := keyed_nil
  listings := keyed_nil
  messages := keyed_nil
  histories := keyed_nil
  distinct := List.Pairwise.nil

theorem Invariant.insertUser (h : Invariant catalog) {user : User}
    (hinsert : catalog.insertUser user = (.ok (), changed)) : Invariant changed := by
  obtain ⟨hnamed, _, rfl⟩ := insertUser_eq_ok.mp hinsert
  exact { h with users := h.users.insert hnamed }

theorem Invariant.insertMessage (h : Invariant catalog) {message : Message}
    (hinsert : catalog.insertMessage message = (.ok (), changed)) : Invariant changed := by
  obtain ⟨hnamed, _, rfl⟩ := insertMessage_eq_ok.mp hinsert
  exact { h with messages := h.messages.insert hnamed }

theorem Invariant.insertHistory (h : Invariant catalog) {history : VehicleHistory}
    (hinsert : catalog.insertHistory history = (.ok (), changed)) : Invariant changed := by
  obtain ⟨hnamed, _, rfl⟩ := insertHistory_eq_ok.mp hinsert
  exact { h with histories := h.histories.insert hnamed }

theorem values_insert_perm {κ : RecordKind} {α : Type} {table : Table (Identifier κ) α}
    {id : Identifier κ} (record : α) (hfind : Table.find? table id = none) :
    (Table.values (Table.insert table id record)).Perm (record :: Table.values table) :=
  (Table.insert_perm record hfind).map Prod.snd

theorem Invariant.insertVehicle (h : Invariant catalog) {vehicle : Vehicle}
    (hinsert : catalog.insertVehicle vehicle = (.ok (), changed)) : Invariant changed := by
  obtain ⟨howned, hnamed, hfind, rfl⟩ := insertVehicle_eq_ok.mp hinsert
  have hnew : vehicle.id ∉ catalog.vehicleIds := by
    rw [vehicleIds_eq]
    intro hmem
    rcases List.mem_append.mp hmem with hmem | hmem
    · obtain ⟨other, hother, heq⟩ := List.mem_map.mp hmem
      exact h.vehicles.not_mem hfind other hother heq
    · obtain ⟨listing, hlisting, heq⟩ := List.mem_map.mp hmem
      exact howned listing hlisting heq
  refine { h with vehicles := h.vehicles.insert hnamed, distinct := ?_ }
  refine (h.distinct.cons fun _ => hnew).of_perm ?_
  rw [vehicleIds_eq, vehicleIds_eq]
  exact ((values_insert_perm vehicle hfind).map Vehicle.id).symm.append_right _

theorem Invariant.insertListing (h : Invariant catalog) {listing : Listing}
    (hinsert : catalog.insertListing listing = (.ok (), changed)) : Invariant changed := by
  obtain ⟨hfree, hnamed, hfind, rfl⟩ := insertListing_eq_ok.mp hinsert
  have hnew : listing.vehicle.id.isBlank = false → listing.vehicle.id ∉ catalog.vehicleIds := by
    intro hvehicle hmem
    obtain ⟨helsewhere, hvehicles⟩ := hfree hvehicle
    rw [vehicleIds_eq] at hmem
    rcases List.mem_append.mp hmem with hmem | hmem
    · obtain ⟨other, hother, heq⟩ := List.mem_map.mp hmem
      exact h.vehicles.not_mem hvehicles other hother heq
    · obtain ⟨other, hother, heq⟩ := List.mem_map.mp hmem
      exact h.listings.not_mem hfind other hother (helsewhere other hother heq)
  refine { h with listings := h.listings.insert hnamed, distinct := ?_ }
  refine (h.distinct.cons hnew).of_perm ?_
  have hlistings : ((Table.values (Table.insert catalog.listings listing.id listing)).map
      fun other => other.vehicle.id).Perm
      (listing.vehicle.id :: (Table.values catalog.listings).map fun other => other.vehicle.id) :=
    (values_insert_perm listing hfind).map fun other => other.vehicle.id
  rw [vehicleIds_eq, vehicleIds_eq]
  exact (List.perm_middle.symm).trans (hlistings.symm.append_left _)

/-- A catalog whose records differ from those of another one in no identifier. -/
structure SameIds (catalog changed : Catalog) : Prop where
  users : Table.mapValues changed.users User.id = Table.mapValues catalog.users User.id
  vehicles : Table.mapValues changed.vehicles Vehicle.id =
    Table.mapValues catalog.vehicles Vehicle.id
  listings : Table.mapValues changed.listings Listing.id =
    Table.mapValues catalog.listings Listing.id
  owned : Table.mapValues changed.listings (fun listing => listing.vehicle.id) =
    Table.mapValues catalog.listings fun listing => listing.vehicle.id
  messages : Table.mapValues changed.messages Message.id =
    Table.mapValues catalog.messages Message.id
  histories : Table.mapValues changed.histories VehicleHistory.vehicleId =
    Table.mapValues catalog.histories VehicleHistory.vehicleId

theorem SameIds.refl (catalog : Catalog) : SameIds catalog catalog :=
  ⟨rfl, rfl, rfl, rfl, rfl, rfl⟩

theorem Invariant.of_sameIds (h : Invariant catalog) (hsame : SameIds catalog changed) :
    Invariant changed where
  users := h.users.of_view hsame.users
  vehicles := h.vehicles.of_view hsame.vehicles
  listings := h.listings.of_view hsame.listings
  messages := h.messages.of_view hsame.messages
  histories := h.histories.of_view hsame.histories
  distinct := by
    have hdistinct := h.distinct
    rw [vehicleIds_eq] at hdistinct ⊢
    rw [Table.values_eq_of_mapValues hsame.vehicles, Table.values_eq_of_mapValues hsame.owned]
    exact hdistinct

theorem mapValues_markConversationRead {β : Type} {view : Message → β}
    (hview : ∀ message, view message.markRead = view message) (catalog : Catalog)
    (listing : ListingId) (reader : UserId) :
    Table.mapValues (catalog.markConversationRead listing reader).2.messages view =
      Table.mapValues catalog.messages view := by
  simp only [Catalog.markConversationRead, Table.mapValues_mapValues]
  apply List.map_congr_left
  intro entry _
  by_cases hawaits : awaits listing reader entry.2 = true
  · simp [hawaits, hview]
  · simp [hawaits]

theorem sameIds_markConversationRead (catalog : Catalog) (listing : ListingId) (reader : UserId) :
    SameIds catalog (catalog.markConversationRead listing reader).2 := by
  refine { SameIds.refl catalog with messages := ?_ }
  exact mapValues_markConversationRead (fun _ => rfl) catalog listing reader

def withListing (catalog : Catalog) (id : ListingId) (edited : Listing) : Catalog :=
  { catalog with listings := Table.modify catalog.listings id fun _ => edited }

def withHistory (catalog : Catalog) (id : VehicleId) (edited : VehicleHistory) : Catalog :=
  { catalog with histories := Table.modify catalog.histories id fun _ => edited }

theorem findListing?_withListing {id : ListingId} {stored edited : Listing}
    (hfind : catalog.findListing? id = some stored) :
    (catalog.withListing id edited).findListing? id = some edited := by
  have hmodify : Table.find? (catalog.withListing id edited).listings id =
      (Table.find? catalog.listings id).map fun _ => edited := Table.find?_modify_self _ _ _
  rw [findListing?] at hfind ⊢
  rw [hmodify, hfind, Option.map_some]

theorem sameIds_withListing {id : ListingId} {listing edited : Listing}
    (hfind : catalog.findListing? id = some listing) (hid : edited.id = listing.id)
    (hvehicle : edited.vehicle.id = listing.vehicle.id) :
    SameIds catalog (catalog.withListing id edited) :=
  { SameIds.refl catalog with
    listings := Table.mapValues_modify hfind hid
    owned :=
      have howned : (fun listing : Listing => listing.vehicle.id) edited = listing.vehicle.id :=
        hvehicle
      Table.mapValues_modify hfind howned }

theorem sameIds_withHistory {id : VehicleId} {history edited : VehicleHistory}
    (hfind : catalog.findHistory? id = some history) (hid : edited.vehicleId = history.vehicleId) :
    SameIds catalog (catalog.withHistory id edited) :=
  { SameIds.refl catalog with histories := Table.mapValues_modify hfind hid }

theorem sameIds_editListing {id : ListingId} {edit : ListingEdit}
    (hedit : catalog.perform (.editListing id edit) = (.ok (), changed)) :
    SameIds catalog changed := by
  obtain ⟨edited, hchange⟩ := finished_eq_ok.mp hedit
  obtain ⟨listing, hfind, happly, rfl⟩ := changeListing_eq_ok.mp hchange
  obtain ⟨hid, hvehicle⟩ := edit_keeps_ids happly
  exact sameIds_withListing hfind hid hvehicle

theorem sameIds_editHistory {id : VehicleId} {edit : HistoryEdit}
    (hedit : catalog.perform (.editHistory id edit) = (.ok (), changed)) :
    SameIds catalog changed := by
  obtain ⟨edited, hchange⟩ := finished_eq_ok.mp hedit
  rcases changeHistory_cases catalog id edit.apply with ⟨history, hfind, hedited⟩ | ⟨-, hrefused⟩
  · rw [hedited] at hchange
    cases hchange
    have hid : (edit.apply history).vehicleId = history.vehicleId := by
      cases edit with
      | recordMaintenance event => rfl
      | recordRepair repair => rfl
      | recordAccident accident => rfl
    exact sameIds_withHistory hfind hid
  · rw [hrefused] at hchange
    exact absurd hchange (by simp)

theorem Invariant.perform (h : Invariant catalog) {operation : Operation}
    (hperform : catalog.perform operation = (.ok (), changed)) : Invariant changed := by
  cases operation with
  | insertUser user => exact h.insertUser hperform
  | insertVehicle vehicle => exact h.insertVehicle hperform
  | insertListing listing => exact h.insertListing hperform
  | insertMessage message => exact h.insertMessage hperform
  | insertHistory history => exact h.insertHistory hperform
  | markConversationRead listing reader =>
    cases hperform
    exact h.of_sameIds (sameIds_markConversationRead catalog listing reader)
  | editListing id edit => exact h.of_sameIds (sameIds_editListing hperform)
  | editHistory id edit => exact h.of_sameIds (sameIds_editHistory hperform)

theorem perform_eq_error {operation : Operation} {problem : Problem}
    (h : catalog.perform operation = (.error problem, changed)) : changed = catalog := by
  cases operation with
  | insertUser user => exact insertUnique_eq_error (fun users => ({ catalog with users } : Catalog)) h
  | insertVehicle vehicle => exact insertVehicle_eq_error h
  | insertListing listing => exact insertListing_eq_error h
  | insertMessage message =>
    exact insertUnique_eq_error (fun messages => ({ catalog with messages } : Catalog)) h
  | insertHistory history =>
    exact insertUnique_eq_error (fun histories => ({ catalog with histories } : Catalog)) h
  | markConversationRead listing reader => cases h
  | editListing id edit => exact changeListing_eq_error (finished_eq_error.mp h)
  | editHistory id edit =>
    have hchange := finished_eq_error.mp h
    rcases changeHistory_cases catalog id edit.apply with ⟨history, -, hedited⟩ | ⟨-, hrefused⟩
    · rw [hedited] at hchange
      exact absurd hchange (by simp)
    · rw [hrefused] at hchange
      cases hchange
      rfl

theorem step_cases (catalog : Catalog) (operation : Operation) :
    catalog.perform operation = (.ok (), catalog.step operation) ∨
      ∃ problem, catalog.perform operation = (.error problem, catalog) ∧
        catalog.step operation = catalog := by
  unfold step
  rcases hperform : catalog.perform operation with ⟨problem | _, changed⟩
  · obtain rfl := perform_eq_error hperform
    exact .inr ⟨problem, rfl, rfl⟩
  · exact .inl rfl

theorem Invariant.step (h : Invariant catalog) (operation : Operation) :
    Invariant (catalog.step operation) := by
  rcases step_cases catalog operation with hperform | ⟨_, _, hsame⟩
  · exact h.perform hperform
  · rw [hsame]
    exact h

/-! ## Catalogs read from documents -/

theorem insertAll_cons_eq_ok {α : Type} {insert : Catalog → α → Except Problem Unit × Catalog}
    {record : α} {rest : List α} : insertAll insert catalog (record :: rest) = .ok changed ↔
      ∃ next, insert catalog record = (.ok (), next) ∧
        insertAll insert next rest = .ok changed := by
  rw [insertAll]
  rcases insert catalog record with ⟨problem | _, next⟩
  · simp
  · simp

theorem insertAll_append_eq_ok {α : Type} {insert : Catalog → α → Except Problem Unit × Catalog}
    {catalog changed : Catalog} {front rest : List α} :
    insertAll insert catalog (front ++ rest) = .ok changed ↔
      ∃ between, insertAll insert catalog front = .ok between ∧
        insertAll insert between rest = .ok changed := by
  induction front generalizing catalog with
  | nil => simp [insertAll]
  | cons record front ih =>
    simp only [List.cons_append, insertAll_cons_eq_ok, ih]
    constructor
    · rintro ⟨next, hnext, between, hfront, hrest⟩
      exact ⟨between, ⟨next, hnext, hfront⟩, hrest⟩
    · rintro ⟨between, ⟨next, hnext, hfront⟩, hrest⟩
      exact ⟨next, hnext, between, hfront, hrest⟩

theorem invariant_insertAll {α : Type} {insert : Catalog → α → Except Problem Unit × Catalog}
    (hkeeps : ∀ {catalog changed record}, Invariant catalog →
      insert catalog record = (.ok (), changed) → Invariant changed)
    {records : List α} (h : Invariant catalog)
    (hinsert : insertAll insert catalog records = .ok changed) : Invariant changed := by
  induction records generalizing catalog with
  | nil =>
    cases hinsert
    exact h
  | cons record rest ih =>
    obtain ⟨next, hnext, hrest⟩ := insertAll_cons_eq_ok.mp hinsert
    exact ih (hkeeps h hnext) hrest

theorem addSection_eq_ok {α : Type} [Record α] {insert : Catalog → α → Except Problem Unit × Catalog}
    {sections : Members} {name : String} {state : Except Failure Catalog × Clock} {later : Clock} :
    addSection insert sections name state = (.ok changed, later) ↔
      ∃ catalog clock records, state = (.ok catalog, clock) ∧
        decodeSection sections name clock = (.ok records, later) ∧
        insertAll insert catalog records = .ok changed := by
  obtain ⟨result, clock⟩ := state
  cases result with
  | error failure => simp [addSection]
  | ok catalog =>
    rw [addSection]
    cases hsection : decodeSection (α := α) sections name clock with
    | mk result between =>
      cases result with
      | error failure => simp [hsection]
      | ok records =>
        cases hfill : insertAll insert catalog records with
        | error problem => simp [hsection, hfill]
        | ok filled => simp [hsection, hfill, and_comm]

theorem invariant_addSection {α : Type} [Record α] {insert : Catalog → α → Except Problem Unit × Catalog}
    (hkeeps : ∀ {catalog changed record}, Invariant catalog →
      insert catalog record = (.ok (), changed) → Invariant changed)
    {sections : Members} {name : String} {state : Except Failure Catalog × Clock}
    (h : ∀ catalog, state.1 = .ok catalog → Invariant catalog) :
    ∀ catalog, (addSection insert sections name state).1 = .ok catalog → Invariant catalog := by
  intro filled hadd
  obtain ⟨catalog, clock, records, rfl, _, hfill⟩ := addSection_eq_ok.mp (Prod.ext hadd rfl)
  exact invariant_insertAll hkeeps (h catalog rfl) hfill

theorem invariant_ofSections {sections : Members} {clock : Clock} :
    ∀ catalog, (ofSections sections clock).1 = .ok catalog → Invariant catalog := by
  unfold ofSections
  -- the sections are peeled from the one read last to the one read first
  refine invariant_addSection (fun h => h.insertHistory) ?_
  refine invariant_addSection (fun h => h.insertMessage) ?_
  refine invariant_addSection (fun h => h.insertListing) ?_
  refine invariant_addSection (fun h => h.insertVehicle) ?_
  refine invariant_addSection (fun h => h.insertUser) ?_
  intro catalog heq
  cases heq
  exact invariant_empty

theorem invariant_ofDocument {text : String} {clock later : Clock}
    (h : ofDocument text clock = (.ok catalog, later)) : Invariant catalog := by
  unfold ofDocument at h
  split at h
  · exact absurd h (by simp)
  · exact invariant_ofSections catalog (congrArg Prod.fst h)
  · exact absurd h (by simp)

theorem Reachable.invariant (h : Reachable catalog) : Invariant catalog := by
  induction h with
  | empty => exact invariant_empty
  | loaded hload => exact invariant_ofDocument hload
  | step operation _ ih => exact ih.step operation

/-! ## The representation of catalogs -/

/-- The keys increase, and each record is found under its own identifier and no other, which is not
blank after trimming. -/
def StoredUnderOwnId {kind : RecordKind} {α : Type} (id : α → Identifier kind)
    (table : Table (Identifier kind) α) : Prop :=
  Table.Sorted table ∧ ∀ record ∈ Table.values table,
    Text.trim (id record).text ≠ "" ∧
      ∀ key, Table.find? table key = some record ↔ key = id record

structure Representation (catalog : Catalog) : Prop where
  users : StoredUnderOwnId User.id catalog.users
  vehicles : StoredUnderOwnId Vehicle.id catalog.vehicles
  listings : StoredUnderOwnId Listing.id catalog.listings
  messages : StoredUnderOwnId Message.id catalog.messages
  histories : StoredUnderOwnId VehicleHistory.vehicleId catalog.histories
  /-- Standalone vehicles, owned ones and one of each alike. -/
  no_vehicle_twice : catalog.allVehicles.Pairwise fun a b =>
    Text.trim a.id.text ≠ "" → a.id ≠ b.id

theorem trim_ne_empty_iff {kind : RecordKind} (id : Identifier kind) :
    Text.trim id.text ≠ "" ↔ id.isBlank = false := by
  rw [Ne, Text.trim_eq_empty_iff, Identifier.isBlank, Bool.not_eq_true]

theorem Keyed.storedUnderOwnId {kind : RecordKind} {α : Type} {id : α → Identifier kind}
    {table : Table (Identifier kind) α} (h : Keyed id table) : StoredUnderOwnId id table := by
  refine ⟨h.sorted, ?_⟩
  intro record hmem
  have hfind := h.find? hmem
  have hown := h.own _ (Table.mem_of_find? hfind)
  refine ⟨(trim_ne_empty_iff _).mpr hown.2, ?_⟩
  intro key
  constructor
  · intro hkey
    exact (h.own _ (Table.mem_of_find? hkey)).1
  · intro heq
    rw [heq]
    exact hfind

theorem reachable_representation (h : Reachable catalog) : Representation catalog where
  users := h.invariant.users.storedUnderOwnId
  vehicles := h.invariant.vehicles.storedUnderOwnId
  listings := h.invariant.listings.storedUnderOwnId
  messages := h.invariant.messages.storedUnderOwnId
  histories := h.invariant.histories.storedUnderOwnId
  no_vehicle_twice := by
    have hdistinct := h.invariant.distinct
    unfold Distinct vehicleIds at hdistinct
    refine (List.pairwise_map.mp hdistinct).imp ?_
    intro a b hdiffer hnamed
    exact hdiffer ((trim_ne_empty_iff a.id).mp hnamed)

def sampleOperations : List Operation :=
  [.insertVehicle (.create ⟨"v1"⟩ ⟨"u1"⟩ "Fiat" "500" .epoch),
    .insertListing (.create ⟨"l2"⟩ (.create ⟨" "⟩ ⟨"u1"⟩ "" "" .epoch) ⟨"u1"⟩),
    .insertListing (.create ⟨"l1"⟩ (.create ⟨" "⟩ ⟨"u1"⟩ "" "" .epoch) ⟨"u1"⟩),
    .insertListing (.create ⟨"l3"⟩ (.create ⟨"v1"⟩ ⟨"u1"⟩ "" "" .epoch) ⟨"u1"⟩),
    .editListing ⟨"l2"⟩ .markSold]

theorem sample_representation :
    (empty.run sampleOperations).vehicleIds = [⟨"v1"⟩, ⟨" "⟩, ⟨" "⟩] ∧
      Representation (empty.run sampleOperations) :=
  ⟨by decide, reachable_representation (Reachable.empty.run sampleOperations)⟩

end Catalog

end VehicleMarket
