import VehicleMarket.Proofs.Catalog.Consistency
import VehicleMarket.Proofs.Catalog.InsertionOrder

/-!
What an insertion asks for and what it does. A record is let in just when its identifier is not
blank, no record of its kind has that identifier, and no vehicle would be there twice. Then it is
found under its identifier and all other look-ups are as before; else the catalog stays as it is.
The exception that the check of a listing makes for its own identifier lets nothing through: a
listing with that identifier is there, so the insertion is refused all the same.
-/
namespace VehicleMarket

namespace AnyRecord

def key : AnyRecord → RecordKind × String
  | .ofUser user => (.user, user.id.text)
  | .ofVehicle vehicle => (.vehicle, vehicle.id.text)
  | .ofListing listing => (.listing, listing.id.text)
  | .ofMessage message => (.message, message.id.text)
  | .ofHistory history => (.history, history.vehicleId.text)

/-- The vehicle that comes with the record: on its own, or owned by a listing. -/
def vehicle? : AnyRecord → Option Vehicle
  | .ofVehicle vehicle => some vehicle
  | .ofListing listing => some listing.vehicle
  | _ => none

theorem named_iff {record : AnyRecord} : Text.trim record.key.2 ≠ "" ↔ record.Named := by
  cases record <;> exact Catalog.trim_ne_empty_iff _

end AnyRecord

namespace Catalog

def recordAt? (catalog : Catalog) (kind : RecordKind) (text : String) : Option AnyRecord :=
  match kind with
  | .user => (Table.find? catalog.users ⟨text⟩).map .ofUser
  | .vehicle => (Table.find? catalog.vehicles ⟨text⟩).map .ofVehicle
  | .listing => (Table.find? catalog.listings ⟨text⟩).map .ofListing
  | .message => (Table.find? catalog.messages ⟨text⟩).map .ofMessage
  | .history => (Table.find? catalog.histories ⟨text⟩).map .ofHistory

/-- What a catalog asks of a record that is to be inserted. -/
structure Admits (catalog : Catalog) (record : AnyRecord) : Prop where
  named : Text.trim record.key.2 ≠ ""
  new : ∀ other ∈ catalog.allRecords, other.key ≠ record.key
  not_owned : ∀ vehicle, record = .ofVehicle vehicle →
    ∀ listing ∈ Table.values catalog.listings, listing.vehicle.id ≠ vehicle.id
  owns_new : ∀ listing, record = .ofListing listing →
    Text.trim listing.vehicle.id.text = "" ∨
      ∀ vehicle ∈ catalog.allVehicles, vehicle.id ≠ listing.vehicle.id

/-- A catalog with one record more, and everything else as it was. -/
structure Added (catalog : Catalog) (record : AnyRecord) (changed : Catalog) : Prop where
  records : changed.allRecords.Perm (record :: catalog.allRecords)
  recordAt? : ∀ kind text, changed.recordAt? kind text =
    if (kind, text) = record.key then some record else catalog.recordAt? kind text
  other_vehicles : ∀ id, (∀ vehicle, record.vehicle? = some vehicle → vehicle.id ≠ id) →
    changed.findVehicle? id = catalog.findVehicle? id
  /-- Of vehicles in listings that have no identifier, one that was there may go before. -/
  own_vehicle : ∀ vehicle, record.vehicle? = some vehicle →
    ∃ found, changed.findVehicle? vehicle.id = some found ∧
      (found = vehicle ∨
        Text.trim vehicle.id.text = "" ∧ catalog.findVehicle? vehicle.id = some found)

variable {catalog changed : Catalog} {record : AnyRecord}

/-! ## What is asked for -/

theorem forall_allVehicles {property : Vehicle → Prop} :
    (∀ vehicle ∈ catalog.allVehicles, property vehicle) ↔
      (∀ vehicle ∈ Table.values catalog.vehicles, property vehicle) ∧
        ∀ listing ∈ Table.values catalog.listings, property listing.vehicle := by
  rw [allVehicles, ownedVehicles, List.forall_mem_append, List.forall_mem_map]

theorem admits_vehicle_iff {vehicle : Vehicle} :
    catalog.Admits (.ofVehicle vehicle) ↔ vehicle.id.isBlank = false ∧
      (∀ other ∈ Table.values catalog.vehicles, other.id ≠ vehicle.id) ∧
        ∀ listing ∈ Table.values catalog.listings, listing.vehicle.id ≠ vehicle.id := by
  have hnew : (∀ other ∈ catalog.allRecords, other.key ≠ (AnyRecord.ofVehicle vehicle).key) ↔
      ∀ other ∈ Table.values catalog.vehicles, other.id ≠ vehicle.id := by
    rw [forall_allRecords]
    simp [AnyRecord.key, Identifier.text_inj]
  constructor
  · intro h
    exact ⟨AnyRecord.named_iff.mp h.named, hnew.mp h.new, h.not_owned vehicle rfl⟩
  · rintro ⟨hnamed, hothers, howned⟩
    refine ⟨AnyRecord.named_iff.mpr hnamed, hnew.mpr hothers, ?_, ?_⟩
    · rintro _ ⟨⟩
      exact howned
    · rintro _ ⟨⟩

theorem admits_listing_iff {listing : Listing} :
    catalog.Admits (.ofListing listing) ↔ listing.id.isBlank = false ∧
      (∀ other ∈ Table.values catalog.listings, other.id ≠ listing.id) ∧
        (listing.vehicle.id.isBlank = false →
          ∀ vehicle ∈ catalog.allVehicles, vehicle.id ≠ listing.vehicle.id) := by
  have hnew : (∀ other ∈ catalog.allRecords, other.key ≠ (AnyRecord.ofListing listing).key) ↔
      ∀ other ∈ Table.values catalog.listings, other.id ≠ listing.id := by
    rw [forall_allRecords]
    simp [AnyRecord.key, Identifier.text_inj]
  constructor
  · intro h
    refine ⟨AnyRecord.named_iff.mp h.named, hnew.mp h.new, fun hvehicle => ?_⟩
    exact (h.owns_new listing rfl).resolve_left ((trim_ne_empty_iff _).mpr hvehicle)
  · rintro ⟨hnamed, hothers, howns⟩
    refine ⟨AnyRecord.named_iff.mpr hnamed, hnew.mpr hothers, ?_, ?_⟩
    · rintro _ ⟨⟩
    · rintro _ ⟨⟩
      by_cases hvehicle : Text.trim listing.vehicle.id.text = ""
      · exact .inl hvehicle
      · exact .inr (howns ((trim_ne_empty_iff _).mp hvehicle))

theorem admits_iff_of_no_vehicle (hrecord : record.vehicle? = none) :
    catalog.Admits record ↔
      record.Named ∧ ∀ other ∈ catalog.allRecords, record.Apart other := by
  have hapart (other : AnyRecord) : record.Apart other ↔ other.key ≠ record.key := by
    cases record with
    | ofVehicle vehicle => exact absurd hrecord (by simp [AnyRecord.vehicle?])
    | ofListing listing => exact absurd hrecord (by simp [AnyRecord.vehicle?])
    | _ => cases other <;> simp [AnyRecord.Apart, AnyRecord.names, AnyRecord.key]
  simp only [hapart]
  constructor
  · intro h
    exact ⟨AnyRecord.named_iff.mp h.named, h.new⟩
  · rintro ⟨hnamed, hnew⟩
    refine ⟨AnyRecord.named_iff.mpr hnamed, hnew, ?_, ?_⟩
    · rintro vehicle rfl
      exact absurd hrecord (by simp [AnyRecord.vehicle?])
    · rintro listing rfl
      exact absurd hrecord (by simp [AnyRecord.vehicle?])

theorem admits_iff : catalog.Admits record ↔
    record.Named ∧ ∀ other ∈ catalog.allRecords, record.Apart other := by
  cases record with
  | ofVehicle vehicle =>
    rw [admits_vehicle_iff, apart_allRecords_vehicle]
    constructor
    · rintro ⟨hnamed, hothers, howned⟩
      exact ⟨hnamed, hothers, fun listing hlisting _ => howned listing hlisting⟩
    · rintro ⟨hnamed, hothers, howned⟩
      exact ⟨hnamed, hothers, fun listing hlisting => howned listing hlisting hnamed⟩
  | ofListing listing =>
    rw [admits_listing_iff, apart_allRecords_listing, forall_allVehicles]
    constructor
    · rintro ⟨hnamed, hothers, howns⟩
      refine ⟨hnamed, fun vehicle hmem hused => (howns hused).1 vehicle hmem, ?_⟩
      intro other hother
      exact ⟨hothers other hother, fun hused => (howns hused).2 other hother⟩
    · rintro ⟨hnamed, hvehicles, hlistings⟩
      refine ⟨hnamed, fun other hother => (hlistings other hother).1, fun hused => ?_⟩
      exact ⟨fun vehicle hmem => hvehicles vehicle hmem hused,
        fun other hother => (hlistings other hother).2 hused⟩
  | _ => exact admits_iff_of_no_vehicle rfl

/-! ## What it does -/

theorem find?_insert_id {kind : RecordKind} {α : Type} (table : Table (Identifier kind) α)
    (own id : Identifier kind) (record : α) :
    Table.find? (Table.insert table own record) id =
      if id.text = own.text then some record else Table.find? table id := by
  by_cases hid : id = own
  · rw [if_pos (Identifier.text_inj.mpr hid), hid, Table.find?_insert_self]
  · have htext : id.text ≠ own.text := fun heq => hid (Identifier.text_inj.mp heq)
    rw [if_neg htext, Table.find?_insert_of_ne _ _ hid]

theorem recordAt?_put (catalog : Catalog) (record : AnyRecord) (kind : RecordKind) (text : String) :
    (catalog.put record).recordAt? kind text =
      if (kind, text) = record.key then some record else catalog.recordAt? kind text := by
  cases record <;> cases kind <;>
    simp [put, recordAt?, AnyRecord.key, find?_insert_id, apply_ite (Option.map _)]

theorem findVehicle?_put_vehicle (catalog : Catalog) (vehicle : Vehicle) (id : VehicleId) :
    (catalog.put (.ofVehicle vehicle)).findVehicle? id =
      if id.text = vehicle.id.text then some vehicle else catalog.findVehicle? id := by
  have hfind : Table.find? (catalog.put (.ofVehicle vehicle)).vehicles id =
      if id.text = vehicle.id.text then some vehicle else Table.find? catalog.vehicles id :=
    find?_insert_id catalog.vehicles vehicle.id id vehicle
  rw [findVehicle?, hfind]
  by_cases hid : id.text = vehicle.id.text
  · rw [if_pos hid, if_pos hid]
  · rw [if_neg hid, if_neg hid]
    rfl

theorem ownedVehicles_put_listing {listing : Listing}
    (hnew : Table.find? catalog.listings listing.id = none) :
    ∃ front back, catalog.ownedVehicles = front ++ back ∧
      (catalog.put (.ofListing listing)).ownedVehicles = front ++ listing.vehicle :: back := by
  obtain ⟨front, back, htable, hinsert⟩ := Table.insert_between listing hnew
  refine ⟨(Table.values front).map Listing.vehicle, (Table.values back).map Listing.vehicle, ?_, ?_⟩
  · rw [ownedVehicles, htable]
    simp [Table.values]
  · have hlistings : (catalog.put (.ofListing listing)).listings =
        front ++ (listing.id, listing) :: back := hinsert
    rw [ownedVehicles, hlistings]
    simp [Table.values]

theorem findVehicle?_put_listing_of_ne {listing : Listing}
    (hnew : Table.find? catalog.listings listing.id = none) {id : VehicleId}
    (hid : listing.vehicle.id ≠ id) :
    (catalog.put (.ofListing listing)).findVehicle? id = catalog.findVehicle? id := by
  obtain ⟨front, back, hbefore, hafter⟩ := ownedVehicles_put_listing hnew
  have hother : (listing.vehicle :: back).find? (fun vehicle => vehicle.id == id) =
      back.find? fun vehicle => vehicle.id == id :=
    List.find?_cons_of_neg (by simpa using hid)
  have howned : (catalog.put (.ofListing listing)).ownedVehicles.find?
      (fun vehicle => vehicle.id == id) =
        catalog.ownedVehicles.find? fun vehicle => vehicle.id == id := by
    rw [hbefore, hafter, List.find?_append, hother, List.find?_append]
  rw [findVehicle?, findVehicle?, howned]
  rfl

theorem findVehicle?_put_listing_self {listing : Listing}
    (hnew : Table.find? catalog.listings listing.id = none) :
    ∃ found, (catalog.put (.ofListing listing)).findVehicle? listing.vehicle.id = some found ∧
      (found = listing.vehicle ∨ catalog.findVehicle? listing.vehicle.id = some found) := by
  obtain ⟨front, back, hbefore, hafter⟩ := ownedVehicles_put_listing hnew
  have hvehicles : (catalog.put (.ofListing listing)).vehicles = catalog.vehicles := rfl
  rw [findVehicle?, findVehicle?, hvehicles]
  cases htable : Table.find? catalog.vehicles listing.vehicle.id with
  | some vehicle => exact ⟨vehicle, rfl, .inr rfl⟩
  | none =>
    have hself : (listing.vehicle :: back).find? (fun vehicle => vehicle.id == listing.vehicle.id) =
        some listing.vehicle :=
      List.find?_cons_of_pos (beq_self_eq_true _)
    simp only [hafter, hbefore, List.find?_append, hself]
    cases hfront : front.find? fun vehicle => vehicle.id == listing.vehicle.id with
    | some vehicle => exact ⟨vehicle, rfl, .inr rfl⟩
    | none => exact ⟨listing.vehicle, rfl, .inl rfl⟩

theorem find?_listings_of_admits (h : Invariant catalog) {listing : Listing}
    (hadmits : catalog.Admits (.ofListing listing)) :
    Table.find? catalog.listings listing.id = none :=
  h.listings.find?_eq_none_iff.mpr (admits_listing_iff.mp hadmits).2.1

theorem findVehicle?_put_of_ne (h : Invariant catalog) (hadmits : catalog.Admits record)
    {id : VehicleId} (hid : ∀ vehicle, record.vehicle? = some vehicle → vehicle.id ≠ id) :
    (catalog.put record).findVehicle? id = catalog.findVehicle? id := by
  cases record with
  | ofVehicle vehicle =>
    have hother : id.text ≠ vehicle.id.text := fun heq =>
      hid vehicle rfl (Identifier.text_inj.mp heq.symm)
    rw [findVehicle?_put_vehicle, if_neg hother]
  | ofListing listing =>
    exact findVehicle?_put_listing_of_ne (find?_listings_of_admits h hadmits)
      (hid listing.vehicle rfl)
  | _ => rfl

theorem findVehicle?_put_self (h : Invariant catalog) (hadmits : catalog.Admits record)
    {vehicle : Vehicle} (hvehicle : record.vehicle? = some vehicle) :
    ∃ found, (catalog.put record).findVehicle? vehicle.id = some found ∧
      (found = vehicle ∨
        Text.trim vehicle.id.text = "" ∧ catalog.findVehicle? vehicle.id = some found) := by
  cases record with
  | ofVehicle vehicle =>
    cases hvehicle
    exact ⟨vehicle, (findVehicle?_put_vehicle _ _ _).trans (if_pos rfl), .inl rfl⟩
  | ofListing listing =>
    cases hvehicle
    obtain ⟨found, hfound, hsame | hearlier⟩ :=
      findVehicle?_put_listing_self (find?_listings_of_admits h hadmits)
    · exact ⟨found, hfound, .inl hsame⟩
    · refine ⟨found, hfound, .inr ⟨?_, hearlier⟩⟩
      -- a vehicle with an identifier is not there yet
      refine (hadmits.owns_new listing rfl).resolve_right fun hnew => ?_
      obtain ⟨vehicle, hmem, hid⟩ :=
        (Integrity.findVehicle?_isSome h).mp (Option.isSome_of_eq_some hearlier)
      exact hnew vehicle hmem hid
  | _ => cases hvehicle

/-- A record of any kind is inserted into a reachable catalog just when the catalog admits it; then
it is added, and nothing else is changed. The catalog that a refused record leaves is the one that
it came to. -/
theorem insertion_exact (h : Reachable catalog) (record : AnyRecord) :
    ((catalog.insertAny record).1 = .ok () ↔ catalog.Admits record) ∧
    (∀ problem changed, catalog.insertAny record = (.error problem, changed) →
      changed = catalog) ∧
    ∀ changed, catalog.insertAny record = (.ok (), changed) → catalog.Added record changed := by
  refine ⟨?_, fun _ _ => perform_eq_error, ?_⟩
  · rw [admits_iff]
    constructor
    · intro hinsert
      obtain ⟨hnamed, hapart, -⟩ := (insertAny_eq_ok h.invariant).mp (Prod.ext hinsert rfl)
      exact ⟨hnamed, hapart⟩
    · rintro ⟨hnamed, hapart⟩
      rw [(insertAny_eq_ok h.invariant).mpr ⟨hnamed, hapart, rfl⟩]
  · intro changed hinsert
    have hrecords := allRecords_perm_of_insertAny hinsert
    obtain ⟨hnamed, hapart, rfl⟩ := (insertAny_eq_ok h.invariant).mp hinsert
    have hadmits : catalog.Admits record := admits_iff.mpr ⟨hnamed, hapart⟩
    refine ⟨hrecords, recordAt?_put catalog record, ?_, ?_⟩
    · intro id hid
      exact findVehicle?_put_of_ne h.invariant hadmits hid
    · intro vehicle hvehicle
      exact findVehicle?_put_self h.invariant hadmits hvehicle

def offering (vehicle : VehicleId) : AnyRecord :=
  .ofListing (.create ⟨"l5"⟩ (.create vehicle ⟨"u1"⟩ "" "" .epoch) ⟨"u1"⟩)

theorem sample_insertions :
    let catalog := empty.run sampleOperations
    (∃ changed, catalog.insertAny (offering ⟨"v5"⟩) = (.ok (), changed) ∧
        catalog.Added (offering ⟨"v5"⟩) changed) ∧
      ¬ catalog.Admits (offering ⟨"v1"⟩) ∧
      catalog.insertAny (offering ⟨"v1"⟩) = (.error (.duplicate "vehicle" "v1"), catalog) := by
  intro catalog
  have hreachable : Reachable catalog := Reachable.empty.run sampleOperations
  have hrefused : (catalog.insertAny (offering ⟨"v1"⟩)).1 = .error (.duplicate "vehicle" "v1") := by
    decide
  have hinserted : catalog.insertAny (offering ⟨"v5"⟩) =
      (.ok (), catalog.put (offering ⟨"v5"⟩)) := by decide
  refine ⟨⟨_, hinserted, ?_⟩, ?_, ?_⟩
  · exact (insertion_exact hreachable (offering ⟨"v5"⟩)).2.2 _ hinserted
  · intro hadmits
    have hinsert := (insertion_exact hreachable (offering ⟨"v1"⟩)).1.mpr hadmits
    exact absurd (hinsert.symm.trans hrefused) (by simp)
  · rcases hinsert : catalog.insertAny (offering ⟨"v1"⟩) with ⟨result, changed⟩
    rw [hinsert] at hrefused
    obtain rfl : result = .error (.duplicate "vehicle" "v1") := hrefused
    rw [(insertion_exact hreachable (offering ⟨"v1"⟩)).2.1 _ _ hinsert]

end Catalog

end VehicleMarket
