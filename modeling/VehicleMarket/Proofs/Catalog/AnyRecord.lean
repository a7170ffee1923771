import VehicleMarket.Proofs.Catalog.Acceptance

/-!
Records of any kind on their way into a catalog. A record takes names there: its own identifier
among those of its kind, and a listing also that of its vehicle among those of vehicles, unless it
is blank. Five insertions with checks of their own come to one rule: a record is let in when its
identifier is not blank and it has no name in common with a record that is there.
-/
namespace VehicleMarket

theorem Identifier.text_inj {kind : RecordKind} {a b : Identifier kind} :
    a.text = b.text ↔ a = b := by
  cases a
  cases b
  simp

inductive AnyRecord where
  | ofUser (user : User)
  | ofVehicle (vehicle : Vehicle)
  | ofListing (listing : Listing)
  | ofMessage (message : Message)
  | ofHistory (history : VehicleHistory)
  deriving DecidableEq, Repr

namespace AnyRecord

def insertion : AnyRecord → Catalog.Operation
  | .ofUser user => .insertUser user
  | .ofVehicle vehicle => .insertVehicle vehicle
  | .ofListing listing => .insertListing listing
  | .ofMessage message => .insertMessage message
  | .ofHistory history => .insertHistory history

def Named : AnyRecord → Prop
  | .ofUser user => user.id.isBlank = false
  | .ofVehicle vehicle => vehicle.id.isBlank = false
  | .ofListing listing => listing.id.isBlank = false
  | .ofMessage message => message.id.isBlank = false
  | .ofHistory history => history.vehicleId.isBlank = false

/-- The names that a record takes, each with the kind among whose names it is. -/
def names : AnyRecord → List (RecordKind × String)
  | .ofUser user => [(.user, user.id.text)]
  | .ofVehicle vehicle => [(.vehicle, vehicle.id.text)]
  | .ofListing listing =>
    (.listing, listing.id.text) ::
      if listing.vehicle.id.isBlank then [] else [(.vehicle, listing.vehicle.id.text)]
  | .ofMessage message => [(.message, message.id.text)]
  | .ofHistory history => [(.history, history.vehicleId.text)]

/-- Two records with no name in common. -/
def Apart (a b : AnyRecord) : Prop :=
  a.names.Disjoint b.names

theorem Apart.symm {a b : AnyRecord} (h : Apart a b) : Apart b a :=
  List.disjoint_symm h

theorem Apart.id_ne {a b : AnyRecord} (h : Apart a b) {among kind : RecordKind}
    {first second : Identifier kind} (hfirst : (among, first.text) ∈ a.names)
    (hsecond : (among, second.text) ∈ b.names) : first ≠ second := by
  intro heq
  exact h hfirst (heq ▸ hsecond)

theorem apart_vehicle_listing {vehicle : Vehicle} {listing : Listing} :
    Apart (.ofVehicle vehicle) (.ofListing listing) ↔
      (vehicle.id.isBlank = false → listing.vehicle.id ≠ vehicle.id) := by
  simp only [Apart, names, List.disjoint_cons_left, List.disjoint_nil_left, and_true,
    List.mem_cons, Prod.mk.injEq, reduceCtorEq, false_and, false_or]
  by_cases hsame : listing.vehicle.id = vehicle.id
  · simp [hsame]
  · simp [hsame, Identifier.text_inj, Ne.symm hsame]

theorem apart_listings {a b : Listing} :
    Apart (.ofListing a) (.ofListing b) ↔
      b.id ≠ a.id ∧ (a.vehicle.id.isBlank = false → b.vehicle.id ≠ a.vehicle.id) := by
  have hids : ¬a.id = b.id ↔ ¬b.id = a.id := ne_comm
  by_cases hsame : b.vehicle.id = a.vehicle.id
  · cases hblank : a.vehicle.id.isBlank with
    | true => simp [Apart, names, hsame, hblank, Identifier.text_inj]
    | false => simp [Apart, names, hsame, hblank]
  · cases ha : a.vehicle.id.isBlank with
    | true => simp [Apart, names, ha, Identifier.text_inj, hids]
    | false =>
      cases hb : b.vehicle.id.isBlank with
      | true => simp [Apart, names, ha, hb, hsame, Identifier.text_inj]
      | false => simp [Apart, names, ha, hb, hsame, Identifier.text_inj]

end AnyRecord

namespace Catalog

def allRecords (catalog : Catalog) : List AnyRecord :=
  (Table.values catalog.users).map .ofUser ++
    ((Table.values catalog.vehicles).map .ofVehicle ++
      ((Table.values catalog.listings).map .ofListing ++
        ((Table.values catalog.messages).map .ofMessage ++
          (Table.values catalog.histories).map .ofHistory)))

def insertAny (catalog : Catalog) (record : AnyRecord) : Except Problem Unit × Catalog :=
  catalog.perform record.insertion

def put (catalog : Catalog) : AnyRecord → Catalog
  | .ofUser user => { catalog with users := Table.insert catalog.users user.id user }
  | .ofVehicle vehicle =>
    { catalog with vehicles := Table.insert catalog.vehicles vehicle.id vehicle }
  | .ofListing listing =>
    { catalog with listings := Table.insert catalog.listings listing.id listing }
  | .ofMessage message =>
    { catalog with messages := Table.insert catalog.messages message.id message }
  | .ofHistory history =>
    { catalog with histories := Table.insert catalog.histories history.vehicleId history }

variable {catalog changed : Catalog} {record : AnyRecord}

theorem forall_allRecords {property : AnyRecord → Prop} :
    (∀ record ∈ catalog.allRecords, property record) ↔
      (∀ user ∈ Table.values catalog.users, property (.ofUser user)) ∧
      (∀ vehicle ∈ Table.values catalog.vehicles, property (.ofVehicle vehicle)) ∧
      (∀ listing ∈ Table.values catalog.listings, property (.ofListing listing)) ∧
      (∀ message ∈ Table.values catalog.messages, property (.ofMessage message)) ∧
      ∀ history ∈ Table.values catalog.histories, property (.ofHistory history) := by
  simp only [allRecords, List.forall_mem_append, List.forall_mem_map]

theorem apart_allRecords_vehicle {vehicle : Vehicle} :
    (∀ other ∈ catalog.allRecords, AnyRecord.Apart (.ofVehicle vehicle) other) ↔
      (∀ other ∈ Table.values catalog.vehicles, other.id ≠ vehicle.id) ∧
      ∀ listing ∈ Table.values catalog.listings,
        vehicle.id.isBlank = false → listing.vehicle.id ≠ vehicle.id := by
  rw [forall_allRecords]
  simp only [AnyRecord.apart_vehicle_listing]
  simp [AnyRecord.Apart, AnyRecord.names, Identifier.text_inj]

theorem apart_allRecords_listing {listing : Listing} :
    (∀ other ∈ catalog.allRecords, AnyRecord.Apart (.ofListing listing) other) ↔
      (∀ vehicle ∈ Table.values catalog.vehicles,
        listing.vehicle.id.isBlank = false → vehicle.id ≠ listing.vehicle.id) ∧
      ∀ other ∈ Table.values catalog.listings, other.id ≠ listing.id ∧
        (listing.vehicle.id.isBlank = false → other.vehicle.id ≠ listing.vehicle.id) := by
  rw [forall_allRecords]
  simp only [AnyRecord.apart_listings]
  simp [AnyRecord.Apart, AnyRecord.names, Identifier.text_inj]

/-! ## One insertion -/

theorem insertAny_eq_ok (h : Invariant catalog) :
    catalog.insertAny record = (.ok (), changed) ↔
      record.Named ∧ (∀ other ∈ catalog.allRecords, record.Apart other) ∧
        changed = catalog.put record := by
  cases record with
  | ofUser user =>
    have hinsert : catalog.insertAny (.ofUser user) = catalog.insertUser user := rfl
    rw [hinsert, insertUser_eq_ok, h.users.find?_eq_none_iff, forall_allRecords]
    simp [AnyRecord.Apart, AnyRecord.names, AnyRecord.Named, put, Identifier.text_inj]
  | ofVehicle vehicle =>
    have hinsert : catalog.insertAny (.ofVehicle vehicle) = catalog.insertVehicle vehicle := rfl
    rw [hinsert, insertVehicle_eq_ok, h.vehicles.find?_eq_none_iff, apart_allRecords_vehicle]
    constructor
    · rintro ⟨hfree, hnamed, hnew, hchanged⟩
      exact ⟨hnamed, ⟨hnew, fun listing hlisting _ => hfree listing hlisting⟩, hchanged⟩
    · rintro ⟨hnamed, ⟨hnew, hfree⟩, hchanged⟩
      exact ⟨fun listing hlisting => hfree listing hlisting hnamed, hnamed, hnew, hchanged⟩
  | ofListing listing =>
    have hinsert : catalog.insertAny (.ofListing listing) = catalog.insertListing listing := rfl
    rw [hinsert, insertListing_eq_ok, h.listings.find?_eq_none_iff, h.vehicles.find?_eq_none_iff,
      apart_allRecords_listing]
    -- A listing may not share its vehicle with another listing; one under its own identifier is
    -- passed over there, and is refused as a listing that exists.
    constructor
    · rintro ⟨hvehicle, hnamed, hnew, hchanged⟩
      refine ⟨hnamed, ⟨fun vehicle hmem hused => (hvehicle hused).2 vehicle hmem, ?_⟩, hchanged⟩
      intro other hother
      refine ⟨hnew other hother, fun hused hsame => ?_⟩
      exact hnew other hother ((hvehicle hused).1 other hother hsame)
    · rintro ⟨hnamed, ⟨hvehicles, hlistings⟩, hchanged⟩
      refine ⟨fun hused => ⟨?_, fun vehicle hmem => hvehicles vehicle hmem hused⟩, hnamed,
        fun other hother => (hlistings other hother).1, hchanged⟩
      intro other hother hsame
      exact absurd hsame ((hlistings other hother).2 hused)
  | ofMessage message =>
    have hinsert : catalog.insertAny (.ofMessage message) = catalog.insertMessage message := rfl
    rw [hinsert, insertMessage_eq_ok, h.messages.find?_eq_none_iff, forall_allRecords]
    simp [AnyRecord.Apart, AnyRecord.names, AnyRecord.Named, put, Identifier.text_inj]
  | ofHistory history =>
    have hinsert : catalog.insertAny (.ofHistory history) = catalog.insertHistory history := rfl
    rw [hinsert, insertHistory_eq_ok, h.histories.find?_eq_none_iff, forall_allRecords]
    simp [AnyRecord.Apart, AnyRecord.names, AnyRecord.Named, put, Identifier.text_inj]

end Catalog

end VehicleMarket
