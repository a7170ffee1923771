import Mathlib.Data.List.Pairwise
import VehicleMarket.Proofs.Catalog.AnyRecord

/-!
The order in which records are inserted does not matter. Whether a whole list of them is let in asks
each record for an identifier and each pair for names apart, which no order changes; and records
with names apart go to different places, whichever comes first.
-/
namespace VehicleMarket

namespace Catalog

variable {catalog changed : Catalog}

/-! ## What an insertion adds -/

theorem perm_behind {α : Type} {added : α} {rest longer : List α} (front : List α)
    (h : longer.Perm (added :: rest)) : (front ++ longer).Perm (added :: (front ++ rest)) :=
  (h.append_left front).trans List.perm_middle

theorem allRecords_perm_of_insertAny {record : AnyRecord}
    (hinsert : catalog.insertAny record = (.ok (), changed)) :
    changed.allRecords.Perm (record :: catalog.allRecords) := by
  cases record with
  | ofUser user =>
    obtain ⟨_, hnew, rfl⟩ := insertUser_eq_ok.mp hinsert
    exact ((values_insert_perm user hnew).map AnyRecord.ofUser).append_right _
  | ofVehicle vehicle =>
    obtain ⟨_, _, hnew, rfl⟩ := insertVehicle_eq_ok.mp hinsert
    refine perm_behind _ ?_
    exact ((values_insert_perm vehicle hnew).map AnyRecord.ofVehicle).append_right _
  | ofListing listing =>
    obtain ⟨_, _, hnew, rfl⟩ := insertListing_eq_ok.mp hinsert
    refine perm_behind _ (perm_behind _ ?_)
    exact ((values_insert_perm listing hnew).map AnyRecord.ofListing).append_right _
  | ofMessage message =>
    obtain ⟨_, hnew, rfl⟩ := insertMessage_eq_ok.mp hinsert
    refine perm_behind _ (perm_behind _ (perm_behind _ ?_))
    exact ((values_insert_perm message hnew).map AnyRecord.ofMessage).append_right _
  | ofHistory history =>
    obtain ⟨_, hnew, rfl⟩ := insertHistory_eq_ok.mp hinsert
    refine perm_behind _ (perm_behind _ (perm_behind _ (perm_behind _ ?_)))
    exact (values_insert_perm history hnew).map AnyRecord.ofHistory

/-- Checking each record against the catalog that the ones before it have made comes to checking all
of them against the first catalog and against each other. -/
theorem insertRecords_eq_ok (h : Invariant catalog) {records : List AnyRecord} :
    insertAll insertAny catalog records = .ok changed ↔
      (∀ record ∈ records, record.Named ∧ ∀ other ∈ catalog.allRecords, record.Apart other) ∧
        records.Pairwise AnyRecord.Apart ∧ changed = records.foldl put catalog := by
  induction records generalizing catalog with
  | nil => simp [insertAll, eq_comm]
  | cons record rest ih =>
    rw [insertAll_cons_eq_ok, List.forall_mem_cons, List.pairwise_cons, List.foldl_cons]
    constructor
    · rintro ⟨next, hnext, hrest⟩
      have hadded := allRecords_perm_of_insertAny hnext
      obtain ⟨hothers, hpairs, hchanged⟩ := (ih (h.perform hnext)).mp hrest
      obtain ⟨hnamed, hfree, rfl⟩ := (insertAny_eq_ok h).mp hnext
      refine ⟨⟨⟨hnamed, hfree⟩, ?_⟩, ⟨?_, hpairs⟩, hchanged⟩
      · intro later hlater
        obtain ⟨hlaterNamed, hlaterFree⟩ := hothers later hlater
        exact ⟨hlaterNamed, fun other hother =>
          hlaterFree other (hadded.mem_iff.mpr (List.mem_cons_of_mem record hother))⟩
      · intro later hlater
        exact ((hothers later hlater).2 record (hadded.mem_iff.mpr List.mem_cons_self)).symm
    · rintro ⟨⟨⟨hnamed, hfree⟩, hothers⟩, ⟨hfirst, hpairs⟩, hchanged⟩
      have hnext : catalog.insertAny record = (.ok (), catalog.put record) :=
        (insertAny_eq_ok h).mpr ⟨hnamed, hfree, rfl⟩
      have hadded := allRecords_perm_of_insertAny hnext
      refine ⟨_, hnext, (ih (h.perform hnext)).mpr ⟨?_, hpairs, hchanged⟩⟩
      intro later hlater
      refine ⟨(hothers later hlater).1, fun other hother => ?_⟩
      rcases List.mem_cons.mp (hadded.mem_iff.mp hother) with rfl | hother
      · exact (hfirst later hlater).symm
      · exact (hothers later hlater).2 other hother

/-! ## Any order -/

theorem put_comm (catalog : Catalog) {a b : AnyRecord} (h : a.Apart b) :
    (catalog.put a).put b = (catalog.put b).put a := by
  cases a with
  | ofUser user =>
    cases b with
    | ofUser other =>
      have hdiffer : user.id ≠ other.id := h.id_ne List.mem_cons_self List.mem_cons_self
      simp only [put, Table.insert_comm _ hdiffer]
    | _ => rfl
  | ofVehicle vehicle =>
    cases b with
    | ofVehicle other =>
      have hdiffer : vehicle.id ≠ other.id := h.id_ne List.mem_cons_self List.mem_cons_self
      simp only [put, Table.insert_comm _ hdiffer]
    | _ => rfl
  | ofListing listing =>
    cases b with
    | ofListing other =>
      have hdiffer : listing.id ≠ other.id := h.id_ne List.mem_cons_self List.mem_cons_self
      simp only [put, Table.insert_comm _ hdiffer]
    | _ => rfl
  | ofMessage message =>
    cases b with
    | ofMessage other =>
      have hdiffer : message.id ≠ other.id := h.id_ne List.mem_cons_self List.mem_cons_self
      simp only [put, Table.insert_comm _ hdiffer]
    | _ => rfl
  | ofHistory history =>
    cases b with
    | ofHistory other =>
      have hdiffer : history.vehicleId ≠ other.vehicleId :=
        h.id_ne List.mem_cons_self List.mem_cons_self
      simp only [put, Table.insert_comm _ hdiffer]
    | _ => rfl

instance apart_symm : Std.Symm AnyRecord.Apart where
  symm _ _ h := h.symm

theorem insertRecords_perm (h : Invariant catalog) {records others : List AnyRecord}
    (hperm : records.Perm others) (hinsert : insertAll insertAny catalog records = .ok changed) :
    insertAll insertAny catalog others = .ok changed := by
  obtain ⟨hfree, hpairs, rfl⟩ := (insertRecords_eq_ok h).mp hinsert
  refine (insertRecords_eq_ok h).mpr ⟨?_, ?_, ?_⟩
  · intro record hrecord
    exact hfree record (hperm.mem_iff.mpr hrecord)
  · exact (hperm.pairwise_iff fun hapart => hapart.symm).mp hpairs
  · refine hperm.foldl_eq' ?_ catalog
    intro first hfirst second hsecond start
    by_cases hsame : first = second
    · rw [hsame]
    · exact put_comm start (hpairs.forall hfirst hsecond hsame)

/-! ## The document -/

namespace Contents

def toJson (contents : Contents) : Json :=
  .object
    [("users", .array (contents.users.map User.toJson)),
      ("vehicles", .array (contents.vehicles.map Vehicle.toJson)),
      ("listings", .array (contents.listings.map Listing.toJson)),
      ("messages", .array (contents.messages.map Message.toJson)),
      ("histories", .array (contents.histories.map VehicleHistory.toJson))]

structure InOrder (contents : Contents) : Prop where
  users : (contents.users.map User.id).Pairwise (· < ·)
  vehicles : (contents.vehicles.map Vehicle.id).Pairwise (· < ·)
  listings : (contents.listings.map Listing.id).Pairwise (· < ·)
  messages : (contents.messages.map Message.id).Pairwise (· < ·)
  histories : (contents.histories.map VehicleHistory.vehicleId).Pairwise (· < ·)

end Contents

def contents (catalog : Catalog) : Contents where
  users := Table.values catalog.users
  vehicles := Table.values catalog.vehicles
  listings := Table.values catalog.listings
  messages := Table.values catalog.messages
  histories := Table.values catalog.histories

theorem Invariant.contents_inOrder (h : Invariant catalog) : catalog.contents.InOrder where
  users := h.users.ids_increase
  vehicles := h.vehicles.ids_increase
  listings := h.listings.ids_increase
  messages := h.messages.ids_increase
  histories := h.histories.ids_increase

/-- When records of any kinds are all let in, in some order, then they are in every other one, the
catalog is the same, and so is its document, whose sections are in the order of the identifiers. -/
theorem insertion_order_irrelevant (h : Reachable catalog) {records : List AnyRecord}
    (hinsert : insertAll insertAny catalog records = .ok changed) :
    ∃ written : Contents, written.InOrder ∧ ∀ others, records.Perm others →
      insertAll insertAny catalog others = .ok changed ∧
        (insertAll insertAny catalog others).map toDocument =
          .ok (Json.pretty written.toJson) := by
  have hchanged : Invariant changed := invariant_insertAll (fun h => h.perform) h.invariant hinsert
  refine ⟨changed.contents, hchanged.contents_inOrder, ?_⟩
  intro others hperm
  have hothers := insertRecords_perm h.invariant hperm hinsert
  rw [hothers]
  exact ⟨rfl, rfl⟩

def sampleRecords : List AnyRecord :=
  [.ofListing (.create ⟨"l4"⟩ (.create ⟨"v4"⟩ ⟨"u2"⟩ "" "" .epoch) ⟨"u2"⟩),
    .ofHistory ⟨⟨"v4"⟩, [], [], []⟩,
    .ofVehicle (.create ⟨"v2"⟩ ⟨"u2"⟩ "" "" .epoch),
    .ofUser (.create ⟨"u2"⟩ "" "" .seller .epoch)]

def sampleFilled : Catalog :=
  sampleRecords.foldl put (empty.run sampleOperations)

theorem sample_orders :
    sampleFilled.contents.users.map User.id = [⟨"u2"⟩] ∧
      sampleFilled.contents.vehicles.map Vehicle.id = [⟨"v1"⟩, ⟨"v2"⟩] ∧
      sampleFilled.contents.listings.map Listing.id = [⟨"l1"⟩, ⟨"l2"⟩, ⟨"l4"⟩] ∧
      sampleFilled.contents.histories.map VehicleHistory.vehicleId = [⟨"v4"⟩] ∧
      insertAll insertAny (empty.run sampleOperations) sampleRecords.reverse = .ok sampleFilled ∧
      ∃ written : Contents, written.InOrder ∧
        sampleFilled.toDocument = Json.pretty written.toJson := by
  have hinsert : insertAll insertAny (empty.run sampleOperations) sampleRecords =
      .ok sampleFilled := by decide +kernel
  obtain ⟨written, horder, hall⟩ :=
    insertion_order_irrelevant (Reachable.empty.run sampleOperations) hinsert
  obtain ⟨hsame, hwritten⟩ := hall _ (List.reverse_perm sampleRecords).symm
  rw [hsame] at hwritten
  exact ⟨by decide, by decide, by decide, by decide, hsame, written, horder,
    Except.ok.inj hwritten⟩

end Catalog

end VehicleMarket
