import VehicleMarket.Proofs.Catalog.InsertionOrder
import VehicleMarket.Proofs.Catalog.Readings

/-!
The statuses of the listings in a document. No clock has a part in them: it fills in times only, so
two readings of one document, at whatever times, find the same listings with the same statuses.
-/
namespace VehicleMarket

/-! ## One listing -/

/-- A member that has rules of its own neither for its time nor for what is in it is read as it was
settled, at every instant. -/
theorem Schema.field_normalize {schema : Schema} (hnodup : (Table.keys schema.nested).Nodup)
    {key : String} (hplain : Table.find? schema.nested key = none)
    (huntimed : key ∉ schema.keys.timestamps) (now : Int) (members : Members) {α : Type}
    (decode : Json.Decoder α) (absent : α) :
    Json.field (schema.normalize now members) key decode absent =
      Json.field (schema.keys.settle members) key decode absent := by
  have hfind : Table.find? (schema.normalize now members) key =
      Table.find? (schema.keys.settle members) key := by
    rw [find?_normalize hnodup, hplain]
    exact if_neg huntimed
  rw [Json.field, Json.field, Json.field?, Json.field?, hfind]

namespace Listing

/-- Identifier and status come from the members alone. -/
structure StatedIn (members : Members) (listing : Listing) : Prop where
  id : Json.field (schema.keys.settle members) "id" Json.decodeString "" = .ok listing.id.text
  status : Json.field (schema.keys.settle members) "status" Json.decodeSpelled
    ListingStatus.active = .ok listing.status

theorem statedIn_of_ofObject (now : Instant) (members : Members) :
    Ensures (StatedIn members) (Record.ofObject now members) := by
  have hnodup : (Table.keys schema.nested).Nodup := by decide
  change Ensures _ (ofMembers (schema.normalize now.millis members))
  unfold ofMembers
  refine ensures_bind fun _ _ => ?_
  refine ensures_bind fun id hid => ?_
  refine ensures_bind fun _ _ => ?_
  refine ensures_bind fun status hstatus => ?_
  iterate 3 refine ensures_bind fun _ _ => ?_
  rw [Schema.field_normalize hnodup rfl (by decide)] at hid hstatus
  exact ensures_pure ⟨hid, hstatus⟩

theorem StatedIn.unique {members : Members} {first second : Listing} (h : StatedIn members first)
    (hsecond : StatedIn members second) : second.id = first.id ∧ second.status = first.status := by
  have hid : first.id.text = second.id.text := Except.ok.inj (h.id.symm.trans hsecond.id)
  have hstatus : first.status = second.status :=
    Except.ok.inj (h.status.symm.trans hsecond.status)
  exact ⟨(Identifier.text_inj.mp hid).symm, hstatus.symm⟩

end Listing

/-! ## All listings -/

namespace Catalog

variable {catalog filled : Catalog}

theorem mem_allRecords_of_insertAll {records : List AnyRecord}
    (h : insertAll insertAny catalog records = .ok filled) {record : AnyRecord} :
    record ∈ filled.allRecords ↔ record ∈ records ∨ record ∈ catalog.allRecords := by
  induction records generalizing catalog with
  | nil =>
    cases h
    simp
  | cons first rest ih =>
    obtain ⟨next, hnext, hrest⟩ := insertAll_cons_eq_ok.mp h
    rw [ih hrest, (allRecords_perm_of_insertAny hnext).mem_iff, List.mem_cons, List.mem_cons,
      or_left_comm, or_assoc]

theorem mem_allRecords_listing {listing : Listing} :
    .ofListing listing ∈ catalog.allRecords ↔ listing ∈ Table.values catalog.listings := by
  simp [allRecords]

theorem Invariant.findListing?_eq_some_iff (h : Invariant catalog) {id : ListingId}
    {listing : Listing} : catalog.findListing? id = some listing ↔
      .ofListing listing ∈ catalog.allRecords ∧ listing.id = id := by
  rw [mem_allRecords_listing]
  exact h.listings.find?_eq_some_iff

/-- A catalog that has the listing, and has it with the status. -/
def ShowsStatus (catalog : Catalog) (id : ListingId) (status : ListingStatus) : Prop :=
  ∃ listing, catalog.findListing? id = some listing ∧ listing.status = status

theorem showsStatus_of_ofDocument {text : String} {first second : Catalog} {clock other : Clock}
    (hfirst : (ofDocument text clock).1 = .ok first)
    (hsecond : (ofDocument text other).1 = .ok second) {id : ListingId} {status : ListingStatus}
    (h : first.ShowsStatus id status) : second.ShowsStatus id status := by
  have hinvariant : Invariant first := invariant_ofDocument (Prod.ext hfirst rfl)
  have hinvariant' : Invariant second := invariant_ofDocument (Prod.ext hsecond rfl)
  obtain ⟨sections, loaded, hread, hturn, hinsert⟩ := ofDocument_inTurn (Prod.ext hfirst rfl)
  obtain ⟨sections', loaded', hread', hturn', hinsert'⟩ :=
    ofDocument_inTurn (Prod.ext hsecond rfl)
  cases hread.symm.trans hread'
  obtain ⟨listing, hfind, rfl⟩ := h
  obtain ⟨hmem, rfl⟩ := hinvariant.findListing?_eq_some_iff.mp hfind
  have hloaded : .ofListing listing ∈ loaded :=
    ((mem_allRecords_of_insertAll hinsert).mp hmem).resolve_right List.not_mem_nil
  obtain ⟨item, hitem, now, hkind, members, hobject, hreads⟩ :=
    exists_related hturn.forall₂.flip hloaded
  obtain ⟨record, hrecord, later, hreads'⟩ := exists_related hturn'.forall₂ hitem
  have hmem' := (mem_allRecords_of_insertAll hinsert').mpr (.inl hrecord)
  -- the kind of the item says which kind of record was made of it
  cases record with
  | ofListing again =>
    obtain ⟨_, members', hobject', hagain⟩ := hreads'
    cases hobject.symm.trans hobject'
    obtain ⟨hid, hstatus⟩ := (Listing.statedIn_of_ofObject _ _ _ hreads.decoded).unique
      (Listing.statedIn_of_ofObject _ _ _ hagain.decoded)
    exact ⟨again, hinvariant'.findListing?_eq_some_iff.mpr ⟨hmem', hid⟩, hstatus⟩
  | _ =>
    obtain ⟨hkind', _⟩ := hreads'
    exact absurd (hkind.symm.trans hkind') (by decide)

end Catalog

end VehicleMarket
