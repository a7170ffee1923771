import Mathlib.Data.List.Forall2
import VehicleMarket.Proofs.Catalog.Invariant
import VehicleMarket.Proofs.Json.RoundTrip
import VehicleMarket.Proofs.Record.Readings

/-!
Which documents are accepted. The sections are read and their records inserted one after the other
into a growing catalog; under a fixed clock that succeeds exactly when every section is a list of
records, or is missing, and the records of all sections are compatible with each other, whatever
their order. The tables then hold all the records that were read and no others.
-/
namespace VehicleMarket

/-! ## Reading with a clock that stands still -/

section Fixed

variable {now : Moment}

namespace Catalog

theorem decodeItems_fixed {α : Type} [Record α] (items : List Json) :
    (decodeItems (α := α) items (.fixed now)).2 = .fixed now := by
  induction items with
  | nil => rfl
  | cons item rest ih =>
    have hfirst : (Record.decodeValue (α := α) none item (.fixed now)).2 = .fixed now :=
      Record.decodeValue_fixed none item now
    unfold decodeItems
    split
    · rename_i failure clock heq
      rw [heq] at hfirst
      exact hfirst
    · rename_i record clock heq
      rw [heq] at hfirst
      have hclock : clock = .fixed now := hfirst
      rw [hclock]
      split
      · rename_i failure later hrest
        rw [hrest] at ih
        exact ih
      · rename_i records later hrest
        rw [hrest] at ih
        exact ih

theorem decodeSection_fixed {α : Type} [Record α] (sections : Members) (name : String) :
    (decodeSection (α := α) sections name (.fixed now)).2 = .fixed now := by
  unfold decodeSection
  split
  · rfl
  · rfl
  · exact decodeItems_fixed _
  · rfl

theorem addSection_fixed {α : Type} [Record α] (insert : Catalog → α → Except Problem Unit × Catalog)
    (sections : Members) (name : String) {state : Except Failure Catalog × Clock}
    (h : state.2 = .fixed now) : (addSection insert sections name state).2 = .fixed now := by
  unfold addSection
  split
  · exact h
  · rename_i catalog clock
    have hclock : clock = .fixed now := h
    have hsection : (decodeSection (α := α) sections name (.fixed now)).2 = .fixed now :=
      decodeSection_fixed sections name
    rw [hclock]
    split
    · rename_i failure later heq
      rw [heq] at hsection
      exact hsection
    · rename_i records later heq
      rw [heq] at hsection
      split
      · exact hsection
      · exact hsection

theorem ofDocument_fixed (text : String) : (ofDocument text (.fixed now)).2 = .fixed now := by
  unfold ofDocument
  split
  · rfl
  · unfold ofSections
    refine addSection_fixed _ _ _ (addSection_fixed _ _ _ (addSection_fixed _ _ _ ?_))
    exact addSection_fixed _ _ _ (addSection_fixed _ _ _ rfl)
  · rfl

end Catalog

end Fixed

namespace Catalog

/-! ## Insertion one by one -/

def tableOf {kind : RecordKind} {α : Type} (id : α → Identifier kind) (records : List α) :
    Table (Identifier kind) α :=
  Table.ofList (records.map fun record => (id record, record))

/-- How an insertion into one table of a catalog decides: a record is let in when it is admitted on
its own account and apart from every record that is there. -/
structure Admission {kind : RecordKind} {α : Type} (id : α → Identifier kind)
    (insert : Catalog → α → Except Problem Unit × Catalog) (put : Table (Identifier kind) α → Catalog)
    (admits : α → Prop) (apart : α → α → Prop) : Prop where
  named : ∀ record, admits record → (id record).isBlank = false
  ids : ∀ a b, apart a b → id a ≠ id b
  insert_eq_ok : ∀ {table record changed}, Keyed id table →
    (insert (put table) record = (.ok (), changed) ↔
      (admits record ∧ ∀ other ∈ Table.values table, apart other record) ∧
        changed = put (Table.insert table (id record) record))

section Insertion

variable {kind : RecordKind} {α : Type} {id : α → Identifier kind}
  {table : Table (Identifier kind) α} {records : List α}

theorem Keyed.find?_eq_none_iff (h : Keyed id table) {key : Identifier kind} :
    Table.find? table key = none ↔ ∀ record ∈ Table.values table, id record ≠ key := by
  refine ⟨h.not_mem, ?_⟩
  intro hother
  cases hfind : Table.find? table key with
  | none => rfl
  | some record =>
    have hentry := Table.mem_of_find? hfind
    exact absurd (h.own _ hentry).1.symm (hother record (List.mem_map_of_mem hentry))

variable {insert : Catalog → α → Except Problem Unit × Catalog}
  {put : Table (Identifier kind) α → Catalog} {admits : α → Prop} {apart : α → α → Prop}
  {changed : Catalog}

/-- Checking each record against those before it comes to checking all pairs. The induction is on
the records that are left, over whatever table the ones before them have made. -/
theorem Admission.insertAll_eq_ok (h : Admission id insert put admits apart)
    (hkeyed : Keyed id table) :
    insertAll insert (put table) records = .ok changed ↔
      (∀ record ∈ records, admits record ∧ ∀ other ∈ Table.values table, apart other record) ∧
        records.Pairwise apart ∧
        changed = put (records.foldl (fun table record =>
          Table.insert table (id record) record) table) := by
  induction records generalizing table with
  | nil => simp [insertAll, eq_comm]
  | cons record rest ih =>
    rw [List.forall_mem_cons, List.pairwise_cons, List.foldl_cons, insertAll_cons_eq_ok]
    -- what the records left find in the table that has the first one as well
    have hlater : (admits record ∧ ∀ other ∈ Table.values table, apart other record) →
        (insertAll insert (put (Table.insert table (id record) record)) rest = .ok changed ↔
          (∀ next ∈ rest, admits next ∧ apart record next ∧
            ∀ other ∈ Table.values table, apart other next) ∧ rest.Pairwise apart ∧
          changed = put (rest.foldl (fun table record => Table.insert table (id record) record)
            (Table.insert table (id record) record))) := by
      intro hfree
      have hnew : Table.find? table (id record) = none :=
        hkeyed.find?_eq_none_iff.mpr fun other hmem => h.ids _ _ (hfree.2 other hmem)
      have hvalues (other : α) :
          other ∈ Table.values (Table.insert table (id record) record) ↔
            other = record ∨ other ∈ Table.values table := by
        rw [(values_insert_perm record hnew).mem_iff, List.mem_cons]
      rw [ih (hkeyed.insert (h.named record hfree.1))]
      simp only [hvalues, forall_eq_or_imp]
    constructor
    · rintro ⟨next, hnext, hrest⟩
      obtain ⟨hfree, rfl⟩ := (h.insert_eq_ok hkeyed).mp hnext
      obtain ⟨hothers, hpairs, hchanged⟩ := (hlater hfree).mp hrest
      exact ⟨⟨hfree, fun other hmem => ⟨(hothers other hmem).1, (hothers other hmem).2.2⟩⟩,
        ⟨fun other hmem => (hothers other hmem).2.1, hpairs⟩, hchanged⟩
    · rintro ⟨⟨hfree, hothers⟩, ⟨hfirst, hpairs⟩, hchanged⟩
      refine ⟨_, (h.insert_eq_ok hkeyed).mpr ⟨hfree, rfl⟩, (hlater hfree).mpr ?_⟩
      exact ⟨fun other hmem => ⟨(hothers other hmem).1, hfirst other hmem, (hothers other hmem).2⟩,
        hpairs, hchanged⟩

theorem Admission.insertAll_empty (h : Admission id insert put admits apart) :
    insertAll insert (put []) records = .ok changed ↔
      (∀ record ∈ records, admits record) ∧ records.Pairwise apart ∧
        changed = put (tableOf id records) := by
  rw [h.insertAll_eq_ok keyed_nil, tableOf, Table.ofList, List.foldl_map]
  simp [Table.values]

end Insertion

/-! ## The five insertions -/

section Kinds

variable {users : Table UserId User} {vehicles : Table VehicleId Vehicle}
  {listings : Table ListingId Listing} {messages : Table MessageId Message}
  {histories : Table VehicleId VehicleHistory}

theorem admission_users :
    Admission User.id insertUser (fun users => ⟨users, vehicles, listings, messages, histories⟩)
      (fun user => user.id.isBlank = false) (fun a b => a.id ≠ b.id) where
  named _ hnamed := hnamed
  ids _ _ hdiffer := hdiffer
  insert_eq_ok hkeyed := by rw [insertUser_eq_ok, hkeyed.find?_eq_none_iff, and_assoc]

/-- Vehicles are inserted before any listing owns one. -/
theorem admission_vehicles :
    Admission Vehicle.id insertVehicle (fun vehicles => ⟨users, vehicles, [], messages, histories⟩)
      (fun vehicle => vehicle.id.isBlank = false) (fun a b => a.id ≠ b.id) where
  named _ hnamed := hnamed
  ids _ _ hdiffer := hdiffer
  insert_eq_ok hkeyed := by
    rw [insertVehicle_eq_ok, hkeyed.find?_eq_none_iff, and_assoc]
    simp [Table.values]

theorem admission_listings :
    Admission Listing.id insertListing
      (fun listings => ⟨users, vehicles, listings, messages, histories⟩)
      (fun listing => listing.id.isBlank = false ∧ (listing.vehicle.id.isBlank = false →
        Table.find? vehicles listing.vehicle.id = none))
      (fun a b => a.id ≠ b.id ∧ (b.vehicle.id.isBlank = false → a.vehicle.id ≠ b.vehicle.id)) where
  named _ hadmitted := hadmitted.1
  ids _ _ hdiffer := hdiffer.1
  insert_eq_ok {table listing changed} hkeyed := by
    rw [insertListing_eq_ok, hkeyed.find?_eq_none_iff]
    constructor
    · rintro ⟨hfree, hnamed, hnew, hchanged⟩
      refine ⟨⟨⟨hnamed, fun hvehicle => (hfree hvehicle).2⟩, ?_⟩, hchanged⟩
      intro other hmem
      exact ⟨hnew other hmem, fun hvehicle heq =>
        hnew other hmem ((hfree hvehicle).1 other hmem heq)⟩
    · rintro ⟨⟨⟨hnamed, halone⟩, hothers⟩, hchanged⟩
      refine ⟨?_, hnamed, fun other hmem => (hothers other hmem).1, hchanged⟩
      intro hvehicle
      exact ⟨fun other hmem heq => absurd heq ((hothers other hmem).2 hvehicle), halone hvehicle⟩

theorem admission_messages :
    Admission Message.id insertMessage
      (fun messages => ⟨users, vehicles, listings, messages, histories⟩)
      (fun message => message.id.isBlank = false) (fun a b => a.id ≠ b.id) where
  named _ hnamed := hnamed
  ids _ _ hdiffer := hdiffer
  insert_eq_ok hkeyed := by rw [insertMessage_eq_ok, hkeyed.find?_eq_none_iff, and_assoc]

theorem admission_histories :
    Admission VehicleHistory.vehicleId insertHistory
      (fun histories => ⟨users, vehicles, listings, messages, histories⟩)
      (fun history => history.vehicleId.isBlank = false)
      (fun a b => a.vehicleId ≠ b.vehicleId) where
  named _ hnamed := hnamed
  ids _ _ hdiffer := hdiffer
  insert_eq_ok hkeyed := by rw [insertHistory_eq_ok, hkeyed.find?_eq_none_iff, and_assoc]

end Kinds

/-! ## Reading the sections -/

section Sections

variable {α : Type} [Record α] {now : Moment}

def Decodes (now : Moment) (item : Json) (record : α) : Prop :=
  (Record.decodeValue none item (.fixed now)).1 = .ok record

/-- A section that is missing or null has no records; a list has one for each of its items. -/
def SectionReads (now : Moment) (section? : Option Json) (records : List α) : Prop :=
  match section? with
  | none | some .null => records = []
  | some (.array items) => List.Forall₂ (Decodes now) items records
  | some _ => False

theorem decodeItems_eq_ok_iff {items : List Json} {records : List α} :
    (decodeItems items (.fixed now)).1 = .ok records ↔
      List.Forall₂ (Decodes now) items records := by
  induction items generalizing records with
  | nil => simp [decodeItems, List.forall₂_nil_left_iff, eq_comm]
  | cons item rest ih =>
    have hclock : (Record.decodeValue (α := α) none item (.fixed now)).2 = .fixed now :=
      Record.decodeValue_fixed none item now
    simp only [decodeItems, List.forall₂_cons_left_iff, Decodes]
    cases hitem : Record.decodeValue (α := α) none item (.fixed now) with
    | mk result clock =>
      rw [hitem] at hclock
      obtain rfl : clock = .fixed now := hclock
      cases result with
      | error failure => simp
      | ok record =>
        cases hitems : decodeItems (α := α) rest (.fixed now) with
        | mk results clock =>
          rw [hitems] at ih
          cases results with
          | error failure => simp [← ih, hitems]
          | ok records => simp [← ih, hitems, eq_comm]

theorem decodeSection_eq_ok_iff {sections : Members} {name : String} {records : List α} :
    (decodeSection sections name (.fixed now)).1 = .ok records ↔
      SectionReads now (Table.find? sections name) records := by
  cases hfind : Table.find? sections name with
  | none => simp [decodeSection, SectionReads, hfind, eq_comm]
  | some value =>
    cases value with
    | null => simp [decodeSection, SectionReads, hfind, eq_comm]
    | array items =>
      simp only [decodeSection, SectionReads, hfind]
      exact decodeItems_eq_ok_iff
    | _ => simp [decodeSection, SectionReads, hfind]

theorem addSection_eq_ok_iff {insert : Catalog → α → Except Problem Unit × Catalog} {sections : Members}
    {name : String} {state : Except Failure Catalog × Clock} (hstate : state.2 = .fixed now)
    {filled : Catalog} :
    (addSection insert sections name state).1 = .ok filled ↔
      ∃ catalog records, state.1 = .ok catalog ∧
        SectionReads now (Table.find? sections name) records ∧
        insertAll insert catalog records = .ok filled := by
  obtain ⟨result, clock⟩ := state
  obtain rfl : clock = .fixed now := hstate
  cases result with
  | error failure => simp [addSection]
  | ok catalog =>
    simp only [addSection, ← decodeSection_eq_ok_iff]
    cases decodeSection (α := α) sections name (.fixed now) with
    | mk results clock =>
      cases results with
      | error failure => simp
      | ok records =>
        cases hfill : insertAll insert catalog records with
        | error problem => simp [hfill]
        | ok filled => simp [hfill]

end Sections

/-! ## The records of a document -/

/-- Identifiers that are not blank, no two of them equal. -/
def Unique {kind : RecordKind} {α : Type} (id : α → Identifier kind) (records : List α) : Prop :=
  (∀ record ∈ records, (id record).isBlank = false) ∧ (records.map id).Nodup

/-- A table with all records, each once and under its own identifier, and no others. -/
structure Holds {kind : RecordKind} {α : Type} (id : α → Identifier kind)
    (table : Table (Identifier kind) α) (records : List α) : Prop where
  perm : (Table.values table).Perm records
  find? : ∀ record ∈ records, Table.find? table (id record) = some record

section Unique

variable {kind : RecordKind} {α : Type} {id : α → Identifier kind} {records : List α}

theorem Unique.keys_nodup (h : Unique id records) :
    (Table.keys (records.map fun record => (id record, record))).Nodup := by
  rw [Table.keys, List.map_map]
  exact h.2

theorem Unique.find?_eq_none_iff (h : Unique id records) {key : Identifier kind} :
    Table.find? (tableOf id records) key = none ↔ ∀ record ∈ records, id record ≠ key := by
  rw [tableOf, Table.find?_ofList _ h.keys_nodup, Table.find?_eq_none_iff]
  simp [Table.keys]

theorem Unique.holds (h : Unique id records) : Holds id (tableOf id records) records := by
  have hperm := Table.ofList_perm h.keys_nodup
  refine ⟨?_, ?_⟩
  · have hvalues := hperm.map Prod.snd
    rw [List.map_map] at hvalues
    exact hvalues.trans (.of_eq (List.map_id records))
  · intro record hmem
    exact (Table.sorted_ofList _).find?_of_mem (hperm.mem_iff.mpr (List.mem_map_of_mem hmem))

theorem Admission.insertAll_unique {insert : Catalog → α → Except Problem Unit × Catalog}
    {put : Table (Identifier kind) α → Catalog} {changed : Catalog}
    (h : Admission id insert put (fun record => (id record).isBlank = false)
      (fun a b => id a ≠ id b)) :
    insertAll insert (put []) records = .ok changed ↔
      Unique id records ∧ changed = put (tableOf id records) := by
  rw [h.insertAll_empty, Unique, List.Nodup, List.pairwise_map, and_assoc]

end Unique

structure Contents where
  users : List User
  vehicles : List Vehicle
  listings : List Listing
  messages : List Message
  histories : List VehicleHistory

namespace Contents

structure ReadFrom (contents : Contents) (now : Moment) (sections : Members) : Prop where
  users : SectionReads now (Table.find? sections "users") contents.users
  vehicles : SectionReads now (Table.find? sections "vehicles") contents.vehicles
  listings : SectionReads now (Table.find? sections "listings") contents.listings
  messages : SectionReads now (Table.find? sections "messages") contents.messages
  histories : SectionReads now (Table.find? sections "histories") contents.histories

/-- No identifier is blank or given twice in a section, and the vehicle of a listing, if it has an
identifier, is that of no other listing and not on its own. -/
structure Compatible (contents : Contents) : Prop where
  users : Unique User.id contents.users
  vehicles : Unique Vehicle.id contents.vehicles
  listings : Unique Listing.id contents.listings
  messages : Unique Message.id contents.messages
  histories : Unique VehicleHistory.vehicleId contents.histories
  owned_once : contents.listings.Pairwise fun a b =>
    b.vehicle.id.isBlank = false → a.vehicle.id ≠ b.vehicle.id
  owned_apart : ∀ listing ∈ contents.listings, listing.vehicle.id.isBlank = false →
    ∀ vehicle ∈ contents.vehicles, vehicle.id ≠ listing.vehicle.id

def catalog (contents : Contents) : Catalog where
  users := tableOf User.id contents.users
  vehicles := tableOf Vehicle.id contents.vehicles
  listings := tableOf Listing.id contents.listings
  messages := tableOf Message.id contents.messages
  histories := tableOf VehicleHistory.vehicleId contents.histories

structure HeldBy (contents : Contents) (catalog : Catalog) : Prop where
  users : Holds User.id catalog.users contents.users
  vehicles : Holds Vehicle.id catalog.vehicles contents.vehicles
  listings : Holds Listing.id catalog.listings contents.listings
  messages : Holds Message.id catalog.messages contents.messages
  histories : Holds VehicleHistory.vehicleId catalog.histories contents.histories

theorem Compatible.heldBy {contents : Contents} (h : contents.Compatible) :
    contents.HeldBy contents.catalog where
  users := h.users.holds
  vehicles := h.vehicles.holds
  listings := h.listings.holds
  messages := h.messages.holds
  histories := h.histories.holds

end Contents

theorem insertAll_listings {users : Table UserId User} {vehicles : List Vehicle}
    (hvehicles : Unique Vehicle.id vehicles) {listings : List Listing} {changed : Catalog} :
    insertAll insertListing ⟨users, tableOf Vehicle.id vehicles, [], [], []⟩ listings =
        .ok changed ↔
      (Unique Listing.id listings ∧
        (listings.Pairwise fun a b => b.vehicle.id.isBlank = false → a.vehicle.id ≠ b.vehicle.id) ∧
        ∀ listing ∈ listings, listing.vehicle.id.isBlank = false →
          ∀ vehicle ∈ vehicles, vehicle.id ≠ listing.vehicle.id) ∧
      changed = ⟨users, tableOf Vehicle.id vehicles, tableOf Listing.id listings, [], []⟩ := by
  rw [admission_listings.insertAll_empty, List.pairwise_and_iff, Unique, List.Nodup,
    List.pairwise_map]
  simp only [hvehicles.find?_eq_none_iff]
  constructor
  · rintro ⟨hadmitted, ⟨hids, howned⟩, hchanged⟩
    exact ⟨⟨⟨fun listing hmem => (hadmitted listing hmem).1, hids⟩, howned,
      fun listing hmem => (hadmitted listing hmem).2⟩, hchanged⟩
  · rintro ⟨⟨⟨hnamed, hids⟩, howned, hapart⟩, hchanged⟩
    exact ⟨fun listing hmem => ⟨hnamed listing hmem, hapart listing hmem⟩, ⟨hids, howned⟩, hchanged⟩

/-- Reading the sections of a document under a fixed clock, without the order in which it is
done. -/
theorem ofSections_fixed {sections : Members} {now : Moment} {catalog : Catalog} :
    (ofSections sections (.fixed now)).1 = .ok catalog ↔
      ∃ contents : Contents, contents.ReadFrom now sections ∧ contents.Compatible ∧
        catalog = contents.catalog := by
  -- each section starts from the fixed clock that the one before it leaves
  have hstart : ((.ok empty, .fixed now) : Except Failure Catalog × Clock).2 = .fixed now := rfl
  have husers := addSection_fixed insertUser sections "users" hstart
  have hvehicles := addSection_fixed insertVehicle sections "vehicles" husers
  have hlistings := addSection_fixed insertListing sections "listings" hvehicles
  have hmessages := addSection_fixed insertMessage sections "messages" hlistings
  simp only [ofSections, addSection_eq_ok_iff hmessages, addSection_eq_ok_iff hlistings,
    addSection_eq_ok_iff hvehicles, addSection_eq_ok_iff husers, addSection_eq_ok_iff hstart]
  constructor
  · rintro ⟨_, histories, ⟨_, messages, ⟨_, listings, ⟨_, vehicles, ⟨_, users, hempty, hread₁,
      hfill₁⟩, hread₂, hfill₂⟩, hread₃, hfill₃⟩, hread₄, hfill₄⟩, hread₅, hfill₅⟩
    cases hempty
    obtain ⟨husers, rfl⟩ := admission_users.insertAll_unique.mp hfill₁
    obtain ⟨hvehicles, rfl⟩ := admission_vehicles.insertAll_unique.mp hfill₂
    obtain ⟨⟨hlistings, honce, hapart⟩, rfl⟩ := (insertAll_listings hvehicles).mp hfill₃
    obtain ⟨hmessages, rfl⟩ := admission_messages.insertAll_unique.mp hfill₄
    obtain ⟨hhistories, rfl⟩ := admission_histories.insertAll_unique.mp hfill₅
    exact ⟨⟨users, vehicles, listings, messages, histories⟩,
      ⟨hread₁, hread₂, hread₃, hread₄, hread₅⟩,
      ⟨husers, hvehicles, hlistings, hmessages, hhistories, honce, hapart⟩, rfl⟩
  · rintro ⟨contents, hread, h, rfl⟩
    have husers : insertAll insertUser empty contents.users =
        .ok ⟨contents.catalog.users, [], [], [], []⟩ :=
      admission_users.insertAll_unique.mpr ⟨h.users, rfl⟩
    have hvehicles : insertAll insertVehicle ⟨contents.catalog.users, [], [], [], []⟩
        contents.vehicles = .ok ⟨contents.catalog.users, contents.catalog.vehicles, [], [], []⟩ :=
      admission_vehicles.insertAll_unique.mpr ⟨h.vehicles, rfl⟩
    have hlistings : insertAll insertListing
        ⟨contents.catalog.users, contents.catalog.vehicles, [], [], []⟩ contents.listings =
          .ok { contents.catalog with messages := [], histories := [] } :=
      (insertAll_listings h.vehicles).mpr ⟨⟨h.listings, h.owned_once, h.owned_apart⟩, rfl⟩
    have hmessages : insertAll insertMessage
        { contents.catalog with messages := [], histories := [] } contents.messages =
          .ok { contents.catalog with histories := [] } :=
      admission_messages.insertAll_unique.mpr ⟨h.messages, rfl⟩
    have hhistories : insertAll insertHistory { contents.catalog with histories := [] }
        contents.histories = .ok contents.catalog :=
      admission_histories.insertAll_unique.mpr ⟨h.histories, rfl⟩
    exact ⟨_, _, ⟨_, _, ⟨_, _, ⟨_, _, ⟨_, _, rfl, hread.users, husers⟩, hread.vehicles, hvehicles⟩,
      hread.listings, hlistings⟩, hread.messages, hmessages⟩, hread.histories, hhistories⟩

/-! ## Documents -/

def sectionLength (sections : Members) (name : String) : Nat :=
  match Table.find? sections name with
  | some (.array items) => items.length
  | _ => 0

def sectionLengths (sections : Members) : Summary where
  users := sectionLength sections "users"
  vehicles := sectionLength sections "vehicles"
  listings := sectionLength sections "listings"
  messages := sectionLength sections "messages"
  histories := sectionLength sections "histories"

theorem SectionReads.length_eq {α : Type} [Record α] {now : Moment} {sections : Members}
    {name : String} {records : List α}
    (h : SectionReads now (Table.find? sections name) records) :
    records.length = sectionLength sections name := by
  unfold SectionReads at h
  unfold sectionLength
  split at h
  · rename_i hfind
    rw [h, hfind]
    rfl
  · rename_i hfind
    rw [h, hfind]
    rfl
  · rename_i items hfind
    rw [hfind]
    exact h.length_eq.symm
  · exact h.elim

theorem Holds.length_eq {kind : RecordKind} {α : Type} {id : α → Identifier kind}
    {table : Table (Identifier kind) α} {records : List α} (h : Holds id table records) :
    table.length = records.length := by
  rw [← h.perm.length_eq, Table.values, List.length_map]

theorem Contents.summary_catalog {contents : Contents} {now : Moment} {sections : Members}
    (hread : contents.ReadFrom now sections) (h : contents.Compatible) :
    contents.catalog.summary = sectionLengths sections := by
  have hheld := h.heldBy
  rw [summary, sectionLengths, hheld.users.length_eq, hheld.vehicles.length_eq,
    hheld.listings.length_eq, hheld.messages.length_eq, hheld.histories.length_eq,
    hread.users.length_eq, hread.vehicles.length_eq, hread.listings.length_eq,
    hread.messages.length_eq, hread.histories.length_eq]

/-- A document that is an object is accepted under a fixed clock exactly when its sections can be
read and their records are compatible; then each table holds just what was read for it, one record
for each item. -/
theorem document_accepted_iff {text : String} {sections : Members}
    (hread : Json.read text = .ok (.object sections)) (now : Moment) :
    ((∃ catalog, (ofDocument text (.fixed now)).1 = .ok catalog) ↔
      ∃ contents : Contents, contents.ReadFrom now sections ∧ contents.Compatible) ∧
    ∀ catalog, (ofDocument text (.fixed now)).1 = .ok catalog →
      catalog.summary = sectionLengths sections ∧
        ∃ contents : Contents, contents.ReadFrom now sections ∧ contents.HeldBy catalog := by
  have hdocument : ofDocument text (.fixed now) = ofSections sections (.fixed now) := by
    rw [ofDocument, hread]
  rw [hdocument]
  refine ⟨⟨?_, ?_⟩, ?_⟩
  · rintro ⟨catalog, hcatalog⟩
    obtain ⟨contents, hcontents, h, _⟩ := ofSections_fixed.mp hcatalog
    exact ⟨contents, hcontents, h⟩
  · rintro ⟨contents, hcontents, h⟩
    exact ⟨contents.catalog, ofSections_fixed.mpr ⟨contents, hcontents, h, rfl⟩⟩
  · intro catalog hcatalog
    obtain ⟨contents, hcontents, h, rfl⟩ := ofSections_fixed.mp hcatalog
    exact ⟨Contents.summary_catalog hcontents h, contents, hcontents, h.heldBy⟩

/-- Two listings whose vehicles have no identifier, and a section that is null. -/
def sampleSections : Members :=
  [("listings", .array [.object [("id", .string "l2"), ("vehicule", .object [])],
      .object [("id", .string "l1"), ("statut", .string "vendue"), ("vehicule", .object [])]]),
    ("users", .null)]

theorem readable_sampleSections : Json.Readable Json.deepest (.object sampleSections) := by
  refine .object ?_
  simp only [sampleSections, List.forall_mem_cons]
  refine ⟨.array ?_, .null _, fun _ hmem => absurd hmem List.not_mem_nil⟩
  simp only [List.forall_mem_cons]
  refine ⟨.object ?_, .object ?_, fun _ hmem => absurd hmem List.not_mem_nil⟩
  · simp only [List.forall_mem_cons]
    exact ⟨.string _ _, .object fun _ hmem => absurd hmem List.not_mem_nil,
      fun _ hmem => absurd hmem List.not_mem_nil⟩
  · simp only [List.forall_mem_cons]
    exact ⟨.string _ _, .string _ _, .object fun _ hmem => absurd hmem List.not_mem_nil,
      fun _ hmem => absurd hmem List.not_mem_nil⟩

def sampleCatalog : Catalog :=
  let vehicle := Vehicle.blank .epoch
  { empty with listings :=
      [(⟨"l1"⟩, { Listing.create ⟨"l1"⟩ vehicle .empty with status := .sold }),
        (⟨"l2"⟩, Listing.create ⟨"l2"⟩ vehicle .empty)] }

theorem sample_document_accepted :
    (ofDocument (Json.compact (.object sampleSections)) (.fixed .epoch)).1 = .ok sampleCatalog ∧
      sampleCatalog.summary = sectionLengths sampleSections ∧
      ∃ contents : Contents,
        contents.ReadFrom .epoch sampleSections ∧ contents.HeldBy sampleCatalog := by
  have hread : Json.read (Json.compact (.object sampleSections)) = .ok (.object sampleSections) :=
    Json.read_compact readable_sampleSections
  have hload : (ofDocument (Json.compact (.object sampleSections)) (.fixed .epoch)).1 =
      .ok sampleCatalog := by decide +kernel
  exact ⟨hload, (document_accepted_iff hread .epoch).2 sampleCatalog hload⟩

end Catalog

end VehicleMarket
