import VehicleMarket.Proofs.Catalog.Invariant
import VehicleMarket.Proofs.Record.RoundTrip

/-!
A catalog is read back from its own document. The records of a section are read in key order and
inserted one behind the other, so that what is in a table at any time is the front of the table that
was written; the invariant of the catalog is what lets every insertion through.
-/
namespace VehicleMarket

open Json

namespace Catalog

def amounts (catalog : Catalog) : List Binary64 :=
  catalog.allVehicles.map Vehicle.price ++
    (Table.values catalog.histories).flatMap VehicleHistory.costs

def size (catalog : Catalog) : Nat :=
  catalog.users.length +
    (catalog.vehicles.length +
      (catalog.listings.length + (catalog.messages.length + catalog.histories.length)))

/-! ## Reading the sections -/

section Sections

variable {α : Type} [Record α]

theorem addSection_written {insert : Catalog → α → Except Problem Unit × Catalog} {sections : Members}
    {name : String} {records : List α} {catalog filled : Catalog} {clock later : Clock}
    (hsection : decodeSection sections name clock = (.ok records, later))
    (hfill : insertAll insert catalog records = .ok filled) :
    addSection insert sections name (.ok catalog, clock) = (.ok filled, later) := by
  simp only [addSection, hsection, hfill]

variable [LawfulRecord α]

theorem decodeItems_written (records : List α) {clock later : Clock}
    (hclock : Clock.after? records.length clock = some later) :
    decodeItems ((records.map Record.toJson).map sorted) clock = (.ok records, later) := by
  induction records generalizing clock with
  | nil =>
    rw [List.length_nil, Clock.after?] at hclock
    rw [← Option.some.inj hclock]
    rfl
  | cons record rest ih =>
    obtain ⟨now, next, hread, hnext⟩ := Clock.after?_succ hclock
    have hrest := ih hnext
    have hfirst := Record.decodeValue_sorted record none hread
    simp only [List.map_cons, decodeItems, hfirst, hrest]

theorem decodeSection_written {sections : Members} {name : String} (records : List α)
    (hsection : Table.find? sections name =
      some (sorted (.array (records.map Record.toJson))))
    {clock later : Clock} (hclock : Clock.after? records.length clock = some later) :
    decodeSection sections name clock = (.ok records, later) := by
  rw [sorted, sortedItems_eq_map] at hsection
  rw [decodeSection, hsection]
  exact decodeItems_written records hclock

end Sections

/-! ## Filling the tables -/

/-- The induction is on what is left of the table: what was inserted so far is its front. -/
theorem insertAll_values {kind : RecordKind} {α : Type} {id : α → Identifier kind}
    {table : Table (Identifier kind) α} (hkeyed : Keyed id table)
    {insert : Catalog → α → Except Problem Unit × Catalog}
    (put : Table (Identifier kind) α → Catalog)
    (hinsert : ∀ front record rest, front ++ (id record, record) :: rest = table →
      (id record).isBlank = false → Table.find? front (id record) = none →
      insert (put front) record = (.ok (), put (Table.insert front (id record) record))) :
    insertAll insert (put []) (Table.values table) = .ok (put table) := by
  have hfront (rest front : Table (Identifier kind) α) (hparts : front ++ rest = table) :
      insertAll insert (put front) (Table.values rest) = .ok (put table) := by
    induction rest generalizing front with
    | nil =>
      rw [List.append_nil] at hparts
      rw [hparts]
      rfl
    | cons entry rest ih =>
      have hmem : entry ∈ table := by
        rw [← hparts]
        exact List.mem_append_right _ List.mem_cons_self
      obtain ⟨hkey, hnamed⟩ := hkeyed.own entry hmem
      have hentry : entry = (id entry.2, entry.2) := Prod.ext hkey rfl
      have hless : ∀ other ∈ front, other.1 < id entry.2 := by
        have hsorted := hkeyed.sorted
        rw [← hparts, Table.Sorted, List.pairwise_append] at hsorted
        intro other hother
        rw [← hkey]
        exact hsorted.2.2 other hother entry List.mem_cons_self
      have hone : insert (put front) entry.2 = (.ok (), put (front ++ [entry])) := by
        rw [hinsert front entry.2 rest (by rw [← hentry]; exact hparts) (hkey ▸ hnamed)
          (Table.find?_of_greatest hless), Table.insert_of_greatest entry.2 hless, ← hentry]
      have hall : insertAll insert (put (front ++ [entry])) (Table.values rest) =
          .ok (put table) := by
        refine ih (front ++ [entry]) ?_
        rw [List.append_assoc]
        exact hparts
      have hvalues : Table.values (entry :: rest) = entry.2 :: Table.values rest := rfl
      rw [hvalues, insertAll, hone]
      exact hall
  exact hfront table [] (List.nil_append table)

variable {catalog : Catalog}

theorem Invariant.owned_apart (h : Invariant catalog) {listing : Listing}
    (hmem : listing ∈ Table.values catalog.listings)
    (hnamed : listing.vehicle.id.isBlank = false) :
    Table.find? catalog.vehicles listing.vehicle.id = none := by
  have hdistinct := h.distinct
  rw [vehicleIds_eq, Distinct, List.pairwise_append] at hdistinct
  obtain ⟨_, _, hcross⟩ := hdistinct
  cases hfind : Table.find? catalog.vehicles listing.vehicle.id with
  | none => rfl
  | some vehicle =>
    have hentry := Table.mem_of_find? hfind
    obtain ⟨hkey, _⟩ := h.vehicles.own _ hentry
    have hvehicle : vehicle.id ∈ (Table.values catalog.vehicles).map Vehicle.id :=
      List.mem_map_of_mem (List.mem_map.mpr ⟨_, hentry, rfl⟩)
    have howned : listing.vehicle.id ∈
        (Table.values catalog.listings).map fun other => other.vehicle.id :=
      List.mem_map.mpr ⟨listing, hmem, rfl⟩
    exact absurd hkey.symm (hcross _ hvehicle _ howned (hkey ▸ hnamed))

theorem Invariant.owned_once (h : Invariant catalog) {front rest : Table ListingId Listing}
    {listing : Listing} (hparts : front ++ (listing.id, listing) :: rest = catalog.listings)
    (hnamed : listing.vehicle.id.isBlank = false) :
    ∀ other ∈ Table.values front, other.vehicle.id ≠ listing.vehicle.id := by
  have hdistinct := h.distinct
  rw [vehicleIds_eq, Distinct, List.pairwise_append] at hdistinct
  obtain ⟨_, hlistings, _⟩ := hdistinct
  rw [← hparts, Table.values, List.map_append, List.map_append, List.pairwise_append] at hlistings
  obtain ⟨_, _, hfront⟩ := hlistings
  intro other hother heq
  have hmem : other.vehicle.id ∈ (front.map Prod.snd).map fun other => other.vehicle.id :=
    List.mem_map.mpr ⟨other, hother, rfl⟩
  exact hfront _ hmem listing.vehicle.id List.mem_cons_self (heq ▸ hnamed) heq

theorem fill_users (h : Invariant catalog) :
    insertAll insertUser empty (Table.values catalog.users) =
      .ok { empty with users := catalog.users } := by
  refine insertAll_values h.users (fun users => { empty with users := users }) ?_
  intro front user rest _ hnamed hnone
  rw [insertUser_eq_ok]
  exact ⟨hnamed, hnone, rfl⟩

/-- The vehicles come before the listings, so that none is taken yet. -/
theorem fill_vehicles (h : Invariant catalog) :
    insertAll insertVehicle { empty with users := catalog.users } (Table.values catalog.vehicles) =
      .ok { empty with users := catalog.users, vehicles := catalog.vehicles } := by
  refine insertAll_values h.vehicles
    (fun vehicles => { empty with users := catalog.users, vehicles := vehicles }) ?_
  intro front vehicle rest _ hnamed hnone
  rw [insertVehicle_eq_ok]
  exact ⟨fun _ hmem => absurd hmem List.not_mem_nil, hnamed, hnone, rfl⟩

theorem fill_listings (h : Invariant catalog) :
    insertAll insertListing { empty with users := catalog.users, vehicles := catalog.vehicles }
      (Table.values catalog.listings) = .ok { catalog with messages := [], histories := [] } := by
  refine insertAll_values h.listings
    (fun listings => { catalog with listings := listings, messages := [], histories := [] }) ?_
  intro front listing rest hparts hnamed hnone
  have hmem : listing ∈ Table.values catalog.listings := by
    rw [← hparts]
    exact List.mem_map.mpr ⟨_, List.mem_append_right _ List.mem_cons_self, rfl⟩
  rw [insertListing_eq_ok]
  refine ⟨?_, hnamed, hnone, rfl⟩
  intro hvehicle
  refine ⟨?_, h.owned_apart hmem hvehicle⟩
  intro other hother heq
  exact absurd heq (h.owned_once hparts hvehicle other hother)

theorem fill_messages (h : Invariant catalog) :
    insertAll insertMessage { catalog with messages := [], histories := [] }
      (Table.values catalog.messages) = .ok { catalog with histories := [] } := by
  refine insertAll_values h.messages
    (fun messages => { catalog with messages := messages, histories := [] }) ?_
  intro front message rest _ hnamed hnone
  rw [insertMessage_eq_ok]
  exact ⟨hnamed, hnone, rfl⟩

theorem fill_histories (h : Invariant catalog) :
    insertAll insertHistory { catalog with histories := [] } (Table.values catalog.histories) =
      .ok catalog := by
  refine insertAll_values h.histories (fun histories => { catalog with histories := histories }) ?_
  intro front history rest _ hnamed hnone
  rw [insertHistory_eq_ok]
  exact ⟨hnamed, hnone, rfl⟩

/-! ## The document -/

theorem isRecord (catalog : Catalog) : IsRecord catalog.toJson where
  object := rfl
  keys := by simp [Table.keys, toJson, members]

variable {admits : Binary64 → Prop}

theorem fits_section {α : Type} [Record α] [LawfulRecord α] {records : List α}
    (h : ∀ record ∈ records, ∀ x ∈ LawfulRecord.amounts record, admits x) (depth : Nat) :
    Fits admits (depth + 4) (.array (records.map Record.toJson)) :=
  fits_list fun record hmem => LawfulRecord.fits record (h record hmem) depth

theorem price_mem_amounts {vehicle : Vehicle} (hmem : vehicle ∈ catalog.allVehicles) :
    vehicle.price ∈ catalog.amounts :=
  List.mem_append_left _ (List.mem_map_of_mem hmem)

theorem cost_mem_amounts {history : VehicleHistory} {cost : Binary64}
    (hmem : history ∈ Table.values catalog.histories) (hcost : cost ∈ history.costs) :
    cost ∈ catalog.amounts :=
  List.mem_append_right _ (List.mem_flatMap.mpr ⟨history, hmem, hcost⟩)

theorem fits (hamounts : ∀ x ∈ catalog.amounts, admits x) (depth : Nat) :
    Fits admits (depth + 5) catalog.toJson := by
  have husers : Fits admits (depth + 4) (.array ((Table.values catalog.users).map User.toJson)) :=
    fits_section (fun _ _ _ hx => absurd hx List.not_mem_nil) depth
  have hvehicles : Fits admits (depth + 4)
      (.array ((Table.values catalog.vehicles).map Vehicle.toJson)) := by
    refine fits_section ?_ depth
    intro vehicle hmem x hx
    rw [List.mem_singleton.mp hx]
    exact hamounts _ (price_mem_amounts (List.mem_append_left _ hmem))
  have hlistings : Fits admits (depth + 4)
      (.array ((Table.values catalog.listings).map Listing.toJson)) := by
    refine fits_section ?_ depth
    intro listing hmem x hx
    rw [List.mem_singleton.mp hx]
    exact hamounts _ (price_mem_amounts (List.mem_append_right _ (List.mem_map_of_mem hmem)))
  have hmessages : Fits admits (depth + 4)
      (.array ((Table.values catalog.messages).map Message.toJson)) :=
    fits_section (fun _ _ _ hx => absurd hx List.not_mem_nil) depth
  have hhistories : Fits admits (depth + 4)
      (.array ((Table.values catalog.histories).map VehicleHistory.toJson)) :=
    fits_section (fun _ hmem x hx => hamounts x (cost_mem_amounts hmem hx)) depth
  refine .object ?_
  simp only [List.forall_mem_cons, husers, hvehicles, hlistings, hmessages, hhistories, true_and]
  exact fun _ hmem => absurd hmem List.not_mem_nil

theorem find?_section {name : String} {value : Json}
    (hwritten : Table.find? catalog.toJson.members name = some value) :
    Table.find? catalog.toJson.readBack name = some value.sorted := by
  rw [catalog.isRecord.find?_readBack, hwritten, Option.map_some]

theorem length_values {κ α : Type} (table : Table κ α) :
    (Table.values table).length = table.length := by
  rw [Table.values, List.length_map]

theorem ofSections_written (h : Invariant catalog) {clock later : Clock}
    (hclock : Clock.after? catalog.size clock = some later) :
    ofSections catalog.toJson.readBack clock = (.ok catalog, later) := by
  simp only [size, ← length_values] at hclock
  obtain ⟨clock₁, husers, hclock⟩ := Clock.after?_add hclock
  obtain ⟨clock₂, hvehicles, hclock⟩ := Clock.after?_add hclock
  obtain ⟨clock₃, hlistings, hclock⟩ := Clock.after?_add hclock
  obtain ⟨clock₄, hmessages, hhistories⟩ := Clock.after?_add hclock
  rw [ofSections,
    addSection_written (decodeSection_written _ (find?_section rfl) husers) (fill_users h),
    addSection_written (decodeSection_written _ (find?_section rfl) hvehicles) (fill_vehicles h),
    addSection_written (decodeSection_written _ (find?_section rfl) hlistings) (fill_listings h),
    addSection_written (decodeSection_written _ (find?_section rfl) hmessages) (fill_messages h),
    addSection_written (decodeSection_written _ (find?_section rfl) hhistories) (fill_histories h)]

/-- A catalog that keeps the invariant comes back from its document, with one reading of the clock
for each of its records. -/
theorem ofDocument_written (h : Invariant catalog) (hamounts : ∀ x ∈ catalog.amounts, ReadsBack x)
    {clock later : Clock} (hclock : Clock.after? catalog.size clock = some later) :
    ofDocument catalog.toDocument clock = (.ok catalog, later) := by
  have hreadable : Readable deepest catalog.toJson := fits hamounts 122
  have hread : Json.read catalog.toDocument = .ok (.object catalog.toJson.readBack) := by
    rw [toDocument, read_pretty hreadable, catalog.isRecord.sorted]
  rw [ofDocument, hread]
  exact ofSections_written h hclock

theorem reachable_reloads (h : Reachable catalog) (hamounts : ∀ x ∈ catalog.amounts, ReadsBack x)
    {clock later : Clock} (hclock : Clock.after? catalog.size clock = some later) :
    ofDocument catalog.toDocument clock = (.ok catalog, later) :=
  ofDocument_written h.invariant hamounts hclock

def pricedOperations : List Operation :=
  sampleOperations ++
    [.insertListing (.create ⟨"l4"⟩ { Record.sampleVehicle with id := ⟨"v2"⟩ } ⟨"u1"⟩),
      .insertHistory (.create ⟨"v1"⟩),
      .editHistory ⟨"v1"⟩ (.recordRepair ⟨.epoch, 90000, "brakes", Record.sampleAmount, "Béziers"⟩)]

theorem priced_market_reloads :
    (empty.run pricedOperations).amounts =
      [.zero false, .zero false, .zero false, Record.sampleAmount, Record.sampleAmount] ∧
    ofDocument (empty.run pricedOperations).toDocument (.system unevenTime) =
      (.ok (empty.run pricedOperations), .system fun n => unevenTime (n + 5)) :=
  ⟨by decide +kernel, reachable_reloads (Reachable.empty.run pricedOperations) (by decide +kernel)
    (Clock.after?_system 5 unevenTime)⟩

end Catalog

end VehicleMarket
