import VehicleMarket.Proofs.Catalog.InsertionOrder
import VehicleMarket.Proofs.Catalog.Readings
import VehicleMarket.Proofs.Catalog.Reread

/-!
Vehicles by identifier. The look-up tries the vehicles on their own, then those in listings, and
takes the first that fits. No two vehicles share an identifier, so the order of trying does not
matter: where a vehicle is found is told by which vehicles there are, not by how they came there,
and a document tells it again. Vehicles without an identifier are the exception, as there may be
several of them.
-/
namespace VehicleMarket

theorem InTurn.after? {ι ρ : Type} {Reads : Instant → ι → ρ → Prop} {clock later : Clock}
    {items : List ι} {records : List ρ} (h : InTurn Reads clock items records later) :
    Clock.after? items.length clock = some later := by
  induction h with
  | nil => rfl
  | cons hread _ _ ih =>
    rw [List.length_cons, Clock.after?, hread]
    exact ih

namespace Catalog

inductive Spot where
  | alone
  | listed (listing : ListingId)
  deriving DecidableEq, Repr

def placedVehicles (catalog : Catalog) : List (Spot × Vehicle) :=
  (Table.values catalog.vehicles).map (fun vehicle => (.alone, vehicle)) ++
    (Table.values catalog.listings).map fun listing => (.listed listing.id, listing.vehicle)

/-- The vehicle that is found under an identifier, with the spot where it is found. -/
def locate? (catalog : Catalog) (id : VehicleId) : Option (Spot × Vehicle) :=
  match Table.find? catalog.vehicles id with
  | some vehicle => some (.alone, vehicle)
  | none =>
    ((Table.values catalog.listings).find? fun listing => listing.vehicle.id == id).map
      fun listing => (.listed listing.id, listing.vehicle)

/-- A vehicle under this identifier is found at one spot, however it is looked for. -/
structure FoundAlike (catalog : Catalog) (id : VehicleId) : Prop where
  only : (catalog.allVehicles.filter fun vehicle => vehicle.id == id) =
    (catalog.findVehicle? id).toList
  search_order : ∀ entries : List (Spot × Vehicle), entries.Perm catalog.placedVehicles →
    (entries.find? fun entry => entry.2.id == id) = catalog.locate? id
  insertion_order : ∀ start records others, Reachable start →
    insertAll insertAny start records = .ok catalog → records.Perm others →
      ∃ other, insertAll insertAny start others = .ok other ∧
        other.locate? id = catalog.locate? id
  same_vehicles : ∀ other, Reachable other →
    (∀ entry : Spot × Vehicle, entry.2.id = id →
      (entry ∈ other.placedVehicles ↔ entry ∈ catalog.placedVehicles)) →
    other.locate? id = catalog.locate? id
  reload : ∀ clock reloaded later,
    ofDocument catalog.toDocument clock = (.ok reloaded, later) →
      reloaded.locate? id = (catalog.locate? id).map fun entry => (entry.1, entry.2.reread)

/-! ## Searching where no identifier is there twice -/

section Search

variable {α : Type} {idOf : α → VehicleId} {records others : List α} {id : VehicleId}

theorem distinct_cons {record : α} {rest : List α} :
    Distinct ((record :: rest).map idOf) ↔
      (∀ other ∈ rest, (idOf record).isBlank = false → idOf record ≠ idOf other) ∧
        Distinct (rest.map idOf) := by
  rw [Distinct, List.map_cons, List.pairwise_cons, List.forall_mem_map]
  rfl

theorem find?_id_eq_some (h : Distinct (records.map idOf)) (hnamed : id.isBlank = false)
    {record : α} :
    (records.find? fun other => idOf other == id) = some record ↔
      record ∈ records ∧ idOf record = id := by
  constructor
  · intro hfind
    have hfits := List.find?_some hfind
    exact ⟨List.mem_of_find?_eq_some hfind, beq_iff_eq.mp hfits⟩
  · rintro ⟨hmem, rfl⟩
    induction records with
    | nil => exact absurd hmem List.not_mem_nil
    | cons first rest ih =>
      obtain ⟨hfirst, hrest⟩ := distinct_cons.mp h
      rw [List.find?_cons]
      by_cases hsame : idOf first = idOf record
      · rw [beq_iff_eq.mpr hsame]
        rcases List.mem_cons.mp hmem with heq | hlater
        · rw [heq]
        · exact absurd hsame (hfirst record hlater (hsame ▸ hnamed))
      · rw [beq_eq_false_iff_ne.mpr hsame]
        apply ih hrest
        rcases List.mem_cons.mp hmem with heq | hlater
        · exact absurd (congrArg idOf heq.symm) hsame
        · exact hlater

theorem find?_id_congr (h : Distinct (records.map idOf)) (hothers : Distinct (others.map idOf))
    (hnamed : id.isBlank = false)
    (hsame : ∀ record, idOf record = id → (record ∈ others ↔ record ∈ records)) :
    (others.find? fun record => idOf record == id) =
      records.find? fun record => idOf record == id := by
  apply Option.ext
  intro record
  rw [find?_id_eq_some hothers hnamed, find?_id_eq_some h hnamed]
  exact and_congr_left (hsame record)

theorem filter_id_eq (h : Distinct (records.map idOf)) (hnamed : id.isBlank = false) :
    (records.filter fun record => idOf record == id) =
      (records.find? fun record => idOf record == id).toList := by
  induction records with
  | nil => rfl
  | cons first rest ih =>
    obtain ⟨hfirst, hrest⟩ := distinct_cons.mp h
    rw [List.filter_cons, List.find?_cons]
    by_cases hsame : idOf first = id
    · have hnone : (rest.filter fun record => idOf record == id) = [] := by
        rw [List.filter_eq_nil_iff]
        intro other hmem heq
        apply hfirst other hmem (hsame ▸ hnamed)
        exact hsame.trans (beq_iff_eq.mp heq).symm
      rw [beq_iff_eq.mpr hsame, hnone]
      rfl
    · rw [beq_eq_false_iff_ne.mpr hsame]
      exact ih hrest

end Search

/-! ## The look-up as a search -/

variable {catalog : Catalog} {id : VehicleId}

theorem placedVehicles_vehicles (catalog : Catalog) :
    catalog.placedVehicles.map Prod.snd = catalog.allVehicles := by
  simp [placedVehicles, allVehicles, ownedVehicles, Function.comp_def]

theorem locate?_vehicle (catalog : Catalog) (id : VehicleId) :
    (catalog.locate? id).map Prod.snd = catalog.findVehicle? id := by
  unfold locate? findVehicle?
  cases Table.find? catalog.vehicles id with
  | some vehicle => rfl
  | none =>
    rw [ownedVehicles, List.find?_map, Option.map_map]
    rfl

theorem find?_eq_find?_values {kind : RecordKind} {α : Type} {idOf : α → Identifier kind}
    {table : Table (Identifier kind) α} (h : ∀ entry ∈ table, entry.1 = idOf entry.2)
    (key : Identifier kind) :
    Table.find? table key = (Table.values table).find? fun record => idOf record == key := by
  induction table with
  | nil => rfl
  | cons entry rest ih =>
    obtain ⟨hentry, hrest⟩ := List.forall_mem_cons.mp h
    have hvalues : Table.values (entry :: rest) = entry.2 :: Table.values rest := rfl
    rw [Table.find?_cons, hvalues, List.find?_cons]
    by_cases hsame : key = entry.1
    · have hfits : (idOf entry.2 == key) = true := by rw [hsame, hentry, beq_self_eq_true]
      rw [if_pos hsame, hfits]
    · have hmisses : (idOf entry.2 == key) = false := by
        rw [beq_eq_false_iff_ne, ← hentry]
        exact Ne.symm hsame
      rw [if_neg hsame, hmisses]
      exact ih hrest

theorem locate?_eq_find? (h : Invariant catalog) (id : VehicleId) :
    catalog.locate? id = catalog.placedVehicles.find? fun entry => entry.2.id == id := by
  have halone := find?_eq_find?_values (fun entry hmem => (h.vehicles.own entry hmem).1) id
  have hspot : ((fun entry : Spot × Vehicle => entry.2.id == id) ∘ fun vehicle =>
      (Spot.alone, vehicle)) = fun vehicle => vehicle.id == id := rfl
  rw [locate?, placedVehicles, List.find?_append, List.find?_map, List.find?_map, halone, hspot]
  cases (Table.values catalog.vehicles).find? fun vehicle => vehicle.id == id with
  | some vehicle => rfl
  | none => rfl

theorem Invariant.distinct_placed (h : Invariant catalog) :
    Distinct (catalog.placedVehicles.map fun entry => entry.2.id) := by
  have hids : (catalog.placedVehicles.map fun entry => entry.2.id) = catalog.vehicleIds := by
    rw [vehicleIds, ← placedVehicles_vehicles, List.map_map]
    rfl
  rw [hids]
  exact h.distinct

theorem findVehicle?_of_search (h : Invariant catalog) (id : VehicleId) :
    catalog.findVehicle? id = catalog.allVehicles.find? fun vehicle => vehicle.id == id := by
  rw [← locate?_vehicle, locate?_eq_find? h, ← placedVehicles_vehicles, List.find?_map]
  rfl

/-! ## Saving and loading -/

theorem length_sectionItems (catalog : Catalog) (name : String) {items : List Json}
    (hwritten : Table.find? catalog.toJson.members name = some (.array items)) :
    (sectionItems catalog.toJson.readBack name).length = items.length := by
  have hfind := find?_section hwritten
  rw [Json.sorted, Json.sortedItems_eq_map] at hfind
  rw [sectionItems, hfind, List.length_map]

theorem length_documentItems (catalog : Catalog) :
    (documentItems catalog.toJson.readBack).length = catalog.size := by
  have husers := length_sectionItems catalog "users" rfl
  have hvehicles := length_sectionItems catalog "vehicles" rfl
  have hlistings := length_sectionItems catalog "listings" rfl
  have hmessages := length_sectionItems catalog "messages" rfl
  have hhistories := length_sectionItems catalog "histories" rfl
  simp only [documentItems, itemsOf, List.length_append, List.length_map, husers, hvehicles,
    hlistings, hmessages, hhistories, length_values, size, Nat.add_assoc]

theorem eq_reread_of_ofDocument (h : Invariant catalog) {clock later : Clock} {reloaded : Catalog}
    (hload : ofDocument catalog.toDocument clock = (.ok reloaded, later)) :
    reloaded = catalog.reread := by
  have hfinite := finite_of_ofDocument_own (congrArg Prod.fst hload)
  obtain ⟨sections, loaded, hread, hturn, _⟩ := ofDocument_inTurn hload
  rw [read_toDocument hfinite] at hread
  obtain rfl : catalog.reread.toJson.readBack = sections := Json.object.inj (Except.ok.inj hread)
  have hclock := hturn.after?
  rw [length_documentItems, size_reread] at hclock
  rw [ofDocument_reread h hfinite hclock] at hload
  exact (Except.ok.inj (congrArg Prod.fst hload)).symm

theorem locate?_reread (catalog : Catalog) (id : VehicleId) :
    catalog.reread.locate? id =
      (catalog.locate? id).map fun entry => (entry.1, entry.2.reread) := by
  have hvehicles : Table.find? catalog.reread.vehicles id =
      (Table.find? catalog.vehicles id).map Vehicle.reread := Table.find?_mapValues _ _ _
  have hlistings : Table.values catalog.reread.listings =
      (Table.values catalog.listings).map Listing.reread := Table.values_mapValues _ _
  rw [locate?, locate?, hvehicles, hlistings]
  cases Table.find? catalog.vehicles id with
  | some vehicle => rfl
  | none =>
    rw [Option.map_none, List.find?_map, Option.map_map, Option.map_map]
    rfl

/-! ## Found alike -/

theorem foundAlike (h : Reachable catalog) (hnamed : id.isBlank = false) :
    FoundAlike catalog id where
  only := by
    rw [findVehicle?_of_search h.invariant]
    exact filter_id_eq h.invariant.distinct hnamed
  search_order := by
    intro entries hperm
    have hentries : Distinct (entries.map fun entry => entry.2.id) :=
      h.invariant.distinct_placed.of_perm (hperm.symm.map _)
    rw [locate?_eq_find? h.invariant]
    apply find?_id_congr h.invariant.distinct_placed hentries hnamed
    intro entry _
    exact hperm.mem_iff
  insertion_order := by
    intro start records others hstart hinsert hperm
    exact ⟨catalog, insertRecords_perm hstart.invariant hperm hinsert, rfl⟩
  same_vehicles := by
    intro other hother hsame
    rw [locate?_eq_find? h.invariant, locate?_eq_find? hother.invariant]
    exact find?_id_congr h.invariant.distinct_placed hother.invariant.distinct_placed hnamed hsame
  reload := by
    intro clock reloaded later hload
    rw [eq_reread_of_ofDocument h.invariant hload]
    exact locate?_reread catalog id

/-- In a reachable catalog a vehicle is found under an identifier just when there is one, and it has
that identifier. If the identifier is not blank, the vehicle is the only one, and where it is found
does not hang on the order of the search or of the insertions, or on a document in between. -/
theorem vehicle_found_alike (h : Reachable catalog) (id : VehicleId) :
    ((catalog.findVehicle? id).isSome = true ↔
        ∃ vehicle ∈ catalog.allVehicles, vehicle.id = id) ∧
      (∀ vehicle, catalog.findVehicle? id = some vehicle →
        vehicle ∈ catalog.allVehicles ∧ vehicle.id = id) ∧
      (catalog.locate? id).map Prod.snd = catalog.findVehicle? id ∧
      (Text.trim id.text ≠ "" → FoundAlike catalog id) := by
  refine ⟨?_, ?_, locate?_vehicle catalog id, ?_⟩
  · rw [findVehicle?_of_search h.invariant, List.find?_isSome]
    simp only [beq_iff_eq]
  · intro vehicle hfind
    rw [findVehicle?_of_search h.invariant] at hfind
    have hfits := List.find?_some hfind
    exact ⟨List.mem_of_find?_eq_some hfind, beq_iff_eq.mp hfits⟩
  · intro hnamed
    exact foundAlike h ((trim_ne_empty_iff id).mp hnamed)

/-- Of the vehicles of the priced market, one is in a listing under an identifier of its own, and
two have none. -/
theorem priced_vehicle_found_alike :
    (empty.run pricedOperations).locate? ⟨"v2"⟩ =
        some (.listed ⟨"l4"⟩, { Record.sampleVehicle with id := ⟨"v2"⟩ }) ∧
      Text.trim "v2" ≠ "" ∧ FoundAlike (empty.run pricedOperations) ⟨"v2"⟩ ∧
      ((empty.run pricedOperations).allVehicles.filter
        fun vehicle => vehicle.id == ⟨" "⟩).length = 2 := by
  have hnamed : Text.trim "v2" ≠ "" := by decide +kernel
  have hreachable := Reachable.empty.run pricedOperations
  exact ⟨by decide +kernel, hnamed, (vehicle_found_alike hreachable ⟨"v2"⟩).2.2.2 hnamed,
    by decide +kernel⟩

end Catalog

end VehicleMarket
