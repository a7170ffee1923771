import VehicleMarket.Proofs.Catalog.Reload
import VehicleMarket.Proofs.Record.NotFinite
import VehicleMarket.Proofs.Record.Reread

/-!
What is read from the document of a catalog, whatever its numbers are. A number that is not finite
makes the document unreadable; any other one comes back as what the reader takes it for, and nothing
else in the catalog changes.
-/
namespace VehicleMarket.Catalog

open Json

variable {catalog : Catalog}

/-! ## Numbers that come back as others -/

def reread (catalog : Catalog) : Catalog :=
  { catalog with
    vehicles := Table.mapValues catalog.vehicles Vehicle.reread
    listings := Table.mapValues catalog.listings Listing.reread
    histories := Table.mapValues catalog.histories VehicleHistory.reread }

theorem sameIds_reread (catalog : Catalog) : SameIds catalog catalog.reread where
  users := rfl
  vehicles := Table.mapValues_mapValues _ _ _
  listings := Table.mapValues_mapValues _ _ _
  owned := Table.mapValues_mapValues _ _ _
  messages := rfl
  histories := Table.mapValues_mapValues _ _ _

theorem size_reread (catalog : Catalog) : catalog.reread.size = catalog.size := by
  simp [size, reread, Table.mapValues]

theorem amounts_reread (catalog : Catalog) :
    catalog.reread.amounts = catalog.amounts.map Json.reread := by
  have hcosts : (Table.values catalog.reread.histories).flatMap VehicleHistory.costs =
      ((Table.values catalog.histories).flatMap VehicleHistory.costs).map Json.reread := by
    rw [reread, Table.values_mapValues, List.flatMap_map, List.map_flatMap]
    simp only [VehicleHistory.costs_reread]
  rw [amounts, amounts, List.map_append, hcosts]
  simp [allVehicles, ownedVehicles, reread, Table.values_mapValues, Function.comp_def,
    Vehicle.reread, Listing.reread]

/-- The document stands for the catalog in which the numbers are those that the reader takes. -/
theorem asRead_toJson (h : ∀ x ∈ catalog.amounts, x.isFinite = true) :
    catalog.toJson.asRead = catalog.reread.toJson := by
  have husers : itemsAsRead ((Table.values catalog.users).map User.toJson) =
      (Table.values catalog.users).map User.toJson :=
    itemsAsRead_same fun user _ => user.asRead_toJson
  have hvehicles : itemsAsRead ((Table.values catalog.vehicles).map Vehicle.toJson) =
      (Table.values catalog.reread.vehicles).map Vehicle.toJson := by
    rw [reread, Table.values_mapValues]
    refine itemsAsRead_map fun vehicle hmem => Vehicle.asRead_toJson (h _ ?_)
    exact price_mem_amounts (List.mem_append_left _ hmem)
  have hlistings : itemsAsRead ((Table.values catalog.listings).map Listing.toJson) =
      (Table.values catalog.reread.listings).map Listing.toJson := by
    rw [reread, Table.values_mapValues]
    refine itemsAsRead_map fun listing hmem => Listing.asRead_toJson (h _ ?_)
    exact price_mem_amounts (List.mem_append_right _ (List.mem_map_of_mem hmem))
  have hmessages : itemsAsRead ((Table.values catalog.messages).map Message.toJson) =
      (Table.values catalog.messages).map Message.toJson :=
    itemsAsRead_same fun message _ => message.asRead_toJson
  have hhistories : itemsAsRead ((Table.values catalog.histories).map VehicleHistory.toJson) =
      (Table.values catalog.reread.histories).map VehicleHistory.toJson := by
    rw [reread, Table.values_mapValues]
    refine itemsAsRead_map fun history hmem => VehicleHistory.asRead_toJson fun cost hcost => ?_
    exact h _ (cost_mem_amounts hmem hcost)
  simp only [toJson, asRead, membersAsRead, husers, hvehicles, hlistings, hmessages, hhistories]
  rfl

theorem fits_text (catalog : Catalog) : Fits (fun _ => True) deepest catalog.toJson :=
  fits (fun _ _ => trivial) 122

theorem read_toDocument (hfinite : ∀ x ∈ catalog.amounts, x.isFinite = true) :
    Json.read catalog.toDocument = .ok (.object catalog.reread.toJson.readBack) := by
  rw [toDocument, read_pretty_asRead catalog.fits_text, asRead_toJson hfinite,
    catalog.reread.isRecord.sorted]

theorem ofDocument_reread (h : Invariant catalog)
    (hfinite : ∀ x ∈ catalog.amounts, x.isFinite = true) {clock later : Clock}
    (hclock : Clock.after? catalog.size clock = some later) :
    ofDocument catalog.toDocument clock = (.ok catalog.reread, later) := by
  rw [← size_reread] at hclock
  rw [ofDocument, read_toDocument hfinite]
  exact ofSections_written (h.of_sameIds catalog.sameIds_reread) hclock

/-! ## Numbers that are not finite -/

section Refused

variable {α : Type} [Record α]

theorem decodeItems_refused {items : List Json}
    (h : ∃ item ∈ items, Record.NeverDecodes α item) (clock : Clock) :
    Refuses (decodeItems (α := α) items clock).1 := by
  obtain ⟨refused, hmem, hrefused⟩ := h
  induction items generalizing clock with
  | nil => exact absurd hmem List.not_mem_nil
  | cons item rest ih =>
    cases hitem : Record.decodeValue (α := α) none item clock with
    | mk result later =>
      cases result with
      | error failure => exact ⟨failure, by simp only [decodeItems, hitem]⟩
      | ok record =>
        have hrest : refused ∈ rest := by
          rcases List.mem_cons.mp hmem with rfl | hrest
          · obtain ⟨failure, hfailure⟩ := hrefused none clock
            rw [hitem] at hfailure
            exact absurd hfailure (by simp)
          · exact hrest
        obtain ⟨failure, hothers⟩ := ih later hrest
        cases hitems : decodeItems (α := α) rest later with
        | mk results after =>
          rw [hitems] at hothers
          obtain rfl : results = .error failure := hothers
          exact ⟨failure, by simp only [decodeItems, hitem, hitems]⟩

def SectionRefused (α : Type) [Record α] (sections : Members) (name : String) : Prop :=
  ∀ clock, Refuses (decodeSection (α := α) sections name clock).1

theorem sectionRefused {sections : Members} {name : String} {items : List Json}
    (hfind : Table.find? sections name = some (.array items))
    (h : ∃ item ∈ items, Record.NeverDecodes α item) : SectionRefused α sections name := by
  intro clock
  rw [decodeSection, hfind]
  exact decodeItems_refused h clock

variable {insert : Catalog → α → Except Problem Unit × Catalog} {sections : Members} {name : String}
  {state : Except Failure Catalog × Clock}

theorem addSection_refused (h : SectionRefused α sections name) :
    Refuses (addSection insert sections name state).1 := by
  unfold addSection
  split
  · exact ⟨_, rfl⟩
  · rename_i start clock
    obtain ⟨failure, hfailure⟩ := h clock
    split
    · exact ⟨_, rfl⟩
    · rename_i records later heq
      rw [heq] at hfailure
      exact absurd hfailure (by simp)

theorem addSection_of_refused (h : Refuses state.1) :
    Refuses (addSection insert sections name state).1 := by
  obtain ⟨failure, hfailure⟩ := h
  obtain ⟨result, clock⟩ := state
  obtain rfl : result = .error failure := hfailure
  exact ⟨failure, rfl⟩

end Refused

theorem ofSections_not_finite (h : ∃ x ∈ catalog.amounts, x.isFinite = false) (clock : Clock) :
    Refuses (ofSections catalog.toJson.asRead.readBack clock).1 := by
  obtain ⟨x, hmem, hx⟩ := h
  unfold ofSections
  rcases List.mem_append.mp hmem with hprice | hcost
  · obtain ⟨vehicle, hvehicle, rfl⟩ := List.mem_map.mp hprice
    rcases List.mem_append.mp hvehicle with halone | howned
    · have hsection : SectionRefused Vehicle catalog.toJson.asRead.readBack "vehicles" :=
        sectionRefused (catalog.isRecord.find?_list rfl)
          ⟨_, List.mem_map_of_mem halone, Vehicle.neverDecodes hx⟩
      refine addSection_of_refused (addSection_of_refused (addSection_of_refused ?_))
      exact addSection_refused hsection
    · obtain ⟨listing, hlisting, rfl⟩ := List.mem_map.mp howned
      have hsection : SectionRefused Listing catalog.toJson.asRead.readBack "listings" :=
        sectionRefused (catalog.isRecord.find?_list rfl)
          ⟨_, List.mem_map_of_mem hlisting, Listing.neverDecodes hx⟩
      exact addSection_of_refused (addSection_of_refused (addSection_refused hsection))
  · obtain ⟨history, hhistory, hcost⟩ := List.mem_flatMap.mp hcost
    have hsection : SectionRefused VehicleHistory catalog.toJson.asRead.readBack "histories" :=
      sectionRefused (catalog.isRecord.find?_list rfl)
        ⟨_, List.mem_map_of_mem hhistory, VehicleHistory.neverDecodes ⟨x, hcost, hx⟩⟩
    exact addSection_refused hsection

theorem ofDocument_not_finite (h : ∃ x ∈ catalog.amounts, x.isFinite = false) (clock : Clock) :
    Refuses (ofDocument catalog.toDocument clock).1 := by
  have hread : Json.read catalog.toDocument = .ok (.object catalog.toJson.asRead.readBack) := by
    rw [toDocument, read_pretty_asRead catalog.fits_text, catalog.isRecord.asRead.sorted]
  rw [ofDocument, hread]
  exact ofSections_not_finite h clock

theorem finite_of_ofDocument_own {clock : Clock} {reloaded : Catalog}
    (hload : (ofDocument catalog.toDocument clock).1 = .ok reloaded) :
    ∀ x ∈ catalog.amounts, x.isFinite = true := by
  intro x hmem
  cases hx : x.isFinite with
  | true => rfl
  | false =>
    obtain ⟨failure, hfailure⟩ := ofDocument_not_finite ⟨x, hmem, hx⟩ clock
    rw [hload] at hfailure
    exact absurd hfailure (by simp)

/-! ## All numbers -/

section Own

variable (h : Invariant catalog) {clock later : Clock}
  (hclock : Clock.after? catalog.size clock = some later)
include h hclock

/-- A document is unreadable just when a number in it is not finite, if the clock can be read for
all of the records. -/
theorem ofDocument_own_refused_iff :
    Refuses (ofDocument catalog.toDocument clock).1 ↔
      ∃ x ∈ catalog.amounts, x.isFinite = false := by
  constructor
  · rintro ⟨failure, hfailure⟩
    refine Classical.not_not.mp fun hnone => ?_
    have hfinite : ∀ x ∈ catalog.amounts, x.isFinite = true := by
      intro x hmem
      cases hx : x.isFinite with
      | true => rfl
      | false => exact absurd ⟨x, hmem, hx⟩ hnone
    rw [ofDocument_reread h hfinite hclock] at hfailure
    exact absurd hfailure (by simp)
  · intro hsome
    exact ofDocument_not_finite hsome clock

/-- It is read as the catalog just when every number is read back from its own spelling. -/
theorem ofDocument_own_eq_iff :
    (ofDocument catalog.toDocument clock).1 = .ok catalog ↔
      ∀ x ∈ catalog.amounts, ReadsBack x := by
  constructor
  · intro hdocument
    have hfinite := finite_of_ofDocument_own hdocument
    have hsame : catalog.reread = catalog := by
      rw [ofDocument_reread h hfinite hclock] at hdocument
      exact Except.ok.inj hdocument
    have hnumbers : catalog.amounts.map Json.reread = catalog.amounts.map id := by
      rw [← amounts_reread, hsame, List.map_id]
    intro x hmem
    exact readsBack_iff.mpr ⟨hfinite x hmem, List.map_inj_left.mp hnumbers x hmem⟩
  · intro hamounts
    rw [ofDocument_written h hamounts hclock]

end Own

end VehicleMarket.Catalog
