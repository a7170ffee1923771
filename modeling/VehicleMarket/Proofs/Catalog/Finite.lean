import VehicleMarket.Proofs.Catalog.Reload
import VehicleMarket.Proofs.Record.Decoded

/-!
The numbers of a catalog that was loaded. Each of them comes from an item of the document, so all of
them are finite, whatever spellings and layouts the document uses and whatever the clock shows.
-/
namespace VehicleMarket.Catalog

open Json (Finite)

def FiniteAmounts (catalog : Catalog) : Prop :=
  ∀ x ∈ catalog.amounts, x.isFinite = true

section Sections

variable {α : Type} [Record α] [LawfulRecord α]

def FiniteIn (record : α) : Prop :=
  ∀ x ∈ LawfulRecord.amounts record, x.isFinite = true

section Decode

variable [FiniteRecord α] {depth : Nat} {records : List α} {clock : Clock}

theorem decodeItems_finite {items : List Json} (hitems : ∀ item ∈ items, Finite depth item)
    (h : (decodeItems items clock).1 = .ok records) : ∀ record ∈ records, FiniteIn record := by
  induction items generalizing clock records with
  | nil =>
    cases h
    exact fun _ hmem => absurd hmem List.not_mem_nil
  | cons item rest ih =>
    rw [decodeItems] at h
    split at h
    · exact absurd h (by simp)
    · rename_i record between hrecord
      split at h
      · exact absurd h (by simp)
      · rename_i others after hothers
        cases h
        have hfirst := Record.decodeValue_finite (hitems item List.mem_cons_self)
          (congrArg Prod.fst hrecord)
        have hrest := ih (fun other hmem => hitems other (List.mem_cons_of_mem item hmem))
          (congrArg Prod.fst hothers)
        exact List.forall_mem_cons.mpr ⟨hfirst, hrest⟩

theorem decodeSection_finite {sections : Members} {name : String}
    (hsections : FiniteMembers depth sections)
    (h : (decodeSection sections name clock).1 = .ok records) :
    ∀ record ∈ records, FiniteIn record := by
  unfold decodeSection at h
  split at h
  · cases h
    exact fun _ hmem => absurd hmem List.not_mem_nil
  · cases h
    exact fun _ hmem => absurd hmem List.not_mem_nil
  · rename_i items hfind
    cases hsections.find? hfind with
    | array hitems => exact decodeItems_finite hitems h
  · exact absurd h (by simp)

end Decode

variable {insert : Catalog → α → Except Problem Unit × Catalog} {catalog changed : Catalog}

theorem finite_insertAll
    (hkeeps : ∀ {catalog changed record}, FiniteAmounts catalog → FiniteIn record →
      insert catalog record = (.ok (), changed) → FiniteAmounts changed)
    {records : List α} (h : FiniteAmounts catalog) (hrecords : ∀ record ∈ records, FiniteIn record)
    (hinsert : insertAll insert catalog records = .ok changed) : FiniteAmounts changed := by
  induction records generalizing catalog with
  | nil =>
    cases hinsert
    exact h
  | cons record rest ih =>
    obtain ⟨next, hnext, hrest⟩ := insertAll_cons_eq_ok.mp hinsert
    obtain ⟨hfirst, hothers⟩ := List.forall_mem_cons.mp hrecords
    exact ih (hkeeps h hfirst hnext) hothers hrest

theorem finite_addSection [FiniteRecord α]
    (hkeeps : ∀ {catalog changed record}, FiniteAmounts catalog → FiniteIn record →
      insert catalog record = (.ok (), changed) → FiniteAmounts changed)
    {depth : Nat} {sections : Members} (hsections : FiniteMembers depth sections) {name : String}
    {state : Except Failure Catalog × Clock}
    (h : ∀ catalog, state.1 = .ok catalog → FiniteAmounts catalog) :
    ∀ catalog, (addSection insert sections name state).1 = .ok catalog →
      FiniteAmounts catalog := by
  intro filled hadd
  obtain ⟨catalog, clock, records, rfl, hread, hfill⟩ := addSection_eq_ok.mp (Prod.ext hadd rfl)
  have hrecords := decodeSection_finite hsections (congrArg Prod.fst hread)
  exact finite_insertAll hkeeps (h catalog rfl) hrecords hfill

end Sections

/-! ## Insertions -/

theorem finiteAmounts_iff {catalog : Catalog} : FiniteAmounts catalog ↔
    (∀ vehicle ∈ Table.values catalog.vehicles, vehicle.price.isFinite = true) ∧
      (∀ listing ∈ Table.values catalog.listings, listing.vehicle.price.isFinite = true) ∧
      ∀ history ∈ Table.values catalog.histories, ∀ x ∈ history.costs, x.isFinite = true := by
  simp only [FiniteAmounts, amounts, allVehicles, ownedVehicles, List.map_append, List.map_map,
    List.forall_mem_append, List.forall_mem_map, List.forall_mem_flatMap, Function.comp_apply,
    and_assoc]

section Insert

variable {catalog changed : Catalog} (h : FiniteAmounts catalog)
include h

theorem FiniteAmounts.insertUser {user : User} (_ : FiniteIn user)
    (hinsert : catalog.insertUser user = (.ok (), changed)) : FiniteAmounts changed := by
  obtain ⟨_, _, rfl⟩ := insertUser_eq_ok.mp hinsert
  exact h

theorem FiniteAmounts.insertMessage {message : Message} (_ : FiniteIn message)
    (hinsert : catalog.insertMessage message = (.ok (), changed)) : FiniteAmounts changed := by
  obtain ⟨_, _, rfl⟩ := insertMessage_eq_ok.mp hinsert
  exact h

theorem FiniteAmounts.insertVehicle {vehicle : Vehicle} (hfinite : FiniteIn vehicle)
    (hinsert : catalog.insertVehicle vehicle = (.ok (), changed)) : FiniteAmounts changed := by
  obtain ⟨hvehicles, hothers⟩ := finiteAmounts_iff.mp h
  obtain ⟨_, _, _, rfl⟩ := insertVehicle_eq_ok.mp hinsert
  refine finiteAmounts_iff.mpr ⟨?_, hothers⟩
  intro other hmem
  rcases Table.mem_values_insert hmem with rfl | hmem
  · exact hfinite _ List.mem_cons_self
  · exact hvehicles other hmem

theorem FiniteAmounts.insertListing {listing : Listing} (hfinite : FiniteIn listing)
    (hinsert : catalog.insertListing listing = (.ok (), changed)) : FiniteAmounts changed := by
  obtain ⟨hvehicles, hlistings, hhistories⟩ := finiteAmounts_iff.mp h
  obtain ⟨_, _, _, rfl⟩ := insertListing_eq_ok.mp hinsert
  refine finiteAmounts_iff.mpr ⟨hvehicles, ?_, hhistories⟩
  intro other hmem
  rcases Table.mem_values_insert hmem with rfl | hmem
  · exact hfinite _ List.mem_cons_self
  · exact hlistings other hmem

theorem FiniteAmounts.insertHistory {history : VehicleHistory} (hfinite : FiniteIn history)
    (hinsert : catalog.insertHistory history = (.ok (), changed)) : FiniteAmounts changed := by
  obtain ⟨hvehicles, hlistings, hhistories⟩ := finiteAmounts_iff.mp h
  obtain ⟨_, _, rfl⟩ := insertHistory_eq_ok.mp hinsert
  refine finiteAmounts_iff.mpr ⟨hvehicles, hlistings, ?_⟩
  intro other hmem
  rcases Table.mem_values_insert hmem with rfl | hmem
  · exact hfinite
  · exact hhistories other hmem

end Insert

theorem ofDocument_finite {text : String} {clock : Clock} {catalog : Catalog}
    (h : (ofDocument text clock).1 = .ok catalog) : FiniteAmounts catalog := by
  unfold ofDocument at h
  split at h
  · exact absurd h (by simp)
  · rename_i sections hread
    revert h
    cases Json.read_finite hread with
    | object hsections =>
      unfold ofSections
      -- the sections are peeled from the one read last to the one read first
      refine finite_addSection (fun h => h.insertHistory) hsections ?_ catalog
      refine finite_addSection (fun h => h.insertMessage) hsections ?_
      refine finite_addSection (fun h => h.insertListing) hsections ?_
      refine finite_addSection (fun h => h.insertVehicle) hsections ?_
      refine finite_addSection (fun h => h.insertUser) hsections ?_
      intro start heq
      cases heq
      exact fun _ hmem => absurd hmem List.not_mem_nil
  · exact absurd h (by simp)

end VehicleMarket.Catalog
