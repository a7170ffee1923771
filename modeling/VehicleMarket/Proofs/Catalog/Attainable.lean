import VehicleMarket.Proofs.Catalog.Invariant

/-!
Catalogs in which listings and histories were changed where they are kept, in whatever way. Such a
record need not have the identifier any more under which it is kept, and its vehicle may have that of
another one. The order of the tables stays, and so does what is kept of users, of messages and of
vehicles on their own, which nothing can rename.
-/
namespace VehicleMarket.Catalog

section Keyed

variable {kind : RecordKind} {α : Type} {id : α → Identifier kind}
  {table other : Table (Identifier kind) α}

theorem Keyed.eq_map (h : Keyed id table) :
    table = (Table.values table).map fun record => (id record, record) := by
  have hkeep : table.map (fun entry => (id entry.2, entry.2)) = table.map fun entry => entry :=
    List.map_congr_left fun entry hmem => Prod.ext (h.own entry hmem).1.symm rfl
  rw [Table.values, List.map_map]
  exact (hkeep.trans (List.map_id' table)).symm

theorem Keyed.eq_of_values (h : Keyed id table) (hother : Keyed id other)
    (hvalues : Table.values table = Table.values other) : table = other := by
  rw [h.eq_map, hother.eq_map, hvalues]

end Keyed

/-- The catalogs that there can be. A listing or a history may also be changed in any way where it
is kept, so that it no longer has the identifier it is kept under. -/
inductive Attainable : Catalog → Prop where
  | empty : Attainable .empty
  | loaded {text : String} {clock later : Clock} {catalog : Catalog} :
      ofDocument text clock = (.ok catalog, later) → Attainable catalog
  | step {catalog : Catalog} (operation : Operation) :
      Attainable catalog → Attainable (catalog.step operation)
  | changedListing {catalog : Catalog} (id : ListingId)
      (change : Listing → Except Problem Listing) :
      Attainable catalog → Attainable (catalog.changeListing id change).2
  | changedHistory {catalog : Catalog} (id : VehicleId)
      (change : VehicleHistory → Except Problem VehicleHistory) :
      Attainable catalog → Attainable (catalog.changeHistory id change).2

theorem Attainable.run {catalog : Catalog} (h : Attainable catalog)
    (operations : List Operation) : Attainable (catalog.run operations) := by
  induction operations generalizing catalog with
  | nil => exact h
  | cons operation rest ih => exact ih (h.step operation)

/-- What these catalogs keep to: tables are in order, and users, messages and vehicles on their own
stand under their own identifiers. -/
structure Filed (catalog : Catalog) : Prop where
  users : Keyed User.id catalog.users
  vehicles : Keyed Vehicle.id catalog.vehicles
  listings : Table.Sorted catalog.listings
  messages : Keyed Message.id catalog.messages

theorem Invariant.filed {catalog : Catalog} (h : Invariant catalog) : Filed catalog where
  users := h.users
  vehicles := h.vehicles
  listings := h.listings.sorted
  messages := h.messages

section Filed

variable {catalog changed : Catalog}

theorem Filed.changeListing (h : Filed catalog) (id : ListingId)
    (change : Listing → Except Problem Listing) : Filed (catalog.changeListing id change).2 := by
  rcases hchange : catalog.changeListing id change with ⟨problem | listing, changed⟩
  · rw [changeListing_eq_error hchange]
    exact h
  · obtain ⟨_, _, _, rfl⟩ := changeListing_eq_ok.mp hchange
    exact { h with listings := h.listings.of_keys (Table.keys_modify _ _ _) }

theorem Filed.changeHistory (h : Filed catalog) (id : VehicleId)
    (change : VehicleHistory → Except Problem VehicleHistory) :
    Filed (catalog.changeHistory id change).2 := by
  unfold Catalog.changeHistory
  split
  · exact h
  · split
    · exact h
    · exact { h with }

theorem Filed.perform (h : Filed catalog) {operation : Operation}
    (hperform : catalog.perform operation = (.ok (), changed)) : Filed changed := by
  cases operation with
  | insertUser user =>
    obtain ⟨hnamed, -, rfl⟩ := insertUser_eq_ok.mp hperform
    exact { h with users := h.users.insert hnamed }
  | insertVehicle vehicle =>
    obtain ⟨-, hnamed, -, rfl⟩ := insertVehicle_eq_ok.mp hperform
    exact { h with vehicles := h.vehicles.insert hnamed }
  | insertListing listing =>
    obtain ⟨-, -, -, rfl⟩ := insertListing_eq_ok.mp hperform
    exact { h with listings := h.listings.insert _ _ }
  | insertMessage message =>
    obtain ⟨hnamed, -, rfl⟩ := insertMessage_eq_ok.mp hperform
    exact { h with messages := h.messages.insert hnamed }
  | insertHistory history =>
    obtain ⟨-, -, rfl⟩ := insertHistory_eq_ok.mp hperform
    exact { h with }
  | markConversationRead listing reader =>
    cases hperform
    exact { h with
      messages := h.messages.of_view
        (mapValues_markConversationRead (fun _ => rfl) catalog listing reader) }
  | editListing id edit =>
    obtain rfl : (catalog.changeListing id edit.apply).2 = changed :=
      congrArg Prod.snd hperform
    exact h.changeListing id _
  | editHistory id edit =>
    obtain rfl : (catalog.changeHistory id fun history => .ok (edit.apply history)).2 = changed :=
      congrArg Prod.snd hperform
    exact h.changeHistory id _

theorem Filed.step (h : Filed catalog) (operation : Operation) :
    Filed (catalog.step operation) := by
  rcases step_cases catalog operation with hperform | ⟨_, _, hsame⟩
  · exact h.perform hperform
  · rw [hsame]
    exact h

theorem Attainable.filed (h : Attainable catalog) : Filed catalog := by
  induction h with
  | empty => exact invariant_empty.filed
  | loaded hload => exact (Reachable.loaded hload).invariant.filed
  | step operation _ ih => exact ih.step operation
  | changedListing id change _ ih => exact ih.changeListing id change
  | changedHistory id change _ ih => exact ih.changeHistory id change

end Filed

end VehicleMarket.Catalog
