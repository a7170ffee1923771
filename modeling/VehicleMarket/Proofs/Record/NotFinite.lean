import VehicleMarket.Proofs.Record.RoundTrip

/-!
Records with a number that is not finite. The text of such a record has null for the number, and
null is refused where a price or a cost is asked for: the record is not read again at any time.
-/
namespace VehicleMarket

open Json

def Refuses {ε α : Type} (result : Except ε α) : Prop :=
  ∃ error, result = .error error

section Refuses

variable {ε α β : Type} {read : Except ε α} {next : α → Except ε β}

theorem Refuses.bind (h : Refuses read) : Refuses (read >>= next) := by
  obtain ⟨error, rfl⟩ := h
  exact ⟨error, rfl⟩

theorem refuses_bind (h : ∀ data, Refuses (next data)) : Refuses (read >>= next) := by
  cases read with
  | error error => exact ⟨error, rfl⟩
  | ok data => exact h data

end Refuses

namespace Json

theorem asRead_not_finite {x : Binary64} (h : x.isFinite = false) :
    asRead (.float x) = .null := by
  rw [asRead, numberAsRead, h]
  rfl

theorem IsRecord.asRead {value : Json} (h : IsRecord value) : IsRecord value.asRead := by
  rw [h.object, Json.asRead]
  refine ⟨rfl, ?_⟩
  rw [members, membersAsRead_eq_map, Table.keys_mapValues]
  exact h.keys

theorem IsRecord.find?_asRead {value : Json} (h : IsRecord value) (key : String) :
    Table.find? value.asRead.members key =
      (Table.find? value.members key).map Json.asRead := by
  rw [h.object, Json.asRead, members, members, membersAsRead_eq_map, Table.find?_mapValues]

theorem IsRecord.find?_list {value : Json} (h : IsRecord value) {α : Type} {write : α → Json}
    {key : String} {records : List α}
    (hmember : Table.find? value.members key = some (.array (records.map write))) :
    Table.find? value.asRead.readBack key =
      some (.array (records.map fun record => (write record).asRead.sorted)) := by
  rw [h.asRead.find?_readBack, h.find?_asRead, hmember, Option.map_some, Option.map_some,
    Json.asRead, itemsAsRead_eq_map, Json.sorted, sortedItems_eq_map, List.map_map, List.map_map]
  rfl

section Decode

variable {α : Type} {decode : Decoder α} {found : List (String × Json)} {key : String}
  {value : Json}

theorem field?_refuses (hfind : Table.find? found key = some value)
    (hdecode : Refuses (decode value)) : Refuses (Json.field? found key decode) := by
  obtain ⟨mismatch, hmismatch⟩ := hdecode
  exact ⟨mismatch, by simp only [Json.field?, hfind, hmismatch]⟩

theorem field_refuses {absent : α} (hfind : Table.find? found key = some value)
    (hdecode : Refuses (decode value)) : Refuses (Json.field found key decode absent) := by
  obtain ⟨mismatch, hmismatch⟩ := field?_refuses hfind hdecode
  exact ⟨mismatch, by simp only [Json.field, hmismatch]⟩

theorem decodeList_refuses {items : List Json} (h : ∃ item ∈ items, Refuses (decode item)) :
    Refuses (decodeList decode (.array items)) := by
  obtain ⟨item, hmem, hitem⟩ := h
  rw [decodeList]
  induction items with
  | nil => exact absurd hmem List.not_mem_nil
  | cons first rest ih =>
    rw [decodeAll]
    cases hfirst : decode first with
    | error mismatch => exact ⟨mismatch, rfl⟩
    | ok data =>
      have hrest : item ∈ rest := by
        rcases List.mem_cons.mp hmem with rfl | hrest
        · obtain ⟨mismatch, hmismatch⟩ := hitem
          exact absurd (hfirst.symm.trans hmismatch) (by simp)
        · exact hrest
      obtain ⟨mismatch, hothers⟩ := ih hrest
      exact ⟨mismatch, by simp only [hothers]⟩

end Decode

theorem IsRecord.amount_refuses {value : Json} (h : IsRecord value) {key : String}
    {x absent : Binary64} (hmember : Table.find? value.members key = some (.float x))
    (hx : x.isFinite = false) :
    Refuses (Json.field value.asRead.readBack key decodeAmount absent) := by
  have hnull : Table.find? value.asRead.readBack key = some .null := by
    rw [h.asRead.find?_readBack, h.find?_asRead, hmember, Option.map_some,
      asRead_not_finite hx]
    rfl
  exact field_refuses hnull ⟨_, rfl⟩

end Json

namespace KeyRules

/-- Members that are canonical are so as they are read, if no number is given for a time or where
blank counts as absent. -/
theorem Canonical.asRead {rules : KeyRules} {members : Members} (h : rules.Canonical members)
    (hplain : ∀ key ∈ rules.blankable ++ rules.timestamps, ∀ value,
      Table.find? members key = some value → value.asRead = value) :
    rules.Canonical (membersAsRead members) where
  no_older rule hmem := by
    rw [membersAsRead_eq_map, Table.find?_mapValues, h.no_older rule hmem, Option.map_none]
  no_embedded rule hmem := by
    rw [membersAsRead_eq_map, Table.find?_mapValues, h.no_embedded rule hmem, Option.map_none]
  not_blank key hmem read hread := by
    rw [membersAsRead_eq_map, Table.find?_mapValues] at hread
    obtain ⟨value, hvalue, rfl⟩ := Option.map_eq_some_iff.mp hread
    rw [hplain key (List.mem_append_left _ hmem) value hvalue]
    exact h.not_blank key hmem value hvalue
  stamped key hmem := by
    obtain ⟨value, hvalue, hnull⟩ := h.stamped key hmem
    refine ⟨value, ?_, hnull⟩
    rw [membersAsRead_eq_map, Table.find?_mapValues, hvalue, Option.map_some,
      hplain key (List.mem_append_right _ hmem) value hvalue]

end KeyRules

namespace Record

variable {α : Type} [Record α]

def NeverDecodes (α : Type) [Record α] (value : Json) : Prop :=
  ∀ line clock, Refuses (decodeValue (α := α) line value clock).1

theorem neverDecodes {value : Json} (hvalue : IsRecord value)
    (hcanonical : (schema α).Canonical value.readBack)
    (hrefuses : Refuses (ofMembers (α := α) value.readBack)) : NeverDecodes α value.sorted := by
  intro line clock
  rw [hvalue.sorted]
  obtain ⟨mismatch, hmismatch⟩ := hrefuses
  cases hclock : clock.read? with
  | none => exact ⟨.clockPastRange, by simp only [decodeValue, hclock]⟩
  | some reading =>
    refine ⟨undecodable α line (.data mismatch), ?_⟩
    simp only [decodeValue, hclock, ofObject, hcanonical.normalize, hmismatch]

end Record

namespace Vehicle

variable (vehicle : Vehicle)

theorem canonical_asRead : keyRules.Canonical vehicle.toJson.asRead.readBack :=
  have hplain : ∀ key ∈ keyRules.blankable ++ keyRules.timestamps, ∀ value,
      Table.find? vehicle.toJson.members key = some value → value.asRead = value := by
    simp [keyRules, toJson, members, Table.find?, Json.asRead]
  (vehicle.canonical.asRead hplain).readBack vehicle.isRecord.asRead

variable {vehicle}

theorem refuses (h : vehicle.price.isFinite = false) :
    Refuses (ofMembers vehicle.toJson.asRead.readBack) := by
  unfold ofMembers
  -- the fields whose keys come before that of the price
  iterate 8 refine refuses_bind fun _ => ?_
  exact (vehicle.isRecord.amount_refuses rfl h).bind

theorem neverDecodes (h : vehicle.price.isFinite = false) :
    Record.NeverDecodes Vehicle vehicle.toJson.asRead.sorted :=
  Record.neverDecodes vehicle.isRecord.asRead
    { sorted := Table.sorted_ofList _
      keys := vehicle.canonical_asRead
      nested := fun _ hmem => absurd hmem List.not_mem_nil }
    (refuses h)

end Vehicle

namespace Listing

variable {listing : Listing}

theorem find?_vehicle_asRead : Table.find? listing.toJson.asRead.readBack "vehicle" =
    some (.object listing.vehicle.toJson.asRead.readBack) := by
  have hvehicle : Table.find? listing.toJson.members "vehicle" = some listing.vehicle.toJson := rfl
  rw [listing.isRecord.asRead.find?_readBack, listing.isRecord.find?_asRead, hvehicle,
    Option.map_some, Option.map_some, listing.vehicle.isRecord.asRead.sorted]

theorem canonical_asRead : schema.Canonical listing.toJson.asRead.readBack where
  sorted := Table.sorted_ofList _
  keys :=
    have hplain : ∀ key ∈ schema.keys.blankable ++ schema.keys.timestamps, ∀ value,
        Table.find? listing.toJson.members key = some value → value.asRead = value := by
      simp [schema, toJson, members, Table.find?, Json.asRead]
    (listing.canonical.asRead hplain).readBack listing.isRecord.asRead
  nested := by
    intro rule hmem inner hfind
    obtain rfl : rule = ("vehicle", Vehicle.keyRules) := List.mem_singleton.mp hmem
    rw [find?_vehicle_asRead] at hfind
    obtain rfl := Json.object.inj (Option.some.inj hfind)
    exact listing.vehicle.canonical_asRead

theorem neverDecodes (h : listing.vehicle.price.isFinite = false) :
    Record.NeverDecodes Listing listing.toJson.asRead.sorted := by
  refine Record.neverDecodes listing.isRecord.asRead canonical_asRead ?_
  show Refuses (ofMembers listing.toJson.asRead.readBack)
  unfold ofMembers
  -- the fields whose keys come before that of the vehicle
  iterate 4 refine refuses_bind fun _ => ?_
  have hvehicle : Refuses (Vehicle.decode (.object listing.vehicle.toJson.asRead.readBack)) :=
    Vehicle.refuses h
  exact (field?_refuses find?_vehicle_asRead hvehicle).bind

end Listing

theorem MaintenanceEvent.refuses {event : MaintenanceEvent} (h : event.cost.isFinite = false) :
    Refuses (decode event.toJson.asRead.sorted) := by
  rw [event.isRecord.asRead.sorted]
  show Refuses (ofMembers event.toJson.asRead.readBack)
  unfold ofMembers
  exact (event.isRecord.amount_refuses rfl h).bind

theorem Repair.refuses {repair : Repair} (h : repair.cost.isFinite = false) :
    Refuses (decode repair.toJson.asRead.sorted) := by
  rw [repair.isRecord.asRead.sorted]
  show Refuses (ofMembers repair.toJson.asRead.readBack)
  unfold ofMembers
  exact (repair.isRecord.amount_refuses rfl h).bind

namespace VehicleHistory

variable {history : VehicleHistory}

theorem neverDecodes (h : ∃ cost ∈ history.costs, cost.isFinite = false) :
    Record.NeverDecodes VehicleHistory history.toJson.asRead.sorted := by
  refine Record.neverDecodes history.isRecord.asRead
    { sorted := Table.sorted_ofList _
      keys := (history.canonical.asRead fun _ hmem => absurd hmem List.not_mem_nil).readBack
        history.isRecord.asRead
      nested := fun _ hmem => absurd hmem List.not_mem_nil } ?_
  show Refuses (ofMembers history.toJson.asRead.readBack)
  unfold ofMembers
  refine refuses_bind fun _ => ?_
  obtain ⟨cost, hmem, hcost⟩ := h
  rcases List.mem_append.mp hmem with hmem | hmem
  · obtain ⟨event, hevent, rfl⟩ := List.mem_map.mp hmem
    have hlist : Refuses (decodeList MaintenanceEvent.decode
        (.array (history.maintenance.map fun event => event.toJson.asRead.sorted))) :=
      decodeList_refuses ⟨_, List.mem_map_of_mem hevent, MaintenanceEvent.refuses hcost⟩
    exact (field_refuses (history.isRecord.find?_list rfl) hlist).bind
  · refine refuses_bind fun _ => ?_
    obtain ⟨repair, hrepair, rfl⟩ := List.mem_map.mp hmem
    have hlist : Refuses (decodeList Repair.decode
        (.array (history.repairs.map fun repair => repair.toJson.asRead.sorted))) :=
      decodeList_refuses ⟨_, List.mem_map_of_mem hrepair, Repair.refuses hcost⟩
    exact (field_refuses (history.isRecord.find?_list rfl) hlist).bind

end VehicleHistory

end VehicleMarket
