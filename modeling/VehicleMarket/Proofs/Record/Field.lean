import VehicleMarket.Json.Mismatch
import VehicleMarket.Proofs.Json.RoundTrip
import VehicleMarket.Proofs.Record.Canonical

/-!
Fields of a record that was written and read back. The reader of a plain type takes the value that
stands for its data, and an object that is read back holds under each key what was written there.
-/
namespace VehicleMarket

/-- An enumeration whose spellings are all read back, none of them blank. -/
class LawfulSpelled (α : Type) [Spelled α] : Prop where
  ofSpelling?_spelling : ∀ value : α, ∀ s ∈ Spelled.spellings value,
    Spelled.ofSpelling? s = some value
  spelling_not_blank : ∀ value : α, ∀ s ∈ Spelled.spellings value, Text.isBlank s = false

instance : LawfulSpelled ListingStatus where
  ofSpelling?_spelling value := by cases value <;> decide
  spelling_not_blank value := by cases value <;> decide

instance : LawfulSpelled VehicleStatus where
  ofSpelling?_spelling value := by cases value <;> decide
  spelling_not_blank value := by cases value <;> decide

instance : LawfulSpelled AccountType where
  ofSpelling?_spelling value := by cases value <;> decide
  spelling_not_blank value := by cases value <;> decide

instance : LawfulSpelled AccidentSeverity where
  ofSpelling?_spelling value := by cases value <;> decide
  spelling_not_blank value := by cases value <;> decide

theorem Spelled.name_mem_spellings {α : Type} [Spelled α] (value : α) :
    Spelled.name value ∈ Spelled.spellings value :=
  List.mem_cons_self

theorem Spelled.ofSpelling?_eq_some_iff {α : Type} [Spelled α] [LawfulSpelled α] {value : α}
    {s : String} : Spelled.ofSpelling? s = some value ↔ s ∈ Spelled.spellings value := by
  constructor
  · intro h
    have hcontains := List.find?_some (p := fun value => (Spelled.spellings value).contains s) h
    exact List.contains_iff_mem.mp hcontains
  · exact LawfulSpelled.ofSpelling?_spelling value s

theorem LawfulSpelled.name_not_blank {α : Type} [Spelled α] [LawfulSpelled α] (value : α) :
    Text.isBlank (Spelled.name value) = false :=
  spelling_not_blank value _ (Spelled.name_mem_spellings value)

theorem Instant.ofMillis?_millis (instant : Instant) :
    Instant.ofMillis? instant.millis = some instant :=
  Instant.ofMillis?_eq_some_iff.mpr rfl

namespace Json

@[simp]
theorem decodeString_string (s : String) : decodeString (.string s) = .ok s := rfl

@[simp]
theorem decodeBool_bool (b : Bool) : decodeBool (.bool b) = .ok b := rfl

@[simp]
theorem decodeAmount_float (x : Binary64) : decodeAmount (.float x) = .ok x := rfl

@[simp]
theorem decodeCount_toNat (n : UInt32) : decodeCount (.int n.toNat) = .ok n := by
  have hbounds : 0 ≤ (n.toNat : Int) ∧ (n.toNat : Int) < 4294967296 := by
    have hlast := n.toNat_lt
    omega
  rw [decodeCount, if_pos hbounds]
  simp

@[simp]
theorem decodeYear_toInt (n : Int32) : decodeYear (.int n.toInt) = .ok n := by
  have hbounds : -2147483648 ≤ n.toInt ∧ n.toInt ≤ 2147483647 := by
    have hlow := n.le_toInt
    have hhigh := n.toInt_lt
    omega
  rw [decodeYear, if_pos hbounds]
  simp

@[simp]
theorem decodeInstant_millis (instant : Instant) :
    decodeInstant (.int instant.millis) = .ok instant := by
  rw [decodeInstant, Instant.ofMillis?_millis]

theorem decodeSpelled_spelling {α : Type} [Spelled α] [LawfulSpelled α] {value : α} {s : String}
    (h : s ∈ Spelled.spellings value) : decodeSpelled (.string s) = .ok value := by
  rw [decodeSpelled, decodeSpelling, LawfulSpelled.ofSpelling?_spelling value s h]

@[simp]
theorem decodeSpelled_name {α : Type} [Spelled α] [LawfulSpelled α] (value : α) :
    decodeSpelled (.string (Spelled.name value)) = .ok value :=
  decodeSpelled_spelling (Spelled.name_mem_spellings value)

theorem decodeList_map {α : Type} {item : Decoder α} {write : α → Json}
    (h : ∀ value, item (write value).sorted = .ok value) (values : List α) :
    decodeList item (sorted (.array (values.map write))) = .ok values := by
  have hall : decodeAll item ((values.map write).map sorted) = .ok values := by
    induction values with
    | nil => rfl
    | cons value rest ih => rw [List.map_cons, List.map_cons, decodeAll, h value, ih]
  rw [sorted, sortedItems_eq_map, decodeList, hall]

def members : Json → List (String × Json)
  | .object members => members
  | _ => []

/-- The members of an object as they come back from its text, in the order of their keys. -/
def readBack (value : Json) : List (String × Json) :=
  Table.ofList (sortedMembers value.members)

structure IsRecord (value : Json) : Prop where
  object : value = .object value.members
  keys : (Table.keys value.members).Nodup

namespace IsRecord

variable {value : Json}

theorem sorted (h : IsRecord value) : value.sorted = .object value.readBack := by
  rw [h.object, Json.sorted, ofMembers, readBack, members]

theorem find?_readBack (h : IsRecord value) (key : String) :
    Table.find? value.readBack key = (Table.find? value.members key).map Json.sorted := by
  have hmap : sortedMembers value.members = Table.mapValues value.members Json.sorted :=
    sortedMembers_eq_map value.members
  have hkeys : (Table.keys (sortedMembers value.members)).Nodup := by
    rw [hmap, Table.keys_mapValues]
    exact h.keys
  rw [readBack, Table.find?_ofList _ hkeys, hmap, Table.find?_mapValues]

variable {key : String} {member : Json} {α : Type} {decode : Decoder α} {data : α}

theorem field? (h : IsRecord value) (hmember : Table.find? value.members key = some member)
    (hdecode : decode member.sorted = .ok data) :
    Json.field? value.readBack key decode = .ok (some data) := by
  rw [Json.field?, h.find?_readBack, hmember, Option.map_some]
  simp only [hdecode]

theorem field (h : IsRecord value) {absent : α}
    (hmember : Table.find? value.members key = some member)
    (hdecode : decode member.sorted = .ok data) :
    Json.field value.readBack key decode absent = .ok data := by
  rw [Json.field, h.field? hmember hdecode]
  rfl

end IsRecord

end Json

namespace KeyRules

open Json (IsRecord)

theorem isBlankValue_sorted (value : Json) : isBlankValue value.sorted = isBlankValue value := by
  cases value <;> simp [Json.sorted, Json.ofMembers, isBlankValue]

theorem isNull_sorted (value : Json) : isNull value.sorted = isNull value := by
  cases value <;> simp [Json.sorted, Json.ofMembers, isNull]

/-- Members that are canonical when they are written are so when they come back. -/
theorem Canonical.readBack {rules : KeyRules} {value : Json} (hvalue : IsRecord value)
    (h : rules.Canonical value.members) : rules.Canonical value.readBack where
  no_older rule hmem := by rw [hvalue.find?_readBack, h.no_older rule hmem, Option.map_none]
  no_embedded rule hmem := by rw [hvalue.find?_readBack, h.no_embedded rule hmem, Option.map_none]
  not_blank key hmem read hread := by
    rw [hvalue.find?_readBack] at hread
    obtain ⟨member, hmember, heq⟩ := Option.map_eq_some_iff.mp hread
    rw [← heq, isBlankValue_sorted]
    exact h.not_blank key hmem member hmember
  stamped key hmem := by
    obtain ⟨member, hmember, hnull⟩ := h.stamped key hmem
    refine ⟨member.sorted, ?_, (isNull_sorted member).trans hnull⟩
    rw [hvalue.find?_readBack, hmember, Option.map_some]

end KeyRules

end VehicleMarket
