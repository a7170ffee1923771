import VehicleMarket.Proofs.Record.Field

/-!
The two ways to read an enumeration. A record has a value by its name or an alias, exactly as that
is spelled; outside of records a value is typed by its label or a synonym, in any case and with white
space around it. The two tables are written apart. They hold the same texts for each value, every one
of them trimmed and in lower case, so a typed text names just what the JSON string names that is left
of it in this form.
-/
namespace VehicleMarket

/-- The value of an enumeration that a JSON text gives. -/
def Spelled.ofJson? {α : Type} [Spelled α] (text : String) : Option α :=
  match Json.read text with
  | .ok json => (Json.decodeSpelled json).toOption
  | .error _ => none

/-- An enumeration with one table for records and for what is typed, every text of which is in the
form that typed texts are brought into. -/
class LawfulTyped (α : Type) [Spelled α] : Prop extends LawfulSpelled α where
  labels_eq_spellings : ∀ value : α, Spelled.labels value = Spelled.spellings value
  settled : ∀ value : α, ∀ s ∈ Spelled.spellings value, Text.lower (Text.trim s) = s

instance : LawfulTyped ListingStatus where
  labels_eq_spellings value := by cases value <;> rfl
  settled value := by cases value <;> decide +kernel

instance : LawfulTyped VehicleStatus where
  labels_eq_spellings value := by cases value <;> rfl
  settled value := by cases value <;> decide +kernel

instance : LawfulTyped AccountType where
  labels_eq_spellings value := by cases value <;> rfl
  settled value := by cases value <;> decide +kernel

instance : LawfulTyped AccidentSeverity where
  labels_eq_spellings value := by cases value <;> rfl
  settled value := by cases value <;> decide +kernel

namespace Spelled

variable {α : Type} [Spelled α] {value other : α} {s : String}

theorem eq_of_spelling [LawfulSpelled α] (h : s ∈ spellings value) (hother : s ∈ spellings other) :
    value = other :=
  Option.some.inj ((ofSpelling?_eq_some_iff.mpr h).symm.trans (ofSpelling?_eq_some_iff.mpr hother))

theorem ofJson?_string (s : String) :
    (ofJson? (Json.compact (.string s)) : Option α) = ofSpelling? s := by
  have hread : Json.read (Json.compact (.string s)) = .ok (.string s) :=
    Json.read_compact (.string _ s)
  rw [ofJson?, hread]
  dsimp only
  rw [Json.decodeSpelled, Json.decodeSpelling]
  cases (ofSpelling? s : Option α) <;> rfl

theorem parse?_eq_ofSpelling? [LawfulTyped α] (s : String) :
    (parse? s : Option α) = ofSpelling? (Text.lower (Text.trim s)) := by
  unfold parse? ofSpelling?
  simp only [LawfulTyped.labels_eq_spellings]

theorem parse?_spelling [LawfulTyped α] (h : s ∈ spellings value) : parse? s = some value := by
  rw [parse?_eq_ofSpelling?, LawfulTyped.settled value s h]
  exact ofSpelling?_eq_some_iff.mpr h

theorem label_eq_name [LawfulTyped α] (value : α) : label value = name value :=
  (List.cons.inj (LawfulTyped.labels_eq_spellings value)).1

end Spelled

open Spelled

/-- An enumeration that is read alike from what is typed and from what a record has. -/
structure ReadAlike (α : Type) [Spelled α] : Prop where
  typed_iff : ∀ (s : String) (value : α), parse? s = some value ↔
    ofJson? (Json.compact (.string (Text.lower (Text.trim s)))) = some value
  read_iff : ∀ (s : String) (value : α), ofJson? (Json.compact (.string s)) = some value ↔
    s = name value ∨ s ∈ aliases value
  typed_of_read : ∀ (s : String) (value : α),
    ofJson? (Json.compact (.string s)) = some value → parse? s = some value
  /-- No text of either table names two values. -/
  unambiguous : ∀ (s : String) (value other : α), s ∈ spellings value ∨ s ∈ labels value →
    s ∈ spellings other ∨ s ∈ labels other → value = other
  label_eq_name : ∀ value : α, label value = name value
  name_read : ∀ value : α, parse? (name value) = some value ∧
    ofJson? (Json.compact (.string (name value))) = some value

theorem LawfulTyped.readAlike (α : Type) [Spelled α] [LawfulTyped α] : ReadAlike α where
  typed_iff s value := by rw [parse?_eq_ofSpelling?, ofJson?_string]
  read_iff s value := by
    rw [ofJson?_string, ofSpelling?_eq_some_iff]
    exact List.mem_cons
  typed_of_read s value h := by
    rw [ofJson?_string] at h
    exact parse?_spelling (ofSpelling?_eq_some_iff.mp h)
  unambiguous s value other h hother := by
    rw [labels_eq_spellings, or_self] at h hother
    exact eq_of_spelling h hother
  label_eq_name := Spelled.label_eq_name
  name_read value := by
    have hname := name_mem_spellings value
    refine ⟨parse?_spelling hname, ?_⟩
    rw [ofJson?_string]
    exact ofSpelling?_eq_some_iff.mpr hname

/-- Every enumeration of the record format is read alike in both ways. -/
theorem enumerations_read_alike :
    ReadAlike ListingStatus ∧ ReadAlike VehicleStatus ∧ ReadAlike AccountType ∧
      ReadAlike AccidentSeverity :=
  ⟨LawfulTyped.readAlike _, LawfulTyped.readAlike _, LawfulTyped.readAlike _,
    LawfulTyped.readAlike _⟩

end VehicleMarket
