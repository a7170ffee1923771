import VehicleMarket.Proofs.Record.Field
import VehicleMarket.Proofs.Record.Lookup

/-!
Older and partial objects. An object stands for a record when each field is left out or stands in
one of its forms: under its canonical key, under an older key, with an alias of its enumeration, or
as the identifier of an embedded record. Whatever the forms of the others, the rules of the schema
leave an admitted value under the key of each field, or nothing there if it is left out.
-/
namespace VehicleMarket

open Json

/-! ## The forms of a field -/

/-- A value from which an identifier is taken: its text, or a record with it. -/
inductive Embeds : Json → Json → Prop where
  | text (s : String) : Embeds (.string s) (.string s)
  | record {inner : Members} {id : Json} : Table.find? inner "id" = some id →
      Embeds (.object inner) id

/-- The keys a field may stand under: its own, its older ones, those of records embedded for it. -/
def KeyRules.names (rules : KeyRules) (key : String) : List String :=
  key :: Table.keys ((rules.renames ++ rules.references).filter fun rule => rule.2 = key)

theorem KeyRules.self_mem_names (rules : KeyRules) (key : String) : key ∈ rules.names key :=
  List.mem_cons_self

theorem KeyRules.rule_mem_names {rules : KeyRules} {rule : String × String}
    (h : rule ∈ rules.renames ∨ rule ∈ rules.references) : rule.1 ∈ rules.names rule.2 := by
  refine List.mem_cons_of_mem _ (List.mem_map_of_mem (List.mem_filter.mpr ⟨?_, ?_⟩))
  · exact List.mem_append.mpr h
  · exact decide_eq_true rfl

/-- A key stands in an object for a field, and no other of the field's keys does. -/
def KeyRules.Alone (rules : KeyRules) (members : Members) (key name : String) : Prop :=
  ∀ other ∈ rules.names key, other ≠ name → Table.find? members other = none

instance (rules : KeyRules) (members : Members) (key name : String) :
    Decidable (rules.Alone members key name) :=
  inferInstanceAs
    (Decidable (∀ other ∈ rules.names key, other ≠ name → Table.find? members other = none))

/-- How an object gives a field, with a value that is admitted, or leaves it out. -/
inductive FieldForm (rules : KeyRules) (members : Members) (key : String)
    (admits : Json → Prop) : Bool → Prop where
  | canonical {value : Json} : Table.find? members key = some value → admits value →
      FieldForm rules members key admits false
  | older (old : String) {value : Json} : (old, key) ∈ rules.renames →
      rules.Alone members key old → Table.find? members old = some value → admits value →
      FieldForm rules members key admits false
  | embedded (outer : String) {value id : Json} : (outer, key) ∈ rules.references →
      rules.Alone members key outer → Table.find? members outer = some value →
      Embeds value id → admits id → FieldForm rules members key admits false
  | omitted : (∀ name ∈ rules.names key, Table.find? members name = none) →
      FieldForm rules members key admits true

/-- The members that a record writes, and the fields for which other values are admitted. -/
structure Wording where
  written : Members
  others : List (String × (Json → Prop))

def Wording.Admits (wording : Wording) (key : String) (value : Json) : Prop :=
  match Table.find? wording.others key with
  | some admits => admits value
  | none => (Table.find? wording.written key).map sorted = some value

/-- The members of an object that stands for a record; some fields are omitted. -/
structure StandsFor (rules : KeyRules) (wording : Wording) (omitted : String → Bool)
    (members : Members) : Prop where
  sorted : Table.Sorted members
  forms : ∀ key ∈ Table.keys wording.written,
    FieldForm rules members key (wording.Admits key) (omitted key)

/-! ## The forms after the rules -/

/-- What is found is an admitted value, or nothing if the field is omitted. -/
def Found (admits : Json → Prop) (found : Option Json) : Bool → Prop
  | true => found = none
  | false => ∃ value, found = some value ∧ admits value

theorem Embeds.embeddedId? {value id : Json} (h : Embeds value id) :
    KeyRules.embeddedId? value = some id := by
  cases h with
  | text s => rfl
  | record hid => exact hid

theorem FieldForm.given? {rules : KeyRules} (hlawful : rules.Lawful) {members : Members}
    {key : String} {admits : Json → Prop} {omitted : Bool}
    (h : FieldForm rules members key admits omitted) :
    Found admits (rules.given? members key) omitted := by
  obtain ⟨-, -, hapart⟩ := List.nodup_append.mp hlawful.nodup
  have hrename (old : String) (hold : (old, key) ∈ rules.renames) : key ≠ old := by
    rintro rfl
    exact hlawful.renames _ hold (List.mem_append_left _ (List.mem_map_of_mem hold))
  have hreference (outer : String) (houter : (outer, key) ∈ rules.references) : key ≠ outer := by
    rintro rfl
    exact hlawful.references _ houter (List.mem_append_right _ (List.mem_map_of_mem houter))
  cases h with
  | @canonical value hfind hadmits =>
    refine ⟨value, ?_, hadmits⟩
    rw [KeyRules.given?, hfind]
    rfl
  | @older old value hold halone hfind hadmits =>
    have hkey : Table.find? members key = none :=
      halone key (rules.self_mem_names key) (hrename old hold)
    have hmoved : KeyRules.moved? some members rules.renames key = some value := by
      refine KeyRules.moved?_eq_some hold hfind rfl ?_
      intro other hmem htarget hne
      obtain rfl : other.2 = key := htarget
      exact halone other.1 (KeyRules.rule_mem_names (.inl hmem)) hne
    refine ⟨value, ?_, hadmits⟩
    rw [KeyRules.given?, hkey, hmoved]
    rfl
  | @embedded outer value id houter halone hfind hembeds hadmits =>
    have hkey : Table.find? members key = none :=
      halone key (rules.self_mem_names key) (hreference outer houter)
    have hrenamed : KeyRules.moved? some members rules.renames key = none := by
      refine KeyRules.moved?_eq_none ?_
      intro other hmem htarget
      obtain rfl : other.2 = key := htarget
      refine halone other.1 (KeyRules.rule_mem_names (.inl hmem)) ?_
      -- a key is not both an older one and that of an embedded record
      exact hapart _ (List.mem_map_of_mem hmem) _ (List.mem_map_of_mem houter)
    have hmoved : KeyRules.moved? KeyRules.embeddedId? members rules.references key = some id := by
      refine KeyRules.moved?_eq_some houter hfind hembeds.embeddedId? ?_
      intro other hmem htarget hne
      obtain rfl : other.2 = key := htarget
      exact halone other.1 (KeyRules.rule_mem_names (.inr hmem)) hne
    refine ⟨id, ?_, hadmits⟩
    rw [KeyRules.given?, hkey, hrenamed, hmoved]
    rfl
  | omitted hnone =>
    have hkey : Table.find? members key = none := hnone key (rules.self_mem_names key)
    have hrenamed : KeyRules.moved? some members rules.renames key = none := by
      refine KeyRules.moved?_eq_none ?_
      intro other hmem htarget
      obtain rfl : other.2 = key := htarget
      exact hnone other.1 (KeyRules.rule_mem_names (.inl hmem))
    have hembedded : KeyRules.moved? KeyRules.embeddedId? members rules.references key = none := by
      refine KeyRules.moved?_eq_none ?_
      intro other hmem htarget
      obtain rfl : other.2 = key := htarget
      exact hnone other.1 (KeyRules.rule_mem_names (.inr hmem))
    show rules.given? members key = none
    rw [KeyRules.given?, hkey, hrenamed, hembedded]
    rfl

theorem Found.field? {admits : Json → Prop} {members : Members} {key : String} {omitted : Bool}
    (h : Found admits (Table.find? members key) omitted) {α : Type} {decode : Decoder α} {data : α}
    (hdecode : ∀ value, admits value → decode value = .ok data) :
    Json.field? members key decode = .ok (if omitted then none else some data) := by
  unfold Json.field?
  cases omitted with
  | true =>
    have hnone : Table.find? members key = none := h
    rw [hnone]
    rfl
  | false =>
    obtain ⟨value, hfind, hadmits⟩ := h
    rw [hfind]
    simp only [hdecode value hadmits]
    rfl

theorem Found.field {admits : Json → Prop} {members : Members} {key : String} {omitted : Bool}
    (h : Found admits (Table.find? members key) omitted) {α : Type} {decode : Decoder α}
    {data absent : α} (hdecode : ∀ value, admits value → decode value = .ok data) :
    Json.field members key decode absent = .ok (if omitted then absent else data) := by
  rw [Json.field, h.field? hdecode]
  cases omitted <;> rfl

theorem Found.timestamp {admits : Json → Prop} {found : Option Json} {omitted : Bool}
    (h : Found admits found omitted) {given : Instant} (now : Instant)
    (hadmits : ∀ value, admits value → value = .int given.millis) :
    KeyRules.stamped now.millis found = .int (if omitted then now else given).millis := by
  cases omitted with
  | true =>
    obtain rfl : found = none := h
    rfl
  | false =>
    obtain ⟨value, rfl, hvalue⟩ := h
    obtain rfl := hadmits value hvalue
    rfl

namespace Wording

variable {wording : Wording} {key : String} {α : Type} {decode : Decoder α} {data : α}

theorem decode_written {member : Json} (hothers : Table.find? wording.others key = none)
    (hmember : Table.find? wording.written key = some member)
    (hdecode : decode member.sorted = .ok data) :
    ∀ value, wording.Admits key value → decode value = .ok data := by
  intro value h
  rw [Admits, hothers, hmember, Option.map_some] at h
  obtain rfl : member.sorted = value := Option.some.inj h
  exact hdecode

theorem decode_other {admits : Json → Prop} (hothers : Table.find? wording.others key = some admits)
    (hdecode : ∀ value, admits value → decode value = .ok data) :
    ∀ value, wording.Admits key value → decode value = .ok data := by
  intro value h
  rw [Admits, hothers] at h
  exact hdecode value h

end Wording

/-- The rules of a schema take nothing away from a wording and give nothing to it. -/
structure Suits (schema : Schema) (wording : Wording) : Prop where
  lawful : schema.keys.Lawful
  nested : (Table.keys schema.nested).Nodup
  apart : ∀ key ∈ Table.keys wording.written, key ∉ schema.keys.retired
  not_blank : ∀ key ∈ schema.keys.blankable, ∀ value, wording.Admits key value →
    KeyRules.isBlankValue value = false

theorem KeyRules.Canonical.apart {rules : KeyRules} {members : Members}
    (h : rules.Canonical members) : ∀ key ∈ Table.keys members, key ∉ rules.retired := by
  intro key hkey hretired
  have hnone : Table.find? members key = none := by
    rcases List.mem_append.mp hretired with hmem | hmem
    · obtain ⟨rule, hrule, rfl⟩ := List.mem_map.mp hmem
      exact h.no_older rule hrule
    · obtain ⟨rule, hrule, rfl⟩ := List.mem_map.mp hmem
      exact h.no_embedded rule hrule
  exact Table.find?_eq_none_iff.mp hnone hkey

namespace StandsFor

variable {schema : Schema} {wording : Wording} {omitted : String → Bool} {members : Members}
  {key : String} {member : Json}

theorem settled (h : StandsFor schema.keys wording omitted members) (hsuits : Suits schema wording)
    (hmember : Table.find? wording.written key = some member) :
    Found (wording.Admits key) (Table.find? (schema.keys.settle members) key) (omitted key) := by
  have hkey : key ∈ Table.keys wording.written :=
    List.mem_map_of_mem (Table.mem_of_find? hmember)
  have hgiven := (h.forms key hkey).given? hsuits.lawful
  rw [KeyRules.find?_settle hsuits.lawful h.sorted, if_neg (hsuits.apart key hkey)]
  split
  · rename_i hblank
    cases homitted : omitted key with
    | true =>
      rw [homitted] at hgiven
      have hnone : schema.keys.given? members key = none := hgiven
      rw [hnone]
      rfl
    | false =>
      rw [homitted] at hgiven
      obtain ⟨value, hvalue, hadmits⟩ := hgiven
      refine ⟨value, ?_, hadmits⟩
      simp [hvalue, hsuits.not_blank key hblank value hadmits]
  · exact hgiven

theorem plain (h : StandsFor schema.keys wording omitted members) (hsuits : Suits schema wording)
    (hmember : Table.find? wording.written key = some member) (now : Int)
    (hplain : Table.find? schema.nested key = none ∧ key ∉ schema.keys.timestamps) :
    Found (wording.Admits key) (Table.find? (schema.normalize now members) key) (omitted key) := by
  rw [Schema.find?_normalize hsuits.nested, hplain.1]
  simp only [if_neg hplain.2]
  exact h.settled hsuits hmember

theorem written (h : StandsFor schema.keys wording omitted members) (hsuits : Suits schema wording)
    {now : Int} {α : Type} {decode : Decoder α} {data absent : α}
    (hmember : Table.find? wording.written key = some member)
    (hothers : Table.find? wording.others key = none)
    (hplain : Table.find? schema.nested key = none ∧ key ∉ schema.keys.timestamps)
    (hdecode : decode member.sorted = .ok data) :
    Json.field (schema.normalize now members) key decode absent =
      .ok (if omitted key then absent else data) :=
  (h.plain hsuits hmember now hplain).field (wording.decode_written hothers hmember hdecode)

theorem respelled (h : StandsFor schema.keys wording omitted members)
    (hsuits : Suits schema wording) {now : Int} {α : Type} {decode : Decoder α} {data absent : α}
    {admits : Json → Prop} (hmember : Table.find? wording.written key = some member)
    (hothers : Table.find? wording.others key = some admits)
    (hplain : Table.find? schema.nested key = none ∧ key ∉ schema.keys.timestamps)
    (hdecode : ∀ value, admits value → decode value = .ok data) :
    Json.field (schema.normalize now members) key decode absent =
      .ok (if omitted key then absent else data) :=
  (h.plain hsuits hmember now hplain).field (wording.decode_other hothers hdecode)

theorem timestamp (h : StandsFor schema.keys wording omitted members)
    (hsuits : Suits schema wording) {now given : Instant}
    (hmember : Table.find? wording.written key = some (.int given.millis))
    (hothers : Table.find? wording.others key = none)
    (hstamp : Table.find? schema.nested key = none ∧ key ∈ schema.keys.timestamps) :
    Json.field? (schema.normalize now.millis members) key decodeInstant =
      .ok (some (if omitted key then now else given)) := by
  have hadmits : ∀ value, wording.Admits key value → value = .int given.millis := by
    intro value hvalue
    rw [Wording.Admits, hothers, hmember] at hvalue
    exact (Option.some.inj hvalue).symm
  have hfound := (h.settled hsuits hmember).timestamp now hadmits
  have hfind : Table.find? (schema.normalize now.millis members) key =
      some (.int (if omitted key then now else given).millis) := by
    rw [Schema.find?_normalize hsuits.nested, hstamp.1]
    simp only [if_pos hstamp.2]
    exact congrArg some hfound
  rw [Json.field?, hfind]
  simp only [decodeInstant_millis]

theorem nested (h : StandsFor schema.keys wording omitted members) (hsuits : Suits schema wording)
    (hmember : Table.find? wording.written key = some member) (hgiven : omitted key = false)
    {rules : KeyRules}
    (hnested : Table.find? schema.nested key = some rules ∧ key ∉ schema.keys.timestamps)
    (now : Int) :
    ∃ value, wording.Admits key value ∧ Table.find? (schema.normalize now members) key =
      some (Schema.nestedValue rules now value) := by
  have hfound := h.settled hsuits hmember
  rw [hgiven] at hfound
  obtain ⟨value, hfind, hadmits⟩ := hfound
  refine ⟨value, hadmits, ?_⟩
  rw [Schema.find?_normalize hsuits.nested, hnested.1]
  simp only [if_neg hnested.2, hfind, Option.map_some]

end StandsFor

end VehicleMarket
