import VehicleMarket.Proofs.Json.Reading
import VehicleMarket.Proofs.Record.Canonical
import VehicleMarket.Proofs.Record.Lookup
import VehicleMarket.Record.Codec

/-!
Bringing an object into shape once is enough. What the rules leave is canonical, whatever the object
was, so that the rules leave it as it is, at the same time or at another one. This is not so for all
tables of rules: one that renames what another has renamed, or fills in an older key, has more to do
at the second time. The five schemas keep their rules apart. All that is asked of an object is that
its keys are in order, as those of everything are that is read.
-/
namespace VehicleMarket

def RecordKind.schema : RecordKind → Schema
  | .user => User.schema
  | .vehicle => Vehicle.schema
  | .listing => Listing.schema
  | .message => Message.schema
  | .history => VehicleHistory.schema

namespace KeyRules

def referred (rules : KeyRules) : List String :=
  rules.references.map Prod.snd

/-- Lawful rules; none but a renaming has to do with the key of a time. -/
structure Orderly (rules : KeyRules) : Prop where
  lawful : rules.Lawful
  timestamps : ∀ key ∈ rules.timestamps,
    key ∉ rules.retired ∧ key ∉ rules.blankable ∧ key ∉ rules.referred

instance (rules : KeyRules) : Decidable rules.Orderly :=
  decidable_of_iff
    (rules.Lawful ∧ ∀ key ∈ rules.timestamps,
      key ∉ rules.retired ∧ key ∉ rules.blankable ∧ key ∉ rules.referred)
    ⟨fun h => ⟨h.1, h.2⟩, fun h => ⟨h.lawful, h.timestamps⟩⟩

def flat (rules : KeyRules) : Schema where
  kind := .vehicle
  keys := rules
  nested := []

def renamed (rules : KeyRules) (members : Members) : Members :=
  rules.renames.foldl rename members

end KeyRules

/-- Orderly rules for an object and for those nested in it; no rule but a renaming has to do with
the key of a nested object. -/
structure Schema.Orderly (schema : Schema) : Prop where
  keys : schema.keys.Orderly
  nodup : (Table.keys schema.nested).Nodup
  nested : ∀ rule ∈ schema.nested, rule.2.Orderly
  apart : ∀ key ∈ Table.keys schema.nested, key ∉ schema.keys.retired ∧
    key ∉ schema.keys.blankable ∧ key ∉ schema.keys.referred ∧ key ∉ schema.keys.timestamps

instance (schema : Schema) : Decidable schema.Orderly :=
  decidable_of_iff
    (schema.keys.Orderly ∧ (Table.keys schema.nested).Nodup ∧
      (∀ rule ∈ schema.nested, rule.2.Orderly) ∧
      ∀ key ∈ Table.keys schema.nested, key ∉ schema.keys.retired ∧
        key ∉ schema.keys.blankable ∧ key ∉ schema.keys.referred ∧ key ∉ schema.keys.timestamps)
    ⟨fun h => ⟨h.1, h.2.1, h.2.2.1, h.2.2.2⟩, fun h => ⟨h.keys, h.nodup, h.nested, h.apart⟩⟩

theorem RecordKind.schema_orderly (kind : RecordKind) : kind.schema.Orderly := by
  cases kind <;> decide

theorem KeyRules.Orderly.flat {rules : KeyRules} (h : rules.Orderly) : rules.flat.Orderly where
  keys := h
  nodup := List.nodup_nil
  nested := fun _ hmem => absurd hmem List.not_mem_nil
  apart := fun _ hmem => absurd hmem List.not_mem_nil

/-! ## Order of the members -/

section Sorted

variable {members : Members}

theorem KeyRules.sorted_settle (h : Table.Sorted members) (rules : KeyRules) :
    Table.Sorted (rules.settle members) := by
  have hrenamed : Table.Sorted (rules.renames.foldl rename members) :=
    sorted_foldl_move h some rules.renames
  have hresolved : Table.Sorted (rules.references.foldl resolve _) :=
    sorted_foldl_move hrenamed embeddedId? rules.references
  exact List.foldlRecOn _ _ hresolved fun _ hmembers key _ => sorted_dropBlank hmembers key

theorem KeyRules.sorted_stamp (h : Table.Sorted members) (now : Int) (key : String) :
    Table.Sorted (stamp now members key) := by
  unfold stamp
  split
  · exact h.insert key _
  · split
    · exact h.insert key _
    · exact h

theorem Schema.sorted_normalizeNested (h : Table.Sorted members) (now : Int)
    (rule : String × KeyRules) : Table.Sorted (normalizeNested now members rule) := by
  unfold normalizeNested
  split
  · exact h.insert rule.1 _
  · exact h

theorem Schema.sorted_normalize (h : Table.Sorted members) (schema : Schema) (now : Int) :
    Table.Sorted (schema.normalize now members) := by
  have hnested : Table.Sorted
      (schema.nested.foldl (normalizeNested now) (schema.keys.settle members)) :=
    List.foldlRecOn _ _ (KeyRules.sorted_settle h schema.keys) fun _ hmembers rule _ =>
      sorted_normalizeNested hmembers now rule
  exact List.foldlRecOn _ _ hnested fun _ hmembers key _ =>
    KeyRules.sorted_stamp hmembers now key

end Sorted

/-! ## Look-ups, key by key -/

namespace KeyRules

variable {rules : KeyRules} {members : Members} {key : String}

theorem find?_renamed (hlawful : rules.Lawful) (hkey : key ∉ rules.retired) :
    Table.find? (rules.renamed members) key =
      (Table.find? members key).or (moved? some members rules.renames key) := by
  obtain ⟨hrenames, _, _⟩ := List.nodup_append.mp hlawful.nodup
  exact find?_foldl_move_of_not_mem some members hrenames hlawful.renames_apart fun hold =>
    hkey (List.mem_append_left _ hold)

theorem given?_eq_renamed (hlawful : rules.Lawful) (hkey : key ∉ rules.retired)
    (hreferred : key ∉ rules.referred) :
    rules.given? members key = Table.find? (rules.renamed members) key := by
  rw [given?, moved?_of_not_target hreferred, Option.or_none, find?_renamed hlawful hkey]

theorem isNull_stamped (now : Int) (found : Option Json) : isNull (stamped now found) = false := by
  cases found with
  | none => rfl
  | some value =>
    by_cases hnull : isNull value = true
    · simp only [stamped, if_pos hnull]
      rfl
    · simp [stamped, hnull]

end KeyRules

namespace Schema.Orderly

variable {schema : Schema} {members : Members} {key : String} {rules : KeyRules}

theorem find?_plain (h : schema.Orderly) (now : Int) (members : Members)
    (htime : key ∉ schema.keys.timestamps) (hnested : key ∉ Table.keys schema.nested) :
    Table.find? (schema.normalize now members) key =
      Table.find? (schema.keys.settle members) key := by
  rw [find?_normalize h.nodup, Table.find?_eq_none_iff.mpr hnested]
  exact if_neg htime

theorem find?_retired (h : schema.Orderly) (hsorted : Table.Sorted members) (now : Int)
    (hkey : key ∈ schema.keys.retired) :
    Table.find? (schema.normalize now members) key = none := by
  have htime : key ∉ schema.keys.timestamps := fun hmem => (h.keys.timestamps key hmem).1 hkey
  have hnested : key ∉ Table.keys schema.nested := fun hmem => (h.apart key hmem).1 hkey
  rw [h.find?_plain now members htime hnested, KeyRules.find?_settle h.keys.lawful hsorted,
    if_pos hkey]

theorem find?_time (h : schema.Orderly) (now : Int) (members : Members)
    (hkey : key ∈ schema.keys.timestamps) :
    Table.find? (schema.normalize now members) key =
      some (KeyRules.stamped now (Table.find? (schema.keys.renamed members) key)) := by
  obtain ⟨hretired, hblank, hreferred⟩ := h.keys.timestamps key hkey
  have hnested : key ∉ Table.keys schema.nested := fun hmem => (h.apart key hmem).2.2.2 hkey
  rw [find?_normalize h.nodup, Table.find?_eq_none_iff.mpr hnested]
  simp only [if_pos hkey]
  rw [KeyRules.find?_settle_of_given h.keys.lawful members hretired hblank,
    KeyRules.given?_eq_renamed h.keys.lawful hretired hreferred]

theorem find?_nested (h : schema.Orderly) (now : Int) (members : Members)
    (hrule : (key, rules) ∈ schema.nested) :
    Table.find? (schema.normalize now members) key =
      (Table.find? (schema.keys.renamed members) key).map (nestedValue rules now) := by
  obtain ⟨hretired, hblank, hreferred, htime⟩ := h.apart key (List.mem_map_of_mem hrule)
  rw [find?_normalize h.nodup, Table.find?_of_mem h.nodup hrule]
  simp only [if_neg htime]
  rw [KeyRules.find?_settle_of_given h.keys.lawful members hretired hblank,
    KeyRules.given?_eq_renamed h.keys.lawful hretired hreferred]

/-! ## Canonical members -/

theorem keys_canonical (h : schema.Orderly) (hsorted : Table.Sorted members) (now : Int) :
    schema.keys.Canonical (schema.normalize now members) where
  no_older rule hmem :=
    h.find?_retired hsorted now (List.mem_append_left _ (List.mem_map_of_mem hmem))
  no_embedded rule hmem :=
    h.find?_retired hsorted now (List.mem_append_right _ (List.mem_map_of_mem hmem))
  not_blank key hkey value hfind := by
    have htime : key ∉ schema.keys.timestamps := fun hmem => (h.keys.timestamps key hmem).2.1 hkey
    have hnested : key ∉ Table.keys schema.nested := fun hmem => (h.apart key hmem).2.1 hkey
    rw [h.find?_plain now members htime hnested, KeyRules.find?_settle h.keys.lawful hsorted,
      if_pos hkey] at hfind
    split at hfind
    · exact absurd hfind (by simp)
    · simpa using (Option.filter_eq_some_iff.mp hfind).2
  stamped key hkey :=
    ⟨_, h.find?_time now members hkey, KeyRules.isNull_stamped now _⟩

theorem nested_object (h : schema.Orderly) {now : Int} {inner : Members}
    (hrule : (key, rules) ∈ schema.nested)
    (hfind : Table.find? (schema.normalize now members) key = some (.object inner)) :
    ∃ given, Table.find? (schema.keys.renamed members) key = some (.object given) ∧
      inner = rules.normalize now given := by
  rw [h.find?_nested now members hrule, Option.map_eq_some_iff] at hfind
  obtain ⟨value, hvalue, hshaped⟩ := hfind
  cases value with
  | object given =>
    cases hshaped
    exact ⟨given, hvalue, rfl⟩
  | _ => exact absurd hshaped (by simp [nestedValue])

end Schema.Orderly

theorem KeyRules.exists_find?_of_renamed {rules : KeyRules} {members : Members} {key : String}
    {value : Json} (hlawful : rules.Lawful) (hkey : key ∉ rules.retired)
    (h : Table.find? (rules.renamed members) key = some value) :
    ∃ name, Table.find? members name = some value := by
  rw [find?_renamed hlawful hkey, Option.or_eq_some_iff] at h
  rcases h with hfind | ⟨_, hmoved⟩
  · exact ⟨key, hfind⟩
  · obtain ⟨rule, _, hrule⟩ := List.exists_of_findSome?_eq_some hmoved
    split at hrule
    · obtain ⟨found, hfound, heq⟩ := Option.bind_eq_some_iff.mp hrule
      cases heq
      exact ⟨rule.1, hfound⟩
    · exact absurd hrule (by simp)

open Json (Ordered)

theorem Schema.Orderly.ordered_nested {schema : Schema} {members : Members} {key : String}
    {rules : KeyRules} {value : Json} (h : schema.Orderly) (hordered : Ordered (.object members))
    (hrule : (key, rules) ∈ schema.nested)
    (hfind : Table.find? (schema.keys.renamed members) key = some value) : Ordered value := by
  have hretired := (h.apart key (List.mem_map_of_mem hrule)).1
  obtain ⟨name, hname⟩ := KeyRules.exists_find?_of_renamed h.keys.lawful hretired hfind
  exact hordered.find? hname

theorem Schema.Orderly.canonical {schema : Schema} {members : Members} (h : schema.Orderly)
    (hordered : Ordered (.object members)) (now : Int) :
    schema.Canonical (schema.normalize now members) := by
  have hsorted := hordered.sorted
  refine ⟨Schema.sorted_normalize hsorted schema now, h.keys_canonical hsorted now, ?_⟩
  intro rule hrule inner hfind
  obtain ⟨given, hgiven, rfl⟩ := h.nested_object hrule hfind
  have hinner : Ordered (.object given) := h.ordered_nested hordered hrule hgiven
  exact (h.nested rule hrule).flat.keys_canonical hinner.sorted now

/-- No older key and no key of an embedded record is left in an object, nor in one nested in it. -/
structure Schema.Modern (schema : Schema) (members : Members) : Prop where
  keys : ∀ key ∈ schema.keys.retired, Table.find? members key = none
  nested : ∀ name rules inner, (name, rules) ∈ schema.nested →
    Table.find? members name = some (.object inner) →
    ∀ key ∈ rules.retired, Table.find? inner key = none

theorem KeyRules.Canonical.find?_retired {rules : KeyRules} {members : Members}
    (h : rules.Canonical members) {key : String} (hkey : key ∈ rules.retired) :
    Table.find? members key = none := by
  rcases List.mem_append.mp hkey with hmem | hmem
  · obtain ⟨rule, hrule, rfl⟩ := List.mem_map.mp hmem
    exact h.no_older rule hrule
  · obtain ⟨rule, hrule, rfl⟩ := List.mem_map.mp hmem
    exact h.no_embedded rule hrule

theorem Schema.Canonical.modern {schema : Schema} {members : Members}
    (h : schema.Canonical members) : schema.Modern members where
  keys _ hkey := h.keys.find?_retired hkey
  nested _ _ inner hrule hfind _ hkey := (h.nested _ hrule inner hfind).find?_retired hkey

/-- The rules of a kind, whatever the object and whenever they are applied again, have nothing more
to do with what they leave, and no older word is in it. -/
theorem RecordKind.normalize_twice (kind : RecordKind) {members : Members}
    (hordered : Ordered (.object members)) (first second : Int) :
    kind.schema.normalize second (kind.schema.normalize first members) =
        kind.schema.normalize first members ∧
      kind.schema.Modern (kind.schema.normalize first members) := by
  have hcanonical := kind.schema_orderly.canonical hordered first
  exact ⟨hcanonical.normalize second, hcanonical.modern⟩

/-- A listing with a blank status beside an older one, with two sellers of which the first is passed
over, and with a vehicle under its older key. -/
def mixedListing : Members :=
  [("seller", .object [("id", .string "u2")]), ("status", .string " "),
    ("statut", .string "vendue"), ("vehicule", .object mixedVehicle), ("vendeur", .int 3)]
where
  mixedVehicle : Members :=
    [("datePublication", .int 0), ("publishedAt", .null), ("statut", .string "vendu"),
      ("zone", .string "3")]

def mixedText : String :=
  "\x7b\"vendeur\": 3, \"seller\": \x7b\"id\": \"u2\"\x7d, \"statut\": \"vendue\", \"status\": \" \"," ++
    "\"vehicule\": \x7b\"zone\": \"3\", \"statut\": \"vendu\", \"datePublication\": 0, " ++
    "\"publishedAt\": null\x7d\x7d"

set_option maxRecDepth 2000 in
theorem mixedListing_ordered : Ordered (.object mixedListing) := by
  have hread : Json.read mixedText = .ok (.object mixedListing) := by rfl
  exact Json.read_ordered hread

theorem mixed_listing_normalizes_once :
    Listing.schema.normalize 7 (Listing.schema.normalize 5 mixedListing) =
        Listing.schema.normalize 5 mixedListing ∧
      Listing.schema.Modern (Listing.schema.normalize 5 mixedListing) :=
  RecordKind.normalize_twice .listing mixedListing_ordered 5 7

end VehicleMarket
