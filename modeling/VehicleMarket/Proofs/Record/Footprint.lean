import VehicleMarket.Proofs.Record.Form
import VehicleMarket.Proofs.Record.Idempotent

/-!
How far the rules of a schema reach. The time of reading is seen only under the keys of times that
an object does not give; a key that no rule names keeps what it holds, and no key turns up that is
neither in the object nor canonical. What stands under a canonical key is never displaced by what
stands under an older one, in whatever order a text has them.
-/
namespace VehicleMarket

open Json (Ordered)

/-- The canonical keys of a kind: those under which its records are written. -/
def RecordKind.canonicalKeys : RecordKind → List String
  | .user => Table.keys (User.blank .epoch).toJson.members
  | .vehicle => Table.keys (Vehicle.blank .epoch).toJson.members
  | .listing => Table.keys (Listing.create .empty (Vehicle.blank .epoch) .empty).toJson.members
  | .message => Table.keys (Message.blank .epoch).toJson.members
  | .history => Table.keys (VehicleHistory.create .empty).toJson.members

namespace KeyRules

def targets (rules : KeyRules) : List String :=
  rules.renames.map Prod.snd ++ rules.referred ++ rules.timestamps

def named (rules : KeyRules) : List String :=
  rules.retired ++ rules.targets ++ rules.blankable

/-- A time that an object does not give, not under an older key either. -/
def Untimed (rules : KeyRules) (members : Members) (key : String) : Prop :=
  key ∈ rules.timestamps ∧
    (Table.find? (rules.renamed members) key = none ∨
      Table.find? (rules.renamed members) key = some .null)

/-- An object becomes the same at two times, but for the times that are filled in. -/
structure SameButTimes (rules : KeyRules) (members : Members) (first second : Int) : Prop where
  filled : ∀ key, rules.Untimed members key →
    Table.find? (rules.normalize first members) key = some (.int first) ∧
      Table.find? (rules.normalize second members) key = some (.int second)
  same : ∀ key, ¬ rules.Untimed members key →
    Table.find? (rules.normalize first members) key =
      Table.find? (rules.normalize second members) key

end KeyRules

namespace Schema

def named (schema : Schema) : List String :=
  schema.keys.named ++ Table.keys schema.nested

def Nests (schema : Schema) (members : Members) (key : String) : Prop :=
  ∃ rules inner, (key, rules) ∈ schema.nested ∧
    Table.find? (schema.keys.renamed members) key = some (.object inner)

/-- An object becomes the same at two times, but for the times that are filled in, in the object
itself and in those nested in it. -/
structure SameButTimes (schema : Schema) (members : Members) (first second : Int) : Prop where
  filled : ∀ key, schema.keys.Untimed members key →
    Table.find? (schema.normalize first members) key = some (.int first) ∧
      Table.find? (schema.normalize second members) key = some (.int second)
  nested : ∀ key rules inner, (key, rules) ∈ schema.nested →
    Table.find? (schema.keys.renamed members) key = some (.object inner) →
    Table.find? (schema.normalize first members) key =
        some (.object (rules.normalize first inner)) ∧
      Table.find? (schema.normalize second members) key =
        some (.object (rules.normalize second inner)) ∧
      rules.SameButTimes inner first second
  same : ∀ key, ¬ schema.keys.Untimed members key → ¬ schema.Nests members key →
    Table.find? (schema.normalize first members) key =
      Table.find? (schema.normalize second members) key

/-- What a value becomes under a key that no rule has to fill: an object that is nested there is
brought into shape. -/
def shaped (schema : Schema) (now : Int) (key : String) (value : Json) : Json :=
  match Table.find? schema.nested key with
  | some rules => nestedValue rules now value
  | none => value

/-! ## Two times -/

namespace Orderly

variable {schema : Schema} {members : Members} {key : String}

theorem find?_untimed (h : schema.Orderly) (hkey : schema.keys.Untimed members key) (now : Int) :
    Table.find? (schema.normalize now members) key = some (.int now) := by
  obtain ⟨htime, hnone | hnull⟩ := hkey
  · rw [h.find?_time now members htime, hnone]
    rfl
  · rw [h.find?_time now members htime, hnull]
    rfl

theorem find?_same (h : schema.Orderly) (hkey : ¬ schema.keys.Untimed members key)
    (hnests : ¬ schema.Nests members key) (first second : Int) :
    Table.find? (schema.normalize first members) key =
      Table.find? (schema.normalize second members) key := by
  by_cases htime : key ∈ schema.keys.timestamps
  · rw [h.find?_time first members htime, h.find?_time second members htime]
    cases hfind : Table.find? (schema.keys.renamed members) key with
    | none => exact absurd ⟨htime, .inl hfind⟩ hkey
    | some value =>
      cases value with
      | null => exact absurd ⟨htime, .inr hfind⟩ hkey
      | _ => rfl
  · by_cases hnested : key ∈ Table.keys schema.nested
    · obtain ⟨rule, hrule, rfl⟩ := List.mem_map.mp hnested
      rw [h.find?_nested first members hrule, h.find?_nested second members hrule]
      cases hfind : Table.find? (schema.keys.renamed members) rule.1 with
      | none => rfl
      | some value =>
        cases value with
        | object inner => exact absurd ⟨rule.2, inner, hrule, hfind⟩ hnests
        | _ => rfl
    · rw [h.find?_plain first members htime hnested, h.find?_plain second members htime hnested]

end Orderly

end Schema

theorem KeyRules.Orderly.sameButTimes {rules : KeyRules} (h : rules.Orderly) (members : Members)
    (first second : Int) : rules.SameButTimes members first second where
  filled _ hkey := ⟨h.flat.find?_untimed hkey first, h.flat.find?_untimed hkey second⟩
  same key hkey := by
    have hflat : ¬ rules.flat.Nests members key := fun ⟨_, _, hmem, _⟩ =>
      absurd hmem List.not_mem_nil
    exact h.flat.find?_same hkey hflat first second

theorem Schema.Orderly.sameButTimes {schema : Schema} (h : schema.Orderly) (members : Members)
    (first second : Int) : schema.SameButTimes members first second where
  filled _ hkey := ⟨h.find?_untimed hkey first, h.find?_untimed hkey second⟩
  nested key rules inner hrule hfind := by
    have hshape (now : Int) : Table.find? (schema.normalize now members) key =
        some (.object (rules.normalize now inner)) := by
      rw [h.find?_nested now members hrule, hfind]
      rfl
    exact ⟨hshape first, hshape second, (h.nested _ hrule).sameButTimes inner first second⟩
  same _ hkey hnests := h.find?_same hkey hnests first second

/-! ## Keys that are left alone -/

namespace KeyRules

variable {rules : KeyRules} {members : Members} {key : String}

theorem given?_of_not_target (hkey : key ∉ rules.targets) :
    rules.given? members key = Table.find? members key := by
  simp only [targets, List.mem_append, not_or] at hkey
  obtain ⟨⟨hrename, hreference⟩, -⟩ := hkey
  rw [given?, moved?_of_not_target hrename, moved?_of_not_target hreference, Option.or_none,
    Option.or_none]

end KeyRules

namespace Schema.Orderly

variable {schema : Schema} {members : Members} {key : String} {value : Json}

theorem find?_of_not_named (h : schema.Orderly) (hsorted : Table.Sorted members) (now : Int)
    (hkey : key ∉ schema.named) :
    Table.find? (schema.normalize now members) key = Table.find? members key := by
  simp only [named, KeyRules.named, List.mem_append, not_or] at hkey
  obtain ⟨⟨⟨hretired, htarget⟩, hblank⟩, hnested⟩ := hkey
  have htime : key ∉ schema.keys.timestamps := fun hmem => htarget (List.mem_append_right _ hmem)
  rw [h.find?_plain now members htime hnested, KeyRules.find?_settle h.keys.lawful hsorted,
    if_neg hretired, if_neg hblank, KeyRules.given?_of_not_target htarget]

theorem mem_targets_of_appears (h : schema.Orderly) (hsorted : Table.Sorted members) (now : Int)
    (hnone : Table.find? members key = none)
    (hkey : Table.find? (schema.normalize now members) key ≠ none) :
    key ∈ schema.keys.targets := by
  refine Decidable.byContradiction fun htarget => hkey ?_
  have hgiven : schema.keys.given? members key = none :=
    (KeyRules.given?_of_not_target htarget).trans hnone
  have htime : key ∉ schema.keys.timestamps := fun hmem => htarget (List.mem_append_right _ hmem)
  by_cases hnested : key ∈ Table.keys schema.nested
  · obtain ⟨hretired, _, hreferred, _⟩ := h.apart key hnested
    obtain ⟨rule, hrule, rfl⟩ := List.mem_map.mp hnested
    rw [h.find?_nested now members hrule,
      ← KeyRules.given?_eq_renamed h.keys.lawful hretired hreferred, hgiven, Option.map_none]
  · rw [h.find?_plain now members htime hnested, KeyRules.find?_settle h.keys.lawful hsorted,
      hgiven]
    simp

/-! ## Canonical keys against older ones -/

theorem find?_canonical (h : schema.Orderly) (hsorted : Table.Sorted members) (now : Int)
    (hretired : key ∉ schema.keys.retired) (hfind : Table.find? members key = some value)
    (hvalue : KeyRules.isBlankValue value = false) :
    Table.find? (schema.normalize now members) key = some (schema.shaped now key value) := by
  have hrenamed : Table.find? (schema.keys.renamed members) key = some value := by
    rw [KeyRules.find?_renamed h.keys.lawful hretired, hfind]
    rfl
  by_cases hnested : key ∈ Table.keys schema.nested
  · obtain ⟨rule, hrule, rfl⟩ := List.mem_map.mp hnested
    rw [h.find?_nested now members hrule, hrenamed, shaped, Table.find?_of_mem h.nodup hrule]
    rfl
  · have hshaped : schema.shaped now key value = value := by
      rw [shaped, Table.find?_eq_none_iff.mpr hnested]
    rw [hshaped]
    by_cases htime : key ∈ schema.keys.timestamps
    · rw [h.find?_time now members htime, hrenamed]
      cases value with
      | null => exact absurd hvalue (by simp [KeyRules.isBlankValue])
      | _ => rfl
    · have hgiven : schema.keys.given? members key = some value := by
        rw [KeyRules.given?, hfind]
        rfl
      rw [h.find?_plain now members htime hnested, KeyRules.find?_settle h.keys.lawful hsorted,
        if_neg hretired, hgiven]
      split
      · simp [hvalue]
      · rfl

end Schema.Orderly

/-! ## The seller of a listing -/

def PassedOver (members : Members) (key : String) : Prop :=
  ∀ value id, Table.find? members key = some value → ¬ Embeds value id

/-- Where the seller of a listing is taken from. -/
inductive Listing.SellerFrom (members : Members) : Option Json → Prop where
  | canonical {id : Json} : Table.find? members "sellerId" = some id → SellerFrom members (some id)
  | vendeur {value id : Json} : Table.find? members "sellerId" = none →
      Table.find? members "vendeur" = some value → Embeds value id → SellerFrom members (some id)
  | seller {value id : Json} : Table.find? members "sellerId" = none →
      PassedOver members "vendeur" → Table.find? members "seller" = some value →
      Embeds value id → SellerFrom members (some id)
  | nowhere : Table.find? members "sellerId" = none → PassedOver members "vendeur" →
      PassedOver members "seller" → SellerFrom members none

theorem embeddedId?_eq_some_iff {value id : Json} :
    KeyRules.embeddedId? value = some id ↔ Embeds value id := by
  constructor
  · intro h
    unfold KeyRules.embeddedId? at h
    split at h
    · exact .record h
    · cases h
      exact .text _
    · exact absurd h (by simp)
  · exact Embeds.embeddedId?

theorem embedded_cases (members : Members) (key : String) :
    (∃ value id, Table.find? members key = some value ∧ Embeds value id ∧
      (Table.find? members key).bind KeyRules.embeddedId? = some id) ∨
    (PassedOver members key ∧ (Table.find? members key).bind KeyRules.embeddedId? = none) := by
  cases hbind : (Table.find? members key).bind KeyRules.embeddedId? with
  | some id =>
    obtain ⟨value, hfind, hid⟩ := Option.bind_eq_some_iff.mp hbind
    exact .inl ⟨value, id, hfind, embeddedId?_eq_some_iff.mp hid, rfl⟩
  | none =>
    refine .inr ⟨fun value id hfind hembeds => ?_, rfl⟩
    rw [hfind, Option.bind_some, embeddedId?_eq_some_iff.mpr hembeds] at hbind
    exact absurd hbind (by simp)

theorem Listing.find?_sellerId (members : Members) (now : Int) :
    Table.find? (schema.normalize now members) "sellerId" =
      ((Table.find? members "sellerId").or
        ((Table.find? members "vendeur").bind KeyRules.embeddedId?)).or
          ((Table.find? members "seller").bind KeyRules.embeddedId?) := by
  have horderly : schema.Orderly := RecordKind.schema_orderly .listing
  have hrenamed : KeyRules.moved? some members schema.keys.renames "sellerId" = none :=
    KeyRules.moved?_of_not_target (by decide)
  have hembedded : KeyRules.moved? KeyRules.embeddedId? members schema.keys.references "sellerId" =
      ((Table.find? members "vendeur").bind KeyRules.embeddedId?).or
        ((Table.find? members "seller").bind KeyRules.embeddedId?) := by
    have hnone : KeyRules.moved? KeyRules.embeddedId? members [] "sellerId" = none := rfl
    show KeyRules.moved? _ members [("vendeur", "sellerId"), ("seller", "sellerId")] _ = _
    rw [KeyRules.moved?_cons, KeyRules.moved?_cons, if_pos rfl, if_pos rfl, hnone, Option.or_none]
  rw [horderly.find?_plain now members (by decide) (by decide),
    KeyRules.find?_settle_of_given horderly.keys.lawful members (by decide) (by decide),
    KeyRules.given?, hrenamed, hembedded, Option.or_none, Option.or_assoc]

theorem Listing.sellerFrom (members : Members) (now : Int) :
    SellerFrom members (Table.find? (schema.normalize now members) "sellerId") := by
  rw [find?_sellerId]
  cases hid : Table.find? members "sellerId" with
  | some id => exact .canonical hid
  | none =>
    rcases embedded_cases members "vendeur" with ⟨value, id, hfind, hembeds, hbind⟩ | ⟨hover, hbind⟩
    · rw [hbind]
      exact .vendeur hid hfind hembeds
    · rw [hbind]
      rcases embedded_cases members "seller" with
        ⟨value, id, hfind, hembeds, hbind⟩ | ⟨hagain, hbind⟩
      · rw [hbind]
        exact .seller hid hover hfind hembeds
      · rw [hbind]
        exact .nowhere hid hover hagain

/-! ## The footprint -/

/-- What the rules of a kind do to an object, and what they leave. -/
structure Footprint (kind : RecordKind) (members : Members) (first second : Int) : Prop where
  times : kind.schema.SameButTimes members first second
  untouched : ∀ now key, key ∉ kind.schema.named →
    Table.find? (kind.schema.normalize now members) key = Table.find? members key
  no_others : ∀ now key, Table.find? (kind.schema.normalize now members) key ≠ none →
    Table.find? members key ≠ none ∨ key ∈ kind.canonicalKeys
  /-- The entries are those of a text, in any order; of two with one key the last one counts. -/
  canonical_wins : ∀ now entries, Table.ofList entries = members →
    ∀ old key value, (old, key) ∈ kind.schema.keys.renames →
      Table.find? entries.reverse key = some value → KeyRules.isBlankValue value = false →
      Table.find? (kind.schema.normalize now members) key =
        some (kind.schema.shaped now key value)
  seller : kind = .listing → ∀ now,
    Listing.SellerFrom members (Table.find? (kind.schema.normalize now members) "sellerId")

theorem RecordKind.targets_canonical (kind : RecordKind) :
    ∀ key ∈ kind.schema.keys.targets, key ∈ kind.canonicalKeys := by
  cases kind <;> decide

theorem RecordKind.nested_vehicle (kind : RecordKind) :
    ∀ rule ∈ kind.schema.nested, rule.2 = Vehicle.keyRules := by
  cases kind <;> decide

theorem RecordKind.footprint_of_sorted (kind : RecordKind) {members : Members}
    (hsorted : Table.Sorted members) (first second : Int) :
    Footprint kind members first second where
  times := kind.schema_orderly.sameButTimes members first second
  untouched now _ hkey := kind.schema_orderly.find?_of_not_named hsorted now hkey
  no_others now key hkey := by
    by_cases hnone : Table.find? members key = none
    · exact .inr (kind.targets_canonical key
        (kind.schema_orderly.mem_targets_of_appears hsorted now hnone hkey))
    · exact .inl hnone
  canonical_wins now entries hentries old key value hrule hlast hvalue := by
    have hfind : Table.find? members key = some value := by
      rw [← hentries, Table.find?_ofList_last, hlast]
    have hretired : key ∉ kind.schema.keys.retired :=
      kind.schema_orderly.keys.lawful.renames _ hrule
    exact kind.schema_orderly.find?_canonical hsorted now hretired hfind hvalue
  seller hlisting now := by
    subst hlisting
    exact Listing.sellerFrom members now

/-- The rules of a kind leave an object as their footprint tells, and so do those for what is nested
in it, which is always a vehicle. -/
theorem RecordKind.normalize_footprint (kind : RecordKind) {members : Members}
    (hordered : Ordered (.object members)) (first second : Int) :
    Footprint kind members first second ∧
      ∀ name rules inner, (name, rules) ∈ kind.schema.nested →
        Table.find? (kind.schema.keys.renamed members) name = some (.object inner) →
        rules = Vehicle.keyRules ∧ Footprint .vehicle inner first second := by
  refine ⟨kind.footprint_of_sorted hordered.sorted first second, ?_⟩
  intro name rules inner hrule hfind
  have hinner : Ordered (.object inner) :=
    kind.schema_orderly.ordered_nested hordered hrule hfind
  refine ⟨kind.nested_vehicle _ hrule, ?_⟩
  exact RecordKind.footprint_of_sorted .vehicle hinner.sorted first second

theorem mixed_listing_footprint :
    Footprint .listing mixedListing 5 7 ∧
      ∀ name rules inner, (name, rules) ∈ Listing.schema.nested →
        Table.find? (Listing.schema.keys.renamed mixedListing) name = some (.object inner) →
        rules = Vehicle.keyRules ∧ Footprint .vehicle inner 5 7 :=
  RecordKind.normalize_footprint .listing mixedListing_ordered 5 7

end VehicleMarket
