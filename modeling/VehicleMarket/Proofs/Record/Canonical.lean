import VehicleMarket.Proofs.Table
import VehicleMarket.Record.Schema

/-!
Members in canonical shape: no older key, no embedded record, nothing blank where blank counts as
absent, and every timestamp there. The rules of a schema leave such members as they are, whatever
the time of reading.
-/
namespace VehicleMarket

namespace KeyRules

structure Canonical (rules : KeyRules) (members : Members) : Prop where
  no_older : ∀ rule ∈ rules.renames, Table.find? members rule.1 = none
  no_embedded : ∀ rule ∈ rules.references, Table.find? members rule.1 = none
  not_blank : ∀ key ∈ rules.blankable, ∀ value,
    Table.find? members key = some value → isBlankValue value = false
  stamped : ∀ key ∈ rules.timestamps, ∃ value,
    Table.find? members key = some value ∧ isNull value = false

variable {rules : KeyRules} {members : Members}

theorem foldl_fixed {ρ : Type} {act : Members → ρ → Members} {all : List ρ}
    (h : ∀ rule ∈ all, act members rule = members) : all.foldl act members = members := by
  induction all with
  | nil => rfl
  | cons rule rest ih =>
    rw [List.foldl_cons, h rule List.mem_cons_self]
    exact ih fun other hmem => h other (List.mem_cons_of_mem rule hmem)

theorem rename_fixed {rule : String × String} (h : Table.find? members rule.1 = none) :
    rename members rule = members := by
  rw [rename, h]

theorem resolve_fixed {rule : String × String} (h : Table.find? members rule.1 = none) :
    resolve members rule = members := by
  rw [resolve, h]

theorem dropBlank_fixed {key : String}
    (h : ∀ value, Table.find? members key = some value → isBlankValue value = false) :
    dropBlank members key = members := by
  unfold dropBlank
  cases hfind : Table.find? members key with
  | none => rfl
  | some value => simp [h value hfind]

theorem stamp_fixed {now : Int} {key : String} {value : Json}
    (hfind : Table.find? members key = some value) (hnull : isNull value = false) :
    stamp now members key = members := by
  simp [stamp, hfind, hnull]

theorem Canonical.settle (h : rules.Canonical members) : rules.settle members = members := by
  have hrenamed : rules.renames.foldl rename members = members :=
    foldl_fixed fun rule hmem => rename_fixed (h.no_older rule hmem)
  have hresolved : rules.references.foldl resolve members = members :=
    foldl_fixed fun rule hmem => resolve_fixed (h.no_embedded rule hmem)
  have hdropped : rules.blankable.foldl dropBlank members = members :=
    foldl_fixed fun key hmem => dropBlank_fixed (h.not_blank key hmem)
  rw [KeyRules.settle, hrenamed, hresolved, hdropped]

theorem Canonical.stampAll (h : rules.Canonical members) (now : Int) :
    rules.stampAll now members = members := by
  refine foldl_fixed ?_
  intro key hmem
  obtain ⟨value, hfind, hnull⟩ := h.stamped key hmem
  exact stamp_fixed hfind hnull

theorem Canonical.normalize (h : rules.Canonical members) (now : Int) :
    rules.normalize now members = members := by
  rw [KeyRules.normalize, h.settle, h.stampAll]

end KeyRules

namespace Schema

structure Canonical (schema : Schema) (members : Members) : Prop where
  sorted : Table.Sorted members
  keys : schema.keys.Canonical members
  nested : ∀ rule ∈ schema.nested, ∀ inner,
    Table.find? members rule.1 = some (.object inner) → rule.2.Canonical inner

variable {schema : Schema} {members : Members}

theorem normalizeNested_fixed {now : Int} {rule : String × KeyRules}
    (hsorted : Table.Sorted members)
    (h : ∀ inner, Table.find? members rule.1 = some (.object inner) → rule.2.Canonical inner) :
    normalizeNested now members rule = members := by
  unfold normalizeNested
  split
  · rename_i inner hfind
    rw [(h inner hfind).normalize now]
    exact hsorted.insert_find? hfind
  · rfl

theorem Canonical.normalize (h : schema.Canonical members) (now : Int) :
    schema.normalize now members = members := by
  have hnested : schema.nested.foldl (normalizeNested now) members = members :=
    KeyRules.foldl_fixed fun rule hmem => normalizeNested_fixed h.sorted (h.nested rule hmem)
  rw [Schema.normalize, h.keys.settle, hnested, h.keys.stampAll]

end Schema

end VehicleMarket
