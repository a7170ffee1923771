import VehicleMarket.Proofs.Toml.Document

/-!
Documents that differ in one text. Two drafts whose tables are the same but for the text under one
dotted path are carried by every line to two such drafts, since no line looks at a text that stands
under a key, or changes it. What comes after the text is read alike.
-/
namespace VehicleMarket.Toml

/-- Tables that are the same but for the text at the end of a path, with tables on the way to it. -/
inductive Varied (old new : String) : List String → Members → Members → Prop where
  | here {key : String} {members others : Members} :
      Table.find? members key = some (.string old) → Table.find? others key = some (.string new) →
      (∀ other, other ≠ key → Table.find? others other = Table.find? members other) →
      Varied old new [key] members others
  | inside {key : String} {path : List String} {origin : TableOrigin}
      {members others inner varied : Members} :
      Table.find? members key = some (.table origin inner) →
      Table.find? others key = some (.table origin varied) →
      Varied old new path inner varied →
      (∀ other, other ≠ key → Table.find? others other = Table.find? members other) →
      Varied old new (key :: path) members others

/-- What a key leads to in tables that differ in one text. -/
inductive Looks (old new : String) (path : List String) (members others : Members) (key : String) :
    Prop where
  | apart : Table.find? others key = Table.find? members key →
      (∀ value, Varied old new path (Table.insert members key value)
        (Table.insert others key value)) → Looks old new path members others key
  | text : Table.find? members key = some (.string old) →
      Table.find? others key = some (.string new) → Looks old new path members others key
  | table {rest : List String} {origin : TableOrigin} {inner varied : Members} :
      Table.find? members key = some (.table origin inner) →
      Table.find? others key = some (.table origin varied) → Varied old new rest inner varied →
      (∀ origin inner varied, Varied old new rest inner varied →
        Varied old new path (Table.insert members key (.table origin inner))
          (Table.insert others key (.table origin varied))) → Looks old new path members others key

section Varied

variable {old new : String} {path : List String} {members others : Members}

theorem insert_agrees {other : String} (h : Table.find? others other = Table.find? members other)
    (added : String) (value : Toml) :
    Table.find? (Table.insert others added value) other =
      Table.find? (Table.insert members added value) other := by
  by_cases heq : other = added
  · rw [heq, Table.find?_insert_self, Table.find?_insert_self]
  · rw [Table.find?_insert_of_ne _ _ heq, Table.find?_insert_of_ne _ _ heq, h]

theorem Varied.looks (h : Varied old new path members others) (key : String) :
    Looks old new path members others key := by
  cases h with
  | @here last _ _ hold hnew hothers =>
    by_cases hkey : key = last
    · rw [← hkey] at hold hnew
      exact .text hold hnew
    · refine .apart (hothers key hkey) fun value => .here ?_ ?_ ?_
      · rw [Table.find?_insert_of_ne _ _ (Ne.symm hkey), hold]
      · rw [Table.find?_insert_of_ne _ _ (Ne.symm hkey), hnew]
      · intro other hother
        exact insert_agrees (hothers other hother) key value
  | @inside first rest origin _ _ inner varied hold hnew hinner hothers =>
    by_cases hkey : key = first
    · subst hkey
      refine .table hold hnew hinner fun origin inner varied hvaried => ?_
      refine .inside (Table.find?_insert_self _ _ _) (Table.find?_insert_self _ _ _) hvaried ?_
      intro other hother
      rw [Table.find?_insert_of_ne _ _ hother, Table.find?_insert_of_ne _ _ hother,
        hothers other hother]
    · refine .apart (hothers key hkey) fun value => ?_
      have hfirst (table : Members) :
          Table.find? (Table.insert table key value) first = Table.find? table first :=
        Table.find?_insert_of_ne _ _ (Ne.symm hkey)
      refine .inside ((hfirst members).trans hold) ((hfirst others).trans hnew) hinner ?_
      · intro other hother
        exact insert_agrees (hothers other hother) key value

end Varied

/-- A change of tables that does the same to tables that differ in one text. -/
def Respects (old new : String) (change : Members → Option Members) : Prop :=
  ∀ {path : List String} {members others result : Members},
    Varied old new path members others → change members = some result →
      ∃ varied, change others = some varied ∧ Varied old new path result varied

section Respects

variable {old new : String}

theorem respects_openHere (key : String) : Respects old new (openHere key) := by
  intro path members others result hvaried h
  unfold openHere at h ⊢
  cases hvaried.looks key with
  | apart hsame hinsert =>
    rw [hsame]
    split at h
    · cases h
      exact ⟨_, rfl, hinsert _⟩
    · cases h
      exact ⟨_, rfl, hinsert _⟩
    · cases h
  | text hold =>
    rw [hold] at h
    cases h
  | table hold hnew hinner hinsert =>
    rw [hold] at h
    rw [hnew]
    split at h
    · rename_i heq
      cases heq
    · rename_i heq
      cases heq
      cases h
      exact ⟨_, rfl, hinsert _ _ _ hinner⟩
    · cases h

theorem respects_addHere (key : String) : Respects old new (addHere key) := by
  intro path members others result hvaried h
  unfold addHere at h ⊢
  cases hvaried.looks key with
  | apart hsame hinsert =>
    rw [hsame]
    split at h
    · cases h
      exact ⟨_, rfl, hinsert _⟩
    · cases h
      exact ⟨_, rfl, hinsert _⟩
    · cases h
  | text hold =>
    rw [hold] at h
    cases h
  | table hold =>
    rw [hold] at h
    cases h

theorem respects_within (key : String) {change : Members → Option Members}
    (hchange : Respects old new change) : Respects old new (within · key change) := by
  intro path members others result hvaried h
  simp only [within] at h ⊢
  cases hvaried.looks key with
  | apart hsame hinsert =>
    rw [hsame]
    split at h
    · obtain ⟨inner, hinner, rfl⟩ := Option.map_eq_some_iff.mp h
      exact ⟨_, by rw [hinner]; rfl, hinsert _⟩
    · cases h
    · obtain ⟨inner, hinner, rfl⟩ := Option.map_eq_some_iff.mp h
      exact ⟨_, by rw [hinner]; rfl, hinsert _⟩
    · split at h
      · obtain ⟨inner, hinner, rfl⟩ := Option.map_eq_some_iff.mp h
        exact ⟨_, by rw [hinner]; rfl, hinsert _⟩
      · cases h
    · cases h
  | text hold =>
    rw [hold] at h
    cases h
  | @table _ origin _ _ hold hnew hinner hinsert =>
    rw [hold] at h
    rw [hnew]
    cases origin with
    | inline => cases h
    | header | implied | dotted =>
      obtain ⟨inner, hresult, rfl⟩ := Option.map_eq_some_iff.mp h
      obtain ⟨varied, hother, hvaried⟩ := hchange hinner hresult
      exact ⟨_, by simp only [hother]; rfl, hinsert _ _ _ hvaried⟩

theorem respects_atHeader (keys : List String) {change : Members → Option Members}
    (hchange : Respects old new change) : Respects old new (atHeader change keys) := by
  induction keys with
  | nil => exact hchange
  | cons key rest ih => exact respects_within key ih

theorem respects_atLast {change : String → Members → Option Members}
    (hchange : ∀ key, Respects old new (change key)) (keys : List String) :
    Respects old new (atLast change keys) := by
  intro path members others result hvaried h
  unfold atLast at h ⊢
  split at h
  · cases h
  · rename_i key _
    exact respects_atHeader keys.dropLast (hchange key) hvaried h

theorem respects_assign (value : Toml) (keys : List String) :
    Respects old new (assign value keys) := by
  induction keys with
  | nil =>
    intro path members others result _ h
    cases h
  | cons key rest ih =>
    intro path members others result hvaried h
    cases rest with
    | nil =>
      rw [assign] at h
      split at h
      · cases h
      · rename_i habsent
        cases h
        cases hvaried.looks key with
        | apart hsame hinsert =>
          have hother : Table.contains others key = Table.contains members key :=
            congrArg Option.isSome hsame
          exact ⟨_, by rw [assign, hother, if_neg habsent], hinsert value⟩
        | text hold => exact absurd (congrArg Option.isSome hold) habsent
        | table hold => exact absurd (congrArg Option.isSome hold) habsent
    | cons next rest =>
      simp only [assign] at h ⊢
      cases hvaried.looks key with
      | apart hsame hinsert =>
        rw [hsame]
        split at h
        · obtain ⟨inner, hinner, rfl⟩ := Option.map_eq_some_iff.mp h
          exact ⟨_, by rw [hinner]; rfl, hinsert _⟩
        · obtain ⟨inner, hinner, rfl⟩ := Option.map_eq_some_iff.mp h
          exact ⟨_, by rw [hinner]; rfl, hinsert _⟩
        · split at h
          · cases h
          · rename_i hrest
            obtain ⟨inner, hinner, rfl⟩ := Option.map_eq_some_iff.mp h
            exact ⟨_, by rw [if_neg hrest, hinner]; rfl, hinsert _⟩
        · cases h
      | text hold =>
        rw [hold] at h
        cases h
      | @table _ origin _ _ hold hnew hinner hinsert =>
        rw [hold] at h
        rw [hnew]
        cases origin with
        | inline | header => cases h
        | dotted =>
          obtain ⟨inner, hresult, rfl⟩ := Option.map_eq_some_iff.mp h
          obtain ⟨varied, hother, hvaried⟩ := ih hinner hresult
          exact ⟨_, by simp only [hother]; rfl, hinsert _ _ _ hvaried⟩
        | implied =>
          simp only at h ⊢
          split at h
          · cases h
          · rename_i hrest
            obtain ⟨inner, hresult, rfl⟩ := Option.map_eq_some_iff.mp h
            obtain ⟨varied, hother, hvaried⟩ := ih hinner hresult
            exact ⟨_, by rw [if_neg hrest, hother]; rfl, hinsert _ _ _ hvaried⟩

end Respects

/-! ## Lines -/

structure DraftVaried (old new : String) (path : List String) (draft other : Draft) : Prop where
  header : other.header = draft.header
  members : Varied old new path draft.members other.members

section Lines

variable {old new : String} {path : List String} {draft other next : Draft}
  (hdraft : DraftVaried old new path draft other)
include hdraft

theorem openHeader_varied {change : String → Members → Option Members}
    (hchange : ∀ key, Respects old new (change key)) {brackets cs rest : List Char}
    (h : openHeader change brackets cs draft = .ok (next, rest)) :
    ∃ varied, openHeader change brackets cs other = .ok (varied, rest) ∧
      DraftVaried old new path next varied := by
  unfold openHeader at h ⊢
  split at h
  · cases h
  · rename_i keys mid hkey
    split at h
    · cases h
    · rename_i members hresult
      obtain ⟨after, hclose, heq⟩ := map_eq_ok h
      cases heq
      obtain ⟨varied, hother, hvaried⟩ := respects_atLast hchange keys hdraft.members hresult
      refine ⟨⟨keys, varied⟩, ?_, rfl, hvaried⟩
      simp only [hother, hclose]
      rfl

theorem addPair_varied {cs rest : List Char} (h : addPair cs draft = .ok (next, rest)) :
    ∃ varied, addPair cs other = .ok (varied, rest) ∧ DraftVaried old new path next varied := by
  unfold addPair at h ⊢
  split at h
  · cases h
  · rename_i keys value mid hpair
    split at h
    · cases h
    · rename_i members hresult
      obtain ⟨after, hend, heq⟩ := map_eq_ok h
      cases heq
      obtain ⟨varied, hother, hvaried⟩ :=
        respects_atHeader draft.header (respects_assign value keys) hdraft.members hresult
      refine ⟨{ other with members := varied }, ?_, hdraft.header, hvaried⟩
      simp only [hdraft.header, hother, hend]
      rfl

theorem readLine_varied {cs rest : List Char} (h : readLine cs draft = .ok (next, rest)) :
    ∃ varied, readLine cs other = .ok (varied, rest) ∧ DraftVaried old new path next varied := by
  unfold readLine at h ⊢
  split at h
  · exact openHeader_varied hdraft respects_addHere h
  · exact openHeader_varied hdraft respects_openHere h
  · exact addPair_varied hdraft h

end Lines

/-- By induction on the lines, each of which leaves the same text unread. -/
theorem readDraft_varied {old new : String} {path : List String} {n : Nat} {cs : List Char}
    {draft other next : Draft} (hdraft : DraftVaried old new path draft other)
    (h : readDraft n draft cs = .ok next) :
    ∃ varied, readDraft n other cs = .ok varied ∧ DraftVaried old new path next varied := by
  induction n generalizing cs draft other with
  | zero =>
    cases h
    exact ⟨other, rfl, hdraft⟩
  | succ n ih =>
    rw [readDraft] at h ⊢
    split at h
    · cases h
    · cases h
      exact ⟨other, rfl, hdraft⟩
    · split at h
      · cases h
      · rename_i later rest hline
        obtain ⟨varied, hother, hvaried⟩ := readLine_varied hdraft hline
        obtain ⟨final, hfinal, hdraft⟩ := ih hvaried h
        refine ⟨final, ?_, hdraft⟩
        simp only [hother, hfinal]

end VehicleMarket.Toml
