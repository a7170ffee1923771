import Mathlib.Order.Defs.Unbundled
import VehicleMarket.Identifier
import VehicleMarket.Table

/-!
Tables over strictly ordered keys. Insertion keeps a table sorted, and in a sorted table the
entries and the look-ups say the same. Entries given in key order are inserted one behind the other,
which is how a table that was written out comes back.
-/
namespace VehicleMarket

instance stringOrder : IsStrictTotalOrder String (· < ·) where
  irrefl := String.lt_irrefl
  trans _ _ _ := String.lt_trans
  trichotomous _ _ hab hba := String.le_antisymm hba hab

instance identifierOrder {kind : RecordKind} : IsStrictTotalOrder (Identifier kind) (· < ·) where
  irrefl id := String.lt_irrefl id.text
  trans _ _ _ := String.lt_trans
  trichotomous a b hab hba := by
    have htext : a.text = b.text := String.le_antisymm hba hab
    cases a
    cases b
    exact congrArg Identifier.mk htext

namespace Table

section Projections

variable {κ α β γ : Type}

theorem values_mapValues (table : Table κ α) (change : α → β) :
    values (mapValues table change) = (values table).map change := by
  simp [values, mapValues]

theorem mapValues_mapValues (table : Table κ α) (change : α → β) (view : β → γ) :
    mapValues (mapValues table change) view =
      mapValues table fun value => view (change value) := by
  simp [mapValues]

theorem values_eq_of_mapValues {table : Table κ α} {other : Table κ β}
    {view : α → γ} {viewOther : β → γ}
    (h : mapValues table view = mapValues other viewOther) :
    (values table).map view = (values other).map viewOther := by
  have hvalues := congrArg values h
  simpa [values, mapValues, Function.comp_def] using hvalues

end Projections

section Entries

variable {κ α β : Type} [DecidableEq κ]

theorem find?_mapValues (table : Table κ α) (change : α → β) (key : κ) :
    find? (mapValues table change) key = (find? table key).map change := by
  induction table with
  | nil => rfl
  | cons entry table ih =>
    have hcons : mapValues (entry :: table) change =
        (entry.1, change entry.2) :: mapValues table change := rfl
    rw [hcons, find?_cons, find?_cons, ih]
    by_cases heq : key = entry.1
    · rw [if_pos heq, if_pos heq]
      rfl
    · rw [if_neg heq, if_neg heq]

/-- What a projection shows of a table is the same after a change that it does not show. -/
theorem mapValues_modify {table : Table κ α} {key : κ} {value : α} {change : α → α} {view : α → β}
    (hfind : find? table key = some value) (hview : view (change value) = view value) :
    mapValues (modify table key change) view = mapValues table view := by
  induction table with
  | nil => rfl
  | cons entry table ih =>
    rw [find?_cons] at hfind
    by_cases heq : key = entry.1
    · rw [if_pos heq] at hfind
      have hvalue : entry.2 = value := Option.some.inj hfind
      have hmodify : modify (entry :: table) key change = (entry.1, change entry.2) :: table := by
        rw [modify, if_pos heq]
      rw [hmodify]
      simp [mapValues, hvalue, hview]
    · rw [if_neg heq] at hfind
      have hmodify : modify (entry :: table) key change = entry :: modify table key change := by
        rw [modify, if_neg heq]
      have hrest := ih hfind
      rw [hmodify]
      simp only [mapValues, List.map_cons] at hrest ⊢
      rw [hrest]

theorem keys_modify (table : Table κ α) (key : κ) (change : α → α) :
    keys (modify table key change) = keys table := by
  induction table with
  | nil => rfl
  | cons entry table ih =>
    unfold modify
    split
    · rfl
    · exact congrArg (entry.1 :: ·) ih

theorem mem_of_mem_erase {table : Table κ α} {key : κ} {entry : κ × α}
    (h : entry ∈ erase table key) : entry ∈ table := by
  induction table with
  | nil => exact h
  | cons first rest ih =>
    unfold erase at h
    split at h
    · exact List.mem_cons_of_mem first h
    · rcases List.mem_cons.mp h with heq | hrest
      · exact heq ▸ List.mem_cons_self
      · exact List.mem_cons_of_mem first (ih hrest)

theorem find?_append (front back : Table κ α) (key : κ) :
    find? (front ++ back) key = (find? front key).or (find? back key) := by
  induction front with
  | nil => rfl
  | cons entry rest ih =>
    rw [List.cons_append, find?_cons, find?_cons, ih]
    by_cases heq : key = entry.1
    · rw [if_pos heq, if_pos heq]
      rfl
    · rw [if_neg heq, if_neg heq]

theorem find?_of_mem {table : Table κ α} (hkeys : (keys table).Nodup) {key : κ} {value : α}
    (hmem : (key, value) ∈ table) : find? table key = some value := by
  induction table with
  | nil => exact absurd hmem List.not_mem_nil
  | cons entry rest ih =>
    obtain ⟨hfirst, hrest⟩ := List.nodup_cons.mp hkeys
    rcases List.mem_cons.mp hmem with heq | hmem
    · rw [← heq, find?_cons, if_pos rfl]
    · have hne : key ≠ entry.1 := fun heq => hfirst (heq ▸ List.mem_map_of_mem hmem)
      rw [find?_cons, if_neg hne]
      exact ih hrest hmem

end Entries

section Order

variable {κ α β : Type} [LT κ] [DecidableLT κ] [DecidableEq κ]

theorem mem_insert {table : Table κ α} {key : κ} {value : α} {entry : κ × α}
    (h : entry ∈ insert table key value) : entry = (key, value) ∨ entry ∈ table := by
  induction table with
  | nil => exact .inl (List.mem_singleton.mp h)
  | cons first rest ih =>
    unfold insert at h
    split at h
    · exact List.mem_cons.mp h
    · split at h
      · rcases List.mem_cons.mp h with heq | hrest
        · exact .inl heq
        · exact .inr (List.mem_cons_of_mem first hrest)
      · rcases List.mem_cons.mp h with heq | hrest
        · exact .inr (heq ▸ List.mem_cons_self)
        · rcases ih hrest with heq | hrest
          · exact .inl heq
          · exact .inr (List.mem_cons_of_mem first hrest)

theorem insert_insert [Std.Irrefl (α := κ) (· < ·)] (table : Table κ α) (key : κ)
    (first second : α) : insert (insert table key first) key second = insert table key second := by
  have hself : ¬ key < key := Std.Irrefl.irrefl key
  induction table with
  | nil => simp [insert, hself]
  | cons entry rest ih =>
    obtain ⟨other, value⟩ := entry
    by_cases hbefore : key < other
    · simp [insert, hbefore, hself]
    · by_cases heq : key = other
      · subst heq
        simp [insert, hself]
      · simp [insert, hbefore, heq, ih]

theorem mem_values_insert {table : Table κ α} {key : κ} {value other : α}
    (h : other ∈ values (insert table key value)) : other = value ∨ other ∈ values table := by
  obtain ⟨entry, hentry, rfl⟩ := List.mem_map.mp h
  rcases mem_insert hentry with heq | hmem
  · exact .inl (congrArg Prod.snd heq)
  · exact .inr (List.mem_map_of_mem hmem)

theorem mem_of_mem_foldl_insert {entries : List (κ × α)} {table : Table κ α} {entry : κ × α}
    (h : entry ∈ entries.foldl (fun table entry => Table.insert table entry.1 entry.2) table) :
    entry ∈ entries ∨ entry ∈ table := by
  induction entries generalizing table with
  | nil => exact .inr h
  | cons first rest ih =>
    rcases ih h with hrest | hinserted
    · exact .inl (List.mem_cons_of_mem first hrest)
    · rcases mem_insert hinserted with heq | hmem
      · exact .inl (heq ▸ List.mem_cons_self)
      · exact .inr hmem

theorem mem_of_mem_ofList {entries : List (κ × α)} {entry : κ × α} (h : entry ∈ ofList entries) :
    entry ∈ entries :=
  (mem_of_mem_foldl_insert h).resolve_right List.not_mem_nil

theorem insert_between {table : Table κ α} {key : κ} (value : α) (h : find? table key = none) :
    ∃ front back, table = front ++ back ∧
      insert table key value = front ++ (key, value) :: back := by
  induction table with
  | nil => exact ⟨[], [], rfl, rfl⟩
  | cons entry rest ih =>
    rw [find?_cons] at h
    by_cases heq : key = entry.1
    · rw [if_pos heq] at h
      exact absurd h (Option.some_ne_none _)
    · rw [if_neg heq] at h
      unfold insert
      rw [if_neg heq]
      split
      · exact ⟨[], entry :: rest, rfl, rfl⟩
      · obtain ⟨front, back, htable, hinsert⟩ := ih h
        exact ⟨entry :: front, back, by rw [htable, List.cons_append],
          by rw [hinsert, List.cons_append]⟩

theorem insert_perm {table : Table κ α} {key : κ} (value : α) (h : find? table key = none) :
    (insert table key value).Perm ((key, value) :: table) := by
  obtain ⟨front, back, htable, hinsert⟩ := insert_between value h
  rw [hinsert, htable]
  exact List.perm_middle

theorem find?_foldl_insert (entries : List (κ × α)) (table : Table κ α) (key : κ) :
    find? (entries.foldl (fun table entry => Table.insert table entry.1 entry.2) table) key =
      (find? entries.reverse key).or (find? table key) := by
  induction entries generalizing table with
  | nil => rfl
  | cons entry rest ih =>
    have hentry : find? (insert table entry.1 entry.2) key =
        (find? [entry] key).or (find? table key) := by
      by_cases heq : key = entry.1
      · rw [heq, find?_insert_self, find?_cons, if_pos rfl]
        rfl
      · rw [find?_insert_of_ne table entry.2 heq, find?_cons, if_neg heq]
        rfl
    rw [List.foldl_cons, ih, hentry, List.reverse_cons, find?_append, Option.or_assoc]

theorem foldl_insert_perm (entries : List (κ × α)) (hkeys : (keys entries).Nodup)
    {table : Table κ α} (hnew : ∀ entry ∈ entries, find? table entry.1 = none) :
    (entries.foldl (fun table entry => Table.insert table entry.1 entry.2) table).Perm
      (entries ++ table) := by
  induction entries generalizing table with
  | nil => exact .refl _
  | cons entry rest ih =>
    obtain ⟨hfirst, hrest⟩ := List.nodup_cons.mp hkeys
    have hlater : ∀ other ∈ rest, find? (insert table entry.1 entry.2) other.1 = none := by
      intro other hmem
      have hne : other.1 ≠ entry.1 := fun heq => hfirst (heq ▸ List.mem_map_of_mem hmem)
      rw [find?_insert_of_ne table entry.2 hne]
      exact hnew other (List.mem_cons_of_mem entry hmem)
    have hone : (rest ++ insert table entry.1 entry.2).Perm (rest ++ entry :: table) :=
      (insert_perm entry.2 (hnew entry List.mem_cons_self)).append_left rest
    exact ((ih hrest hlater).trans hone).trans List.perm_middle

theorem ofList_perm {entries : List (κ × α)} (hkeys : (keys entries).Nodup) :
    (ofList entries).Perm entries := by
  have hperm : (ofList entries).Perm (entries ++ []) :=
    foldl_insert_perm entries hkeys fun _ _ => rfl
  rwa [List.append_nil] at hperm

theorem find?_ofList_last (entries : List (κ × α)) (key : κ) :
    find? (ofList entries) key = find? entries.reverse key := by
  rw [ofList, find?_foldl_insert]
  exact Option.or_none

theorem find?_ofList (entries : List (κ × α)) (hkeys : (keys entries).Nodup) (key : κ) :
    find? (ofList entries) key = find? entries key := by
  have hreverse : (keys entries.reverse).Nodup := by
    rw [keys, List.map_reverse]
    exact List.pairwise_reverse.mpr (hkeys.imp Ne.symm)
  rw [find?_ofList_last]
  cases hfind : find? entries key with
  | none =>
    rw [find?_eq_none_iff] at hfind ⊢
    rwa [keys, List.map_reverse, List.mem_reverse]
  | some value =>
    exact find?_of_mem hreverse (List.mem_reverse.mpr (mem_of_find? hfind))

end Order

section Sorted

variable {κ α β : Type} [LT κ]

theorem sorted_iff_keys (table : Table κ α) : Sorted table ↔ (keys table).Pairwise (· < ·) := by
  rw [Sorted, keys, List.pairwise_map]

theorem Sorted.of_keys {table : Table κ α} {other : Table κ β} (h : Sorted table)
    (hkeys : keys other = keys table) : Sorted other := by
  rw [sorted_iff_keys] at h ⊢
  rw [hkeys]
  exact h

theorem Sorted.erase [DecidableEq κ] {table : Table κ α} (h : Sorted table) (key : κ) :
    Sorted (erase table key) := by
  induction table with
  | nil => exact List.Pairwise.nil
  | cons entry rest ih =>
    obtain ⟨hfirst, hrest⟩ := List.pairwise_cons.mp h
    unfold Table.erase
    split
    · exact hrest
    · refine List.pairwise_cons.mpr ⟨?_, ih hrest⟩
      intro other hmem
      exact hfirst other (mem_of_mem_erase hmem)

variable [DecidableEq κ] [IsStrictTotalOrder κ (· < ·)]

theorem find?_of_greatest {table : Table κ α} {key : κ} (h : ∀ entry ∈ table, entry.1 < key) :
    find? table key = none := by
  rw [find?_eq_none_iff]
  intro hmem
  obtain ⟨entry, hentry, heq⟩ := List.mem_map.mp hmem
  exact irrefl_of (· < ·) key (heq ▸ h entry hentry)

omit [DecidableEq κ] in
theorem Sorted.keys_nodup {table : Table κ α} (h : Sorted table) : (keys table).Nodup := by
  refine ((sorted_iff_keys table).mp h).imp ?_
  rintro a _ hless rfl
  exact irrefl_of (· < ·) a hless

theorem Sorted.find?_of_mem {table : Table κ α} (h : Sorted table) {key : κ} {value : α}
    (hmem : (key, value) ∈ table) : find? table key = some value :=
  Table.find?_of_mem h.keys_nodup hmem

theorem Sorted.ext {table other : Table κ α} (h : Sorted table) (hother : Sorted other)
    (hfind : ∀ key, find? table key = find? other key) : table = other := by
  have hmem : ∀ entry, entry ∈ table ↔ entry ∈ other := by
    intro entry
    constructor
    · intro hentry
      exact mem_of_find? ((hfind entry.1).symm.trans (h.find?_of_mem hentry))
    · intro hentry
      exact mem_of_find? ((hfind entry.1).trans (hother.find?_of_mem hentry))
  have hnodup {entries : Table κ α} (hkeys : (keys entries).Nodup) : entries.Nodup :=
    List.Pairwise.of_map Prod.fst (fun _ _ hne heq => hne (congrArg Prod.fst heq)) hkeys
  have hperm : table.Perm other :=
    (List.perm_ext_iff_of_nodup (hnodup h.keys_nodup) (hnodup hother.keys_nodup)).mpr hmem
  refine hperm.eq_of_pairwise ?_ h hother
  intro a b _ _ hab hba
  exact absurd hba (asymm_of (· < ·) hab)

theorem Sorted.find?_erase_self {table : Table κ α} (h : Sorted table) (key : κ) :
    find? (Table.erase table key) key = none := by
  induction table with
  | nil => rfl
  | cons entry rest ih =>
    obtain ⟨hfirst, hrest⟩ := List.pairwise_cons.mp h
    unfold Table.erase
    split
    · rename_i heq
      rw [find?_eq_none_iff]
      intro hmem
      obtain ⟨other, hother, hkey⟩ := List.mem_map.mp hmem
      have hless := hfirst other hother
      rw [hkey, heq] at hless
      exact irrefl_of (· < ·) entry.1 hless
    · rename_i hne
      rw [find?_cons, if_neg hne]
      exact ih hrest

variable [DecidableLT κ]

theorem insert_of_greatest {table : Table κ α} {key : κ} (value : α)
    (h : ∀ entry ∈ table, entry.1 < key) : insert table key value = table ++ [(key, value)] := by
  induction table with
  | nil => rfl
  | cons entry rest ih =>
    have hless := h entry List.mem_cons_self
    have hnot : ¬ key < entry.1 := asymm hless
    have hne : key ≠ entry.1 := fun heq => irrefl_of (· < ·) key (heq ▸ hless)
    unfold insert
    rw [if_neg hnot, if_neg hne, ih fun other hmem => h other (List.mem_cons_of_mem entry hmem)]
    rfl

theorem Sorted.insert {table : Table κ α} (h : Sorted table) (key : κ) (value : α) :
    Sorted (insert table key value) := by
  induction table with
  | nil => exact List.pairwise_singleton _ _
  | cons entry rest ih =>
    obtain ⟨hfirst, hrest⟩ := List.pairwise_cons.mp h
    unfold Table.insert
    split
    · rename_i hless
      refine List.pairwise_cons.mpr ⟨?_, h⟩
      intro other hmem
      rcases List.mem_cons.mp hmem with heq | hmem
      · exact heq ▸ hless
      · exact trans_of (· < ·) hless (hfirst other hmem)
    · rename_i hnot
      split
      · rename_i heq
        exact List.pairwise_cons.mpr ⟨fun other hmem => heq ▸ hfirst other hmem, hrest⟩
      · rename_i hne
        refine List.pairwise_cons.mpr ⟨?_, ih hrest⟩
        intro other hmem
        rcases mem_insert hmem with heq | hmem
        · rcases trichotomous_of (· < ·) key entry.1 with hless | hsame | hgreater
          · exact absurd hless hnot
          · exact absurd hsame hne
          · exact heq ▸ hgreater
        · exact hfirst other hmem

theorem sorted_foldl_insert (entries : List (κ × α)) {table : Table κ α} (h : Sorted table) :
    Sorted (entries.foldl (fun table entry => Table.insert table entry.1 entry.2) table) := by
  induction entries generalizing table with
  | nil => exact h
  | cons entry rest ih => exact ih (h.insert entry.1 entry.2)

theorem sorted_ofList (entries : List (κ × α)) : Sorted (ofList entries) :=
  sorted_foldl_insert entries List.Pairwise.nil

theorem Sorted.insert_find? {table : Table κ α} (h : Sorted table) {key : κ} {value : α}
    (hfind : find? table key = some value) : Table.insert table key value = table := by
  induction table with
  | nil => exact absurd hfind (by simp [find?])
  | cons entry rest ih =>
    obtain ⟨hfirst, hrest⟩ := List.pairwise_cons.mp h
    rw [find?_cons] at hfind
    unfold Table.insert
    by_cases heq : key = entry.1
    · rw [if_pos heq] at hfind
      have hnot : ¬ key < entry.1 := heq ▸ irrefl_of (· < ·) key
      rw [if_neg hnot, if_pos heq, heq, ← Option.some.inj hfind]
    · rw [if_neg heq] at hfind
      have hnot : ¬ key < entry.1 := asymm (hfirst _ (mem_of_find? hfind))
      rw [if_neg hnot, if_neg heq, ih hrest hfind]

theorem insert_comm_of_lt (table : Table κ α) {low high : κ} (hlt : low < high)
    (first second : α) :
    Table.insert (Table.insert table low first) high second =
      Table.insert (Table.insert table high second) low first := by
  have hnot : ¬ high < low := asymm hlt
  have hne : high ≠ low := fun heq => irrefl_of (· < ·) low (heq ▸ hlt)
  induction table with
  | nil => simp [Table.insert, hlt, hnot, hne]
  | cons entry rest ih =>
    obtain ⟨key, value⟩ := entry
    -- the higher key goes in front of the entry, in its place or behind it
    rcases trichotomous_of (· < ·) high key with hbefore | rfl | hafter
    · have hlow : low < key := trans_of (· < ·) hlt hbefore
      simp [Table.insert, hlt, hnot, hne, hbefore, hlow]
    · have hself : ¬ high < high := irrefl_of (· < ·) high
      simp [Table.insert, hlt, hnot, hne, hself]
    · have hpast : ¬ high < key := asymm hafter
      have hother : high ≠ key := fun heq => irrefl_of (· < ·) key (heq ▸ hafter)
      rcases trichotomous_of (· < ·) low key with hbefore | rfl | hbehind
      · simp [Table.insert, hnot, hne, hbefore, hpast, hother]
      · have hself : ¬ low < low := irrefl_of (· < ·) low
        simp [Table.insert, hnot, hne, hself]
      · have hskip : ¬ low < key := asymm hbehind
        have hdiffer : low ≠ key := fun heq => irrefl_of (· < ·) key (heq ▸ hbehind)
        simp [Table.insert, hpast, hother, hskip, hdiffer, ih]

theorem insert_comm (table : Table κ α) {a b : κ} (h : a ≠ b) (first second : α) :
    Table.insert (Table.insert table a first) b second =
      Table.insert (Table.insert table b second) a first := by
  rcases trichotomous_of (· < ·) a b with hlt | heq | hgt
  · exact insert_comm_of_lt table hlt first second
  · exact absurd heq h
  · exact (insert_comm_of_lt table hgt second first).symm

end Sorted

end Table

end VehicleMarket
