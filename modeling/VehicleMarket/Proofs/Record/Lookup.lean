import VehicleMarket.Proofs.Table
import VehicleMarket.Record.Schema

/-!
What the rules of a schema leave under each key. An older key and the key of an embedded record
are gone; a canonical key holds what stood under it, else what stood under an older key of it, else
the identifier of a record embedded for it. Blank values and absent timestamps come after that.
-/
namespace VehicleMarket

namespace KeyRules

/-! ## Moving what stands under a key -/

/-- What is under the key of a rule is taken away and gives something to the canonical key, unless
that is there. Renaming and resolving differ in what they take from the value. -/
def move (take : Json → Option Json) (members : Members) (rule : String × String) : Members :=
  match Table.find? members rule.1 with
  | none => members
  | some value =>
    let rest := Table.erase members rule.1
    if Table.contains rest rule.2 then rest
    else match take value with
      | some taken => Table.insert rest rule.2 taken
      | none => rest

theorem rename_eq_move : rename = move some := rfl

theorem resolve_eq_move : resolve = move embeddedId? := rfl

/-- What the rules for a canonical key find for it, the first rule that finds something. -/
def moved? (take : Json → Option Json) (members : Members) (rules : List (String × String))
    (key : String) : Option Json :=
  rules.findSome? fun rule =>
    if rule.2 = key then (Table.find? members rule.1).bind take else none

section Move

variable {take : Json → Option Json} {members : Members} {rules : List (String × String)}
  {rule : String × String} {key : String}

theorem sorted_move (h : Table.Sorted members) (take : Json → Option Json)
    (rule : String × String) : Table.Sorted (move take members rule) := by
  unfold move
  split
  · exact h
  · simp only
    split
    · exact h.erase rule.1
    · split
      · exact (h.erase rule.1).insert _ _
      · exact h.erase rule.1

theorem sorted_foldl_move (h : Table.Sorted members) (take : Json → Option Json)
    (rules : List (String × String)) : Table.Sorted (rules.foldl (move take) members) := by
  induction rules generalizing members with
  | nil => exact h
  | cons rule rest ih => exact ih (sorted_move h take rule)

theorem find?_move_of_ne (take : Json → Option Json) (members : Members)
    (hrule : rule.2 ≠ rule.1) (hkey : key ≠ rule.1) :
    Table.find? (move take members rule) key =
      if key = rule.2 then (Table.find? members key).or ((Table.find? members rule.1).bind take)
      else Table.find? members key := by
  unfold move
  cases hfind : Table.find? members rule.1 with
  | none => simp
  | some value =>
    have hothers (other : String) (hne : other ≠ rule.1) :
        Table.find? (Table.erase members rule.1) other = Table.find? members other :=
      Table.find?_erase_of_ne members hne
    have hthere : Table.contains (Table.erase members rule.1) rule.2 =
        (Table.find? members rule.2).isSome := by
      rw [Table.contains, hothers _ hrule]
    simp only [hthere, Option.bind_some]
    by_cases htarget : key = rule.2
    · rw [if_pos htarget, htarget]
      cases htwo : Table.find? members rule.2 with
      | some there => simpa using (hothers _ hrule).trans htwo
      | none =>
        cases htake : take value with
        | none => simpa using (hothers _ hrule).trans htwo
        | some taken => simpa using Table.find?_insert_self _ _ taken
    · rw [if_neg htarget]
      split
      · exact hothers key hkey
      · split
        · rw [Table.find?_insert_of_ne _ _ htarget]
          exact hothers key hkey
        · exact hothers key hkey

theorem find?_move_self (take : Json → Option Json) (h : Table.Sorted members)
    (hrule : rule.2 ≠ rule.1) : Table.find? (move take members rule) rule.1 = none := by
  unfold move
  cases hfind : Table.find? members rule.1 with
  | none => exact hfind
  | some value =>
    have hself := h.find?_erase_self rule.1
    simp only
    split
    · exact hself
    · split
      · rw [Table.find?_insert_of_ne _ _ hrule.symm]
        exact hself
      · exact hself

theorem moved?_eq_none
    (h : ∀ rule ∈ rules, rule.2 = key → Table.find? members rule.1 = none) :
    moved? take members rules key = none := by
  rw [moved?, List.findSome?_eq_none_iff]
  intro rule hmem
  by_cases htarget : rule.2 = key
  · rw [if_pos htarget, h rule hmem htarget, Option.bind_none]
  · rw [if_neg htarget]

theorem moved?_of_not_target (h : key ∉ rules.map Prod.snd) :
    moved? take members rules key = none :=
  moved?_eq_none fun _ hmem heq => absurd (heq ▸ List.mem_map_of_mem hmem) h

theorem moved?_congr {others : Members}
    (h : ∀ rule ∈ rules, rule.2 = key →
      Table.find? others rule.1 = Table.find? members rule.1) :
    moved? take others rules key = moved? take members rules key := by
  induction rules with
  | nil => rfl
  | cons rule rest ih =>
    have hrest := ih fun other hmem => h other (List.mem_cons_of_mem rule hmem)
    have hfirst : (if rule.2 = key then (Table.find? others rule.1).bind take else none) =
        if rule.2 = key then (Table.find? members rule.1).bind take else none := by
      by_cases htarget : rule.2 = key
      · rw [if_pos htarget, if_pos htarget, h rule List.mem_cons_self htarget]
      · rw [if_neg htarget, if_neg htarget]
    simp only [moved?] at hrest ⊢
    rw [List.findSome?_cons, List.findSome?_cons, hfirst, hrest]

theorem moved?_eq_some {value taken : Json} (hmem : rule ∈ rules)
    (hfind : Table.find? members rule.1 = some value) (htake : take value = some taken)
    (hothers : ∀ other ∈ rules, other.2 = rule.2 → other.1 ≠ rule.1 →
      Table.find? members other.1 = none) :
    moved? take members rules rule.2 = some taken := by
  induction rules with
  | nil => exact absurd hmem List.not_mem_nil
  | cons first rest ih =>
    rw [moved?, List.findSome?_cons]
    by_cases hsame : first.2 = rule.2 ∧ first.1 = rule.1
    · rw [if_pos hsame.1, hsame.2, hfind, Option.bind_some, htake]
    · have hfirst : (if first.2 = rule.2 then (Table.find? members first.1).bind take else none) =
          none := by
        by_cases htarget : first.2 = rule.2
        · have hne : first.1 ≠ rule.1 := fun heq => hsame ⟨htarget, heq⟩
          rw [if_pos htarget, hothers first List.mem_cons_self htarget hne, Option.bind_none]
        · rw [if_neg htarget]
      have hrest : rule ∈ rest := by
        rcases List.mem_cons.mp hmem with heq | hrest
        · exact absurd ⟨by rw [heq], by rw [heq]⟩ hsame
        · exact hrest
      rw [hfirst]
      exact ih hrest fun other hother => hothers other (List.mem_cons_of_mem first hother)

theorem moved?_cons (rest : List (String × String)) :
    moved? take members (rule :: rest) key =
      (if rule.2 = key then (Table.find? members rule.1).bind take else none).or
        (moved? take members rest key) := by
  rw [moved?, List.findSome?_cons, moved?]
  cases (if rule.2 = key then (Table.find? members rule.1).bind take else none) <;> rfl

theorem find?_foldl_move_of_not_mem (take : Json → Option Json) (members : Members)
    (hnodup : (Table.keys rules).Nodup) (htargets : ∀ rule ∈ rules, rule.2 ∉ Table.keys rules)
    (hkey : key ∉ Table.keys rules) :
    Table.find? (rules.foldl (move take) members) key =
      (Table.find? members key).or (moved? take members rules key) := by
  induction rules generalizing members with
  | nil => simp [moved?]
  | cons rule rest ih =>
    obtain ⟨hnew, hrest⟩ := List.nodup_cons.mp hnodup
    have htarget : rule.2 ∉ Table.keys (rule :: rest) := htargets rule List.mem_cons_self
    have hself : rule.2 ≠ rule.1 := fun heq => htarget (heq ▸ List.mem_cons_self)
    have hone : key ≠ rule.1 := fun heq => hkey (heq ▸ List.mem_cons_self)
    have hstays : key ∉ Table.keys rest := fun hmem => hkey (List.mem_cons_of_mem _ hmem)
    have hkept : ∀ other ∈ rest, other.2 ∉ Table.keys rest := fun other hother hmem =>
      htargets other (List.mem_cons_of_mem rule hother) (List.mem_cons_of_mem _ hmem)
    -- the rules that are left find what they would have found before
    have hlater : moved? take (move take members rule) rest key = moved? take members rest key := by
      refine moved?_congr ?_
      intro other hother _
      have hmem : other.1 ∈ Table.keys rest := List.mem_map_of_mem hother
      have hne : other.1 ≠ rule.1 := fun heq => hnew (heq ▸ hmem)
      have htwo : other.1 ≠ rule.2 := fun heq => htarget (heq ▸ List.mem_cons_of_mem _ hmem)
      rw [find?_move_of_ne take members hself hne, if_neg htwo]
    rw [List.foldl_cons, ih _ hrest hkept hstays, hlater, moved?_cons,
      find?_move_of_ne take members hself hone]
    by_cases htwo : key = rule.2
    · rw [if_pos htwo, if_pos htwo.symm, Option.or_assoc]
    · rw [if_neg htwo, if_neg (Ne.symm htwo), Option.none_or]

theorem find?_foldl_move_of_mem (take : Json → Option Json) (h : Table.Sorted members)
    (hnodup : (Table.keys rules).Nodup) (htargets : ∀ rule ∈ rules, rule.2 ∉ Table.keys rules)
    (hkey : key ∈ Table.keys rules) :
    Table.find? (rules.foldl (move take) members) key = none := by
  induction rules generalizing members with
  | nil => exact absurd hkey List.not_mem_nil
  | cons rule rest ih =>
    obtain ⟨hnew, hrest⟩ := List.nodup_cons.mp hnodup
    have htarget : rule.2 ∉ Table.keys (rule :: rest) := htargets rule List.mem_cons_self
    have hself : rule.2 ≠ rule.1 := fun heq => htarget (heq ▸ List.mem_cons_self)
    have hkept : ∀ other ∈ rest, other.2 ∉ Table.keys rest := fun other hother hmem =>
      htargets other (List.mem_cons_of_mem rule hother) (List.mem_cons_of_mem _ hmem)
    rw [List.foldl_cons]
    rcases List.mem_cons.mp hkey with rfl | hlater
    · have hnone : moved? take (move take members rule) rest rule.1 = none :=
        moved?_eq_none fun other hother heq =>
          absurd (heq ▸ List.mem_cons_self) (htargets other (List.mem_cons_of_mem rule hother))
      rw [find?_foldl_move_of_not_mem take _ hrest hkept hnew, hnone, find?_move_self take h hself]
      rfl
    · exact ih (sorted_move h take rule) hrest hkept hlater

end Move

/-! ## Blank values and timestamps -/

section Content

variable {members : Members}

theorem sorted_dropBlank (h : Table.Sorted members) (key : String) :
    Table.Sorted (dropBlank members key) := by
  unfold dropBlank
  split
  · exact h
  · split
    · exact h.erase key
    · exact h

theorem find?_dropBlank_of_ne (members : Members) {blank key : String} (hkey : key ≠ blank) :
    Table.find? (dropBlank members blank) key = Table.find? members key := by
  unfold dropBlank
  split
  · rfl
  · split
    · exact Table.find?_erase_of_ne members hkey
    · rfl

theorem find?_dropBlank (h : Table.Sorted members) (blank key : String) :
    Table.find? (dropBlank members blank) key =
      if key = blank then (Table.find? members key).filter fun value => !isBlankValue value
      else Table.find? members key := by
  by_cases hkey : key = blank
  · rw [if_pos hkey, hkey, dropBlank]
    cases hfind : Table.find? members blank with
    | none => exact hfind
    | some value =>
      by_cases hblank : isBlankValue value = true
      · simpa [hblank, Option.filter] using h.find?_erase_self blank
      · simpa [hblank, Option.filter] using hfind
  · rw [if_neg hkey, find?_dropBlank_of_ne members hkey]

theorem find?_foldl_dropBlank_of_not_mem (members : Members) {blanks : List String} {key : String}
    (hkey : key ∉ blanks) :
    Table.find? (blanks.foldl dropBlank members) key = Table.find? members key := by
  induction blanks generalizing members with
  | nil => rfl
  | cons blank rest ih =>
    rw [List.mem_cons, not_or] at hkey
    obtain ⟨hne, hrest⟩ := hkey
    rw [List.foldl_cons, ih _ hrest, find?_dropBlank_of_ne members hne]

theorem find?_foldl_dropBlank (h : Table.Sorted members) (blanks : List String) (key : String) :
    Table.find? (blanks.foldl dropBlank members) key =
      if key ∈ blanks then (Table.find? members key).filter fun value => !isBlankValue value
      else Table.find? members key := by
  induction blanks generalizing members with
  | nil => simp
  | cons blank rest ih =>
    rw [List.foldl_cons, ih (sorted_dropBlank h blank), find?_dropBlank h]
    by_cases hone : key = blank
    · rw [if_pos hone, if_pos (List.mem_cons.mpr (.inl hone))]
      split
      · rw [Option.filter_filter]
        simp
      · rfl
    · rw [if_neg hone]
      simp only [List.mem_cons, hone, false_or]

def stamped (now : Int) (found : Option Json) : Json :=
  match found with
  | none => .int now
  | some value => if isNull value then .int now else value

theorem find?_stamp (now : Int) (stampKey key : String) :
    Table.find? (stamp now members stampKey) key =
      if key = stampKey then some (stamped now (Table.find? members key))
      else Table.find? members key := by
  unfold stamp stamped
  by_cases hkey : key = stampKey
  · rw [if_pos hkey, hkey]
    cases hfind : Table.find? members stampKey with
    | none => exact Table.find?_insert_self _ _ _
    | some value =>
      by_cases hnull : isNull value = true
      · simpa [hnull] using Table.find?_insert_self _ _ _
      · simpa [hnull] using hfind
  · rw [if_neg hkey]
    split
    · exact Table.find?_insert_of_ne _ _ hkey
    · split
      · exact Table.find?_insert_of_ne _ _ hkey
      · rfl

theorem stamped_stamped (now : Int) (found : Option Json) :
    stamped now (some (stamped now found)) = stamped now found := by
  cases found with
  | none => rfl
  | some value =>
    unfold stamped
    by_cases hnull : isNull value = true
    · have hint : isNull (.int now) = false := rfl
      simp [hnull, hint]
    · simp [hnull]

theorem find?_stampAll (rules : KeyRules) (now : Int) (key : String) :
    Table.find? (rules.stampAll now members) key =
      if key ∈ rules.timestamps then some (stamped now (Table.find? members key))
      else Table.find? members key := by
  unfold stampAll
  induction rules.timestamps generalizing members with
  | nil => simp
  | cons stampKey rest ih =>
    rw [List.foldl_cons, ih, find?_stamp]
    by_cases hone : key = stampKey
    · rw [if_pos hone, if_pos (List.mem_cons.mpr (.inl hone))]
      split
      · rw [stamped_stamped]
      · rfl
    · rw [if_neg hone]
      simp only [List.mem_cons, hone, false_or]

end Content

/-! ## All rules of an object -/

/-- The keys that the rules take away: older ones and those of embedded records. -/
def retired (rules : KeyRules) : List String :=
  Table.keys rules.renames ++ Table.keys rules.references

/-- No key is taken away twice, and none of them is given anything. -/
structure Lawful (rules : KeyRules) : Prop where
  nodup : rules.retired.Nodup
  renames : ∀ rule ∈ rules.renames, rule.2 ∉ rules.retired
  references : ∀ rule ∈ rules.references, rule.2 ∉ rules.retired

instance (rules : KeyRules) : Decidable rules.Lawful :=
  decidable_of_iff
    (rules.retired.Nodup ∧ (∀ rule ∈ rules.renames, rule.2 ∉ rules.retired) ∧
      ∀ rule ∈ rules.references, rule.2 ∉ rules.retired)
    ⟨fun h => ⟨h.1, h.2.1, h.2.2⟩, fun h => ⟨h.nodup, h.renames, h.references⟩⟩

/-- What an object gives for a canonical key: what is under the key itself, else under an older key
of it, else the identifier of a record embedded for it. -/
def given? (rules : KeyRules) (members : Members) (key : String) : Option Json :=
  ((Table.find? members key).or (moved? some members rules.renames key)).or
    (moved? embeddedId? members rules.references key)

section Rules

variable {rules : KeyRules} {members : Members}

theorem Lawful.renames_apart (hlawful : rules.Lawful) :
    ∀ rule ∈ rules.renames, rule.2 ∉ Table.keys rules.renames :=
  fun rule hmem hold => hlawful.renames rule hmem (List.mem_append_left _ hold)

theorem Lawful.references_apart (hlawful : rules.Lawful) :
    ∀ rule ∈ rules.references, rule.2 ∉ Table.keys rules.references :=
  fun rule hmem hold => hlawful.references rule hmem (List.mem_append_right _ hold)

/-- Before blank values go, the canonical keys hold what the object gives for them. -/
theorem find?_resolved (hlawful : rules.Lawful) (members : Members) {key : String}
    (hkey : key ∉ rules.retired) :
    Table.find? (rules.references.foldl resolve (rules.renames.foldl rename members)) key =
      rules.given? members key := by
  obtain ⟨hrenames, hreferences, hapart⟩ := List.nodup_append.mp hlawful.nodup
  rw [retired, List.mem_append, not_or] at hkey
  -- what is embedded stands where it stood before the older keys were renamed
  have hembedded : moved? embeddedId? (rules.renames.foldl (move some) members)
      rules.references key = moved? embeddedId? members rules.references key := by
    refine moved?_congr ?_
    intro rule hmem _
    have hreference : rule.1 ∈ Table.keys rules.references := List.mem_map_of_mem hmem
    have hplain : rule.1 ∉ Table.keys rules.renames := fun hold =>
      hapart _ hold _ hreference rfl
    have hnone : moved? some members rules.renames rule.1 = none :=
      moved?_eq_none fun other hother heq =>
        absurd (heq ▸ List.mem_append_right _ hreference) (hlawful.renames other hother)
    rw [find?_foldl_move_of_not_mem some members hrenames hlawful.renames_apart hplain, hnone,
      Option.or_none]
  rw [rename_eq_move, resolve_eq_move,
    find?_foldl_move_of_not_mem embeddedId? _ hreferences hlawful.references_apart hkey.2,
    hembedded, find?_foldl_move_of_not_mem some members hrenames hlawful.renames_apart hkey.1,
    given?]

theorem find?_settle_of_given (hlawful : rules.Lawful) (members : Members) {key : String}
    (hkey : key ∉ rules.retired) (hblank : key ∉ rules.blankable) :
    Table.find? (rules.settle members) key = rules.given? members key := by
  rw [settle, find?_foldl_dropBlank_of_not_mem _ hblank, find?_resolved hlawful members hkey]

theorem find?_resolved_of_retired (hlawful : rules.Lawful) (h : Table.Sorted members)
    {key : String} (hkey : key ∈ rules.retired) :
    Table.find? (rules.references.foldl resolve (rules.renames.foldl rename members)) key =
      none := by
  obtain ⟨hrenames, hreferences, _⟩ := List.nodup_append.mp hlawful.nodup
  rw [rename_eq_move, resolve_eq_move]
  by_cases hreference : key ∈ Table.keys rules.references
  · exact find?_foldl_move_of_mem embeddedId? (sorted_foldl_move h some rules.renames) hreferences
      hlawful.references_apart hreference
  · have hrename : key ∈ Table.keys rules.renames :=
      (List.mem_append.mp hkey).resolve_right hreference
    have hnone : moved? embeddedId? (rules.renames.foldl (move some) members) rules.references
        key = none :=
      moved?_eq_none fun other hother heq =>
        absurd (heq ▸ List.mem_append_left _ hrename) (hlawful.references other hother)
    rw [find?_foldl_move_of_not_mem embeddedId? _ hreferences hlawful.references_apart hreference,
      hnone, find?_foldl_move_of_mem some h hrenames hlawful.renames_apart hrename]
    rfl

theorem find?_settle (hlawful : rules.Lawful) (h : Table.Sorted members) (key : String) :
    Table.find? (rules.settle members) key =
      if key ∈ rules.retired then none
      else if key ∈ rules.blankable then
        (rules.given? members key).filter fun value => !isBlankValue value
      else rules.given? members key := by
  have hsorted : Table.Sorted
      (rules.references.foldl resolve (rules.renames.foldl rename members)) := by
    rw [rename_eq_move, resolve_eq_move]
    exact sorted_foldl_move (sorted_foldl_move h _ _) _ _
  rw [settle, find?_foldl_dropBlank hsorted]
  by_cases hretired : key ∈ rules.retired
  · rw [if_pos hretired, find?_resolved_of_retired hlawful h hretired]
    split <;> rfl
  · rw [if_neg hretired, find?_resolved hlawful members hretired]

end Rules

end KeyRules

namespace Schema

def nestedValue (rules : KeyRules) (now : Int) : Json → Json
  | .object inner => .object (rules.normalize now inner)
  | value => value

variable {members : Members}

theorem find?_normalizeNested (now : Int) (rule : String × KeyRules) (key : String) :
    Table.find? (normalizeNested now members rule) key =
      if key = rule.1 then (Table.find? members key).map (nestedValue rule.2 now)
      else Table.find? members key := by
  unfold normalizeNested
  by_cases hkey : key = rule.1
  · rw [if_pos hkey, hkey]
    split
    · rename_i inner hfind
      rw [Table.find?_insert_self, hfind]
      rfl
    · rename_i hother
      cases hfind : Table.find? members rule.1 with
      | none => rfl
      | some value =>
        cases value with
        | object inner => exact absurd hfind (hother inner)
        | _ => rfl
  · rw [if_neg hkey]
    split
    · exact Table.find?_insert_of_ne _ _ hkey
    · rfl

theorem find?_foldl_normalizeNested (now : Int) {nested : List (String × KeyRules)}
    (hnodup : (Table.keys nested).Nodup) (key : String) :
    Table.find? (nested.foldl (normalizeNested now) members) key =
      match Table.find? nested key with
      | some rules => (Table.find? members key).map (nestedValue rules now)
      | none => Table.find? members key := by
  induction nested generalizing members with
  | nil => rfl
  | cons rule rest ih =>
    obtain ⟨hnew, hrest⟩ := List.nodup_cons.mp hnodup
    rw [List.foldl_cons, ih hrest, Table.find?_cons, find?_normalizeNested]
    by_cases hkey : key = rule.1
    · have hnone : Table.find? rest key = none := Table.find?_eq_none_iff.mpr (hkey ▸ hnew)
      rw [hnone, if_pos hkey, if_pos hkey]
    · rw [if_neg hkey, if_neg hkey]

/-- The look-ups after all rules of a schema: what is settled, brought into shape, stamped. -/
theorem find?_normalize {schema : Schema} (hnodup : (Table.keys schema.nested).Nodup) (now : Int)
    (key : String) :
    Table.find? (schema.normalize now members) key =
      let settled := Table.find? (schema.keys.settle members) key
      let shaped := match Table.find? schema.nested key with
        | some rules => settled.map (nestedValue rules now)
        | none => settled
      if key ∈ schema.keys.timestamps then some (KeyRules.stamped now shaped) else shaped := by
  rw [normalize, KeyRules.find?_stampAll, find?_foldl_normalizeNested now hnodup]

end Schema

end VehicleMarket
