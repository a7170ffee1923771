import VehicleMarket.Text.Pattern

/-!
What patterns match. A way of matching gives a run of characters to every repetition; the matcher
finds a way whenever there is one, and what it finds is one.
-/
namespace VehicleMarket.Text.Pattern

/-- A way of matching items at the front of a text: the runs of its repetitions, and the rest. -/
inductive Takes (toEnd : Bool) : List Item → List Char → List (List Char) → List Char → Prop where
  | done {rest : List Char} : (toEnd = true → rest = []) → Takes toEnd [] rest [] rest
  | one {test : Char → Bool} {items : List Item} {c : Char} {cs rest : List Char}
      {runs : List (List Char)} : test c = true → Takes toEnd items cs runs rest →
      Takes toEnd (.one test :: items) (c :: cs) runs rest
  | many {test : Char → Bool} {items : List Item} {run cs rest : List Char}
      {runs : List (List Char)} : run ≠ [] → (∀ c ∈ run, test c = true) →
      Takes toEnd items cs runs rest →
      Takes toEnd (.many test :: items) (run ++ cs) (run :: runs) rest

variable {toEnd : Bool} {test : Char → Bool} {items : List Item} {cs rest : List Char}
  {runs : List (List Char)}

theorem takes_nil_iff :
    Takes toEnd [] cs runs rest ↔ runs = [] ∧ rest = cs ∧ (toEnd = true → cs = []) := by
  constructor
  · intro h
    cases h with
    | done hend => exact ⟨rfl, rfl, hend⟩
  · rintro ⟨rfl, rfl, hend⟩
    exact .done hend

theorem takes_one_iff :
    Takes toEnd (.one test :: items) cs runs rest ↔
      ∃ c others, cs = c :: others ∧ test c = true ∧ Takes toEnd items others runs rest := by
  constructor
  · intro h
    cases h with
    | one htest hothers => exact ⟨_, _, rfl, htest, hothers⟩
  · rintro ⟨c, others, rfl, htest, hothers⟩
    exact .one htest hothers

theorem takes_many_iff :
    Takes toEnd (.many test :: items) cs runs rest ↔
      ∃ run others more, cs = run ++ others ∧ runs = run :: more ∧ run ≠ [] ∧
        (∀ c ∈ run, test c = true) ∧ Takes toEnd items others more rest := by
  constructor
  · intro h
    cases h with
    | many hne htest hothers => exact ⟨_, _, _, rfl, rfl, hne, htest, hothers⟩
  · rintro ⟨run, others, more, rfl, rfl, hne, htest, hothers⟩
    exact .many hne htest hothers

theorem Takes.cons {c : Char} (hc : test c = true)
    (h : Takes toEnd (.many test :: items) cs runs rest) :
    Takes toEnd (.many test :: items) (c :: cs) (Runs.cons c runs) rest := by
  obtain ⟨run, others, more, rfl, rfl, -, htest, hothers⟩ := takes_many_iff.mp h
  refine takes_many_iff.mpr ⟨c :: run, others, more, rfl, rfl, List.cons_ne_nil _ _, ?_, hothers⟩
  intro d hd
  rcases List.mem_cons.mp hd with rfl | hd
  · exact hc
  · exact htest d hd

theorem takes_of_matchItems (h : matchItems toEnd items cs = some (runs, rest)) :
    Takes toEnd items cs runs rest := by
  induction cs generalizing items runs with
  | nil =>
    cases items with
    | nil =>
      obtain ⟨rfl, rfl⟩ : [] = runs ∧ [] = rest := by simpa [matchItems] using h
      exact .done fun _ => rfl
    | cons item items => simp [matchItems] at h
  | cons c cs ih =>
    cases items with
    | nil =>
      unfold matchItems at h
      split at h
      · simp at h
      · rename_i hend
        obtain ⟨rfl, rfl⟩ := Prod.mk.inj (Option.some.inj h)
        refine .done ?_
        intro htrue
        exact absurd htrue (by simpa using hend)
    | cons item items =>
      cases item with
      | one test =>
        unfold matchItems at h
        split at h
        · rename_i htest
          exact .one htest (ih h)
        · simp at h
      | many test =>
        unfold matchItems at h
        split at h
        · rename_i htest
          split at h
          · rename_i hmore
            obtain ⟨rfl, rfl⟩ := Prod.mk.inj (Option.some.inj h)
            exact (ih hmore).cons htest
          · obtain ⟨⟨more, others⟩, hless, heq⟩ := Option.map_eq_some_iff.mp h
            obtain ⟨rfl, rfl⟩ := Prod.mk.inj heq
            refine Takes.many (List.cons_ne_nil c []) ?_ (ih hless)
            intro d hd
            rw [List.mem_singleton.mp hd]
            exact htest
        · simp at h

/-- A repetition finds a way as soon as the rest of the items does after some run. -/
theorem matchItems_many_isSome {run : List Char} (hne : run ≠ [])
    (htest : ∀ c ∈ run, test c = true) (h : (matchItems toEnd items cs).isSome) :
    (matchItems toEnd (.many test :: items) (run ++ cs)).isSome := by
  induction run with
  | nil => exact absurd rfl hne
  | cons c run ih =>
    have hc := htest c List.mem_cons_self
    rw [List.cons_append]
    unfold matchItems
    rw [if_pos hc]
    split
    · rfl
    · rename_i hnone
      rcases List.eq_nil_or_concat run with rfl | ⟨_, _, hrun⟩
      · rw [List.nil_append, Option.isSome_map]
        exact h
      · have hmore := ih (by simp [hrun]) fun d hd => htest d (List.mem_cons_of_mem c hd)
        rw [hnone] at hmore
        exact absurd hmore Bool.false_ne_true

theorem Takes.isSome (h : Takes toEnd items cs runs rest) :
    (matchItems toEnd items cs).isSome := by
  induction h with
  | @done rest hend =>
    unfold matchItems
    cases toEnd with
    | false => rfl
    | true => rw [hend rfl]; rfl
  | one htest _ ih =>
    unfold matchItems
    rw [if_pos htest]
    exact ih
  | many hne htest _ ih => exact matchItems_many_isSome hne htest ih

theorem match?_isSome_iff {pattern : Pattern} :
    (pattern.match? cs).isSome ↔ ∃ runs rest, Takes pattern.toEnd pattern.items cs runs rest := by
  constructor
  · intro h
    obtain ⟨⟨runs, rest⟩, hfound⟩ := Option.isSome_iff_exists.mp h
    exact ⟨runs, rest, takes_of_matchItems hfound⟩
  · rintro ⟨runs, rest, h⟩
    exact h.isSome

end VehicleMarket.Text.Pattern
