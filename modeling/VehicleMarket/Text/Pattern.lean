/-!
Patterns of texts: characters of given classes in a row, one of a class or as many of it as there
are. A repetition takes at least one character, and as many as it can; it gives some back where
the rest of the pattern cannot do without them.
-/
namespace VehicleMarket.Text

namespace Pattern

inductive Item where
  | one (test : Char → Bool)
  | many (test : Char → Bool)

end Pattern

structure Pattern where
  items : List Pattern.Item
  /-- A match has to go on to the end of the text. -/
  toEnd : Bool

namespace Pattern

def Runs.cons (c : Char) (runs : List (List Char)) : List (List Char) :=
  match runs with
  | [] => [[c]]
  | run :: others => (c :: run) :: others

/-- Matches items at the front of a text: what each repetition takes, and what is left. The longest
run is tried before the shorter ones. -/
def matchItems (toEnd : Bool) : List Item → List Char → Option (List (List Char) × List Char)
  | [], cs => if toEnd && !cs.isEmpty then none else some ([], cs)
  | _ :: _, [] => none
  | .one test :: items, c :: cs => if test c then matchItems toEnd items cs else none
  | .many test :: items, c :: cs =>
    if test c then
      match matchItems toEnd (.many test :: items) cs with
      | some (runs, rest) => some (Runs.cons c runs, rest)
      | none => (matchItems toEnd items cs).map fun (runs, rest) => ([c] :: runs, rest)
    else none

def match? (pattern : Pattern) (cs : List Char) : Option (List (List Char) × List Char) :=
  matchItems pattern.toEnd pattern.items cs

theorem length_of_matchItems {toEnd : Bool} {items : List Item} {cs rest : List Char}
    {runs : List (List Char)} (h : matchItems toEnd items cs = some (runs, rest)) :
    rest.length + items.length ≤ cs.length := by
  induction cs generalizing items runs with
  | nil =>
    cases items with
    | nil => simp_all [matchItems]
    | cons item items => simp [matchItems] at h
  | cons c cs ih =>
    cases items with
    | nil =>
      unfold matchItems at h
      split at h
      · simp at h
      · obtain ⟨-, rfl⟩ := Prod.mk.inj (Option.some.inj h)
        exact Nat.le_refl _
    | cons item items =>
      cases item with
      | one test =>
        unfold matchItems at h
        split at h
        · have := ih h
          simp only [List.length_cons]
          omega
        · simp at h
      | many test =>
        unfold matchItems at h
        split at h
        · split at h
          · rename_i runs' rest' hmore
            obtain ⟨-, rfl⟩ := Prod.mk.inj (Option.some.inj h)
            have := ih hmore
            simp only [List.length_cons] at this ⊢
            omega
          · obtain ⟨⟨runs', rest'⟩, hless, heq⟩ := Option.map_eq_some_iff.mp h
            obtain ⟨-, rfl⟩ := Prod.mk.inj heq
            have := ih hless
            simp only [List.length_cons]
            omega
        · simp at h

end Pattern

end VehicleMarket.Text
