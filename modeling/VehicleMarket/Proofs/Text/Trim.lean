import Mathlib.Data.List.DropRight
import VehicleMarket.Text.Blank

/-!
What trimming leaves: a piece of the text with nothing but white space around it, and none of it at
either end. A text is trimmed to nothing just when it is blank.
-/
namespace VehicleMarket.Text

/-- A piece of a text with white space around it that neither begins nor ends with any. -/
structure Trimmed (cs rest : List Char) : Prop where
  around : ∃ front back, cs = front ++ rest ++ back ∧ ∀ c ∈ front ++ back, isSpace c = true
  first : ∀ c, rest.head? = some c → isSpace c = false
  last : ∀ c, rest.getLast? = some c → isSpace c = false

theorem trimChars_eq (cs : List Char) :
    trimChars cs = (cs.dropWhile isSpace).rdropWhile isSpace :=
  rfl

theorem trimmed_trimChars (cs : List Char) : Trimmed cs (trimChars cs) where
  around := by
    refine ⟨cs.takeWhile isSpace, (cs.dropWhile isSpace).rtakeWhile isSpace, ?_, ?_⟩
    · rw [trimChars_eq, List.append_assoc, List.rdropWhile_append_rtakeWhile,
        List.takeWhile_append_dropWhile]
    · intro c hc
      rcases List.mem_append.mp hc with hfront | hback
      · exact List.mem_takeWhile_imp hfront
      · exact List.mem_rtakeWhile_imp hback
  first c hc := by
    obtain ⟨behind, hbehind⟩ := List.rdropWhile_prefix isSpace (l := cs.dropWhile isSpace)
    have hfront : (cs.dropWhile isSpace).head? = some c := by
      rw [← hbehind, List.head?_append, ← trimChars_eq, hc, Option.some_or]
    have hkept := List.head?_dropWhile_not isSpace cs
    rw [hfront] at hkept
    exact hkept
  last c hc := by
    have hkept := List.head?_dropWhile_not isSpace (cs.dropWhile isSpace).reverse
    rw [trimChars, List.getLast?_reverse] at hc
    rw [hc] at hkept
    exact hkept

theorem trim_eq_empty_iff (s : String) : trim s = "" ↔ isBlank s = true := by
  rw [trim, String.ofList_eq_empty_iff, trimChars_eq, List.rdropWhile_eq_nil_iff, isBlank,
    List.all_eq_true]
  constructor
  · intro h c hmem
    rw [← List.takeWhile_append_dropWhile (p := isSpace) (l := s.toList)] at hmem
    rcases List.mem_append.mp hmem with hfront | hrest
    · exact List.mem_takeWhile_imp hfront
    · exact h c hrest
  · intro h c hmem
    exact h c ((List.dropWhile_sublist isSpace).subset hmem)

end VehicleMarket.Text
