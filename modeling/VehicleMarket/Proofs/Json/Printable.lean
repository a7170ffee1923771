import VehicleMarket.Json.Printer
import VehicleMarket.Proofs.Json.BinaryNumber

/-!
Compact text has no control character: those of strings and keys are escaped, and the layout has
none. In particular it is on one line, whatever the value holds.
-/
namespace VehicleMarket.Json

open Decimal (digitChars isDigit)

def Printable (text : List Char) : Prop :=
  ∀ c ∈ text, 32 ≤ c.toNat

@[simp]
theorem printable_nil : Printable [] :=
  fun _ hc => absurd hc List.not_mem_nil

@[simp]
theorem printable_cons {c : Char} {text : List Char} :
    Printable (c :: text) ↔ 32 ≤ c.toNat ∧ Printable text :=
  List.forall_mem_cons

@[simp]
theorem printable_append {front back : List Char} :
    Printable (front ++ back) ↔ Printable front ∧ Printable back :=
  List.forall_mem_append

/-! ## Numbers -/

theorem Digits.printable {text : List Char} (h : Digits text) : Printable text := by
  intro c hc
  have hdigit := h c hc
  simp only [isDigit, Bool.and_eq_true, decide_eq_true_eq] at hdigit
  have hzero : '0'.toNat ≤ c.toNat := hdigit.1
  exact Nat.le_trans (by decide) hzero

theorem printable_digitChars (n : Nat) : Printable (digitChars n) :=
  (digits_digitChars n).printable

theorem printable_zeros (n : Nat) : Printable (List.replicate n '0') :=
  (digits_zeros n).printable

theorem printable_signed (negative : Bool) {text : List Char} (h : Printable text) :
    Printable (Decimal.signed negative text) := by
  cases negative with
  | false => exact h
  | true => exact printable_cons.mpr ⟨by decide, h⟩

theorem printable_positional (d : Decimal.Numeral) : Printable (Decimal.positional d) := by
  have hdigits := printable_digitChars d.digits
  have htake (n : Nat) : Printable ((digitChars d.digits).take n) :=
    fun c hc => hdigits c (List.mem_of_mem_take hc)
  have hdrop (n : Nat) : Printable ((digitChars d.digits).drop n) :=
    fun c hc => hdigits c (List.mem_of_mem_drop hc)
  simp only [Decimal.positional]
  split
  · simp [hdigits, printable_zeros]
  · split
    · simp [htake, hdrop]
    · simp [hdigits, printable_zeros]

theorem printable_scientific (d : Decimal.Numeral) : Printable (Decimal.scientific d) := by
  have hdigits := printable_digitChars d.digits
  have hexponent :=
    printable_digitChars (((digitChars d.digits).length : Int) - 1 + d.exponent).natAbs
  unfold Decimal.scientific
  simp only [printable_append, printable_cons]
  refine ⟨?_, by decide, ?_, hexponent⟩
  · cases hcases : digitChars d.digits with
    | nil => simp
    | cons digit rest =>
      rw [hcases] at hdigits
      cases rest with
      | nil => exact hdigits
      | cons next others =>
        obtain ⟨hdigit, hrest⟩ := printable_cons.mp hdigits
        exact printable_cons.mpr ⟨hdigit, printable_cons.mpr ⟨by decide, hrest⟩⟩
  · split
    · decide
    · decide

theorem printable_jsonSpelling (x : Binary64) : Printable (Decimal.jsonSpelling x) := by
  rw [jsonSpelling_eq]
  apply printable_signed
  simp only [unsignedSpelling]
  split
  · split
    · simp [printable_positional]
    · exact printable_positional _
  · exact printable_scientific _

/-! ## Strings -/

theorem printable_hexDigit : ∀ n < 16, 32 ≤ (hexDigit n).toNat := by decide

theorem printable_escapeChar (c : Char) : Printable (escapeChar c) := by
  unfold escapeChar
  by_cases hquote : c = '"'
  · simp [hquote]
  · by_cases hslash : c = '\\'
    · simp [hslash]
    · by_cases hplain : 32 ≤ c.toNat
      · simp [hquote, hslash, hplain]
      · have hhigh := printable_hexDigit (c.toNat / 16) (by omega)
        have hlow := printable_hexDigit (c.toNat % 16) (by omega)
        rw [if_neg hquote, if_neg hslash, if_neg hplain]
        repeat' split
        all_goals simp [hhigh, hlow]

theorem printable_quoted (s : String) : Printable (quoted s) := by
  have hescaped : Printable (s.toList.flatMap escapeChar) := by
    intro c hc
    obtain ⟨plain, _, hmem⟩ := List.mem_flatMap.mp hc
    exact printable_escapeChar plain c hmem
  simp [quoted, hescaped]

/-! ## Values -/

theorem printable_scalar (value : Json) : Printable (scalar value) := by
  unfold scalar
  split
  · simp
  · simp
  · exact printable_signed _ (printable_digitChars _)
  · split
    · exact printable_jsonSpelling _
    · simp
  · exact printable_quoted _
  · simp

mutual

theorem printable_compactChars : ∀ value : Json, Printable (compactChars value)
  | .array items => by
    have hitems := printable_compactItems items
    simp [compactChars, hitems]
  | .object members => by
    have hmembers := printable_compactMembers members
    simp [compactChars, hmembers]
  | .null => printable_scalar .null
  | .bool b => printable_scalar (.bool b)
  | .int n => printable_scalar (.int n)
  | .float x => printable_scalar (.float x)
  | .string s => printable_scalar (.string s)

theorem printable_compactItems : ∀ items : List Json, Printable (compactItems items)
  | [] => printable_nil
  | item :: rest => by
    have hitem := printable_compactChars item
    have hrest := printable_compactItems rest
    unfold compactItems
    split
    · exact hitem
    · simp [hitem, hrest]

theorem printable_compactMembers :
    ∀ members : List (String × Json), Printable (compactMembers members)
  | [] => printable_nil
  | (key, value) :: rest => by
    have hkey := printable_quoted key
    have hvalue := printable_compactChars value
    have hrest := printable_compactMembers rest
    unfold compactMembers
    split
    · simp [hkey, hvalue]
    · simp [hkey, hvalue, hrest]

end

end VehicleMarket.Json
