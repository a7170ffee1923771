import Mathlib.Data.Nat.Dist
import VehicleMarket.Decimal.Notation
import VehicleMarket.Proofs.Decimal.Rounding

/-!
What an amount is shown as. The text is told from the exact value: of all numbers of hundredths the
nearest one, and the even one of two that are equally near, with its last two digits behind a point.
An amount has one text, but two amounts may share it.
-/
namespace VehicleMarket

/-- No whole number is nearer to a quotient, and one that is as near only if this one is even. -/
def Nearest (num den n : Nat) : Prop :=
  ∀ m, m ≠ n → Nat.dist (n * den) num < Nat.dist (m * den) num ∨
    Nat.dist (n * den) num = Nat.dist (m * den) num ∧ n % 2 = 0

theorem mul_add_le_mul_of_lt {m n : Nat} (h : m < n) (den : Nat) : m * den + den ≤ n * den := by
  rw [← Nat.succ_mul]
  exact Nat.mul_le_mul_right den h

/-- At a half the parity of the quotient tells whether to go up. -/
theorem roundQuotient_cases (num den : Nat) :
    Binary64.roundQuotient num den = num / den ∧ 2 * (num % den) ≤ den ∧
        (2 * (num % den) = den → num / den % 2 = 0) ∨
      Binary64.roundQuotient num den = num / den + 1 ∧ den ≤ 2 * (num % den) ∧
        (2 * (num % den) = den → (num / den + 1) % 2 = 0) := by
  simp only [Binary64.roundQuotient]
  split
  · exact .inl ⟨rfl, by omega, by omega⟩
  · split
    · exact .inr ⟨rfl, by omega, by omega⟩
    · rcases Nat.mod_two_eq_zero_or_one (num / den) with heven | hodd
      · exact .inl ⟨by rw [heven, Nat.add_zero], by omega, fun _ => heven⟩
      · exact .inr ⟨by rw [hodd], by omega, by omega⟩

theorem nearest_roundQuotient (num : Nat) {den : Nat} (hden : 0 < den) :
    Nearest num den (Binary64.roundQuotient num den) := by
  intro m hother
  have hnum := Nat.div_add_mod num den
  have hrest := Nat.mod_lt num hden
  rw [Nat.mul_comm] at hnum
  have hbelow := fun h : m < Binary64.roundQuotient num den => mul_add_le_mul_of_lt h den
  have habove := fun h : Binary64.roundQuotient num den < m => mul_add_le_mul_of_lt h den
  unfold Nat.dist
  rcases roundQuotient_cases num den with ⟨heq, hhalf, htie⟩ | ⟨heq, hhalf, htie⟩
  · rw [heq] at hother hbelow habove ⊢
    omega
  · have hnext : (num / den + 1) * den = num / den * den + den := Nat.succ_mul _ _
    rw [heq] at hother hbelow habove ⊢
    rw [hnext] at hbelow habove ⊢
    omega

theorem Nearest.unique {num den m n : Nat} (hden : 0 < den) (hm : Nearest num den m)
    (hn : Nearest num den n) : m = n := by
  by_contra hother
  wlog hlt : m < n generalizing m n
  · exact this hn hm (Ne.symm hother) (by omega)
  have hnear := hm n (Ne.symm hother)
  have hnear' := hn m hother
  have hbetween : m + 1 < n := by omega
  have hmiddle := hm (m + 1) (Nat.succ_ne_self m)
  have hleft : m * den + den ≤ (m + 1) * den := mul_add_le_mul_of_lt (Nat.lt_succ_self m) den
  have hright := mul_add_le_mul_of_lt hbetween den
  unfold Nat.dist at *
  omega

def hundredths (n : Nat) : List Char :=
  Nat.toDigits 10 (n / 100) ++ ['.', Nat.digitChar (n / 10 % 10), Nat.digitChar (n % 10)]

/-- The texts of an amount. A finite one is a number of units, 2 ^ 1074 of which make one. -/
inductive IsAmount (x : Binary64) : String → Prop where
  | finite {n : Nat} (hfinite : x.isFinite = true)
      (hnearest : Nearest (x.units * 100) (twoTo 1074) n) :
      IsAmount x (String.ofList (Decimal.signed x.negative (hundredths n)))
  | infinite (hinfinite : x.isInfinite = true) :
      IsAmount x (if x.negative then "-inf" else "inf")
  | nan (hnan : x.isNaN = true) : IsAmount x "NaN"

theorem digitChars_places {n : Nat} (h : n < 100) :
    List.replicate (2 - (Decimal.digitChars n).length) '0' ++ Decimal.digitChars n =
      [Nat.digitChar (n / 10), Nat.digitChar (n % 10)] := by
  have hplaces : ∀ n < 100,
      List.replicate (2 - (Decimal.digitChars n).length) '0' ++ Decimal.digitChars n =
        [Nat.digitChar (n / 10), Nat.digitChar (n % 10)] := by decide +kernel
  exact hplaces n h

theorem amountSpelling_finite {x : Binary64} (h : x.isFinite = true) :
    Decimal.amountSpelling x =
      Decimal.signed x.negative
        (hundredths (Binary64.roundQuotient (x.units * 100) (twoTo 1074))) := by
  simp only [Decimal.amountSpelling, if_pos h]
  generalize Binary64.roundQuotient (x.units * 100) (twoTo 1074) = n
  rw [digitChars_places (Nat.mod_lt n (by decide)), hundredths, Decimal.digitChars,
    show n % 100 / 10 = n / 10 % 10 by omega, show n % 100 % 10 = n % 10 by omega]

theorem amountSpelling_infinite {x : Binary64} (h : x.isInfinite = true) :
    Decimal.amountSpelling x = Decimal.signed x.negative ['i', 'n', 'f'] := by
  simp only [Binary64.isInfinite, Bool.and_eq_true, beq_iff_eq] at h
  simp [Decimal.amountSpelling, Decimal.unboundedSpelling, Binary64.isFinite, Binary64.isNaN, h.1,
    h.2]

theorem amountSpelling_nan {x : Binary64} (h : x.isNaN = true) :
    Decimal.amountSpelling x = ['N', 'a', 'N'] := by
  have hbounds := h
  simp only [Binary64.isNaN, Bool.and_eq_true, beq_iff_eq] at hbounds
  simp [Decimal.amountSpelling, Decimal.unboundedSpelling, Binary64.isFinite, hbounds.1, h]

theorem Binary64.isInfinite_or_isNaN {x : Binary64} (h : x.isFinite = false) :
    x.isInfinite = true ∨ x.isNaN = true := by
  rw [isFinite, bne_eq_false_iff_eq] at h
  by_cases hfraction : x.fraction = 0
  · exact .inl (by simp [isInfinite, h, hfraction])
  · exact .inr (by simp [isNaN, h, hfraction])

theorem isAmount_amountSpelling (x : Binary64) :
    IsAmount x (String.ofList (Decimal.amountSpelling x)) := by
  cases hfinite : x.isFinite with
  | true =>
    rw [amountSpelling_finite hfinite]
    exact .finite hfinite (nearest_roundQuotient _ (twoTo_pos 1074))
  | false =>
    rcases Binary64.isInfinite_or_isNaN hfinite with hinfinite | hnan
    · rw [amountSpelling_infinite hinfinite]
      have htext : String.ofList (Decimal.signed x.negative ['i', 'n', 'f']) =
          if x.negative then "-inf" else "inf" := by
        cases x.negative <;> rfl
      exact htext ▸ .infinite hinfinite
    · rw [amountSpelling_nan hnan]
      exact .nan hnan

/-- An amount is written as the one text that shows it. -/
theorem isAmount_iff {x : Binary64} {text : String} :
    IsAmount x text ↔ text = String.ofList (Decimal.amountSpelling x) := by
  constructor
  · intro h
    cases h with
    | finite hfinite hnearest =>
      rw [amountSpelling_finite hfinite,
        hnearest.unique (twoTo_pos 1074) (nearest_roundQuotient _ (twoTo_pos 1074))]
    | infinite hinfinite =>
      rw [amountSpelling_infinite hinfinite]
      cases x.negative <;> rfl
    | nan hnan =>
      rw [amountSpelling_nan hnan]
  · rintro rfl
    exact isAmount_amountSpelling x

end VehicleMarket
