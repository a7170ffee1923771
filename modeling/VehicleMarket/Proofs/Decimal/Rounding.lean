import VehicleMarket.Decimal.Binary

/-!
Rounding to binary numbers. A quotient is off by at most half a unit of the scale at which it is
rounded, so a whole number by at most its part in 2 ^ 53. The result is finite just as far as half a
unit above the largest number.
-/
namespace VehicleMarket

theorem twoTo_pos (n : Nat) : 0 < twoTo n :=
  Nat.pow_pos (by decide)

theorem twoTo_add (m n : Nat) : twoTo (m + n) = twoTo m * twoTo n :=
  Nat.pow_add 2 m n

theorem twoTo_le_twoTo {m n : Nat} (h : m ≤ n) : twoTo m ≤ twoTo n :=
  Nat.pow_le_pow_right (by decide) h

namespace Binary64

/-! ## Fields -/

theorem twoTo_52 : twoTo 52 = 4503599627370496 := rfl

theorem twoTo_53 : twoTo 53 = 9007199254740992 := rfl

theorem twoTo_63 : twoTo 63 = 9223372036854775808 := rfl

section Fields

variable (negative : Bool) {rest : Nat}

theorem bits_ofFields (h : rest < twoTo 63) :
    (ofFields negative rest).bits.toNat = (if negative then twoTo 63 else 0) + rest := by
  rw [twoTo_63] at h
  rw [ofFields, UInt64.toNat_ofNat', Nat.mod_eq_of_lt]
  rw [twoTo_63]
  split <;> omega

theorem exponentField_ofFields (h : rest < twoTo 63) :
    (ofFields negative rest).exponentField = rest / twoTo 52 := by
  rw [exponentField, bits_ofFields negative h, twoTo_52, twoTo_63]
  rw [twoTo_63] at h
  split <;> omega

theorem fraction_ofFields (h : rest < twoTo 63) :
    (ofFields negative rest).fraction = rest % twoTo 52 := by
  rw [fraction, bits_ofFields negative h, twoTo_52, twoTo_63]
  split <;> omega

end Fields

theorem scale_le {x : Binary64} (h : x.isFinite = true) : x.scale ≤ 2045 := by
  have hfield : x.exponentField < 2048 := Nat.mod_lt _ (by decide)
  rw [isFinite, bne_iff_ne] at h
  rw [scale]
  omega

theorem significand_lt (x : Binary64) : x.significand < twoTo 53 := by
  have hfraction : x.fraction < twoTo 52 := Nat.mod_lt _ (twoTo_pos 52)
  rw [twoTo_52] at hfraction
  rw [significand, twoTo_52, twoTo_53]
  split <;> omega

theorem ofFields_finite (negative : Bool) {scale significand : Nat}
    (hlarge : significand ≤ twoTo 53) (hnormal : 0 < scale → twoTo 52 ≤ significand)
    (hfinite : scale * twoTo 52 + significand < 2047 * twoTo 52) :
    (ofFields negative (scale * twoTo 52 + significand)).isFinite = true ∧
      (ofFields negative (scale * twoTo 52 + significand)).units = significand * twoTo scale := by
  have hrest : scale * twoTo 52 + significand < twoTo 63 := by
    rw [twoTo_52] at hfinite ⊢
    rw [twoTo_63]
    omega
  have hexponent := exponentField_ofFields negative hrest
  have hfraction := fraction_ofFields negative hrest
  rw [twoTo_52] at *
  rw [twoTo_53] at hlarge
  constructor
  · rw [isFinite, hexponent, bne_iff_ne]
    omega
  · rw [units, Binary64.significand, Binary64.scale, hexponent, hfraction, twoTo_52]
    rcases Nat.lt_or_ge significand 4503599627370496 with hsmall | hsmall
    · obtain rfl : scale = 0 := by omega
      rw [if_pos (by omega), Nat.zero_mul, Nat.zero_add, Nat.mod_eq_of_lt hsmall,
        Nat.div_eq_of_lt hsmall]
    · rw [if_neg (by omega)]
      by_cases htop : significand = 9007199254740992
      · have hfield : (scale * 4503599627370496 + significand) / 4503599627370496 = scale + 2 := by
          omega
        have hpart : (scale * 4503599627370496 + significand) % 4503599627370496 = 0 := by omega
        have hdouble : twoTo (scale + 2 - 1) = twoTo scale * 2 := twoTo_add scale 1
        rw [hfield, hpart, hdouble, htop]
        omega
      · have hfield : (scale * 4503599627370496 + significand) / 4503599627370496 = scale + 1 := by
          omega
        have hpart : 4503599627370496 +
            (scale * 4503599627370496 + significand) % 4503599627370496 = significand := by omega
        rw [hfield, hpart, Nat.add_sub_cancel]

/-! ## Quotients -/

theorem roundQuotient_bounds (num : Nat) {den : Nat} (hden : 0 < den) :
    num / den ≤ roundQuotient num den ∧ roundQuotient num den ≤ num / den + 1 ∧
      2 * (roundQuotient num den * den) ≤ 2 * num + den := by
  have hdivision := Nat.div_add_mod' num den
  have hremainder := Nat.mod_lt num hden
  have hnext : (num / den + 1) * den = num / den * den + den := Nat.succ_mul _ _
  simp only [roundQuotient]
  split
  · refine ⟨Nat.le_refl _, Nat.le_succ _, ?_⟩
    omega
  · split
    · refine ⟨Nat.le_succ _, Nat.le_refl _, ?_⟩
      omega
    · have hodd : num / den + num / den % 2 ≤ num / den + 1 := by omega
      refine ⟨Nat.le_add_right _ _, hodd, ?_⟩
      have hle := Nat.mul_le_mul_right den hodd
      omega

theorem roundQuotient_one (num : Nat) : roundQuotient num 1 = num := by
  simp [roundQuotient, Nat.mod_one]

theorem roundingScale_bounds (num den : Nat) :
    num / den < twoTo 53 * twoTo (roundingScale num den) ∧
      (0 < roundingScale num den → twoTo 52 * twoTo (roundingScale num den) ≤ num / den) := by
  simp only [roundingScale]
  split
  · rename_i hsmall
    exact ⟨by simpa [twoTo] using hsmall, fun h => absurd h (Nat.lt_irrefl 0)⟩
  · rename_i hlarge
    have hpositive : num / den ≠ 0 := by
      have h53 := twoTo_pos 53
      omega
    have hlog : 53 ≤ (num / den).log2 := (Nat.le_log2 hpositive).mpr (Nat.not_lt.mp hlarge)
    rw [← twoTo_add, ← twoTo_add, show 53 + ((num / den).log2 - 52) = (num / den).log2 + 1 by omega,
      show 52 + ((num / den).log2 - 52) = (num / den).log2 by omega]
    exact ⟨Nat.lt_log2_self, fun _ => Nat.log2_self_le hpositive⟩

/-- Half a unit above the largest number, in units. -/
def roundingLimit : Nat :=
  (twoTo 54 - 1) * twoTo 2044

theorem roundingLimit_mul (den : Nat) :
    roundingLimit * den + twoTo 2044 * den = twoTo 54 * (twoTo 2044 * den) := by
  have h54 : twoTo 54 - 1 + 1 = twoTo 54 := Nat.sub_add_cancel (twoTo_pos 54)
  rw [roundingLimit, Nat.mul_assoc, ← Nat.succ_mul, Nat.succ_eq_add_one, h54]

theorem scale_le_of_lt_limit {num den scale : Nat} (h : num < roundingLimit * den)
    (hscale : twoTo 52 * twoTo scale * den ≤ num) : scale ≤ 2045 := by
  refine Nat.not_lt.mp fun hlarge => ?_
  have hpower : twoTo 54 * twoTo 2044 ≤ twoTo 52 * twoTo scale := by
    rw [← twoTo_add, ← twoTo_add]
    exact twoTo_le_twoTo (by omega)
  have hlimit := roundingLimit_mul den
  have hle := Nat.mul_le_mul_right den hpower
  rw [Nat.mul_assoc] at hle
  omega

/-- At the last scale the half unit is what keeps a significand from becoming too large. -/
theorem significand_lt_of_lt_limit {num den significand : Nat} (h : num < roundingLimit * den)
    (herror : 2 * (significand * (den * twoTo 2045)) ≤ 2 * num + den * twoTo 2045) :
    significand < twoTo 53 := by
  have htwo : twoTo 1 = 2 := rfl
  have hdouble : twoTo 2045 = twoTo 1 * twoTo 2044 := twoTo_add 1 2044
  have hunit : den * twoTo 2045 = 2 * (twoTo 2044 * den) := by
    rw [hdouble, htwo, Nat.mul_left_comm, Nat.mul_comm den]
  have hlimit := roundingLimit_mul den
  have h54 : twoTo 54 = 18014398509481984 := rfl
  refine Nat.not_le.mp fun hlarge => ?_
  have hle := Nat.mul_le_mul_right (den * twoTo 2045) hlarge
  rw [twoTo_53] at hle
  rw [h54] at hlimit
  omega

/-- What is rounded is finite below half a unit above the largest number. -/
theorem ofUnits_finite (negative : Bool) {num den : Nat} (hden : 0 < den)
    (h : num < roundingLimit * den) :
    (ofUnits negative num den).isFinite = true ∧
      (ofUnits negative num den).units =
        roundQuotient num (den * twoTo (roundingScale num den)) *
          twoTo (roundingScale num den) := by
  obtain ⟨habove, hbelow⟩ := roundingScale_bounds num den
  simp only [ofUnits]
  generalize roundingScale num den = scale at habove hbelow
  have hunit := twoTo_pos scale
  obtain ⟨hleast, hmost, herror⟩ := roundQuotient_bounds num (Nat.mul_pos hden hunit)
  rw [← Nat.div_div_eq_div_mul] at hleast hmost
  have hlarge : roundQuotient num (den * twoTo scale) ≤ twoTo 53 := by
    have hquotient := Nat.div_lt_of_lt_mul (Nat.mul_comm (twoTo 53) _ ▸ habove)
    omega
  have hnormal : 0 < scale → twoTo 52 ≤ roundQuotient num (den * twoTo scale) := by
    intro hscale
    exact Nat.le_trans ((Nat.le_div_iff_mul_le hunit).mpr (hbelow hscale)) hleast
  have hfinite : scale * twoTo 52 + roundQuotient num (den * twoTo scale) < 2047 * twoTo 52 := by
    rw [twoTo_53] at hlarge
    rw [twoTo_52]
    by_cases hscale : scale ≤ 2044
    · omega
    · have hle : scale ≤ 2045 :=
        scale_le_of_lt_limit h ((Nat.le_div_iff_mul_le hden).mp (hbelow (by omega)))
      obtain rfl : scale = 2045 := by omega
      have hbelow := significand_lt_of_lt_limit h herror
      rw [twoTo_53] at hbelow
      omega
  rw [if_pos hfinite]
  exact ofFields_finite negative hlarge hnormal hfinite

theorem ofNat_rounded {n : Nat} (h : n * twoTo 1074 < roundingLimit) :
    (ofNat n).isFinite = true ∧ ∃ scale,
      (ofNat n).units = roundQuotient (n * twoTo 1074) (twoTo scale) * twoTo scale ∧
      (0 < scale → twoTo 52 * twoTo scale ≤ n * twoTo 1074) := by
  have hone : n * twoTo 1074 < roundingLimit * 1 := by rwa [Nat.mul_one]
  obtain ⟨hfinite, hunits⟩ := ofUnits_finite false Nat.one_pos hone
  obtain ⟨_, hbelow⟩ := roundingScale_bounds (n * twoTo 1074) 1
  rw [Nat.one_mul] at hunits
  rw [Nat.div_one] at hbelow
  exact ⟨hfinite, _, hunits, hbelow⟩

/-- A whole number is off by at most its part in 2 ^ 53. -/
theorem units_ofNat_le {n : Nat} (h : n * twoTo 1074 < roundingLimit) :
    (ofNat n).units * twoTo 53 ≤ n * twoTo 1074 * (twoTo 53 + 1) := by
  obtain ⟨_, scale, hunits, hbelow⟩ := ofNat_rounded h
  rw [hunits]
  generalize n * twoTo 1074 = num at hbelow
  rcases Nat.eq_zero_or_pos scale with rfl | hscale
  · have hexact : roundQuotient num (twoTo 0) = num := roundQuotient_one num
    have hunit : twoTo 0 = 1 := rfl
    rw [hexact, hunit, Nat.mul_one]
    exact Nat.mul_le_mul_left num (Nat.le_succ _)
  · obtain ⟨_, _, herror⟩ := roundQuotient_bounds num (twoTo_pos scale)
    have hunit := hbelow hscale
    rw [twoTo_52] at hunit
    rw [twoTo_53]
    omega

/-- Where the largest number but two is about to be rounded up. -/
def productLimit : Nat :=
  (twoTo 54 - 5) * twoTo 970

theorem productLimit_units : productLimit * twoTo 1074 = (twoTo 54 - 5) * twoTo 2044 := by
  have hpower : twoTo 2044 = twoTo 970 * twoTo 1074 := twoTo_add 970 1074
  rw [productLimit, hpower, Nat.mul_assoc]

theorem productLimit_lt : productLimit * twoTo 1074 < roundingLimit := by
  rw [productLimit_units, roundingLimit]
  exact Nat.mul_lt_mul_of_pos_right (by decide) (twoTo_pos 2044)

/-- A product that is rounded three times, its factors first, is finite up to that limit. -/
theorem isFinite_mulFinite_ofNat {m n : Nat} (hm : 0 < m) (hn : 0 < n)
    (h : m * n ≤ productLimit) : ((ofNat m).mulFinite (ofNat n)).isFinite = true := by
  have hbelow {k : Nat} (hk : k ≤ productLimit) : k * twoTo 1074 < roundingLimit :=
    Nat.lt_of_le_of_lt (Nat.mul_le_mul_right _ hk) productLimit_lt
  have hleft := units_ofNat_le (hbelow (Nat.le_trans (Nat.le_mul_of_pos_right m hn) h))
  have hright := units_ofNat_le (hbelow (Nat.le_trans (Nat.le_mul_of_pos_left n hm) h))
  have hfactors := Nat.mul_le_mul hleft hright
  have hproduct := Nat.mul_le_mul_right (twoTo 1074) (Nat.mul_le_mul_right (twoTo 1074) h)
  rw [productLimit_units, Nat.mul_assoc, Nat.mul_assoc (twoTo 54 - 5)] at hproduct
  rw [Nat.mul_mul_mul_comm, Nat.mul_mul_mul_comm (m * _), Nat.mul_mul_mul_comm m] at hfactors
  have hlimit : (ofNat m).units * (ofNat n).units < roundingLimit * twoTo 1074 := by
    have hpositive := Nat.mul_pos (twoTo_pos 2044) (twoTo_pos 1074)
    have h54 : twoTo 54 = 18014398509481984 := rfl
    rw [roundingLimit, Nat.mul_assoc, h54]
    rw [h54] at hproduct
    rw [twoTo_53] at hfactors
    omega
  exact (ofUnits_finite _ (twoTo_pos 1074) hlimit).1

/-! ## Numbers that stay finite -/

theorem isFinite_zero (negative : Bool) : (zero negative).isFinite = true := by
  cases negative <;> decide

theorem isFinite_neg {x : Binary64} (h : x.isFinite = true) : x.neg.isFinite = true := by
  have hrest : x.bits.toNat % twoTo 63 < twoTo 63 := Nat.mod_lt _ (twoTo_pos 63)
  have hfield := exponentField_ofFields (!x.negative) hrest
  rw [isFinite, bne_iff_ne] at h ⊢
  rw [neg, hfield]
  rw [exponentField] at h
  rw [twoTo_52] at h ⊢
  rw [twoTo_63]
  omega

theorem isFinite_ofUnits_or (negative : Bool) (num den : Nat) :
    (ofUnits negative num den).isFinite = true ∨ (ofUnits negative num den).isInfinite = true := by
  simp only [ofUnits]
  split
  · rename_i hfinite
    have hrest := Nat.lt_trans hfinite (show 2047 * twoTo 52 < twoTo 63 by decide)
    left
    rw [isFinite, bne_iff_ne, exponentField_ofFields negative hrest]
    rw [twoTo_52] at hfinite ⊢
    omega
  · right
    cases negative <;> decide

theorem units_lt_roundingLimit {x : Binary64} (h : x.isFinite = true) :
    x.units < roundingLimit := by
  have hlt := x.significand_lt
  have hunit := Nat.mul_le_mul_left x.significand (twoTo_le_twoTo (scale_le h))
  have htwo : twoTo 1 = 2 := rfl
  have hdouble : twoTo 2045 = twoTo 1 * twoTo 2044 := twoTo_add 1 2044
  have h54 : twoTo 54 - 1 = 18014398509481983 := rfl
  have htop := Nat.mul_lt_mul_of_pos_right
    (show x.significand * 2 < 18014398509481983 by rw [twoTo_53] at hlt; omega) (twoTo_pos 2044)
  rw [hdouble, htwo, ← Nat.mul_assoc] at hunit
  rw [roundingLimit, h54]
  exact Nat.lt_of_le_of_lt hunit htop

theorem twoTo_le_units_ofNat {n : Nat} (hpositive : 0 < n) (h : n * twoTo 1074 < roundingLimit) :
    twoTo 1074 ≤ (ofNat n).units := by
  obtain ⟨_, scale, hunits, hbelow⟩ := ofNat_rounded h
  have hnum := Nat.le_mul_of_pos_left (twoTo 1074) hpositive
  rw [hunits]
  generalize n * twoTo 1074 = num at hbelow hnum
  obtain ⟨hleast, _, _⟩ := roundQuotient_bounds num (twoTo_pos scale)
  by_cases hscale : scale ≤ 1074
  · have hpower : twoTo 1074 = twoTo (1074 - scale) * twoTo scale := by
      rw [← twoTo_add, Nat.sub_add_cancel hscale]
    rw [hpower] at hnum ⊢
    have hquotient := (Nat.le_div_iff_mul_le (twoTo_pos scale)).mpr hnum
    exact Nat.mul_le_mul_right _ (Nat.le_trans hquotient hleast)
  · have hquotient := (Nat.le_div_iff_mul_le (twoTo_pos scale)).mpr (hbelow (by omega))
    have hpower := twoTo_le_twoTo (show 1074 ≤ 52 + scale by omega)
    rw [twoTo_add] at hpower
    exact Nat.le_trans hpower (Nat.mul_le_mul_right _ (Nat.le_trans hquotient hleast))

theorem isFinite_divFinite_ofNat {x : Binary64} (hx : x.isFinite = true) {n : Nat}
    (hpositive : 0 < n) (h : n * twoTo 1074 < roundingLimit) :
    (x.divFinite (ofNat n)).isFinite = true := by
  have hdivisor := twoTo_le_units_ofNat hpositive h
  have hlimit : x.units * twoTo 1074 < roundingLimit * (ofNat n).units :=
    Nat.lt_of_lt_of_le (Nat.mul_lt_mul_of_pos_right (units_lt_roundingLimit hx) (twoTo_pos 1074))
      (Nat.mul_le_mul_left _ hdivisor)
  exact (ofUnits_finite _ (Nat.lt_of_lt_of_le (twoTo_pos 1074) hdivisor) hlimit).1

end Binary64

end VehicleMarket
