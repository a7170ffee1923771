import VehicleMarket.Json.Number
import VehicleMarket.Proofs.Decimal.Shortest

/-!
The range of the reader. It multiplies a rounded significand by a rounded power of ten, which for
the decimals of the very largest numbers comes close to the end of the range; of every finite
number, the digits and the exponent give a product that is still in it.
-/
namespace VehicleMarket

open Decimal

namespace Binary64

variable {x : Binary64}

/-- The two largest sizes, for which the bound on products is not good enough. -/
def isTop (x : Binary64) : Bool :=
  x.scale = 2045 && 9007199254740990 ≤ x.significand

theorem high_le_productLimit (hfinite : x.isFinite = true) (htop : x.isTop = false) :
    (Interval.of x).high ≤ productLimit * twoTo 1076 := by
  have hscale := scale_le hfinite
  have hlt := x.significand_lt
  have h54 : twoTo 54 - 5 = 18014398509481979 := rfl
  have htwo : twoTo 1 = 2 := rfl
  have hlimit : productLimit * twoTo 1076 = (twoTo 54 - 5) * (twoTo 1 * twoTo 2045) := by
    rw [productLimit, Nat.mul_assoc, ← twoTo_add, ← twoTo_add]
  show (4 * x.significand + 2) * twoTo x.scale ≤ productLimit * twoTo 1076
  rw [hlimit, h54, htwo, ← Nat.mul_assoc]
  rw [twoTo_53] at hlt
  by_cases hlast : x.scale = 2045
  · have hsmall : x.significand < 9007199254740990 := by
      simpa [isTop, hlast] using htop
    rw [hlast]
    exact Nat.mul_le_mul_right _ (by omega)
  · have hunit := Nat.mul_le_mul_left (4 * x.significand + 2)
      (twoTo_le_twoTo (show x.scale ≤ 2044 by omega))
    have hdouble : twoTo 2045 = twoTo 1 * twoTo 2044 := twoTo_add 1 2044
    have hmore := Nat.mul_le_mul_right (twoTo 2044)
      (show 4 * x.significand + 2 ≤ 18014398509481979 * 2 * 2 by omega)
    rw [hdouble, htwo, ← Nat.mul_assoc]
    exact Nat.le_trans hunit hmore

theorem eq_of_isTop (htop : x.isTop = true) :
    ∃ negative, ∃ fraction ∈ [4503599627370494, 4503599627370495],
      x = ofFields negative (2046 * twoTo 52 + fraction) := by
  simp only [isTop, Bool.and_eq_true, decide_eq_true_eq] at htop
  obtain ⟨hscale, hsignificand⟩ := htop
  rw [scale] at hscale
  have hexponent : x.exponentField = 2046 := by omega
  have hfraction : x.fraction < twoTo 52 := Nat.mod_lt _ (twoTo_pos 52)
  rw [significand, if_neg (by omega), twoTo_52] at hsignificand
  rw [twoTo_52] at hfraction
  have hmem : x.fraction ∈ [4503599627370494, 4503599627370495] := by
    simp only [List.mem_cons, List.not_mem_nil]
    omega
  refine ⟨decide (twoTo 63 ≤ x.bits.toNat), x.fraction, hmem, ?_⟩
  have hbits : x.bits.toNat =
      (ofFields (decide (twoTo 63 ≤ x.bits.toNat)) (2046 * twoTo 52 + x.fraction)).bits.toNat := by
    have hrange := x.bits.toNat_lt
    rw [exponentField, twoTo_52] at hexponent
    rw [bits_ofFields _ (by rw [twoTo_52, twoTo_63]; omega), fraction, twoTo_52, twoTo_63]
    split <;> simp only [decide_eq_true_eq] at * <;> omega
  cases x
  exact congrArg mk (UInt64.toNat_inj.mp hbits)

end Binary64

namespace Json

theorem scaled?_of_neg (significand : Nat) {exponent : Int} (h : exponent < 0) :
    ∃ x, scaled? significand exponent = some x := by
  simp only [scaled?]
  rw [if_pos h]
  exact ⟨_, rfl⟩

theorem scaled?_of_le {significand exponent : Nat} (hpositive : 0 < significand)
    (h : significand * tenTo exponent ≤ Binary64.productLimit) :
    ∃ x, scaled? significand exponent = some x := by
  have hexponent : exponent ≤ 308 := by
    refine Nat.not_lt.mp fun hlarge => ?_
    have hpower : Binary64.productLimit < tenTo 309 := by decide +kernel
    have hle : tenTo 309 ≤ tenTo exponent := tenTo_le_tenTo hlarge
    have hmul := Nat.le_mul_of_pos_left (tenTo exponent) hpositive
    omega
  have hfinite := Binary64.isFinite_mulFinite_ofNat hpositive (tenTo_pos exponent) h
  have hproduct : ((Binary64.ofNat significand).mulFinite (powerOfTen exponent)).isInfinite =
      false := by
    rw [Binary64.isFinite, bne_iff_ne] at hfinite
    rw [Binary64.isInfinite, powerOfTen, Bool.and_eq_false_iff, beq_eq_false_iff_ne]
    exact .inl hfinite
  refine ⟨(Binary64.ofNat significand).mulFinite (powerOfTen exponent), ?_⟩
  simp only [scaled?]
  rw [if_neg (by omega), if_pos (by omega), Int.toNat_natCast, hproduct]
  rfl

theorem scaled?_shortest {x : Binary64} (hfinite : x.isFinite = true) (hunits : x.units ≠ 0) :
    ∃ y, scaled? (shortest .even x).digits (shortest .even x).exponent = some y := by
  cases htop : x.isTop with
  | true =>
    obtain ⟨negative, fraction, hmem, rfl⟩ := Binary64.eq_of_isTop htop
    have hall : ∀ negative, ∀ fraction ∈ [4503599627370494, 4503599627370495],
        let d := shortest .even (Binary64.ofFields negative (2046 * twoTo 52 + fraction))
        (scaled? d.digits d.exponent).isSome = true := by
      decide +kernel
    exact Option.isSome_iff_exists.mp (hall negative fraction hmem)
  | false =>
    have hwithin := shortest_within .even hfinite hunits
    have hlimit := Binary64.high_le_productLimit hfinite htop
    generalize shortest .even x = d at hwithin
    rcases Int.lt_or_le d.exponent 0 with hneg | hpos
    · exact scaled?_of_neg d.digits hneg
    · obtain ⟨n, hn⟩ := Int.eq_ofNat_of_zero_le hpos
      have hbelow := hwithin.below
      have hfactor : gridFactor d.exponent = 1 := by
        rw [gridFactor, Int.toNat_of_nonpos (by omega)]
        rfl
      rw [hfactor, Nat.mul_one, gridStep, hn, Int.toNat_natCast, Nat.mul_left_comm] at hbelow
      rw [hn]
      refine scaled?_of_le hwithin.positive ?_
      rw [Nat.mul_comm Binary64.productLimit] at hlimit
      exact Nat.le_of_mul_le_mul_left (Nat.le_trans hbelow hlimit) (twoTo_pos 1076)

end Json

end VehicleMarket
