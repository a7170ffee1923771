import VehicleMarket.Decimal.Shortest
import VehicleMarket.Proofs.Decimal.Rounding

/-!
The shortest decimals. The digits of one are few and not zero, and its value is at most the end of
the interval that it stands for. This holds of the points of every grid that is tried, and is kept
when zeros are moved into the exponent.
-/
namespace VehicleMarket

theorem tenTo_pos (n : Nat) : 0 < tenTo n :=
  Nat.pow_pos (by decide)

theorem tenTo_add (m n : Nat) : tenTo (m + n) = tenTo m * tenTo n :=
  Nat.pow_add 10 m n

theorem tenTo_le_tenTo {m n : Nat} (h : m ≤ n) : tenTo m ≤ tenTo n :=
  Nat.pow_le_pow_right (by decide) h

namespace Decimal

theorem decimalLength_le_iff {n k : Nat} (hk : 0 < k) : decimalLength n ≤ k ↔ n < tenTo k :=
  Nat.length_toDigits_le_iff (by decide) hk

theorem decimalLength_pos (n : Nat) : 0 < decimalLength n :=
  Nat.length_toDigits_pos

theorem lt_tenTo_decimalLength (n : Nat) : n < tenTo (decimalLength n) :=
  (decimalLength_le_iff (decimalLength_pos n)).mp (Nat.le_refl _)

theorem tenTo_decimalLength_le {n : Nat} (h : 0 < n) : tenTo (decimalLength n) ≤ 10 * n := by
  obtain ⟨k, hk⟩ : ∃ k, decimalLength n = k + 1 :=
    ⟨_, (Nat.sub_add_cancel (decimalLength_pos n)).symm⟩
  have hleast : tenTo k ≤ n := by
    rcases Nat.eq_zero_or_pos k with rfl | hpos
    · exact h
    · refine Nat.not_lt.mp fun hlt => ?_
      have hle := (decimalLength_le_iff hpos).mpr hlt
      omega
  have hten : tenTo 1 = 10 := rfl
  rw [hk, tenTo_add, hten]
  omega

/-! ## Grids -/

/-- The factor by which the points of a grid become whole numbers. -/
def gridFactor (exponent : Int) : Nat :=
  tenTo (-exponent).toNat

def gridStep (exponent : Int) : Nat :=
  twoTo 1076 * tenTo exponent.toNat

theorem gridStep_pos (exponent : Int) : 0 < gridStep exponent :=
  Nat.mul_pos (twoTo_pos 1076) (tenTo_pos _)

theorem gridStep_succ {exponent : Int} (h : 0 ≤ exponent) :
    gridStep (exponent + 1) = 10 * gridStep exponent ∧
      gridFactor (exponent + 1) = gridFactor exponent := by
  have hten : tenTo 1 = 10 := rfl
  constructor
  · rw [gridStep, gridStep, Int.toNat_add h (by decide), tenTo_add, ← Nat.mul_assoc,
      Nat.mul_comm 10]
    rfl
  · rw [gridFactor, gridFactor, Int.toNat_of_nonpos (by omega), Int.toNat_of_nonpos (by omega)]

theorem gridFactor_of_neg {exponent : Int} (h : exponent < 0) :
    gridStep (exponent + 1) = gridStep exponent ∧
      gridFactor exponent = 10 * gridFactor (exponent + 1) := by
  constructor
  · rw [gridStep, gridStep, Int.toNat_of_nonpos (by omega), Int.toNat_of_nonpos (by omega)]
  · rw [gridFactor, gridFactor, show -exponent = 1 + -(exponent + 1) by omega,
      Int.toNat_add (by decide) (by omega), tenTo_add]
    rfl

/-- What is known of a decimal for an interval. -/
structure Numeral.Within (i : Interval) (d : Numeral) : Prop where
  positive : 0 < d.digits
  short : d.digits ≤ tenTo 18
  least : -400 ≤ d.exponent
  below : d.digits * gridStep d.exponent ≤ i.high * gridFactor d.exponent

/-- An interval of reals that are neither too small to have a magnitude nor too large. -/
structure Interval.Proper (i : Interval) : Prop where
  ordered : i.middle ≤ i.high
  least : twoTo 1076 ≤ i.middle * tenTo 325
  greatest : i.high < twoTo 2100

namespace Interval

variable {i : Interval} (h : i.Proper) {exponent : Int} {places : Nat}
include h

theorem Proper.middle_bounds (hexponent : exponent + places = i.magnitude) :
    gridStep exponent * tenTo places ≤ 10 * (i.middle * gridFactor exponent) ∧
      i.middle * gridFactor exponent < gridStep exponent * tenTo places := by
  let quotient := i.middle * tenTo 325 / twoTo 1076
  have hquotient : 0 < quotient := Nat.div_pos h.least (twoTo_pos 1076)
  have hlower := tenTo_decimalLength_le hquotient
  have hupper := lt_tenTo_decimalLength quotient
  have hdivision : twoTo 1076 * quotient + i.middle * tenTo 325 % twoTo 1076 =
      i.middle * tenTo 325 := Nat.div_add_mod _ _
  have hremainder := Nat.mod_lt (i.middle * tenTo 325) (twoTo_pos 1076)
  -- all powers of ten are compared at the exponent that they have in common
  have hpower : tenTo exponent.toNat * tenTo places * tenTo 325 =
      tenTo (decimalLength quotient) * gridFactor exponent := by
    rw [gridFactor, ← tenTo_add, ← tenTo_add, ← tenTo_add]
    congr 1
    have hmagnitude : exponent + places = (decimalLength quotient : Int) - 325 := hexponent
    omega
  have hcommon : gridStep exponent * tenTo places * tenTo 325 =
      twoTo 1076 * tenTo (decimalLength quotient) * gridFactor exponent := by
    rw [gridStep, Nat.mul_assoc (twoTo 1076), Nat.mul_assoc (twoTo 1076), hpower, Nat.mul_assoc]
  have hmiddle : i.middle * gridFactor exponent * tenTo 325 =
      i.middle * tenTo 325 * gridFactor exponent := Nat.mul_right_comm _ _ _
  have hlow : twoTo 1076 * tenTo (decimalLength quotient) ≤ 10 * (i.middle * tenTo 325) := by
    have hle := Nat.mul_le_mul_left (twoTo 1076) hlower
    rw [Nat.mul_left_comm] at hle
    omega
  have hhigh : i.middle * tenTo 325 < twoTo 1076 * tenTo (decimalLength quotient) := by
    have hle := Nat.mul_le_mul_left (twoTo 1076) (Nat.succ_le_of_lt hupper)
    rw [Nat.mul_succ] at hle
    omega
  constructor
  · refine Nat.le_of_mul_le_mul_right ?_ (tenTo_pos 325)
    rw [hcommon, Nat.mul_assoc 10, hmiddle, ← Nat.mul_assoc]
    exact Nat.mul_le_mul_right _ hlow
  · refine Nat.lt_of_mul_lt_mul_right (a := tenTo 325) ?_
    rw [hcommon, hmiddle]
    exact Nat.mul_lt_mul_of_pos_right hhigh (tenTo_pos _)

theorem Proper.within (hexponent : exponent + places = i.magnitude) (hsome : 0 < places)
    (hfew : places ≤ 18) {digits : Nat}
    (hdigits : digits = i.middle * gridFactor exponent / gridStep exponent ∨
      digits = i.middle * gridFactor exponent / gridStep exponent + 1 ∧ places ≤ 17)
    (hbelow : digits * gridStep exponent ≤ i.high * gridFactor exponent) :
    Numeral.Within i ⟨digits, exponent⟩ := by
  obtain ⟨hlower, hupper⟩ := h.middle_bounds hexponent
  have hten : tenTo 1 = 10 := rfl
  have hpositive : 0 < i.middle * gridFactor exponent / gridStep exponent := by
    have hle := Nat.mul_le_mul_left (gridStep exponent) (tenTo_le_tenTo hsome)
    rw [hten] at hle
    exact Nat.div_pos (by omega) (gridStep_pos exponent)
  have hsmall := Nat.div_lt_of_lt_mul hupper
  have hmagnitude : exponent + places =
      (decimalLength (i.middle * tenTo 325 / twoTo 1076) : Int) - 325 := hexponent
  have hlength := decimalLength_pos (i.middle * tenTo 325 / twoTo 1076)
  refine ⟨?_, ?_, ?_, hbelow⟩
  · show 0 < digits
    omega
  · show digits ≤ tenTo 18
    have hmost := tenTo_le_tenTo hfew
    rcases hdigits with rfl | ⟨rfl, hfewer⟩
    · omega
    · have hless := tenTo_le_tenTo hfewer
      have hbound : tenTo 17 < tenTo 18 := by decide
      omega
  · show -400 ≤ exponent
    omega

omit h in
/-- The grid gives one of the two points next to the middle, and one that the interval holds. -/
theorem gridPoint?_below {tie : Tie} {digits : Nat}
    (hpoint : i.gridPoint? tie exponent = some digits) :
    (digits = i.middle * gridFactor exponent / gridStep exponent ∨
      digits = i.middle * gridFactor exponent / gridStep exponent + 1) ∧
    digits * gridStep exponent ≤ i.high * gridFactor exponent := by
  have hholds {point : Nat} (hpoint : (i.times (gridFactor exponent)).holds point = true) :
      point ≤ i.high * gridFactor exponent := by
    unfold holds at hpoint
    split at hpoint <;> simp only [Bool.and_eq_true, decide_eq_true_eq] at hpoint
    · exact hpoint.2
    · exact Nat.le_of_lt hpoint.2
  unfold gridPoint? at hpoint
  simp only at hpoint
  split at hpoint
  · cases hpoint
  · rename_i hbelow _
    cases hpoint
    exact ⟨.inl rfl, hholds hbelow⟩
  · rename_i habove
    cases hpoint
    exact ⟨.inr rfl, hholds habove⟩
  · rename_i hbelow habove
    have heither : digits = i.middle * gridFactor exponent / gridStep exponent ∨
        digits = i.middle * gridFactor exponent / gridStep exponent + 1 := by
      split at hpoint
      · exact .inl (Option.some.inj hpoint).symm
      · split at hpoint
        · exact .inr (Option.some.inj hpoint).symm
        · cases tie with
          | even =>
            simp only [Option.some.injEq] at hpoint
            split at hpoint
            · exact .inl hpoint.symm
            · exact .inr hpoint.symm
          | up => exact .inr (Option.some.inj hpoint).symm
    refine ⟨heither, ?_⟩
    rcases heither with rfl | rfl
    · exact hholds hbelow
    · exact hholds habove

/-! ## The search -/

/-- The search ends at one of the grids that it may come to, or at the first one after them. -/
theorem Proper.search_within (tie : Tie) {tries : Nat} (hexponent : exponent + places = i.magnitude)
    (hsome : 0 < places) (hfew : places + tries ≤ 18) :
    (i.search tie exponent tries).Within i := by
  induction tries generalizing exponent places with
  | zero =>
    rw [search]
    have hdivision := Nat.div_mul_le_self (i.middle * gridFactor exponent) (gridStep exponent)
    refine h.within hexponent hsome hfew (.inl rfl) (Nat.le_trans hdivision ?_)
    exact Nat.mul_le_mul_right _ h.ordered
  | succ tries ih =>
    rw [search]
    split
    · rename_i digits hpoint
      obtain ⟨hdigits, hbelow⟩ := gridPoint?_below hpoint
      refine h.within hexponent hsome (by omega) (hdigits.imp_right fun habove => ?_) hbelow
      exact ⟨habove, by omega⟩
    · have hnext : exponent - 1 + ((places + 1 : Nat) : Int) = i.magnitude := by omega
      exact ih hnext (by omega) (by omega)

end Interval

theorem Numeral.Within.shifted {i : Interval} {digits : Nat} {exponent : Int}
    (h : Numeral.Within i ⟨10 * digits, exponent⟩) : Numeral.Within i ⟨digits, exponent + 1⟩ := by
  have hpositive : 0 < 10 * digits := h.positive
  have hshort : 10 * digits ≤ tenTo 18 := h.short
  have hleast : -400 ≤ exponent := h.least
  have hbelow : 10 * digits * gridStep exponent ≤ i.high * gridFactor exponent := h.below
  refine ⟨show 0 < digits by omega, show digits ≤ tenTo 18 by omega,
    show -400 ≤ exponent + 1 by omega, ?_⟩
  show digits * gridStep (exponent + 1) ≤ i.high * gridFactor (exponent + 1)
  rcases Int.lt_or_le exponent 0 with hneg | hpos
  · obtain ⟨hstep, hfactor⟩ := gridFactor_of_neg hneg
    rw [hfactor, Nat.mul_assoc, Nat.mul_left_comm i.high] at hbelow
    rw [hstep]
    exact Nat.le_of_mul_le_mul_left hbelow (by decide)
  · obtain ⟨hstep, hfactor⟩ := gridStep_succ hpos
    rw [hstep, hfactor, ← Nat.mul_assoc, Nat.mul_comm digits]
    exact hbelow

theorem Numeral.Within.trimmed {i : Interval} {d : Numeral} (h : d.Within i) (allowed : Nat) :
    (d.trimmed allowed).Within i := by
  induction allowed generalizing d with
  | zero => exact h
  | succ allowed ih =>
    rw [Numeral.trimmed]
    split
    · rename_i hzeros
      simp only [Bool.and_eq_true, decide_eq_true_eq] at hzeros
      have hten : 10 * (d.digits / 10) = d.digits :=
        Nat.mul_div_cancel' (Nat.dvd_of_mod_eq_zero hzeros.2)
      refine ih (Numeral.Within.shifted ?_)
      rw [hten]
      exact h
    · exact h

/-! ## Finite numbers -/

variable {x : Binary64}

theorem Interval.proper_of (hfinite : x.isFinite = true) (hunits : x.units ≠ 0) :
    (Interval.of x).Proper where
  ordered := Nat.mul_le_mul_right _ (Nat.le_add_right _ 2)
  least := by
    have hpositive : 4 ≤ 4 * x.significand * twoTo x.scale := by
      rw [Binary64.units] at hunits
      rw [Nat.mul_assoc]
      omega
    have hsmall : twoTo 1076 ≤ 4 * tenTo 325 := by decide +kernel
    exact Nat.le_trans hsmall (Nat.mul_le_mul_right _ hpositive)
  greatest := by
    have hsignificand : 4 * x.significand + 2 < twoTo 55 := by
      have hlt := x.significand_lt
      have h55 : twoTo 55 = 36028797018963968 := rfl
      rw [Binary64.twoTo_53] at hlt
      omega
    have hunit := Nat.mul_le_mul_left (4 * x.significand + 2)
      (twoTo_le_twoTo (Binary64.scale_le hfinite))
    have hpower : twoTo 2100 = twoTo 55 * twoTo 2045 := twoTo_add 55 2045
    rw [hpower]
    exact Nat.lt_of_le_of_lt hunit (Nat.mul_lt_mul_of_pos_right hsignificand (twoTo_pos 2045))

theorem Interval.Proper.exponent_le {i : Interval} (h : i.Proper) {d : Numeral} (hd : d.Within i) :
    d.exponent ≤ 400 := by
  refine Int.not_lt.mp fun hlarge => ?_
  have hfactor : gridFactor d.exponent = 1 := by
    rw [gridFactor, Int.toNat_of_nonpos (by omega)]
    rfl
  have hbelow := hd.below
  rw [hfactor, Nat.mul_one] at hbelow
  have hstep := Nat.mul_le_mul_left (twoTo 1076)
    (tenTo_le_tenTo (show 401 ≤ d.exponent.toNat by omega))
  have hdigits := Nat.le_mul_of_pos_left (gridStep d.exponent) hd.positive
  have hpower : twoTo 2100 ≤ twoTo 1076 * tenTo 401 := by decide +kernel
  have hgreatest := h.greatest
  rw [gridStep] at hbelow hdigits
  omega

/-- The digits of a number that is finite and not zero. -/
theorem shortest_within (tie : Tie) (hfinite : x.isFinite = true) (hunits : x.units ≠ 0) :
    (shortest tie x).Within (Interval.of x) := by
  have hproper := Interval.proper_of hfinite hunits
  have hfirst : (Interval.of x).magnitude - 1 + ((1 : Nat) : Int) = (Interval.of x).magnitude := by
    omega
  rw [shortest, if_neg hunits]
  exact (hproper.search_within tie hfirst Nat.one_pos (by decide)).trimmed 17

end Decimal

end VehicleMarket
