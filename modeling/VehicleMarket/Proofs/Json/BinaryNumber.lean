import VehicleMarket.Proofs.Json.NumberRange
import VehicleMarket.Proofs.Json.WholeNumber

/-!
Binary numbers in JSON text. From the written form of a finite number the reader gathers the very
digits and the exponent that were written, and their product is in range: some number is always
read, but not always the one that was written.
-/
namespace VehicleMarket.Json

open Decimal (isDigit digitChars Numeral shortest)

/-- A finite number that the reader gives back from its own written form. -/
def ReadsBack (x : Binary64) : Prop :=
  x.isFinite = true ∧ read (String.ofList (Decimal.jsonSpelling x)) = .ok (.float x)

def gives (x : Binary64) : Except TextError Json → Bool
  | .ok (.float y) => y == x
  | _ => false

theorem gives_iff (x : Binary64) (result : Except TextError Json) :
    gives x result = true ↔ result = .ok (.float x) := by
  unfold gives
  split
  · simp
  · rename_i hother
    exact ⟨fun h => absurd h Bool.false_ne_true, fun h => absurd h (hother x)⟩

instance (x : Binary64) : Decidable (ReadsBack x) :=
  decidable_of_iff
    (x.isFinite = true ∧ gives x (read (String.ofList (Decimal.jsonSpelling x))) = true)
    (and_congr_right fun _ => gives_iff x _)

def Digits (text : List Char) : Prop :=
  ∀ c ∈ text, isDigit c = true

theorem digits_digitChars (n : Nat) : Digits (digitChars n) :=
  fun _ hc => isDigit_of_toDigits hc

theorem digitChars_ne_nil (n : Nat) : digitChars n ≠ [] :=
  Nat.toDigits_ne_nil

theorem Digits.append {front back : List Char} (hfront : Digits front) (hback : Digits back) :
    Digits (front ++ back) := by
  intro c hc
  rcases List.mem_append.mp hc with hc | hc
  · exact hfront c hc
  · exact hback c hc

theorem digits_zeros (n : Nat) : Digits (List.replicate n '0') := by
  intro c hc
  rw [List.eq_of_mem_replicate hc]
  decide

/-! ## Reading -/

/-- The reader takes the whole text for a number, whatever comes after it. -/
def Takes (reader : List Char → Reading Json) (text : List Char) (x : Binary64) : Prop :=
  ∀ rest, AfterNumber rest → reader (text ++ rest) = .ok (.float x, rest)

structure InRange (significand : Nat) (exponent : Int) (x : Binary64) : Prop where
  gathered : significand ≤ largestSignificand
  near : -1000 ≤ exponent ∧ exponent ≤ 1000
  product : scaled? significand exponent = some x

section Reading

variable (negative : Bool) {significand : Nat} {exponent : Int} {x : Binary64}

theorem finishFloat_takes (h : InRange significand exponent x) :
    Takes (finishFloat negative significand exponent) [] (withSign negative x) := by
  intro rest _
  simp only [finishFloat, h.product, List.nil_append]

theorem readExponentDigits_takes {start : Int} {n : Nat} {negativeExponent : Bool}
    (hn : n ≤ largestExponent)
    (h : InRange significand (if negativeExponent then start - n else start + n) x) :
    Takes (readExponentDigits negative significand start negativeExponent) (digitChars n)
      (withSign negative x) := by
  intro rest hrest
  have hvalue : Nat.ofDigitChars 10 (digitChars n) 0 ≤ largestExponent := by
    rwa [digitChars, Nat.ofDigitChars_ten_toDigits]
  have hgather := gather_digits (digits_digitChars n) hrest.no_digit 0 0 hvalue
  rw [digitChars, Nat.ofDigitChars_ten_toDigits] at hgather
  have hclamp : clampExponent (if negativeExponent then start - n else start + n) =
      if negativeExponent then start - n else start + n := by
    have hnear := h.near
    rw [clampExponent]
    omega
  have hfinish := finishFloat_takes negative h rest hrest
  simp only [readExponentDigits, digitChars, hgather, hrest.no_digit, hclamp]
  exact hfinish

inductive Scale : List Char → Int → Prop where
  | none : Scale [] 0
  | exponent (n : Int) : n.natAbs ≤ largestExponent →
      Scale ('e' :: (if n < 0 then '-' else '+') :: digitChars n.natAbs) n

theorem Scale.no_digit {scale rest : List Char} {n : Int} (h : Scale scale n)
    (hrest : AfterNumber rest) : startsWithDigit (scale ++ rest) = false := by
  cases h with
  | none => exact hrest.no_digit
  | exponent _ _ => rfl

theorem readScale_plain {text : List Char} (h : AfterNumber text) :
    readScale negative significand exponent text =
      finishFloat negative significand exponent text := by
  unfold readScale
  split
  · exact absurd rfl (h 'e' rfl).2.2.1
  · exact absurd rfl (h 'E' rfl).2.2.2
  · rfl

theorem readExponent_signed {start : Int} (n : Int) (rest : List Char) :
    readExponent negative significand start
        ((if n < 0 then '-' else '+') :: (digitChars n.natAbs ++ rest)) =
      readExponentDigits negative significand start (n < 0) (digitChars n.natAbs ++ rest) := by
  obtain ⟨c, more, hdigits⟩ := List.exists_cons_of_ne_nil (digitChars_ne_nil n.natAbs)
  have hc : isDigit c = true := digits_digitChars n.natAbs c (by simp [hdigits])
  rw [hdigits]
  by_cases hneg : n < 0
  · simp only [hneg, if_true, decide_true]
    exact if_pos hc
  · simp only [hneg, if_false, decide_false]
    exact if_pos hc

theorem readScale_takes {scale : List Char} {n : Int} (hscale : Scale scale n)
    (h : InRange significand (exponent + n) x) :
    Takes (readScale negative significand exponent) scale (withSign negative x) := by
  intro rest hrest
  cases hscale with
  | none =>
    rw [List.nil_append, readScale_plain negative hrest]
    rw [Int.add_zero] at h
    exact finishFloat_takes negative h rest hrest
  | exponent _ hn =>
    have hexponent : (if decide (n < 0) = true then exponent - n.natAbs else
        exponent + n.natAbs) = exponent + n := by
      split <;> simp only [decide_eq_true_eq] at * <;> omega
    rw [← hexponent] at h
    show readExponent negative significand exponent
      ((if n < 0 then '-' else '+') :: (digitChars n.natAbs ++ rest)) = _
    rw [readExponent_signed]
    exact readExponentDigits_takes negative hn h rest hrest

theorem readPlaces_takes {places scale : List Char} {n : Int} (hplaces : Digits places)
    (hne : places ≠ []) (hscale : Scale scale n)
    (h : InRange (Nat.ofDigitChars 10 places significand) (n - places.length) x) :
    Takes (readPlaces negative significand 0) (places ++ scale) (withSign negative x) := by
  intro rest hrest
  have hgather := gather_digits hplaces (hscale.no_digit hrest) significand 0 h.gathered
  have hcount : 0 + places.length ≠ 0 := by
    have hpositive := List.length_pos_iff.mpr hne
    omega
  have hexponent : n - places.length = 0 - (0 + places.length : Nat) + n := by omega
  rw [hexponent] at h
  rw [List.append_assoc]
  simp only [readPlaces, hgather, hscale.no_digit hrest, if_neg hcount]
  exact readScale_takes negative hscale h rest hrest

inductive Fraction : List Char → List Char → Int → Prop where
  | places {places scale : List Char} {n : Int} : Digits places → places ≠ [] → Scale scale n →
      Fraction ('.' :: (places ++ scale)) places n
  | scale {scale : List Char} {n : Int} : Scale scale n → scale ≠ [] → Fraction scale [] n

theorem Fraction.begins {fraction places : List Char} {n : Int} (h : Fraction fraction places n)
    (rest : List Char) :
    startsWithDigit (fraction ++ rest) = false ∧ endsWhole (fraction ++ rest) = false := by
  cases h with
  | places _ _ _ => exact ⟨rfl, rfl⟩
  | scale hscale hne =>
    cases hscale with
    | none => exact absurd rfl hne
    | exponent _ _ => exact ⟨rfl, rfl⟩

theorem readFraction_takes {fraction places : List Char} {n : Int}
    (hfraction : Fraction fraction places n)
    (h : InRange (Nat.ofDigitChars 10 places significand) (n - places.length) x) :
    Takes (readFraction negative significand 0) fraction (withSign negative x) := by
  cases hfraction with
  | places hplaces hne hscale => exact readPlaces_takes negative hplaces hne hscale h
  | scale hscale hne =>
    have hexponent : n - ([] : List Char).length = 0 + n := by simp
    rw [hexponent] at h
    cases hscale with
    | none => exact absurd rfl hne
    | exponent _ hn => exact readScale_takes negative (.exponent n hn) h

end Reading

structure Leads (whole : List Char) : Prop where
  digits : Digits whole
  zero : ∃ c more, whole = c :: more ∧ (c = '0' → more = [])

theorem readNumber_takes (negative : Bool) {whole fraction places : List Char} {n : Int}
    {x : Binary64} (hwhole : Leads whole) (hfraction : Fraction fraction places n)
    (h : InRange (Nat.ofDigitChars 10 (whole ++ places) 0) (n - places.length) x) :
    Takes (readNumber negative) (whole ++ fraction) (withSign negative x) := by
  intro rest hrest
  obtain ⟨c, more, rfl, hzero⟩ := hwhole.zero
  obtain ⟨hdigit, hends⟩ := hfraction.begins rest
  rw [Nat.ofDigitChars_append] at h
  have hlimit := Nat.le_trans (le_ofDigitChars places _) h.gathered
  have hgather := gather_digits hwhole.digits hdigit 0 0 hlimit
  have hc : (!isDigit c) = false := by rw [hwhole.digits c List.mem_cons_self]; rfl
  have hlead : (decide (c = '0') && startsWithDigit (more ++ (fraction ++ rest))) = false := by
    by_cases hzeroDigit : c = '0'
    · rw [hzero hzeroDigit, List.nil_append, hdigit, Bool.and_false]
    · rw [decide_eq_false hzeroDigit, Bool.false_and]
  rw [List.append_assoc, List.cons_append]
  rw [List.cons_append] at hgather
  simp only [readNumber, hc, hlead, hgather, hdigit, hends]
  exact readFraction_takes negative hfraction h rest hrest

/-! ## Written forms -/

/-- A numeral with a point or an exponent, for the significand and the power of ten that are read
from it. -/
def Writes (text : List Char) (significand : Nat) (exponent : Int) : Prop :=
  ∃ whole places fraction n, Leads whole ∧ Fraction fraction places n ∧
    text = whole ++ fraction ∧ significand = Nat.ofDigitChars 10 (whole ++ places) 0 ∧
      exponent = n - places.length

theorem leads_digit {c : Char} (h : isDigit c = true) : Leads [c] where
  digits := fun d hd => by rwa [List.mem_singleton.mp hd]
  zero := ⟨c, [], rfl, fun _ => rfl⟩

theorem writes_places {whole places : List Char} {significand : Nat} {exponent : Int}
    (hwhole : Leads whole) (hplaces : Digits places) (hne : places ≠ [])
    (hvalue : Nat.ofDigitChars 10 (whole ++ places) 0 = significand)
    (hlength : (places.length : Int) = -exponent) :
    Writes (whole ++ '.' :: places) significand exponent := by
  have hfraction := Fraction.places hplaces hne .none
  rw [List.append_nil] at hfraction
  exact ⟨whole, places, _, 0, hwhole, hfraction, rfl, hvalue.symm, by omega⟩

theorem leads_nonzero {c : Char} {more : List Char} (hc : c ≠ '0') (hdigits : Digits (c :: more)) :
    Leads (c :: more) where
  digits := hdigits
  zero := ⟨c, more, rfl, fun hzero => absurd hzero hc⟩

section Numeral

variable {d : Numeral}

theorem ofDigitChars_digitChars (n : Nat) : Nat.ofDigitChars 10 (digitChars n) 0 = n :=
  Nat.ofDigitChars_ten_toDigits

theorem positional_whole (h : 0 < d.digits) (hexponent : 0 ≤ d.exponent) :
    Writes (Decimal.positional d ++ ['.', '0']) (d.digits * tenTo (d.exponent.toNat + 1)) (-1) := by
  have hwhole : Leads (digitChars d.digits ++ List.replicate d.exponent.toNat '0') := by
    have hdigits := (digits_digitChars d.digits).append (digits_zeros d.exponent.toNat)
    obtain ⟨c, more, heq, hc⟩ := leading_digit h
    rw [digitChars, heq] at hdigits ⊢
    exact leads_nonzero hc hdigits
  have hzero : Digits ['0'] := digits_zeros 1
  have hvalue : Nat.ofDigitChars 10
      (digitChars d.digits ++ List.replicate d.exponent.toNat '0' ++ List.replicate 1 '0') 0 =
        d.digits * tenTo (d.exponent.toNat + 1) := by
    rw [Nat.ofDigitChars_append, Nat.ofDigitChars_append, Nat.ofDigitChars_replicate_zero,
      Nat.ofDigitChars_replicate_zero, ofDigitChars_digitChars, Nat.mul_comm d.digits,
      Nat.add_comm _ 1, tenTo_add, Nat.mul_assoc]
    rfl
  rw [Decimal.positional, if_pos hexponent]
  exact writes_places hwhole hzero (by simp) hvalue rfl

theorem positional_places (h : 0 < d.digits) (hexponent : d.exponent < 0) :
    Writes (Decimal.positional d) d.digits d.exponent := by
  have hdigits := digits_digitChars d.digits
  rw [Decimal.positional, if_neg (by omega)]
  by_cases hpoint : 0 < ((digitChars d.digits).length : Int) + d.exponent
  · obtain ⟨n, hn⟩ := Int.eq_ofNat_of_zero_le (Int.le_of_lt hpoint)
    have hwhole : Leads ((digitChars d.digits).take n) := by
      have htake : Digits ((digitChars d.digits).take n) :=
        fun c hc => hdigits c (List.mem_of_mem_take hc)
      obtain ⟨c, more, heq, hc⟩ := leading_digit h
      obtain ⟨k, rfl⟩ : ∃ k, n = k + 1 := ⟨n - 1, by omega⟩
      rw [digitChars, heq, List.take_succ_cons] at htake ⊢
      exact leads_nonzero hc htake
    have hplaces : Digits ((digitChars d.digits).drop n) :=
      fun c hc => hdigits c (List.mem_of_mem_drop hc)
    have hlength : (((digitChars d.digits).drop n).length : Int) = -d.exponent := by
      rw [List.length_drop]
      omega
    have hne : (digitChars d.digits).drop n ≠ [] := by
      rw [← List.length_pos_iff]
      omega
    have hvalue : Nat.ofDigitChars 10
        ((digitChars d.digits).take n ++ (digitChars d.digits).drop n) 0 = d.digits := by
      rw [List.take_append_drop, ofDigitChars_digitChars]
    rw [if_pos hpoint, hn, Int.toNat_natCast]
    exact writes_places hwhole hplaces hne hvalue hlength
  · let zeros := (-(((digitChars d.digits).length : Int) + d.exponent)).toNat
    have hplaces : Digits (List.replicate zeros '0' ++ digitChars d.digits) :=
      (digits_zeros zeros).append hdigits
    have hne : List.replicate zeros '0' ++ digitChars d.digits ≠ [] :=
      List.append_ne_nil_of_right_ne_nil _ (digitChars_ne_nil d.digits)
    have hvalue : Nat.ofDigitChars 10
        (List.replicate 1 '0' ++ (List.replicate zeros '0' ++ digitChars d.digits)) 0 =
          d.digits := by
      rw [Nat.ofDigitChars_append, Nat.ofDigitChars_append, Nat.ofDigitChars_replicate_zero,
        Nat.ofDigitChars_replicate_zero, Nat.mul_zero, ofDigitChars_digitChars]
    have hlength : ((List.replicate zeros '0' ++ digitChars d.digits).length : Int) =
        -d.exponent := by
      rw [List.length_append, List.length_replicate]
      omega
    rw [if_neg hpoint]
    exact writes_places (leads_digit (by decide)) hplaces hne hvalue hlength

theorem scientific_writes
    (h : ((Decimal.decimalLength d.digits : Int) - 1 + d.exponent).natAbs ≤ largestExponent) :
    Writes (Decimal.scientific d) d.digits d.exponent := by
  have hdigits := digits_digitChars d.digits
  have hvalue := ofDigitChars_digitChars d.digits
  have hscale := Scale.exponent _ h
  rw [Decimal.decimalLength, ← digitChars] at hscale
  rw [Decimal.scientific]
  cases hcases : digitChars d.digits with
  | nil => exact absurd hcases (digitChars_ne_nil d.digits)
  | cons digit more =>
    rw [hcases] at hdigits hvalue hscale
    have hdigit := leads_digit (hdigits digit List.mem_cons_self)
    have hmore : Digits more := fun c hc => hdigits c (List.mem_cons_of_mem digit hc)
    cases more with
    | nil =>
      refine ⟨[digit], [], _, _, hdigit, .scale hscale (by simp), rfl, hvalue.symm, ?_⟩
      simp
    | cons next others =>
      refine ⟨[digit], next :: others, _, _, hdigit, .places hmore (by simp) hscale, rfl,
        hvalue.symm, ?_⟩
      simp only [List.length_cons]
      omega

end Numeral

def unsignedSpelling (x : Binary64) : List Char :=
  let d := shortest .even x
  let exponent := (Decimal.decimalLength d.digits : Int) - 1 + d.exponent
  if -5 ≤ exponent && exponent ≤ 15 then
    if 0 ≤ d.exponent then Decimal.positional d ++ ['.', '0'] else Decimal.positional d
  else Decimal.scientific d

theorem jsonSpelling_eq (x : Binary64) :
    Decimal.jsonSpelling x = Decimal.signed x.negative (unsignedSpelling x) :=
  rfl

theorem inRange_shortest {x : Binary64} (hfinite : x.isFinite = true) (hunits : x.units ≠ 0) :
    ∃ y, InRange (shortest .even x).digits (shortest .even x).exponent y := by
  obtain ⟨y, hproduct⟩ := scaled?_shortest hfinite hunits
  have hwithin := Decimal.shortest_within .even hfinite hunits
  have hgreatest := (Decimal.Interval.proper_of hfinite hunits).exponent_le hwithin
  have hleast := hwithin.least
  have hlimit : tenTo 18 ≤ largestSignificand := by decide
  exact ⟨y, Nat.le_trans hwithin.short hlimit, by omega, hproduct⟩

theorem positional_le {d : Numeral} (hexponent : 0 ≤ d.exponent)
    (h : (Decimal.decimalLength d.digits : Int) - 1 + d.exponent ≤ 15) :
    d.digits * tenTo (d.exponent.toNat + 1) ≤ largestSignificand := by
  have hdigits := Nat.le_of_lt (Decimal.lt_tenTo_decimalLength d.digits)
  have hproduct := Nat.mul_le_mul_right (tenTo (d.exponent.toNat + 1)) hdigits
  rw [← tenTo_add] at hproduct
  have hplaces := tenTo_le_tenTo
    (show Decimal.decimalLength d.digits + (d.exponent.toNat + 1) ≤ 17 by omega)
  have hlimit : tenTo 17 ≤ largestSignificand := by decide
  exact Nat.le_trans hproduct (Nat.le_trans hplaces hlimit)

/-- The digits and the exponent of the shortest decimal are written so that they are read again;
only those of a whole number are written with a zero more. -/
theorem unsignedSpelling_writes {x : Binary64} (hfinite : x.isFinite = true) :
    ∃ significand exponent y, Writes (unsignedSpelling x) significand exponent ∧
      InRange significand exponent y := by
  have hnegative (significand : Nat) (h : significand ≤ largestSignificand) :
      ∃ y, InRange significand (-1) y := by
    obtain ⟨y, hproduct⟩ := scaled?_of_neg significand (show (-1 : Int) < 0 by decide)
    exact ⟨y, h, by decide, hproduct⟩
  by_cases hunits : x.units = 0
  · have hzero : shortest .even x = ⟨0, 0⟩ := by rw [shortest, if_pos hunits]
    have htext : unsignedSpelling x = ['0'] ++ '.' :: ['0'] := by
      rw [unsignedSpelling, hzero]
      decide
    obtain ⟨y, hrange⟩ := hnegative 0 (Nat.zero_le _)
    rw [htext]
    exact ⟨0, -1, y, writes_places (leads_digit (by decide)) (digits_zeros 1) (by simp) rfl rfl,
      hrange⟩
  · obtain ⟨y, hrange⟩ := inRange_shortest hfinite hunits
    have hwithin := Decimal.shortest_within .even hfinite hunits
    simp only [unsignedSpelling]
    generalize shortest .even x = d at hrange hwithin
    have hlength : Decimal.decimalLength d.digits ≤ 19 :=
      (Decimal.decimalLength_le_iff (by decide)).mpr
        (Nat.lt_of_le_of_lt hwithin.short (by decide))
    split
    · rename_i hplain
      simp only [Bool.and_eq_true, decide_eq_true_eq] at hplain
      split
      · rename_i hwhole
        obtain ⟨z, hz⟩ := hnegative _ (positional_le hwhole hplain.2)
        exact ⟨_, _, z, positional_whole hwithin.positive hwhole, hz⟩
      · rename_i hplaces
        exact ⟨_, _, y, positional_places hwithin.positive (by omega), hrange⟩
    · have hnear := hrange.near
      have hfits : ((Decimal.decimalLength d.digits : Int) - 1 + d.exponent).natAbs ≤
          largestExponent := by
        rw [largestExponent]
        omega
      exact ⟨_, _, y, scientific_writes hfits, hrange⟩

/-- The number that the reader takes the written form of a finite number for. -/
def reread (x : Binary64) : Binary64 :=
  match read (String.ofList (Decimal.jsonSpelling x)) with
  | .ok (.float y) => y
  | _ => x

/-- Inside a text the reader does the same as on the written form alone. -/
theorem readValue_spelling {x : Binary64} (hfinite : x.isFinite = true) (depth : Nat)
    {rest : List Char} (hrest : AfterNumber rest) :
    readValue depth (Decimal.jsonSpelling x ++ rest) = .ok (.float (reread x), rest) := by
  obtain ⟨significand, exponent, y, hwrites, hrange⟩ := unsignedSpelling_writes hfinite
  obtain ⟨whole, places, fraction, n, hwhole, hfraction, htext, rfl, rfl⟩ := hwrites
  have hvalue (depth : Nat) (rest : List Char) (hrest : AfterNumber rest) :
      readValue depth (Decimal.jsonSpelling x ++ rest) =
        .ok (.float (withSign x.negative y), rest) := by
    have hread := readNumber_takes x.negative hwhole hfraction hrange rest hrest
    rw [jsonSpelling_eq, htext]
    cases hsign : x.negative with
    | true =>
      rw [hsign] at hread
      rw [Decimal.signed, if_pos rfl, List.cons_append, readValue_minus]
      exact hread
    | false =>
      obtain ⟨c, more, rfl, _⟩ := hwhole.zero
      rw [hsign] at hread
      rw [Decimal.signed, if_neg Bool.false_ne_true, List.cons_append, List.cons_append,
        readValue_digit (hwhole.digits c List.mem_cons_self)]
      exact hread
  have halone := hvalue deepest [] afterNumber_nil
  rw [List.append_nil] at halone
  have hreread : reread x = withSign x.negative y := by
    simp [reread, read, readText, halone, skipLayout]
  rw [hreread]
  exact hvalue depth rest hrest

theorem readsBack_iff {x : Binary64} : ReadsBack x ↔ x.isFinite = true ∧ reread x = x := by
  refine and_congr_right fun hfinite => ?_
  have hread := readValue_spelling hfinite deepest afterNumber_nil
  rw [List.append_nil] at hread
  simp [read, readText, hread, skipLayout]

-- the number 10928588.983213553, which comes back as the one before it
example : reread ⟨4712128852136459333⟩ = ⟨4712128852136459332⟩ := by decide +kernel

end VehicleMarket.Json
