import VehicleMarket.Json.Printer
import VehicleMarket.Json.Reader

/-!
Whole numbers in JSON text. Those of 64 bits, with a sign or without, are read back whole. What
follows a number must not go on with it.
-/
namespace VehicleMarket.Json

open Decimal (isDigit)

def AfterNumber (rest : List Char) : Prop :=
  ∀ c ∈ rest.head?, isDigit c = false ∧ c ≠ '.' ∧ c ≠ 'e' ∧ c ≠ 'E'

theorem afterNumber_nil : AfterNumber [] := by simp [AfterNumber]

theorem afterNumber_cons {c : Char} (rest : List Char) (hdigit : isDigit c = false)
    (hmark : c ≠ '.' ∧ c ≠ 'e' ∧ c ≠ 'E') : AfterNumber (c :: rest) := by
  simpa [AfterNumber] using ⟨hdigit, hmark⟩

theorem AfterNumber.no_digit {rest : List Char} (h : AfterNumber rest) :
    startsWithDigit rest = false := by
  cases rest with
  | nil => rfl
  | cons c rest => exact (h c rfl).1

theorem AfterNumber.ends_whole {rest : List Char} (h : AfterNumber rest) :
    endsWhole rest = true := by
  unfold endsWhole
  split
  · exact absurd rfl (h '.' rfl).2.1
  · exact absurd rfl (h 'e' rfl).2.2.1
  · exact absurd rfl (h 'E' rfl).2.2.2
  · rfl

theorem isDigit_of_toDigits {n : Nat} {c : Char} (h : c ∈ Nat.toDigits 10 n) :
    isDigit c = true := by
  have hc := Nat.isDigit_of_mem_toDigits (by decide) (by decide) h
  simpa [Char.isDigit, isDigit, Char.le_def] using hc

theorem le_ofDigitChars (cs : List Char) (n : Nat) : n ≤ Nat.ofDigitChars 10 cs n := by
  have hpow : 1 ≤ 10 ^ cs.length := Nat.one_le_pow _ _ (by decide)
  have hle : 1 * n ≤ 10 ^ cs.length * n := Nat.mul_le_mul_right n hpow
  rw [Nat.ofDigitChars_eq_ofDigitChars_zero]
  omega

theorem gather_digits {limit : Nat} {ds rest : List Char} (hds : ∀ c ∈ ds, isDigit c = true)
    (hrest : startsWithDigit rest = false) (n count : Nat)
    (hlimit : Nat.ofDigitChars 10 ds n ≤ limit) :
    gather limit n count (ds ++ rest) =
      (Nat.ofDigitChars 10 ds n, count + ds.length, rest) := by
  induction ds generalizing n count with
  | nil =>
    cases rest with
    | nil => simp [gather]
    | cons c rest =>
      have hc : isDigit c = false := hrest
      simp [gather, hc]
  | cons c ds ih =>
    rw [Nat.ofDigitChars_cons] at hlimit ⊢
    have hc := hds c List.mem_cons_self
    have hn : 10 * n + Decimal.digitValue c ≤ limit :=
      Nat.le_trans (le_ofDigitChars ds _) hlimit
    have hgo := ih (fun d hd => hds d (List.mem_cons_of_mem c hd))
      (10 * n + Decimal.digitValue c) (count + 1) hlimit
    simp only [List.cons_append, gather, hc, hn, decide_true, Bool.and_self, if_true, hgo,
      List.length_cons]
    simp [Decimal.digitValue, Nat.add_comm, Nat.add_left_comm]

theorem leading_digit {n : Nat} (h : 0 < n) :
    ∃ c ds, Nat.toDigits 10 n = c :: ds ∧ c ≠ '0' := by
  induction n using Nat.strongRecOn with
  | ind n ih =>
    by_cases hn : n < 10
    · refine ⟨n.digitChar, [], Nat.toDigits_of_lt_base hn, ?_⟩
      intro hzero
      have hvalue := Nat.toNat_digitChar_sub_48_of_lt_ten hn
      rw [hzero] at hvalue
      simp at hvalue
      omega
    · obtain ⟨c, ds, heq, hc⟩ := ih (n / 10) (by omega) (by omega)
      refine ⟨c, ds ++ [Nat.digitChar (n % 10)], ?_, hc⟩
      rw [Nat.toDigits_of_base_le (by decide) (by omega), heq, List.cons_append]

theorem read_digits (negative : Bool) {n : Nat} (hn : n ≤ largestSignificand) {rest : List Char}
    (h : AfterNumber rest) :
    readNumber negative (Decimal.digitChars n ++ rest) = .ok (wholeNumber negative n, rest) := by
  have hvalue : Nat.ofDigitChars 10 (Nat.toDigits 10 n) 0 ≤ largestSignificand := by simpa using hn
  have hgather := gather_digits (fun c hc => isDigit_of_toDigits (n := n) hc) h.no_digit 0 0 hvalue
  obtain ⟨c, ds, heq⟩ := List.exists_cons_of_ne_nil (Nat.toDigits_ne_nil (n := n) (b := 10))
  have hc : isDigit c = true := isDigit_of_toDigits (n := n) (by simp [heq])
  have hzero : (decide (c = '0') && startsWithDigit (ds ++ rest)) = false := by
    by_cases hsmall : n < 10
    · have hds : ds = [] := by
        rw [Nat.toDigits_of_lt_base hsmall] at heq
        exact (List.cons.inj heq).2.symm
      simp [hds, h.no_digit]
    · obtain ⟨d, ds', heq', hd⟩ := leading_digit (show 0 < n by omega)
      rw [heq] at heq'
      simp [(List.cons.inj heq').1, hd]
  rw [Nat.ofDigitChars_ten_toDigits, heq] at hgather
  rw [Decimal.digitChars, heq]
  simp only [List.cons_append] at hgather ⊢
  simp [readNumber, hc, hzero, hgather, h.no_digit, h.ends_whole]

/-- The numbers that stay whole: 64 bits, with a sign if negative. -/
def IsWhole (n : Int) : Prop :=
  -9223372036854775808 ≤ n ∧ n ≤ 18446744073709551615

theorem isLayout_eq_false_of_isDigit {c : Char} (h : isDigit c = true) : isLayout c = false := by
  cases hlayout : isLayout c with
  | false => rfl
  | true =>
    have hc : ((c = ' ' ∨ c = '\n') ∨ c = '\t') ∨ c = '\r' := by simpa [isLayout] using hlayout
    rcases hc with ((rfl | rfl) | rfl) | rfl <;> simp [isDigit] at h

theorem readValue_digit {c : Char} (h : isDigit c = true) (depth : Nat) (rest : List Char) :
    readValue depth (c :: rest) = readNumber false (c :: rest) := by
  have hskip : skipLayout (c :: rest) = c :: rest := by
    simp [skipLayout, isLayout_eq_false_of_isDigit h]
  rw [readValue, hskip]
  split <;> rename_i heq <;> cases heq
  all_goals first | exact absurd h (by decide) | exact if_pos h

theorem readValue_minus (depth : Nat) (rest : List Char) :
    readValue depth ('-' :: rest) = readNumber true rest := by
  have hskip : skipLayout ('-' :: rest) = '-' :: rest := by
    rw [skipLayout, List.dropWhile_cons_of_neg (by decide)]
  rw [readValue, hskip]
  rfl

theorem read_integer {n : Int} (hn : IsWhole n) (depth : Nat) {rest : List Char}
    (h : AfterNumber rest) : readValue depth (integer n ++ rest) = .ok (.int n, rest) := by
  obtain ⟨hlow, hhigh⟩ := hn
  have hlimit : n.natAbs ≤ largestSignificand := by rw [largestSignificand]; omega
  by_cases hneg : n < 0
  · have hpos : 0 < n.natAbs := by omega
    have hsize : n.natAbs ≤ 9223372036854775808 := by omega
    have hback : -(n.natAbs : Int) = n := by omega
    have hread := read_digits true hlimit h
    rw [wholeNumber] at hread
    simp only [hpos, hsize, decide_true, Bool.and_self, if_true, hback] at hread
    simp only [integer, Decimal.signed, hneg, decide_true, if_true, List.cons_append,
      readValue_minus, hread]
    rfl
  · have hread := read_digits false hlimit h
    obtain ⟨c, ds, heq⟩ := List.exists_cons_of_ne_nil (Nat.toDigits_ne_nil (n := n.natAbs) (b := 10))
    have hc : isDigit c = true := isDigit_of_toDigits (n := n.natAbs) (by simp [heq])
    rw [Decimal.digitChars, heq, List.cons_append] at hread
    simp only [integer, Decimal.signed, hneg, decide_false, Decimal.digitChars, heq]
    rw [if_neg Bool.false_ne_true, List.cons_append, readValue_digit hc, hread]
    simp [wholeNumber]; omega

end VehicleMarket.Json
