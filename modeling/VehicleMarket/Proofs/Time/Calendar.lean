import Mathlib.Algebra.Group.Nat.Defs
import VehicleMarket.Time.Calendar

/-!
The text of an instant, and that it tells the instant. The day of an instant has the date that the
calendar counts up to it, for the year within a cycle can be told from the day of the cycle and back.
The parts of a text behind its year, which may have any number of digits, all have fixed widths, so
that they can be told from the end.
-/
namespace VehicleMarket.Calendar

/-! ## Dates name days -/

/-- The year of a cycle that a day of the cycle lies in. -/
def yearOfCycle (day : Nat) : Nat :=
  (day - day / 1460 + day / 36524 - day / 146096) / 365

def yearStart (year : Nat) : Nat :=
  365 * year + year / 4 - year / 100

def monthStart (marchMonth : Nat) : Nat :=
  (153 * marchMonth + 2) / 5

def marchMonth (dayOfYear : Nat) : Nat :=
  (5 * dayOfYear + 2) / 153

/-- The day that a date names, counted from the start of 1970. -/
def dayOfDate (date : Date) : Int :=
  let march := if date.month ≤ 2 then date.month + 9 else date.month - 3
  let year := if date.month ≤ 2 then date.year - 1 else date.year
  let dayOfCycle := yearStart (year % 400).toNat + monthStart march + (date.day - 1)
  year / 400 * 146097 + dayOfCycle - 719468

theorem yearOfCycle_mono {a b : Nat} (h : a ≤ b) : yearOfCycle a ≤ yearOfCycle b := by
  induction h with
  | refl => exact Nat.le_refl _
  | @step m _ ih =>
    refine Nat.le_trans ih (Nat.div_le_div_right ?_)
    omega

theorem yearOfCycle_lt {day : Nat} (h : day < 146097) : yearOfCycle day < 400 := by
  unfold yearOfCycle
  omega

/-- The day before a year begins lies in an earlier year, and a day that the year is too short for
lies in a later one. -/
theorem yearOfCycle_yearStart : ∀ year < 400,
    (0 < year → yearOfCycle (yearStart year - 1) < year) ∧
      (year < 399 → year < yearOfCycle (yearStart year + 366)) := by
  decide +kernel

theorem yearStart_bounds {day : Nat} (h : day < 146097) :
    yearStart (yearOfCycle day) ≤ day ∧ day - yearStart (yearOfCycle day) ≤ 365 := by
  have hyear := yearOfCycle_lt h
  obtain ⟨hbefore, hafter⟩ := yearOfCycle_yearStart _ hyear
  constructor
  · refine Nat.le_of_not_lt fun hlate => ?_
    have hearlier := yearOfCycle_mono (a := day) (b := yearStart (yearOfCycle day) - 1) (by omega)
    by_cases hfirst : yearOfCycle day = 0
    · rw [hfirst] at hlate
      exact absurd hlate (Nat.not_lt_zero day)
    · have hless := hbefore (by omega)
      omega
  · refine Nat.le_of_not_lt fun hlong => ?_
    by_cases hlast : yearOfCycle day < 399
    · have hlater := yearOfCycle_mono (a := yearStart (yearOfCycle day) + 366) (b := day) (by omega)
      have hmore := hafter hlast
      omega
    · have hyear399 : yearOfCycle day = 399 := by omega
      have hstart : yearStart 399 = 145731 := by decide
      rw [hyear399, hstart] at hlong
      omega

theorem dateOfDay_eq (day : Int) :
    let dayOfCycle := ((day + 719468) % 146097).toNat
    let dayOfYear := dayOfCycle - yearStart (yearOfCycle dayOfCycle)
    let march := marchMonth dayOfYear
    let month := if march < 10 then march + 3 else march - 9
    let year := (yearOfCycle dayOfCycle : Int) + (day + 719468) / 146097 * 400
    dateOfDay day =
      ⟨if month ≤ 2 then year + 1 else year, month, dayOfYear - monthStart march + 1⟩ :=
  rfl

theorem marchMonth_le {dayOfYear : Nat} (h : dayOfYear ≤ 365) : marchMonth dayOfYear ≤ 11 := by
  unfold marchMonth
  omega

theorem monthStart_bounds (dayOfYear : Nat) :
    monthStart (marchMonth dayOfYear) ≤ dayOfYear ∧
      dayOfYear - monthStart (marchMonth dayOfYear) ≤ 30 := by
  unfold monthStart marchMonth
  omega

theorem dayOfDate_ofMarch (year cycle : Int) (dayOfYear march : Nat) (hmarch : march ≤ 11)
    (hmonth : monthStart march ≤ dayOfYear) (hcycle : year / 400 = cycle) :
    let month := if march < 10 then march + 3 else march - 9
    dayOfDate ⟨if month ≤ 2 then year + 1 else year, month, dayOfYear - monthStart march + 1⟩ =
      cycle * 146097 + (yearStart (year % 400).toNat + dayOfYear : Nat) - 719468 := by
  intro month
  have hmonthBack : (if month ≤ 2 then month + 9 else month - 3) = march := by
    dsimp only [month]
    split <;> split <;> omega
  have hyearBack : (if month ≤ 2 then (if month ≤ 2 then year + 1 else year) - 1
      else if month ≤ 2 then year + 1 else year) = year := by
    split <;> omega
  have hdayBack : monthStart march + (dayOfYear - monthStart march + 1 - 1) = dayOfYear := by
    omega
  dsimp only [dayOfDate]
  rw [hmonthBack, hyearBack, hcycle, Nat.add_assoc, hdayBack]

theorem dayOfDate_dateOfDay (day : Int) : dayOfDate (dateOfDay day) = day := by
  have hcycle : ((day + 719468) % 146097).toNat < 146097 := by omega
  obtain ⟨hstart, hyear⟩ := yearStart_bounds hcycle
  have hyears := yearOfCycle_lt hcycle
  have hmarch := marchMonth_le hyear
  obtain ⟨hmonth, _⟩ := monthStart_bounds
    (((day + 719468) % 146097).toNat - yearStart (yearOfCycle ((day + 719468) % 146097).toNat))
  rw [dateOfDay_eq]
  generalize hyearOfCycle : yearOfCycle ((day + 719468) % 146097).toNat = yearInCycle at *
  refine (dayOfDate_ofMarch _ ((day + 719468) / 146097) _ _ hmarch hmonth (by omega)).trans ?_
  have hyearBack :
      (((yearInCycle : Int) + (day + 719468) / 146097 * 400) % 400).toNat = yearInCycle := by
    omega
  rw [hyearBack]
  omega

/-! ## The dates of the calendar -/

def isLeap (year : Int) : Bool :=
  year % 4 = 0 && (year % 100 ≠ 0 || year % 400 = 0)

def monthLength (leap : Bool) (month : Nat) : Nat :=
  if month = 2 then 28 + leap.toNat else if month ∈ [4, 6, 9, 11] then 30 else 31

def daysBefore (leap : Bool) : Nat → Nat
  | 0 | 1 => 0
  | month + 1 => daysBefore leap month + monthLength leap month

/-- The leap days before a year begins, counted from the first year. -/
def leapDays (year : Int) : Int :=
  (year - 1) / 4 - (year - 1) / 100 + (year - 1) / 400

structure Date.Valid (date : Date) : Prop where
  month_pos : 1 ≤ date.month
  month_le : date.month ≤ 12
  day_pos : 1 ≤ date.day
  day_le : date.day ≤ monthLength (isLeap date.year) date.month

/-- The days from the start of 1970 to a date. -/
def Date.number (date : Date) : Int :=
  365 * (date.year - 1970) + (leapDays date.year - leapDays 1970) +
    daysBefore (isLeap date.year) date.month + (date.day - 1)

theorem leap_toNat (year : Int) :
    ((isLeap year).toNat : Int) = leapDays (year + 1) - leapDays year := by
  unfold leapDays
  cases hleap : isLeap year with
  | true =>
    simp only [isLeap, Bool.and_eq_true, Bool.or_eq_true, decide_eq_true_eq] at hleap
    simp only [Bool.toNat_true]
    omega
  | false =>
    simp only [isLeap, Bool.and_eq_false_iff, Bool.or_eq_false_iff, decide_eq_false_iff_not] at hleap
    simp only [Bool.toNat_false]
    omega

theorem daysBefore_eq : ∀ leap : Bool, ∀ month ≤ 12, 1 ≤ month →
    daysBefore leap month + 306 =
      if month ≤ 2 then monthStart (month + 9) else monthStart (month - 3) + 365 + leap.toNat := by
  decide

theorem monthLength_eq : ∀ leap : Bool, ∀ march ≤ 10,
    monthStart march + monthLength leap (if march < 10 then march + 3 else march - 9) =
      monthStart (march + 1) := by
  decide

/-- A year that begins in March begins with the leap days that are over in February. -/
theorem yearStart_eq (year : Int) :
    year / 400 * 146097 + yearStart (year % 400).toNat = 365 * year + leapDays (year + 1) := by
  unfold yearStart leapDays
  omega

theorem monthLength_le (leap : Bool) (month : Nat) : monthLength leap month ≤ 31 := by
  have hleap := Bool.toNat_le leap
  unfold monthLength
  split
  · omega
  · split <;> omega

theorem number_eq_dayOfDate {date : Date} (h : date.Valid) : date.number = dayOfDate date := by
  obtain ⟨year, month, day⟩ := date
  have hbefore := daysBefore_eq (isLeap year) month h.month_le h.month_pos
  have hleap := leap_toNat year
  have hday := h.day_pos
  have hpast : leapDays 1970 = 477 := by decide
  simp only [Date.number, dayOfDate, hpast] at hday ⊢
  split at hbefore
  · rename_i hearly
    have hstart := yearStart_eq (year - 1)
    rw [Int.sub_add_cancel] at hstart
    rw [if_pos hearly, if_pos hearly]
    omega
  · rename_i hlate
    have hstart := yearStart_eq year
    rw [if_neg hlate, if_neg hlate]
    omega

theorem lt_yearStart_succ {day : Nat} (hlast : yearOfCycle day < 399) :
    day < yearStart (yearOfCycle day + 1) := by
  refine Nat.lt_of_not_le fun hlate => ?_
  have hown : ∀ year < 400, yearOfCycle (yearStart year) = year := by decide +kernel
  have hmono := yearOfCycle_mono hlate
  rw [hown _ (by omega)] at hmono
  omega

/-- A leap day is the last day of the year before its own, which begins in March. -/
theorem dayOfYear_le {day : Nat} (year : Int) (h : day < 146097)
    (hyear : (year % 400).toNat = yearOfCycle day) :
    day - yearStart (yearOfCycle day) ≤ 364 + (isLeap (year + 1)).toNat := by
  have hleap := leap_toNat (year + 1)
  have hown := yearStart_eq year
  have hnext := yearStart_eq (year + 1)
  rw [hyear] at hown
  by_cases hlast : yearOfCycle day < 399
  · have hlater := lt_yearStart_succ hlast
    rw [show (year + 1) / 400 = year / 400 by omega,
      show ((year + 1) % 400).toNat = yearOfCycle day + 1 by omega] at hnext
    omega
  · have hfirst : yearStart 0 = 0 := rfl
    have hyears := yearOfCycle_lt h
    rw [show (year + 1) / 400 = year / 400 + 1 by omega,
      show ((year + 1) % 400).toNat = 0 by omega, hfirst] at hnext
    omega

theorem dayOfMonth_le {leap : Bool} {dayOfYear : Nat} (h : dayOfYear ≤ 365)
    (hlast : marchMonth dayOfYear = 11 → dayOfYear ≤ 364 + leap.toNat) :
    dayOfYear - monthStart (marchMonth dayOfYear) + 1 ≤
      monthLength leap
        (if marchMonth dayOfYear < 10 then marchMonth dayOfYear + 3
          else marchMonth dayOfYear - 9) := by
  have hmarch := marchMonth_le h
  have hend : dayOfYear < monthStart (marchMonth dayOfYear + 1) := by
    unfold monthStart marchMonth
    omega
  obtain ⟨hbegin, -⟩ := monthStart_bounds dayOfYear
  generalize marchMonth dayOfYear = march at *
  rcases Nat.lt_or_eq_of_le hmarch with hearlier | rfl
  · have hlength := monthLength_eq leap march (by omega)
    omega
  · have hstart : monthStart 11 = 337 := rfl
    have hfebruary : monthLength leap 2 = 28 + leap.toNat := rfl
    have hday := hlast rfl
    rw [hstart, if_neg (by decide), hfebruary]
    omega

theorem valid_dateOfDay (day : Int) : (dateOfDay day).Valid := by
  have hcycle : ((day + 719468) % 146097).toNat < 146097 := by omega
  have hyears := yearOfCycle_lt hcycle
  have hlast := dayOfYear_le
    (yearOfCycle ((day + 719468) % 146097).toNat + (day + 719468) / 146097 * 400) hcycle (by omega)
  have hlong := (yearStart_bounds hcycle).2
  have hmarch := marchMonth_le hlong
  rw [dateOfDay_eq]
  refine ⟨?_, ?_, Nat.le_add_left 1 _, dayOfMonth_le hlong fun heleven => ?_⟩
  · dsimp only
    split <;> omega
  · dsimp only
    split <;> omega
  · rw [heleven]
    exact hlast

theorem number_dateOfDay (day : Int) : (dateOfDay day).number = day := by
  rw [number_eq_dayOfDate (valid_dateOfDay day), dayOfDate_dateOfDay]

theorem Date.eq_of_parts {a b : Date} (hyear : a.year = b.year) (hmonth : a.month = b.month)
    (hday : a.day = b.day) : a = b := by
  cases a
  cases b
  simp_all only

/-! ## Numbers of a width -/

@[simp]
theorem ofDigitChars_padded (width n : Nat) : Nat.ofDigitChars 10 (padded width n) 0 = n := by
  unfold padded
  rw [Nat.ofDigitChars_append, Nat.ofDigitChars_replicate_zero, Nat.mul_zero,
    Nat.ofDigitChars_ten_toDigits]

theorem padded_injective {width m n : Nat} (h : padded width m = padded width n) : m = n := by
  have hread := congrArg (fun digits => Nat.ofDigitChars 10 digits 0) h
  simpa using hread

theorem length_padded {width n : Nat} (hwidth : 0 < width) (h : n < 10 ^ width) :
    (padded width n).length = width := by
  have hlength := (Nat.length_toDigits_le_iff (b := 10) (by decide) hwidth).2 h
  unfold padded
  rw [List.length_append, List.length_replicate]
  omega

theorem isDigit_of_mem_padded {width n : Nat} {c : Char} (h : c ∈ padded width n) :
    c.isDigit = true := by
  rcases List.mem_append.1 h with hzero | hdigit
  · rw [List.eq_of_mem_replicate hzero]
    decide
  · exact Nat.isDigit_of_mem_toDigits (by decide) (by decide) hdigit

/-! ## The parts of a text -/

def yearOfText : List Char → Int
  | '-' :: digits => -(Nat.ofDigitChars 10 digits 0 : Nat)
  | '+' :: digits => (Nat.ofDigitChars 10 digits 0 : Nat)
  | digits => (Nat.ofDigitChars 10 digits 0 : Nat)

theorem yearOfText_padded (width n : Nat) : yearOfText (padded width n) = n := by
  unfold yearOfText
  split
  · rename_i digits heq
    have hdigit := isDigit_of_mem_padded (heq ▸ List.mem_cons_self : '-' ∈ padded width n)
    exact absurd hdigit (by decide)
  · rename_i digits heq
    have hdigit := isDigit_of_mem_padded (heq ▸ List.mem_cons_self : '+' ∈ padded width n)
    exact absurd hdigit (by decide)
  · rw [ofDigitChars_padded]

theorem yearOfText_yearText (year : Int) : yearOfText (yearText year) = year := by
  unfold yearText
  split
  · rename_i hplain
    rw [yearOfText_padded]
    simp only [Bool.and_eq_true, decide_eq_true_eq] at hplain
    omega
  · split
    · simp only [yearOfText, ofDigitChars_padded]
      omega
    · simp only [yearOfText, ofDigitChars_padded]
      omega

theorem yearText_injective {a b : Int} (h : yearText a = yearText b) : a = b := by
  have hread := congrArg yearOfText h
  rwa [yearOfText_yearText, yearOfText_yearText] at hread

/-- A number of a fixed width can be told from what stands in front of it. -/
theorem part_injective {front front' : List Char} {mark : Char} {width bound m n : Nat}
    (hwidth : 0 < width) (hbound : bound ≤ 10 ^ width) (hm : m < bound) (hn : n < bound)
    (h : front ++ mark :: padded width m = front' ++ mark :: padded width n) :
    front = front' ∧ m = n := by
  have hlength : (mark :: padded width m).length = (mark :: padded width n).length := by
    rw [List.length_cons, List.length_cons, length_padded hwidth (Nat.lt_of_lt_of_le hm hbound),
      length_padded hwidth (Nat.lt_of_lt_of_le hn hbound)]
  obtain ⟨hfront, hpart⟩ := List.append_inj' h hlength
  exact ⟨hfront, padded_injective (List.cons.inj hpart).2⟩

structure Parts where
  date : Date
  hour : Nat
  minute : Nat
  second : Nat
  milli : Nat

structure Parts.Valid (parts : Parts) : Prop where
  date : parts.date.Valid
  hour : parts.hour < 24
  minute : parts.minute < 60
  second : parts.second < 60
  milli : parts.milli < 1000

def Parts.millis (parts : Parts) : Int :=
  (((parts.date.number * 24 + parts.hour) * 60 + parts.minute) * 60 + parts.second) * 1000 +
    parts.milli

/-- The parts in the order of RFC 3339. -/
def Parts.text (parts : Parts) : String :=
  String.ofList <|
    yearText parts.date.year ++ '-' :: padded 2 parts.date.month ++ '-' :: padded 2 parts.date.day ++
    'T' :: padded 2 parts.hour ++ ':' :: padded 2 parts.minute ++ ':' :: padded 2 parts.second ++
    '.' :: padded 3 parts.milli ++ ['Z']

/-- A text of an instant: that of a time of a day of the calendar. -/
def IsTimestamp (instant : Instant) (text : String) : Prop :=
  ∃ parts : Parts, parts.Valid ∧ parts.millis = instant.millis ∧ text = parts.text

theorem isTimestamp_timestamp (instant : Instant) : IsTimestamp instant (timestamp instant) := by
  let rest := (instant.millis % millisPerDay).toNat
  have hrest : rest < 86400000 ∧ (rest : Int) = instant.millis % millisPerDay := by
    dsimp only [rest]
    unfold millisPerDay
    omega
  refine ⟨⟨dateOfDay (instant.millis / millisPerDay), rest / 3600000, rest / 60000 % 60,
    rest / 1000 % 60, rest % 1000⟩, ⟨valid_dateOfDay _, ?_, ?_, ?_, ?_⟩, ?_, rfl⟩
  · dsimp only
    omega
  · exact Nat.mod_lt _ (by decide)
  · exact Nat.mod_lt _ (by decide)
  · exact Nat.mod_lt _ (by decide)
  · simp only [Parts.millis, number_dateOfDay]
    unfold millisPerDay at *
    omega

theorem Date.Valid.below {date : Date} (h : date.Valid) : date.month < 100 ∧ date.day < 100 := by
  have hmonth := h.month_le
  have hday := h.day_le
  have hlength := monthLength_le (isLeap date.year) date.month
  omega

/-- The text is read from its end, where all parts but the year have a width. -/
theorem Parts.Valid.eq_of_text {parts others : Parts} (h : parts.Valid) (hothers : others.Valid)
    (htext : parts.text = others.text) : parts = others := by
  obtain ⟨hmonth, hday⟩ := h.date.below
  obtain ⟨hmonth', hday'⟩ := hothers.date.below
  have hend := (List.append_inj' (String.ofList_injective htext) rfl).1
  obtain ⟨hseconds, hmilli⟩ := part_injective (by decide) (by decide) h.milli hothers.milli hend
  obtain ⟨hminutes, hsecond⟩ :=
    part_injective (by decide) (by decide) h.second hothers.second hseconds
  obtain ⟨hhours, hminute⟩ :=
    part_injective (by decide) (by decide) h.minute hothers.minute hminutes
  obtain ⟨hdays, hhour⟩ := part_injective (by decide) (by decide) h.hour hothers.hour hhours
  obtain ⟨hmonths, hdayEq⟩ := part_injective (by decide) (by decide) hday hday' hdays
  obtain ⟨hyears, hmonthEq⟩ := part_injective (by decide) (by decide) hmonth hmonth' hmonths
  have hdate := Date.eq_of_parts (yearText_injective hyears) hmonthEq hdayEq
  cases parts
  cases others
  simp_all only

theorem IsTimestamp.unique {a b : Instant} {text : String} (ha : IsTimestamp a text)
    (hb : IsTimestamp b text) : a = b := by
  obtain ⟨parts, hparts, hmillis, htext⟩ := ha
  obtain ⟨others, hothers, hmillis', htext'⟩ := hb
  obtain rfl := hparts.eq_of_text hothers (htext.symm.trans htext')
  exact Instant.ext_millis (hmillis.symm.trans hmillis')

theorem timestamp_injective {a b : Instant} (h : timestamp a = timestamp b) : a = b :=
  (h ▸ isTimestamp_timestamp a).unique (isTimestamp_timestamp b)

end VehicleMarket.Calendar
