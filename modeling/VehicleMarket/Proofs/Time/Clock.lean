import Mathlib.Tactic.Ring
import VehicleMarket.Time.Clock

/-!
A stepping clock from its start to the edge of the range and beyond. A reading gives the moment
that the clock has come to and is refused when the one after it lies out of range, so a clock that
moves never gives the last moment within its reach. A refused reading marks the lock and changes
nothing else; hence all readings after it are refused as well.
-/
namespace VehicleMarket

def InRange (n : Int) : Prop :=
  earliestNanos ≤ n ∧ n ≤ latestNanos

theorem Moment.ofNanos?_of_inRange {n : Int} (h : InRange n) :
    Moment.ofNanos? n = some ⟨n, h⟩ :=
  dif_pos h

theorem Moment.ofNanos?_of_not_inRange {n : Int} (h : ¬ InRange n) :
    Moment.ofNanos? n = none :=
  dif_neg h

theorem InRange.between {a b n : Int} (ha : InRange a) (hb : InRange b)
    (h : a ≤ n ∧ n ≤ b ∨ b ≤ n ∧ n ≤ a) : InRange n := by
  obtain ⟨hfirst, hlast⟩ := ha
  obtain ⟨hfirst', hlast'⟩ := hb
  unfold InRange
  omega

theorem inRange_mul_iff {n : Int} :
    InRange (n * nanosPerMilli) ↔ earliestMillis ≤ n ∧ n ≤ latestMillis := by
  unfold InRange earliestNanos latestNanos nanosPerMilli
  omega

namespace LockedClock

variable {clock : LockedClock} {start : Moment} {step : Int}

/-! ## One reading -/

theorem run_read (clock : LockedClock) : read.run clock =
    match Moment.ofNanos? (clock.next.nanos + clock.step) with
    | some later => (some clock.next, { clock with next := later })
    | none => (none, { clock with marked := true }) := by
  cases h : Moment.ofNanos? (clock.next.nanos + clock.step) with
  | none =>
    simp only [read, advance, StateT.run_bind, StateT.run_get, pure_bind, h]
    rfl
  | some later =>
    simp only [read, advance, StateT.run_bind, StateT.run_get, pure_bind, h]
    rfl

theorem run_read_of_inRange (h : InRange (clock.next.nanos + clock.step)) :
    read.run clock = (some clock.next, { clock with next := ⟨_, h⟩ }) := by
  rw [run_read, Moment.ofNanos?_of_inRange h]

theorem run_read_of_not_inRange (h : ¬ InRange (clock.next.nanos + clock.step)) :
    read.run clock = (none, { clock with marked := true }) := by
  rw [run_read, Moment.ofNanos?_of_not_inRange h]

/-! ## Many readings -/

theorem after_zero (clock : LockedClock) : clock.after 0 = clock :=
  rfl

theorem after_succ (n : Nat) (clock : LockedClock) :
    clock.after (n + 1) = (read.run (clock.after n)).2 :=
  rfl

theorem after_add (m n : Nat) (clock : LockedClock) :
    clock.after (m + n) = (clock.after n).after m := by
  induction m with
  | zero => rw [Nat.zero_add, after_zero]
  | succ m ih => rw [Nat.add_right_comm, after_succ, after_succ, ih]

theorem reading_after (m n : Nat) (clock : LockedClock) :
    (clock.after n).reading m = clock.reading (m + n) := by
  rw [reading, reading, after_add]

/-- A reading through the lock is one of the clock that is made of all readings. -/
theorem read?_clock (clock : LockedClock) :
    clock.clock.read? =
      (clock.reading 0).map fun now => (now.millisecond, (clock.after 1).clock) := by
  have hnext : clock.clock.next = (clock.after 1).clock :=
    congrArg Clock.mk (funext fun n => (reading_after n 1 clock).symm)
  rw [Clock.read?, hnext]
  rfl

theorem next_nanos {now : Moment} {n : Nat} (h : now.nanos = start.nanos + n * step) :
    now.nanos + step = start.nanos + (n + 1) * step := by
  rw [h]
  ring

/-- Where the clock stands while every step so far has stayed in range. -/
theorem after_of_inRange {n : Nat}
    (h : ∀ k < n, InRange (start.nanos + (k + 1) * step)) :
    ∃ now : Moment, now.nanos = start.nanos + n * step ∧
      (create start step).after n = create now step := by
  induction n with
  | zero => exact ⟨start, by simp, rfl⟩
  | succ n ih =>
    obtain ⟨now, hnow, hafter⟩ := ih fun k hk => h k (Nat.lt_succ_of_lt hk)
    have hnext : InRange (now.nanos + step) := by
      rw [next_nanos hnow]
      exact h n (Nat.lt_succ_self n)
    refine ⟨⟨now.nanos + step, hnext⟩, ?_, ?_⟩
    · push_cast
      exact next_nanos hnow
    · rw [after_succ, hafter, run_read_of_inRange hnext]
      rfl

theorem after_of_stopped (h : ¬ InRange (clock.next.nanos + clock.step)) (n : Nat) :
    clock.after (n + 1) = { clock with marked := true } := by
  induction n with
  | zero => rw [after_succ, after_zero, run_read_of_not_inRange h]
  | succ n ih =>
    have hmarked : read.run { clock with marked := true } = (none, { clock with marked := true }) :=
      run_read_of_not_inRange h
    rw [after_succ, ih, hmarked]

theorem reading_eq_none_iff {n : Nat} : clock.reading n = none ↔
    ¬ InRange ((clock.after n).next.nanos + (clock.after n).step) := by
  constructor
  · intro h hrange
    rw [reading, run_read_of_inRange hrange] at h
    exact absurd h (by simp)
  · intro h
    rw [reading, run_read_of_not_inRange h]

theorem reading_eq_none_of_le {m n : Nat} (h : clock.reading m = none) (hle : m ≤ n) :
    clock.reading n = none := by
  obtain ⟨count, rfl⟩ := Nat.exists_eq_add_of_le' hle
  have hstopped := reading_eq_none_iff.mp h
  rw [reading_eq_none_iff, after_add]
  cases count with
  | zero => exact hstopped
  | succ count =>
    rw [after_of_stopped hstopped]
    exact hstopped

/-- Steps in one direction stay in range up to any that is in range. -/
theorem inRange_earlier {i k : Nat} (h : InRange (start.nanos + (i + 1) * step)) (hle : k ≤ i) :
    InRange (start.nanos + (k + 1) * step) := by
  have hfirst : (0 : Int) ≤ k + 1 := by omega
  have hcount : (k : Int) + 1 ≤ i + 1 := by omega
  refine InRange.between start.inRange h ?_
  rcases Int.le_total 0 step with hstep | hstep
  · have hup := Int.mul_nonneg hfirst hstep
    have hmore := Int.mul_le_mul_of_nonneg_right hcount hstep
    omega
  · have hdown := Int.mul_nonpos_of_nonneg_of_nonpos hfirst hstep
    have hless := Int.mul_le_mul_of_nonpos_right hcount hstep
    omega

theorem reading_of_inRange {i : Nat} (h : ∀ k ≤ i, InRange (start.nanos + (k + 1) * step)) :
    ∃ now : Moment, now.nanos = start.nanos + i * step ∧
      (create start step).reading i = some now := by
  obtain ⟨now, hnow, hafter⟩ := after_of_inRange fun k hk => h k (Nat.le_of_lt hk)
  have hnext : InRange (now.nanos + step) := by
    rw [next_nanos hnow]
    exact h i (Nat.le_refl i)
  have hread : read.run (create now step) = (some now, create ⟨_, hnext⟩ step) :=
    run_read_of_inRange hnext
  exact ⟨now, hnow, by rw [reading, hafter, hread]⟩

theorem stopped_of_not_inRange {i : Nat}
    (hbefore : ∀ k < i, InRange (start.nanos + (k + 1) * step))
    (h : ¬ InRange (start.nanos + (i + 1) * step)) :
    ¬ InRange (((create start step).after i).next.nanos + ((create start step).after i).step) := by
  obtain ⟨now, hnow, hafter⟩ := after_of_inRange hbefore
  rw [hafter, create]
  dsimp only
  rw [next_nanos hnow]
  exact h

theorem reading_eq_none {i : Nat} (h : ¬ InRange (start.nanos + (i + 1) * step)) :
    (create start step).reading i = none := by
  induction i using Nat.strong_induction_on with
  | _ i ih =>
    by_cases hbefore : ∀ k < i, InRange (start.nanos + (k + 1) * step)
    · exact reading_eq_none_iff.mpr (stopped_of_not_inRange hbefore h)
    · obtain ⟨k, hk, hout⟩ : ∃ k < i, ¬ InRange (start.nanos + (k + 1) * step) := by
        simpa using hbefore
      exact reading_eq_none_of_le (ih k hk hout) (Nat.le_of_lt hk)

theorem reading_eq_some_iff {i : Nat} {now : Moment} :
    (create start step).reading i = some now ↔
      InRange (start.nanos + (i + 1) * step) ∧ now.nanos = start.nanos + i * step := by
  by_cases h : InRange (start.nanos + (i + 1) * step)
  · obtain ⟨shown, hshown, hreading⟩ := reading_of_inRange fun k hk => inRange_earlier h hk
    rw [hreading, Option.some_inj]
    constructor
    · rintro rfl
      exact ⟨h, hshown⟩
    · rintro ⟨-, hnow⟩
      exact Moment.ext_nanos (hshown.trans hnow.symm)
  · simp [reading_eq_none h, h]

theorem reading_millis_iff {first : Instant} {millis : Int} {i : Nat} {now : Moment} :
    (create first.moment (millis * nanosPerMilli)).reading i = some now ↔
      (earliestMillis ≤ first.millis + (i + 1) * millis ∧
        first.millis + (i + 1) * millis ≤ latestMillis) ∧
      ∃ shown : Instant, shown.moment = now ∧ shown.millis = first.millis + i * millis := by
  have hnext : first.moment.nanos + (i + 1) * (millis * nanosPerMilli) =
      (first.millis + (i + 1) * millis) * nanosPerMilli := by
    rw [Instant.moment]
    ring
  have hnow : first.moment.nanos + i * (millis * nanosPerMilli) =
      (first.millis + i * millis) * nanosPerMilli := by
    rw [Instant.moment]
    ring
  rw [reading_eq_some_iff, hnext, hnow, inRange_mul_iff]
  refine and_congr_right fun hrange => ?_
  constructor
  · intro hnanos
    have hshown := inRange_mul_iff.mp (hnanos ▸ now.inRange : InRange _)
    exact ⟨⟨_, hshown⟩, Moment.ext_nanos hnanos.symm, rfl⟩
  · rintro ⟨shown, rfl, hshown⟩
    rw [← hshown]
    rfl

/-! ## How many readings there are -/

/-- The steps that a clock may take before one leads out of range. -/
def stepsLeft (start : Moment) (step : Int) : Nat :=
  if 0 < step then ((latestNanos - start.nanos) / step).toNat
  else ((start.nanos - earliestNanos) / -step).toNat

theorem inRange_iff_lt_stepsLeft (hstep : step ≠ 0) {i : Nat} :
    InRange (start.nanos + (i + 1) * step) ↔ i < stepsLeft start step := by
  obtain ⟨hfirst, hlast⟩ := start.inRange
  unfold stepsLeft InRange
  split
  · rename_i hpos
    have hroom : (i : Int) + 1 ≤ (latestNanos - start.nanos) / step ↔
        (i + 1) * step ≤ latestNanos - start.nanos := Int.le_ediv_iff_mul_le hpos
    have hup := Int.mul_nonneg (by omega : (0 : Int) ≤ i + 1) (Int.le_of_lt hpos)
    omega
  · rename_i hneg
    have hpos : 0 < -step := by omega
    have hroom : (i : Int) + 1 ≤ (start.nanos - earliestNanos) / -step ↔
        (i + 1) * -step ≤ start.nanos - earliestNanos := Int.le_ediv_iff_mul_le hpos
    have hdown := Int.mul_nonneg (by omega : (0 : Int) ≤ i + 1) (Int.le_of_lt hpos)
    rw [Int.mul_neg] at hroom hdown
    omega

/-! ## All readings -/

/-- The readings of a stepping clock, one after the other, from its start. -/
structure SteppedReadings (start : Moment) (step : Int) : Prop where
  given : ∀ i : Nat, (∀ k ≤ i, InRange (start.nanos + (k + 1) * step)) →
    ∃ now : Moment, now.nanos = start.nanos + i * step ∧
      (create start step).reading i = some now
  /-- From the first reading whose step leads out of range, nothing is read any more, and nothing is
  changed but the mark of the lock. -/
  refused : ∀ i : Nat, (∀ k < i, InRange (start.nanos + (k + 1) * step)) →
    ¬ InRange (start.nanos + (i + 1) * step) →
    ∀ j, i ≤ j → (create start step).reading j = none ∧
      (create start step).after (j + 1) = { (create start step).after i with marked := true }
  inRange : ∀ (i : Nat) (now : Moment), (create start step).reading i = some now →
    InRange (start.nanos + i * step)
  /-- What is given has its place in the progression, and all that comes before it was given. -/
  unskipped : ∀ (i : Nat) (now : Moment), (create start step).reading i = some now →
    now.nanos = start.nanos + i * step ∧
      ∀ k ≤ i, ∃ earlier : Moment, earlier.nanos = start.nanos + k * step ∧
        (create start step).reading k = some earlier
  unrepeated : step ≠ 0 → ∀ (i j : Nat) (now : Moment),
    (create start step).reading i = some now → (create start step).reading j = some now → i = j
  /-- A clock that moves comes to its end, after just so many readings as there are steps left. -/
  ended : step ≠ 0 → ∀ i : Nat, (create start step).reading i = none ↔ stepsLeft start step ≤ i
  wholeMillis : ∀ (first : Instant) (millis : Int), first.moment = start →
    millis * nanosPerMilli = step → ∀ (i : Nat) (now : Moment),
    (create start step).reading i = some now ↔
      (earliestMillis ≤ first.millis + (i + 1) * millis ∧
        first.millis + (i + 1) * millis ≤ latestMillis) ∧
      ∃ shown : Instant, shown.moment = now ∧ shown.millis = first.millis + i * millis
  read : ∀ i : Nat, ((create start step).after i).clock.read? =
    ((create start step).reading i).map fun now =>
      (now.millisecond, ((create start step).after (i + 1)).clock)

/-- Whatever its start and its step, a clock is read so. -/
theorem stepped_readings (start : Moment) (step : Int) : SteppedReadings start step where
  given i h := reading_of_inRange h
  refused i hbefore h j hle := by
    refine ⟨reading_eq_none_of_le (reading_eq_none h) hle, ?_⟩
    obtain ⟨count, rfl⟩ := Nat.exists_eq_add_of_le' hle
    rw [Nat.add_right_comm, after_add]
    exact after_of_stopped (stopped_of_not_inRange hbefore h) count
  inRange i now h := by
    rw [← (reading_eq_some_iff.mp h).2]
    exact now.inRange
  unskipped i now h := by
    obtain ⟨hrange, hnow⟩ := reading_eq_some_iff.mp h
    refine ⟨hnow, fun k hk => reading_of_inRange fun earlier hearlier => ?_⟩
    exact inRange_earlier hrange (Nat.le_trans hearlier hk)
  unrepeated hstep i j now hi hj := by
    have hfirst := (reading_eq_some_iff.mp hi).2
    have hsecond := (reading_eq_some_iff.mp hj).2
    have heq : (i : Int) * step = j * step := by omega
    exact Int.ofNat_inj.mp (Int.eq_of_mul_eq_mul_right hstep heq)
  ended hstep i := by
    rw [← Nat.not_lt, ← inRange_iff_lt_stepsLeft hstep]
    constructor
    · intro hnone hrange
      obtain ⟨now, -, hnow⟩ := reading_of_inRange fun k hk => inRange_earlier hrange hk
      exact absurd (hnone.symm.trans hnow) (by simp)
    · exact reading_eq_none
  wholeMillis := by
    rintro first millis rfl rfl i now
    exact reading_millis_iff
  read i := by
    rw [read?_clock, reading_after, ← after_add, Nat.zero_add, Nat.add_comm 1]

/-- The last moment is in range, and yet a clock that moves on does not give it. -/
example : (create ⟨latestNanos, by decide⟩ 1).reading 0 = none := by decide

end LockedClock

namespace Clock

/-- A stepping clock is read at the moment it has come to, and then is one that starts later. -/
theorem read?_stepping (start : Moment) (step : Int) :
    (stepping start step).read? = (Moment.ofNanos? (start.nanos + step)).map fun later =>
      (start.millisecond, stepping later step) := by
  have hread := LockedClock.run_read (LockedClock.create start step)
  rw [stepping, LockedClock.read?_clock, LockedClock.reading, LockedClock.after_succ,
    LockedClock.after_zero, hread]
  cases h : Moment.ofNanos? (start.nanos + step) <;> simp [LockedClock.create, h, stepping]

/-! ## Any clock -/

def after? : Nat → Clock → Option Clock
  | 0, clock => some clock
  | n + 1, clock =>
    match clock.read? with
    | none => none
    | some (_, next) => after? n next

theorem after?_succ {n : Nat} {clock later : Clock}
    (h : after? (n + 1) clock = some later) :
    ∃ now next, clock.read? = some (now, next) ∧ after? n next = some later := by
  rw [after?] at h
  cases hread : clock.read? with
  | none =>
    rw [hread] at h
    exact absurd h (by simp)
  | some reading =>
    rw [hread] at h
    exact ⟨reading.1, reading.2, rfl, h⟩

theorem after?_fixed (n : Nat) (now : Moment) :
    after? n (.fixed now) = some (.fixed now) := by
  induction n with
  | zero => rfl
  | succ n ih => exact ih

theorem after?_system (n : Nat) (time : Nat → Moment) :
    after? n (.system time) = some (.system fun k => time (k + n)) := by
  induction n generalizing time with
  | zero => rfl
  | succ n ih =>
    have hnext := ih fun k => time (k + 1)
    simp only [Nat.add_assoc] at hnext
    exact hnext

theorem after?_add {m n : Nat} {clock later : Clock}
    (h : after? (m + n) clock = some later) :
    ∃ between, after? m clock = some between ∧ after? n between = some later := by
  induction m generalizing clock with
  | zero =>
    rw [Nat.zero_add] at h
    exact ⟨clock, rfl, h⟩
  | succ m ih =>
    rw [Nat.succ_add] at h
    obtain ⟨now, next, hread, hnext⟩ := after?_succ h
    rw [after?, hread]
    exact ih hnext

end Clock

/-- A time whose readings come further and further apart: 0, 1, 3, 6 and so on. -/
def unevenTime (n : Nat) : Moment :=
  .ofMillis (n * (n + 1) / 2)

end VehicleMarket
