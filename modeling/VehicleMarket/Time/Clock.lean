import VehicleMarket.Time.Instant

/-!
Clocks. All that there is to a clock is what it shows at its readings, one after the other, and a
reading may break off and show nothing. A fixed clock always shows the same moment, the clock of the
system the time as it is in whole milliseconds. A stepping clock moves on by its step at every
reading and breaks off when the step would take it out of range. It is shared and stands behind a
lock, which a reading that breaks off leaves marked; a marked lock is taken like any other.
-/
namespace VehicleMarket

structure LockedClock where
  next : Moment
  /-- Nanoseconds. -/
  step : Int
  /-- A reading has broken off while it held the lock. -/
  marked : Bool
  deriving DecidableEq, Repr

namespace LockedClock

def create (start : Moment) (step : Int) : LockedClock :=
  ⟨start, step, false⟩

/-- What is done under the lock. It breaks off before anything is stored when the step leads out of
range. -/
def advance : StateM LockedClock (Option Moment) := do
  let clock ← get
  let current := clock.next
  match Moment.ofNanos? (current.nanos + clock.step) with
  | none => return none
  | some later =>
    set { clock with next := later }
    return some current

/-- A reading takes the lock, marked or not, and leaves it marked when it breaks off. -/
def read : StateM LockedClock (Option Moment) := do
  let given ← advance
  if given.isNone then
    modify fun clock => { clock with marked := true }
  return given

def after : Nat → LockedClock → LockedClock
  | 0, clock => clock
  | n + 1, clock => (read.run (after n clock)).2

def reading (n : Nat) (clock : LockedClock) : Option Moment :=
  (read.run (clock.after n)).1

end LockedClock

/-- What a clock shows from now on, reading by reading. -/
structure Clock where
  shown : Nat → Option Moment

def LockedClock.clock (clock : LockedClock) : Clock where
  shown n := clock.reading n

namespace Clock

def fixed (now : Moment) : Clock where
  shown _ := some now

/-- The time is that of the system at each reading. -/
def system (time : Nat → Moment) : Clock where
  shown n := some (time n).millisecond.moment

def stepping (start : Moment) (step : Int) : Clock :=
  (LockedClock.create start step).clock

def next (clock : Clock) : Clock where
  shown n := clock.shown (n + 1)

/-- The millisecond of a reading with the clock afterwards, unless the reading breaks off. -/
def read? (clock : Clock) : Option (Instant × Clock) :=
  (clock.shown 0).map fun now => (now.millisecond, clock.next)

theorem read?_fixed (now : Moment) : (fixed now).read? = some (now.millisecond, fixed now) :=
  rfl

end Clock

end VehicleMarket
