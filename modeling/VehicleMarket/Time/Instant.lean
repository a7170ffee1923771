/-!
Points in time. An instant is a whole millisecond since the start of 1970, within the range of the
calendar, and is what records hold. A moment is given to the nanosecond; it lies in one millisecond.
-/
namespace VehicleMarket

def earliestMillis : Int := -8334601228800000

def latestMillis : Int := 8210266876799999

structure Instant where
  millis : Int
  inRange : earliestMillis ≤ millis ∧ millis ≤ latestMillis
  deriving DecidableEq, Repr

namespace Instant

def ofMillis? (n : Int) : Option Instant :=
  if h : earliestMillis ≤ n ∧ n ≤ latestMillis then some ⟨n, h⟩ else none

def epoch : Instant :=
  ⟨0, by decide⟩

/-- Milliseconds outside the range stand for the epoch. -/
def ofMillis (n : Int) : Instant :=
  (ofMillis? n).getD epoch

def earlier (a b : Instant) : Bool :=
  a.millis < b.millis

theorem ext_millis {a b : Instant} (h : a.millis = b.millis) : a = b := by
  cases a
  cases b
  cases h
  rfl

theorem ofMillis?_eq_some_iff {n : Int} {instant : Instant} :
    ofMillis? n = some instant ↔ instant.millis = n := by
  constructor
  · intro h
    unfold ofMillis? at h
    split at h
    · cases h
      rfl
    · exact absurd h (by simp)
  · rintro rfl
    exact dif_pos instant.inRange

end Instant

def nanosPerMilli : Int := 1000000

def earliestNanos : Int := earliestMillis * nanosPerMilli

def latestNanos : Int := latestMillis * nanosPerMilli + (nanosPerMilli - 1)

structure Moment where
  nanos : Int
  inRange : earliestNanos ≤ nanos ∧ nanos ≤ latestNanos
  deriving DecidableEq, Repr

def Instant.moment (instant : Instant) : Moment where
  nanos := instant.millis * nanosPerMilli
  inRange := by
    obtain ⟨hfirst, hlast⟩ := instant.inRange
    unfold earliestNanos latestNanos nanosPerMilli
    omega

namespace Moment

def ofNanos? (n : Int) : Option Moment :=
  if h : earliestNanos ≤ n ∧ n ≤ latestNanos then some ⟨n, h⟩ else none

def epoch : Moment :=
  Instant.epoch.moment

def ofMillis (n : Int) : Moment :=
  (Instant.ofMillis n).moment

/-- The millisecond in which a moment lies. -/
def millisecond (moment : Moment) : Instant where
  millis := moment.nanos / nanosPerMilli
  inRange := by
    obtain ⟨hfirst, hlast⟩ := moment.inRange
    unfold earliestNanos latestNanos nanosPerMilli at *
    omega

theorem ext_nanos {a b : Moment} (h : a.nanos = b.nanos) : a = b := by
  cases a
  cases b
  cases h
  rfl

theorem ofNanos?_eq_some_iff {n : Int} {moment : Moment} :
    ofNanos? n = some moment ↔ moment.nanos = n := by
  constructor
  · intro h
    unfold ofNanos? at h
    split at h
    · cases h
      rfl
    · exact absurd h (by simp)
  · rintro rfl
    exact dif_pos moment.inRange

@[simp]
theorem millisecond_moment (instant : Instant) : instant.moment.millisecond = instant :=
  Instant.ext_millis (Int.mul_ediv_cancel instant.millis (by decide))

end Moment

end VehicleMarket
