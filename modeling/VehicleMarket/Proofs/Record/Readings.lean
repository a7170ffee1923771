import Mathlib.Data.List.Forall2
import Mathlib.Tactic.Ring
import VehicleMarket.Proofs.Time.Clock
import VehicleMarket.Record.Codec

/-!
One reading of the clock for each record, whether the record needs it or not. So a clock that moves
on by a step at every reading shows for each record how many were read before it, and a reading too
many or too few would be seen in the times of all the records after it.
-/
namespace VehicleMarket

theorem exists_related {ι ρ : Type} {Related : ι → ρ → Prop} {items : List ι} {records : List ρ}
    (h : List.Forall₂ Related items records) {item : ι} (hitem : item ∈ items) :
    ∃ record ∈ records, Related item record := by
  induction h with
  | nil => exact absurd hitem List.not_mem_nil
  | cons hfirst _ ih =>
    rcases List.mem_cons.mp hitem with rfl | hrest
    · exact ⟨_, List.mem_cons_self, hfirst⟩
    · obtain ⟨record, hrecord, hrelated⟩ := ih hrest
      exact ⟨record, List.mem_cons_of_mem _ hrecord, hrelated⟩

/-- Each item has become the record in its place, at a reading of the clock of its own. -/
inductive InTurn {ι ρ : Type} (Reads : Instant → ι → ρ → Prop) :
    Clock → List ι → List ρ → Clock → Prop where
  | nil (clock : Clock) : InTurn Reads clock [] [] clock
  | cons {clock next later : Clock} {now : Instant} {item : ι} {record : ρ} {items : List ι}
      {records : List ρ} (hread : clock.read? = some (now, next)) (hitem : Reads now item record)
      (hrest : InTurn Reads next items records later) :
      InTurn Reads clock (item :: items) (record :: records) later

namespace InTurn

variable {ι κ ρ σ : Type} {Reads : Instant → ι → ρ → Prop} {clock between later : Clock}
  {items others : List ι} {records more : List ρ}

theorem append (h : InTurn Reads clock items records between)
    (hmore : InTurn Reads between others more later) :
    InTurn Reads clock (items ++ others) (records ++ more) later := by
  induction h with
  | nil => exact hmore
  | cons hread hitem _ ih => exact .cons hread hitem (ih hmore)

theorem map {Other : Instant → κ → σ → Prop} {f : ι → κ} {g : ρ → σ}
    (h : InTurn Reads clock items records later)
    (himp : ∀ now item record, Reads now item record → Other now (f item) (g record)) :
    InTurn Other clock (items.map f) (records.map g) later := by
  induction h with
  | nil => exact .nil _
  | cons hread hitem _ ih => exact .cons hread (himp _ _ _ hitem) ih

theorem imp {Other : Instant → ι → ρ → Prop} (h : InTurn Reads clock items records later)
    (himp : ∀ now item record, Reads now item record → Other now item record) :
    InTurn Other clock items records later := by
  have hmap := h.map (f := id) (g := id) himp
  rwa [List.map_id, List.map_id] at hmap

theorem forall₂ (h : InTurn Reads clock items records later) :
    List.Forall₂ (fun item record => ∃ now, Reads now item record) items records := by
  induction h with
  | nil => exact .nil
  | cons _ hitem _ ih => exact .cons ⟨_, hitem⟩ ih

theorem length_eq (h : InTurn Reads clock items records later) : records.length = items.length :=
  h.forall₂.length_eq.symm

end InTurn

/-! ## A stepping clock -/

theorem Clock.later_of_read?_stepping {start : Moment} {now : Instant} {step : Int} {later : Clock}
    (h : (Clock.stepping start step).read? = some (now, later)) :
    now = start.millisecond ∧
      ∃ after, later = .stepping after step ∧ after.nanos = start.nanos + step := by
  rw [Clock.read?_stepping] at h
  obtain ⟨after, hafter, heq⟩ := Option.map_eq_some_iff.mp h
  cases heq
  exact ⟨rfl, after, rfl, Moment.ofNanos?_eq_some_iff.mp hafter⟩

/-- How items were read with a clock that moves on by a step at every reading. -/
structure Stepped {ι ρ : Type} (Reads : Instant → ι → ρ → Prop)
    (FilledIn : ι → ρ → Instant → Prop) (start : Moment) (step : Int) (items : List ι)
    (records : List ρ) (later : Clock) : Prop where
  length_eq : records.length = items.length
  /-- The reading for an item tells how many were read before it. -/
  reading : ∀ (j : Nat) item record, (items.zip records)[j]? = some (item, record) →
    ∃ now : Moment, now.nanos = start.nanos + j * step ∧ Reads now.millisecond item record
  filledIn : ∀ (j : Nat) item record time, (items.zip records)[j]? = some (item, record) →
    FilledIn item record time → time.millis = (start.nanos + j * step) / nanosPerMilli
  last : ∃ next : Moment, later = .stepping next step ∧
    next.nanos = start.nanos + items.length * step
  ordered : 0 ≤ step → ∀ (i j : Nat) a b, i ≤ j →
    (∃ item record, (items.zip records)[i]? = some (item, record) ∧ FilledIn item record a) →
    (∃ item record, (items.zip records)[j]? = some (item, record) ∧ FilledIn item record b) →
    a.millis ≤ b.millis
  /-- Of a clock that starts and moves in whole milliseconds nothing is cut off. -/
  wholeMillis : ∀ (first : Instant) (millis : Int), first.moment = start →
    millis * nanosPerMilli = step →
    ∀ (j : Nat) item record time, (items.zip records)[j]? = some (item, record) →
      FilledIn item record time → time.millis = first.millis + j * millis

namespace InTurn

variable {ι ρ : Type} {Reads : Instant → ι → ρ → Prop} {FilledIn : ι → ρ → Instant → Prop}
  {start : Moment} {step : Int} {items : List ι} {records : List ρ} {clock later : Clock}

/-- The induction is on the items that are left, from whatever the clock shows by then. -/
theorem reading (h : InTurn Reads (.stepping start step) items records later) :
    ∀ (j : Nat) item record, (items.zip records)[j]? = some (item, record) →
      ∃ now : Moment, now.nanos = start.nanos + j * step ∧
        Reads now.millisecond item record := by
  generalize hclock : Clock.stepping start step = clock at h
  induction h generalizing start with
  | nil => simp
  | cons hread hitem _ ih =>
    subst hclock
    obtain ⟨rfl, after, rfl, hafter⟩ := Clock.later_of_read?_stepping hread
    intro j item record hplace
    cases j with
    | zero =>
      cases hplace
      exact ⟨start, by simp, hitem⟩
    | succ j =>
      obtain ⟨now, hnow, hreads⟩ := ih rfl j item record hplace
      refine ⟨now, ?_, hreads⟩
      rw [hnow, hafter]
      push_cast
      ring

theorem last (h : InTurn Reads (.stepping start step) items records later) :
    ∃ next : Moment, later = .stepping next step ∧
      next.nanos = start.nanos + items.length * step := by
  generalize hclock : Clock.stepping start step = clock at h
  induction h generalizing start with
  | nil => exact ⟨start, hclock.symm, by simp⟩
  | cons hread _ _ ih =>
    subst hclock
    obtain ⟨-, after, rfl, hafter⟩ := Clock.later_of_read?_stepping hread
    obtain ⟨next, hlater, hnext⟩ := ih rfl
    refine ⟨next, hlater, ?_⟩
    rw [hnext, hafter, List.length_cons]
    push_cast
    ring

theorem filledIn (h : InTurn Reads (.stepping start step) items records later)
    (hfilled : ∀ now item record time, Reads now item record → FilledIn item record time →
      time = now)
    {j : Nat} {item : ι} {record : ρ} {time : Instant}
    (hplace : (items.zip records)[j]? = some (item, record)) (htime : FilledIn item record time) :
    time.millis = (start.nanos + j * step) / nanosPerMilli := by
  obtain ⟨now, hnow, hreads⟩ := h.reading j item record hplace
  rw [hfilled _ _ _ _ hreads htime, ← hnow]
  rfl

theorem stepped (h : InTurn Reads (.stepping start step) items records later)
    (hfilled : ∀ now item record time, Reads now item record → FilledIn item record time →
      time = now) :
    Stepped Reads FilledIn start step items records later where
  length_eq := h.length_eq
  reading := h.reading
  filledIn _ _ _ _ hplace htime := h.filledIn hfilled hplace htime
  last := h.last
  ordered := by
    rintro hstep i j a b hle ⟨first, early, hi, ha⟩ ⟨second, late, hj, hb⟩
    rw [h.filledIn hfilled hi ha, h.filledIn hfilled hj hb]
    have hcount : (i : Int) ≤ j := Int.ofNat_le.mpr hle
    have hsteps := Int.mul_le_mul_of_nonneg_right hcount hstep
    exact Int.ediv_le_ediv (by decide) (Int.add_le_add_left hsteps start.nanos)
  wholeMillis := by
    rintro first millis rfl rfl j item record time hplace htime
    have hnanos : first.moment.nanos + j * (millis * nanosPerMilli) =
        (first.millis + j * millis) * nanosPerMilli := by
      rw [Instant.moment]
      ring
    rw [h.filledIn hfilled hplace htime, hnanos]
    exact Int.mul_ediv_cancel _ (by decide)

end InTurn

/-! ## Records -/

namespace Record

variable {α : Type} [Record α] {record : α} {records : List α} {clock later : Clock}

theorem decodeValue_eq_ok {line : Option Nat} {value : Json} :
    decodeValue line value clock = (.ok record, later) ↔
      ∃ members now, value = .object members ∧ clock.read? = some (now, later) ∧
        ofObject now members = .ok record := by
  cases value with
  | object members =>
    rw [decodeValue]
    cases hread : clock.read? with
    | none => simp
    | some reading =>
      obtain ⟨now, next⟩ := reading
      cases hobject : (ofObject now members : Except Json.Mismatch α) with
      | error mismatch => simp [hobject]
      | ok found => simp [hobject, and_comm]
  | _ => simp [decodeValue]

theorem decodeValue_fixed (line : Option Nat) (value : Json) (now : Moment) :
    (decodeValue (α := α) line value (.fixed now)).2 = .fixed now := by
  unfold decodeValue
  split
  · simp only [Clock.read?_fixed]
    split
    · rfl
    · rfl
  · rfl

def MadeOf (now : Instant) (text : String) (record : α) : Prop :=
  ∃ members, Json.read text = .ok (.object members) ∧ ofObject now members = .ok record

theorem decodeAt_eq_ok {line : Option Nat} {text : String} :
    decodeAt line text clock = (.ok record, later) ↔
      ∃ now, clock.read? = some (now, later) ∧ MadeOf now text record := by
  unfold decodeAt
  cases hvalue : Json.read text with
  | error error => simp [MadeOf, hvalue]
  | ok value =>
    rw [decodeValue_eq_ok]
    constructor
    · rintro ⟨members, now, rfl, hread, hobject⟩
      exact ⟨now, hread, members, hvalue, hobject⟩
    · rintro ⟨now, hread, members, hmembers, hobject⟩
      exact ⟨members, now, Except.ok.inj (hvalue.symm.trans hmembers), hread, hobject⟩

theorem decodeNumbered_inTurn {ls : List (Nat × String)}
    (h : decodeNumbered ls clock = (.ok records, later)) :
    InTurn MadeOf clock ((ls.map Prod.snd).filter fun line => !Text.isBlank line) records
      later := by
  induction ls generalizing clock records with
  | nil =>
    cases h
    exact .nil _
  | cons entry rest ih =>
    obtain ⟨number, line⟩ := entry
    rw [decodeNumbered] at h
    rw [List.map_cons]
    by_cases hblank : Text.isBlank line = true
    · rw [if_pos hblank] at h
      rw [List.filter_cons_of_neg (by simp [hblank])]
      exact ih h
    · rw [if_neg hblank] at h
      rw [List.filter_cons_of_pos (by simp [hblank])]
      split at h
      · exact absurd h (by simp)
      · rename_i record between hrecord
        obtain ⟨now, hread, hline⟩ := decodeAt_eq_ok.mp hrecord
        split at h
        · exact absurd h (by simp)
        · rename_i others after hothers
          cases h
          exact .cons hread hline (ih hothers)

end Record

end VehicleMarket
