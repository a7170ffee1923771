import VehicleMarket.Proofs.Market.Service
import VehicleMarket.Proofs.Storage.Apart

/-!
Two updates of one market at a time. An update is two steps, a load with the change of what was
loaded and a save, and between them the other call may take steps of its own: nothing locks the
snapshot. Two calls that succeed are either one after the other, or both have loaded what was there
before either saved, and then nothing is left of what was saved first. The first two steps decide
which it is, and the schedule tells who saves last.
-/
namespace VehicleMarket

/-! ## Steps -/

inductive Side where
  | left
  | right
  deriving DecidableEq, Repr

namespace Side

def other : Side → Side
  | .left => .right
  | .right => .left

theorem other_ne (side : Side) : side.other ≠ side := by
  cases side <;> decide

@[simp]
theorem other_other (side : Side) : side.other.other = side := by
  cases side <;> rfl

theorem eq_or_eq_other (side first : Side) : side = first ∨ side = first.other := by
  cases side <;> cases first <;> decide

end Side

/-- How far a call has come: it has not begun, it holds what it has made of the catalog that it
loaded, or it has come back. -/
inductive Stage where
  | waiting
  | holding (changed : Catalog)
  | done (result : Except Failure Catalog)
  deriving DecidableEq

/-- A market in use by two calls. -/
structure Sharing where
  premises : Premises
  stage : Side → Stage

namespace Market

variable (market : Market)

def advance (edit : Catalog → Except Failure Unit × Catalog) (stage : Stage) (premises : Premises) :
    Stage × Premises :=
  match stage with
  | .waiting =>
    match market.load premises with
    | (.error failure, premises) => (.done (.error failure), premises)
    | (.ok catalog, premises) =>
      match edit catalog with
      | (.error failure, _) => (.done (.error failure), premises)
      | (.ok (), changed) => (.holding changed, premises)
  | .holding changed =>
    match market.save changed premises with
    | (result, premises) => (.done result, premises)
  | .done result => (.done result, premises)

def stepOf (edits : Side → Catalog → Except Failure Unit × Catalog) (sharing : Sharing) (side : Side) :
    Sharing where
  premises := (market.advance (edits side) (sharing.stage side) sharing.premises).2
  stage other :=
    if other = side then (market.advance (edits side) (sharing.stage side) sharing.premises).1
    else sharing.stage other

/-- Steps of both calls in the order of a schedule. -/
def interleave (edits : Side → Catalog → Except Failure Unit × Catalog) (premises : Premises)
    (schedule : List Side) : Sharing :=
  schedule.foldl (market.stepOf edits) ⟨premises, fun _ => .waiting⟩

/-- The second step of a call, with which it saves, comes after that of the other one. -/
def SavesLast (schedule : List Side) (last : Side) : Prop :=
  ∃ before after, schedule = before ++ last :: after ∧ before.count last = 1 ∧
    2 ≤ before.count last.other

def changeOf (edit : Catalog → Except Failure Unit × Catalog) (catalog : Catalog) (_ : Unit) :
    Except Failure Unit × Catalog × Unit :=
  match edit catalog with
  | (result, catalog) => (result, catalog, ())

theorem changeOf_eq_ok {edit : Catalog → Except Failure Unit × Catalog}
    {catalog changed : Catalog} :
    changeOf edit catalog () = (.ok (), changed, ()) ↔ edit catalog = (.ok (), changed) := by
  unfold changeOf
  rcases edit catalog with ⟨result, left⟩
  simp

variable {market} {edit : Catalog → Except Failure Unit × Catalog}
  {edits : Side → Catalog → Except Failure Unit × Catalog} {premises : Premises} {sharing : Sharing}
  {disk left : Disk} {changed result : Catalog}

/-- What a call can hold that loads the snapshot of a disk, at whatever time. -/
def Makes (market : Market) (edit : Catalog → Except Failure Unit × Catalog) (disk : Disk)
    (changed : Catalog) : Prop :=
  ∃ clock seen, (market.snapshot.load disk clock).1 = .ok seen ∧ edit seen = (.ok (), changed)

/-- An update on its own, begun at whatever time, gives a catalog and leaves a disk. -/
def Alone (market : Market) (edit : Catalog → Except Failure Unit × Catalog) (disk : Disk)
    (result : Catalog) (left : Disk) : Prop :=
  ∃ clock later, market.update (changeOf edit) () ⟨disk, clock⟩ = (.ok result, (), later) ∧
    later.disk = left

theorem alone_iff : market.Alone edit disk result left ↔
    market.Makes edit disk result ∧ market.snapshot.save result disk = (.ok (), left) := by
  constructor
  · rintro ⟨clock, later, hupdate, rfl⟩
    cases hload : (market.load ⟨disk, clock⟩).1 with
    | error failure =>
      rw [update_of_load_error hload] at hupdate
      exact absurd hupdate (by simp)
    | ok seen =>
      obtain ⟨hedit, hsave⟩ := update_eq_ok hload hupdate
      obtain ⟨_, saved, hsaved, rfl⟩ := save_eq_ok.mp hsave
      rw [load_disk] at hsaved
      rw [load_fst] at hload
      exact ⟨⟨clock, seen, hload, changeOf_eq_ok.mp hedit⟩, hsaved⟩
  · rintro ⟨⟨clock, seen, hload, hedit⟩, hsave⟩
    have hloaded : (market.load ⟨disk, clock⟩).1 = .ok seen := by
      rw [load_fst]
      exact hload
    obtain ⟨later, hupdate, hlater⟩ := update_of_save hloaded (changeOf_eq_ok.mpr hedit) hsave
    exact ⟨clock, later, hupdate, hlater⟩

theorem advance_waiting (market : Market) (edit : Catalog → Except Failure Unit × Catalog)
    (premises : Premises) :
    (market.advance edit .waiting premises).2.disk = premises.disk ∧
      ((∃ failure, (market.advance edit .waiting premises).1 = .done (.error failure)) ∨
        ∃ changed, (market.advance edit .waiting premises).1 = .holding changed ∧
          market.Makes edit premises.disk changed) := by
  have hdisk := load_disk market premises
  have hfst := load_fst market premises
  unfold advance
  rcases hload : market.load premises with ⟨failure | seen, loaded⟩
  · rw [hload] at hdisk
    exact ⟨hdisk, .inl ⟨failure, rfl⟩⟩
  · rw [hload] at hdisk hfst
    dsimp only
    rcases hedit : edit seen with ⟨failure | _, changed⟩
    · exact ⟨hdisk, .inl ⟨failure, rfl⟩⟩
    · exact ⟨hdisk, .inr ⟨changed, rfl, premises.clock, seen, hfst.symm, hedit⟩⟩

theorem advance_holding (market : Market) (edit : Catalog → Except Failure Unit × Catalog)
    (changed : Catalog) (premises : Premises) :
    (∃ failure, (market.advance edit (.holding changed) premises).1 = .done (.error failure)) ∨
      (market.advance edit (.holding changed) premises).1 = .done (.ok changed) ∧
        market.snapshot.save changed premises.disk =
          (.ok (), (market.advance edit (.holding changed) premises).2.disk) := by
  have hadvance : market.advance edit (.holding changed) premises =
      (.done (market.save changed premises).1, (market.save changed premises).2) := rfl
  rw [hadvance]
  rcases hsave : market.save changed premises with ⟨failure | saved, later⟩
  · exact .inl ⟨failure, rfl⟩
  · obtain ⟨rfl, disk, hdisk, rfl⟩ := save_eq_ok.mp hsave
    exact .inr ⟨rfl, hdisk⟩

/-- Of two calls that save to one disk, the one that saves last leaves what it leaves alone. -/
theorem Alone.of_saved_between {between : Disk} {earlier : Catalog}
    (hmakes : market.Makes edit disk result)
    (hearlier : market.snapshot.save earlier disk = (.ok (), between))
    (hsave : market.snapshot.save result between = (.ok (), left)) :
    market.Alone edit disk result left := by
  refine alone_iff.mpr ⟨hmakes, Snapshot.save_eq_ok.mpr ?_⟩
  exact Folder.write_of_write_again (Snapshot.save_eq_ok.mp hearlier) (Snapshot.save_eq_ok.mp hsave)

/-! ## Steps of two calls -/

theorem stage_stepOf_self (market : Market) (edits : Side → Catalog → Except Failure Unit × Catalog)
    (sharing : Sharing) (side : Side) :
    (market.stepOf edits sharing side).stage side =
      (market.advance (edits side) (sharing.stage side) sharing.premises).1 :=
  if_pos rfl

theorem stage_stepOf_of_ne (market : Market) (edits : Side → Catalog → Except Failure Unit × Catalog)
    (sharing : Sharing) {side other : Side} (h : other ≠ side) :
    (market.stepOf edits sharing side).stage other = sharing.stage other :=
  if_neg h

theorem stepOf_eq {side : Side} {next : Stage} {later : Premises}
    (h : market.advance (edits side) (sharing.stage side) sharing.premises = (next, later)) :
    market.stepOf edits sharing side =
      ⟨later, fun other => if other = side then next else sharing.stage other⟩ := by
  unfold stepOf
  rw [h]

theorem stepOf_of_done {side : Side} {outcome : Except Failure Catalog}
    (h : sharing.stage side = .done outcome) : market.stepOf edits sharing side = sharing := by
  have hadvance : market.advance (edits side) (sharing.stage side) sharing.premises =
      (.done outcome, sharing.premises) := by
    rw [h]
    rfl
  rw [stepOf_eq hadvance]
  obtain ⟨premises, stage⟩ := sharing
  congr 1
  funext other
  by_cases heq : other = side
  · rw [if_pos heq, heq]
    exact h.symm
  · rw [if_neg heq]

def Failed (sharing : Sharing) : Prop :=
  ∃ side failure, sharing.stage side = .done (.error failure)

theorem Failed.step (h : Failed sharing) (side : Side) :
    Failed (market.stepOf edits sharing side) := by
  obtain ⟨failing, failure, hstage⟩ := h
  refine ⟨failing, failure, ?_⟩
  by_cases heq : failing = side
  · rw [← heq, stepOf_of_done hstage]
    exact hstage
  · rw [stage_stepOf_of_ne market edits sharing heq]
    exact hstage

theorem stepOf_holding {side : Side} (h : sharing.stage side = .holding changed) :
    Failed (market.stepOf edits sharing side) ∨
      (market.stepOf edits sharing side).stage side = .done (.ok changed) ∧
        market.snapshot.save changed sharing.premises.disk =
          (.ok (), (market.stepOf edits sharing side).premises.disk) := by
  have hself := stage_stepOf_self market edits sharing side
  have hpremises : (market.stepOf edits sharing side).premises =
      (market.advance (edits side) (.holding changed) sharing.premises).2 := by rw [stepOf, h]
  rw [h] at hself
  rw [hpremises]
  rcases advance_holding market (edits side) changed sharing.premises with
    ⟨failure, hstage⟩ | ⟨hstage, hsave⟩
  · exact .inl ⟨side, failure, hself.trans hstage⟩
  · exact .inr ⟨hself.trans hstage, hsave⟩

/-! ## Who saves last -/

section SavesLast

variable {schedule : List Side} {last side : Side}

theorem SavesLast.append (h : SavesLast schedule last) (rest : List Side) :
    SavesLast (schedule ++ rest) last := by
  obtain ⟨before, after, rfl, hlast, hother⟩ := h
  exact ⟨before, after ++ rest, by simp, hlast, hother⟩

theorem savesLast_of_counts (hlast : schedule.count last = 1)
    (hother : 2 ≤ schedule.count last.other) : SavesLast (schedule ++ [last]) last :=
  ⟨schedule, [], rfl, hlast, hother⟩

theorem count_append_self (schedule : List Side) (side : Side) :
    (schedule ++ [side]).count side = schedule.count side + 1 := by
  rw [List.count_append, List.count_singleton_self]

theorem count_append_of_ne (schedule : List Side) {side other : Side} (h : other ≠ side) :
    (schedule ++ [side]).count other = schedule.count other := by
  rw [List.count_append, List.count_singleton, beq_eq_false_iff_ne.mpr h.symm]
  rfl

theorem SavesLast.unique {first : Side} (hfirst : SavesLast schedule first)
    (hlast : SavesLast schedule last) : first = last := by
  refine (last.eq_or_eq_other first).elim Eq.symm fun heq => ?_
  subst heq
  obtain ⟨before, after, rfl, hone, hmore⟩ := hfirst
  obtain ⟨before', after', hsame, hone', hmore'⟩ := hlast
  rw [Side.other_other] at hmore'
  -- of two places in one schedule the earlier is no later than the other
  rcases List.append_eq_append_iff.mp hsame with ⟨part, hbefore, hrest⟩ | ⟨part, hbefore, hrest⟩
  · rw [hbefore, List.count_append] at hone'
    omega
  · rw [hbefore, List.count_append] at hone
    omega

end SavesLast

/-! ## One call after the other -/

/-- The state of a call that no other one disturbs, begun on a disk. -/
def Undisturbed (market : Market) (edit : Catalog → Except Failure Unit × Catalog) (disk : Disk) :
    Stage → Disk → Prop
  | .waiting, now => now = disk
  | .holding changed, now => now = disk ∧ market.Makes edit disk changed
  | .done (.ok result), now => market.Alone edit disk result now
  | .done (.error _), _ => True

theorem Undisturbed.advance {stage : Stage}
    (h : market.Undisturbed edit disk stage premises.disk) :
    market.Undisturbed edit disk (market.advance edit stage premises).1
      (market.advance edit stage premises).2.disk := by
  cases stage with
  | waiting =>
    obtain rfl : premises.disk = disk := h
    obtain ⟨hdisk, ⟨failure, hstage⟩ | ⟨changed, hstage, hmakes⟩⟩ :=
      advance_waiting market edit premises
    · rw [hstage]
      trivial
    · rw [hstage]
      exact ⟨hdisk, hmakes⟩
  | holding changed =>
    obtain ⟨rfl, hmakes⟩ := h
    rcases advance_holding market edit changed premises with
      ⟨failure, hstage⟩ | ⟨hstage, hsave⟩
    · rw [hstage]
      trivial
    · rw [hstage]
      exact alone_iff.mpr ⟨hmakes, hsave⟩
  | done outcome => exact h

/-- How the steps of a schedule have brought the second of two calls to a stage. -/
def BroughtTo (schedule : List Side) (second : Side) : Stage → Prop
  | .waiting => schedule.count second = 0
  | .holding _ => schedule.count second = 1
  | .done (.ok _) => SavesLast schedule second
  | .done (.error _) => True

theorem BroughtTo.advance {schedule : List Side} {second : Side} {stage : Stage}
    (hfirst : 2 ≤ schedule.count second.other) (h : BroughtTo schedule second stage) :
    BroughtTo (schedule ++ [second]) second (market.advance edit stage premises).1 := by
  cases stage with
  | waiting =>
    have hcount : (schedule ++ [second]).count second = 1 := by
      rw [count_append_self, h]
    obtain ⟨-, ⟨failure, hstage⟩ | ⟨changed, hstage, -⟩⟩ := advance_waiting market edit premises
    · rw [hstage]
      trivial
    · rw [hstage]
      exact hcount
  | holding changed =>
    rcases advance_holding market edit changed premises with
      ⟨failure, hstage⟩ | ⟨hstage, -⟩
    · rw [hstage]
      trivial
    · rw [hstage]
      exact savesLast_of_counts h hfirst
  | done outcome =>
    cases outcome with
    | error failure => trivial
    | ok result => exact SavesLast.append h [second]

theorem BroughtTo.of_ne {schedule : List Side} {second side : Side} {stage : Stage}
    (hne : second ≠ side) (h : BroughtTo schedule second stage) :
    BroughtTo (schedule ++ [side]) second stage := by
  cases stage with
  | waiting => exact (count_append_of_ne schedule hne).trans h
  | holding changed => exact (count_append_of_ne schedule hne).trans h
  | done outcome =>
    cases outcome with
    | error failure => trivial
    | ok result => exact SavesLast.append h [side]

/-- The one call has come back, and the other one was not begun before that. -/
structure OneByOne (market : Market) (edits : Side → Catalog → Except Failure Unit × Catalog)
    (disk : Disk) (first : Side) (schedule : List Side) (sharing : Sharing) (result : Catalog)
    (between : Disk) : Prop where
  come_back : sharing.stage first = .done (.ok result)
  alone : market.Alone (edits first) disk result between
  undisturbed : market.Undisturbed (edits first.other) between (sharing.stage first.other)
    sharing.premises.disk
  two_steps : 2 ≤ schedule.count first
  brought : BroughtTo schedule first.other (sharing.stage first.other)

def InOrder (market : Market) (edits : Side → Catalog → Except Failure Unit × Catalog)
    (disk : Disk) (first : Side) (schedule : List Side) (sharing : Sharing) : Prop :=
  Failed sharing ∨ ∃ result between, market.OneByOne edits disk first schedule sharing result
    between

theorem InOrder.step {first : Side} {schedule : List Side}
    (h : market.InOrder edits disk first schedule sharing) (side : Side) :
    market.InOrder edits disk first (schedule ++ [side]) (market.stepOf edits sharing side) := by
  rcases h with hfailed | ⟨result, between, hturns⟩
  · exact .inl (hfailed.step side)
  · rcases side.eq_or_eq_other first with rfl | rfl
    · rw [stepOf_of_done hturns.come_back]
      refine .inr ⟨result, between, { hturns with two_steps := ?_, brought := ?_ }⟩
      · rw [count_append_self]
        exact Nat.le_succ_of_le hturns.two_steps
      · exact hturns.brought.of_ne side.other_ne
    · have hself := stage_stepOf_self market edits sharing first.other
      refine .inr ⟨result, between, ?_, hturns.alone, ?_, ?_, ?_⟩
      · rw [stage_stepOf_of_ne market edits sharing first.other_ne.symm]
        exact hturns.come_back
      · rw [hself]
        exact hturns.undisturbed.advance
      · rw [count_append_of_ne schedule first.other_ne.symm]
        exact hturns.two_steps
      · rw [hself]
        refine hturns.brought.advance ?_
        rw [Side.other_other]
        exact hturns.two_steps

/-- Both calls have loaded what was there at the beginning. Before the first save the disk is as it
was; after it, the disk is what the call that saved last leaves alone. -/
inductive Overlapped (market : Market) (edits : Side → Catalog → Except Failure Unit × Catalog)
    (disk : Disk) (schedule : List Side) (sharing : Sharing) : Prop where
  | failed (h : Failed sharing)
  | held (hdisk : sharing.premises.disk = disk)
      (h : ∀ side, ∃ changed, sharing.stage side = .holding changed ∧
        market.Makes (edits side) disk changed)
      (hsteps : ∀ side, schedule.count side = 1)
  | halfway (first : Side) (result changed : Catalog)
      (hfirst : sharing.stage first = .done (.ok result))
      (halone : market.Alone (edits first) disk result sharing.premises.disk)
      (hother : sharing.stage first.other = .holding changed)
      (hmakes : market.Makes (edits first.other) disk changed)
      (hsteps : 2 ≤ schedule.count first ∧ schedule.count first.other = 1)
  | settled (last : Side) (result earlier : Catalog) (left : Disk)
      (hlast : sharing.stage last = .done (.ok result))
      (halone : market.Alone (edits last) disk result sharing.premises.disk)
      (hother : sharing.stage last.other = .done (.ok earlier))
      (hearlier : market.Alone (edits last.other) disk earlier left)
      (hsaves : SavesLast schedule last)

theorem Overlapped.step {schedule : List Side}
    (h : market.Overlapped edits disk schedule sharing) (side : Side) :
    market.Overlapped edits disk (schedule ++ [side]) (market.stepOf edits sharing side) := by
  cases h with
  | failed hfailed => exact .failed (hfailed.step side)
  | held hdisk hheld hsteps =>
    obtain ⟨changed, hside, hmakes⟩ := hheld side
    obtain ⟨changed', hother, hmakes'⟩ := hheld side.other
    rcases stepOf_holding hside with hfailed | ⟨hdone, hsave⟩
    · exact .failed hfailed
    · rw [hdisk] at hsave
      have hkept := stage_stepOf_of_ne market edits sharing side.other_ne
      refine .halfway side changed changed' hdone (alone_iff.mpr ⟨hmakes, hsave⟩)
        (hkept.trans hother) hmakes' ⟨?_, ?_⟩
      · rw [count_append_self, hsteps side]
      · rw [count_append_of_ne schedule side.other_ne, hsteps side.other]
  | halfway first result changed hfirst halone hother hmakes hsteps =>
    obtain ⟨htwo, hone⟩ := hsteps
    rcases side.eq_or_eq_other first with rfl | rfl
    · rw [stepOf_of_done hfirst]
      refine .halfway _ result changed hfirst halone hother hmakes ⟨?_, ?_⟩
      · rw [count_append_self]
        exact Nat.le_succ_of_le htwo
      · rw [count_append_of_ne schedule side.other_ne, hone]
    · rcases stepOf_holding hother with hfailed | ⟨hdone, hsave⟩
      · exact .failed hfailed
      · have hkept := stage_stepOf_of_ne market edits sharing first.other_ne.symm
        refine .settled first.other changed result sharing.premises.disk hdone
          (Alone.of_saved_between hmakes (alone_iff.mp halone).2 hsave) ?_ ?_ ?_
        · rw [Side.other_other]
          exact hkept.trans hfirst
        · rw [Side.other_other]
          exact halone
        · refine savesLast_of_counts hone ?_
          rw [Side.other_other]
          exact htwo
  | settled last result earlier left hlast halone hother hearlier hsaves =>
    have hsame : market.stepOf edits sharing side = sharing := by
      rcases side.eq_or_eq_other last with rfl | rfl
      · exact stepOf_of_done hlast
      · exact stepOf_of_done hother
    rw [hsame]
    exact .settled last result earlier left hlast halone hother hearlier (hsaves.append [side])

def Settled (sharing : Sharing) (result : Side → Catalog) : Prop :=
  ∀ side, sharing.stage side = .done (.ok (result side))

variable {results : Side → Catalog}

theorem Settled.eq (h : Settled sharing results) {side : Side}
    (hstage : sharing.stage side = .done (.ok result)) : results side = result := by
  rw [h side] at hstage
  cases hstage
  rfl

/-- Two calls begun on a disk, the one after the other: what they give, and the disk they leave. -/
def Consecutive (market : Market) (edits : Side → Catalog → Except Failure Unit × Catalog) (first : Side)
    (disk : Disk) (results : Side → Catalog) (left : Disk) : Prop :=
  ∃ between, market.Alone (edits first) disk (results first) between ∧
    market.Alone (edits first.other) between (results first.other) left

/-- Two calls that both began on a disk: the disk they leave is what one of them leaves alone. -/
def Overwriting (market : Market) (edits : Side → Catalog → Except Failure Unit × Catalog) (last : Side)
    (disk : Disk) (results : Side → Catalog) (left : Disk) : Prop :=
  market.Alone (edits last) disk (results last) left ∧
    ∃ lost, market.Alone (edits last.other) disk (results last.other) lost

theorem Settled.two_steps {schedule : List Side}
    (h : Settled (market.interleave edits premises schedule) results) :
    ∃ first second rest, schedule = first :: second :: rest := by
  cases schedule with
  | nil => exact absurd (h .left) (by simp [interleave])
  | cons first others =>
    cases others with
    | nil =>
      have hother := h first.other
      rw [interleave, List.foldl_cons, List.foldl_nil,
        stage_stepOf_of_ne market edits _ first.other_ne] at hother
      exact absurd hother (by simp)
    | cons second rest => exact ⟨first, second, rest, rfl⟩

end Market

end VehicleMarket
