import VehicleMarket.Command.Run

/-!
Runs that come to nothing: one that a problem or its clock has ended says so by its exit code, and
leaves the disk as it was then.
-/
namespace VehicleMarket

/-- A run that has neither ended well nor left anything behind. -/
structure Outcome.Fruitless (outcome : Outcome) (disk : Disk) : Prop where
  exitCode : outcome.exitCode ≠ 0
  output : outcome.output = ""
  disk : outcome.disk = disk

namespace Command

theorem fruitless_failed (problem : Problem) (disk : Disk) :
    (failed problem disk).Fruitless disk where
  exitCode := by
    have hcode : ∀ severity, exitCode severity ≠ 0 := by
      intro severity
      cases severity <;> decide
    exact hcode problem.severity
  output := rfl
  disk := rfl

theorem fruitless_stopped (failure : Failure) (disk : Disk) :
    (stopped failure disk).Fruitless disk := by
  cases failure with
  | problem problem => exact fruitless_failed problem disk
  | clockPastRange => exact ⟨Nat.succ_ne_zero 100, rfl, rfl⟩

end Command

end VehicleMarket
