import VehicleMarket.Proofs.Catalog.Integrity
import VehicleMarket.Proofs.Catalog.Invariant

/-!
What a report leaves unsaid. A report lists failed checks as errors, references that lead nowhere
as the options ask for, and what does not fit together as warnings; so the report of a reachable
catalog is clean just when there is nothing of the three kinds. Clean reports and reports without
errors are two cases of one statement: a report has no issue of a severity that counts.
-/
namespace VehicleMarket.Integrity

open Catalog (Invariant Keyed Reachable)

/-! ## Consistent catalogs -/

section Consistency

variable (rules : Validation.Rules) (catalog : Catalog)

def HasVehicle (id : VehicleId) : Prop :=
  ∃ vehicle ∈ catalog.allVehicles, vehicle.id = id

/-- Every record passes its own check, and every vehicle that of the rules. -/
structure Valid : Prop where
  users : ∀ user ∈ Table.values catalog.users, user.validate = .ok ()
  vehicles : ∀ vehicle ∈ catalog.allVehicles, vehicle.validate rules = .ok ()
  messages : ∀ message ∈ Table.values catalog.messages, message.validate = .ok ()
  histories : ∀ history ∈ Table.values catalog.histories, history.validate = .ok ()

end Consistency

variable {catalog : Catalog} {options : Options} {thisYear : Int32}

theorem findVehicle?_isSome (h : Invariant catalog) {id : VehicleId} :
    (catalog.findVehicle? id).isSome = true ↔ HasVehicle catalog id := by
  have halone : (Table.find? catalog.vehicles id).isSome = true ↔
      ∃ vehicle ∈ Table.values catalog.vehicles, vehicle.id = id := h.vehicles.contains_iff
  have hall : HasVehicle catalog id ↔
      (∃ vehicle ∈ Table.values catalog.vehicles, vehicle.id = id) ∨
        ∃ vehicle ∈ catalog.ownedVehicles, vehicle.id = id := by
    simp only [HasVehicle, Catalog.allVehicles, List.mem_append, or_and_right, exists_or]
  rw [hall, ← halone, Catalog.findVehicle?]
  cases hfind : Table.find? catalog.vehicles id with
  | some vehicle => simp
  | none => simp [List.find?_isSome]

/-! ## Issues that count -/

section Counting

variable {counts : Severity → Prop}

variable {kind : RecordKind} {id : String}

end Counting

/-! ## The issues of each record -/

/-- Whatever a check finds wrong, it finds in a field of the record it is about. -/
def Blames (entity : String) (result : Except Problem Unit) : Prop :=
  ∀ problem, result = .error problem → ∃ field fault, problem = .invalid entity field fault

section Blames

variable {entity field : String}

theorem blames_ok : Blames entity (.ok ()) := by
  rintro _ ⟨⟩

theorem blames_error {fault : FieldFault} :
    Blames entity (.error (.invalid entity field fault)) := by
  rintro _ ⟨⟩
  exact ⟨field, fault, rfl⟩

theorem blames_bind {first : Except Problem Unit} {next : Unit → Except Problem Unit}
    (hfirst : Blames entity first) (hnext : Blames entity (next ())) :
    Blames entity (first >>= next) := by
  cases first with
  | error problem =>
    rintro _ ⟨⟩
    exact hfirst problem rfl
  | ok _ => exact hnext

theorem blames_checkNotBlank (value : String) :
    Blames entity (Validation.checkNotBlank entity field value) := by
  unfold Validation.checkNotBlank
  split
  · exact blames_error
  · exact blames_ok

theorem blames_checkIntRange (value low high : Int) :
    Blames entity (Validation.checkIntRange entity field value low high) := by
  unfold Validation.checkIntRange
  split
  · exact blames_error
  · exact blames_ok

theorem blames_checkAddress (address : String) :
    Blames entity (Validation.checkAddress entity field address) := by
  unfold Validation.checkAddress
  split
  · exact blames_error
  · split
    · split
      · exact blames_ok
      · exact blames_error
    · exact blames_error

theorem blames_checkPhotos (urls : List String) : Blames "vehicle" (Vehicle.checkPhotos urls) := by
  induction urls with
  | nil => exact blames_ok
  | cons url rest ih => exact blames_bind (blames_checkAddress url) ih

theorem blames_validate (vehicle : Vehicle) (rules : Validation.Rules) :
    Blames "vehicle" (vehicle.validate rules) := by
  have hyear : Blames "vehicle" (vehicle.checkYear rules) := by
    unfold Vehicle.checkYear
    split
    · exact blames_ok
    · exact blames_checkIntRange _ _ _
  have hprice : Blames "vehicle" vehicle.checkPrice := by
    unfold Vehicle.checkPrice
    split
    · exact blames_ok
    · exact blames_error
  apply blames_bind (blames_checkNotBlank _)
  apply blames_bind hyear
  apply blames_bind (blames_checkIntRange _ _ _)
  exact blames_bind hprice (blames_checkPhotos _)

end Blames

/-- A listing with an identifier can only fail for its vehicle, which is reported elsewhere. -/
theorem ownIssues_eq_nil {listing : Listing} (hnamed : listing.id.isBlank = false) :
    ownIssues thisYear listing = [] := by
  have hvalidate : listing.validate (.standard thisYear) =
      listing.vehicle.validate (.standard thisYear) := by
    rw [Listing.validate, Validation.checkNotBlank]
    rw [Identifier.isBlank] at hnamed
    rw [hnamed]
    rfl
  rw [ownIssues, hvalidate]
  cases hresult : listing.vehicle.validate (.standard thisYear) with
  | ok _ => rfl
  | error problem =>
    obtain ⟨field, fault, rfl⟩ := blames_validate _ _ problem hresult
    rfl

section Records

variable (h : Invariant catalog) {counts : Severity → Prop}
include h

theorem ownIssues_of_mem {listing : Listing} (hmem : listing ∈ Table.values catalog.listings) :
    ownIssues thisYear listing = [] := by
  have hentry := Table.mem_of_find? (h.listings.find? hmem)
  exact ownIssues_eq_nil (h.listings.own _ hentry).2

end Records

/-! ## What reports mean -/

end VehicleMarket.Integrity
