import VehicleMarket.Proofs.Catalog.Consistency
import VehicleMarket.Proofs.Catalog.VehicleLookup

/-!
Failed checks of vehicles in a report. A vehicle in a listing is checked twice: with the vehicles,
against the rules that the options give, and with its listing, against the standard rules of the
year. Nothing of the second check is seen. A check blames the record it is about and no check but
that of a vehicle blames a vehicle, so the report leaves out of a listing's check just what is said
of its vehicle, and the year with it.
-/
namespace VehicleMarket.Integrity

open Catalog (Invariant Reachable)

/-- An issue that says that a vehicle failed its check, whatever record it is listed under. -/
def Issue.isVehicleFailure (issue : Issue) : Bool :=
  match issue.finding with
  | .invalid problem => isOfVehicle problem
  | _ => false

def vehicleFailure (rules : Validation.Rules) (vehicle : Vehicle) : List Issue :=
  ofCheck .vehicle vehicle.id.text (vehicle.validate rules)

/-- A report has each failure of a vehicle once, as an issue of the vehicle and by the rules of the
options. -/
structure VehiclesOnce (options : Options) (catalog : Catalog) (report : Report) : Prop where
  failures : report.filter Issue.isVehicleFailure =
    catalog.allVehicles.flatMap (vehicleFailure options.rules)
  each_once : ∀ listing ∈ Table.values catalog.listings, listing.vehicle.id.isBlank = false →
    (report.filter fun issue =>
      issue.id == listing.vehicle.id.text && issue.isVehicleFailure) =
        vehicleFailure options.rules listing.vehicle
  listings_pass : ∀ issue ∈ report, issue.kind = .listing →
    ∀ problem, issue.finding ≠ .invalid problem

/-! ## What other checks blame -/

section Blames

variable {entity field : String}

theorem blames_checkEmail (value : String) :
    Blames entity (Validation.checkEmail entity field value) := by
  unfold Validation.checkEmail
  split
  · exact blames_ok
  · exact blames_error

theorem blames_checkOptionalAddress (address : String) :
    Blames entity (Validation.checkOptionalAddress entity field address) := by
  unfold Validation.checkOptionalAddress
  split
  · exact blames_ok
  · exact blames_checkAddress address

theorem blames_checkCosts (costs : List Binary64) :
    Blames "history" (VehicleHistory.checkCosts costs) := by
  induction costs with
  | nil => exact blames_ok
  | cons cost rest ih =>
    unfold VehicleHistory.checkCosts
    split
    · exact ih
    · exact blames_error

theorem blames_user (user : User) : Blames "user" user.validate := by
  apply blames_bind (blames_checkNotBlank _)
  by_cases hemail : user.email ≠ ""
  · rw [if_pos hemail]
    exact blames_bind (blames_checkEmail _) (blames_checkOptionalAddress _)
  · rw [if_neg hemail]
    exact blames_checkOptionalAddress _

theorem blames_message (message : Message) : Blames "message" message.validate := by
  apply blames_bind (blames_checkNotBlank _)
  apply blames_bind (blames_checkNotBlank _)
  split
  · exact blames_error
  · exact blames_ok

theorem blames_history (history : VehicleHistory) : Blames "history" history.validate := by
  apply blames_bind (blames_checkNotBlank _)
  exact blames_checkCosts _

end Blames

/-! ## Failures of vehicles, part by part -/

section Parts

variable {catalog : Catalog} {options : Options} {kind : RecordKind} {id : String}

theorem filter_ofCheck_of_blames {entity : String} {result : Except Problem Unit}
    (h : Blames entity result) (hentity : entity ≠ "vehicle") :
    (ofCheck kind id result).filter Issue.isVehicleFailure = [] := by
  cases result with
  | ok _ => rfl
  | error problem =>
    obtain ⟨field, fault, rfl⟩ := h problem rfl
    have hother : isOfVehicle (.invalid entity field fault) = false := decide_eq_false hentity
    exact List.filter_cons_of_neg (by simp [Issue.isVehicleFailure, hother])

theorem filter_vehicleFailure (rules : Validation.Rules) (vehicle : Vehicle) :
    (vehicleFailure rules vehicle).filter Issue.isVehicleFailure =
      vehicleFailure rules vehicle := by
  unfold vehicleFailure
  cases hresult : vehicle.validate rules with
  | ok _ => rfl
  | error problem =>
    obtain ⟨field, fault, rfl⟩ := blames_validate _ _ problem hresult
    rfl

theorem filter_missingUnless {present : Bool} {role target : String} :
    (missingUnless options present kind id role target).filter Issue.isVehicleFailure = [] := by
  cases present with
  | true => rfl
  | false => rfl

theorem filter_warnIf {condition : Bool} {finding : Finding}
    (h : Issue.isVehicleFailure ⟨.warning, kind, id, finding⟩ = false) :
    (warnIf condition kind id finding).filter Issue.isVehicleFailure = [] := by
  cases condition with
  | true => exact List.filter_cons_of_neg (Bool.not_eq_true _ ▸ h)
  | false => rfl

theorem filter_userIssues (user : User) :
    (userIssues user).filter Issue.isVehicleFailure = [] :=
  filter_ofCheck_of_blames (blames_user user) (by decide)

theorem filter_sellerIssues (vehicle : Vehicle) (seller : UserId) :
    (sellerIssues options catalog vehicle seller).filter Issue.isVehicleFailure = [] := by
  unfold sellerIssues
  split
  · rfl
  · rw [List.filter_append, filter_warnIf rfl, filter_warnIf rfl]
    rfl

theorem filter_vehicleIssues (entry : Vehicle × UserId) :
    (vehicleIssues options catalog entry).filter Issue.isVehicleFailure =
      vehicleFailure options.rules entry.1 := by
  rw [vehicleIssues, List.filter_append, filter_sellerIssues, List.append_nil]
  exact filter_vehicleFailure options.rules entry.1

/-- The check of a listing may fail for its vehicle, but then there is no issue. -/
theorem filter_ownIssues (thisYear : Int32) (listing : Listing) :
    (ownIssues thisYear listing).filter Issue.isVehicleFailure = [] := by
  unfold ownIssues
  split
  · rfl
  · split
    · rfl
    · rename_i hother
      exact List.filter_cons_of_neg hother

theorem filter_listingIssues (thisYear : Int32) (listing : Listing) :
    (listingIssues thisYear options catalog listing).filter Issue.isVehicleFailure = [] := by
  simp only [listingIssues, List.filter_append, filter_ownIssues, filter_missingUnless]
  rw [filter_warnIf rfl, filter_warnIf rfl]
  rfl

theorem filter_senderIssues (message : Message) :
    (senderIssues options catalog message).filter Issue.isVehicleFailure = [] := by
  unfold senderIssues
  split
  · rfl
  · exact filter_warnIf rfl

theorem filter_messageIssues (message : Message) :
    (messageIssues options catalog message).filter Issue.isVehicleFailure = [] := by
  simp only [messageIssues, List.filter_append, filter_senderIssues, filter_missingUnless]
  rw [filter_ofCheck_of_blames (blames_message message) (by decide)]
  rfl

theorem filter_historyIssues (history : VehicleHistory) :
    (historyIssues options catalog history).filter Issue.isVehicleFailure = [] := by
  rw [historyIssues, List.filter_append, filter_missingUnless,
    filter_ofCheck_of_blames (blames_history history) (by decide)]
  rfl

theorem vehiclesWithSellers_vehicles (catalog : Catalog) :
    (vehiclesWithSellers catalog).map Prod.fst = catalog.allVehicles := by
  rw [vehiclesWithSellers, List.map_append, List.map_map, List.map_map]
  exact congrArg (· ++ _) (List.map_id _)

theorem filter_check (thisYear : Int32) :
    (check thisYear options catalog).filter Issue.isVehicleFailure =
      catalog.allVehicles.flatMap (vehicleFailure options.rules) := by
  have hnone {α : Type} (records : List α) : records.flatMap (fun _ => ([] : Report)) = [] :=
    List.flatMap_eq_nil_iff.mpr fun _ _ => rfl
  simp only [check, List.filter_append, List.filter_flatMap, filter_userIssues,
    filter_vehicleIssues, filter_listingIssues, filter_messageIssues, filter_historyIssues, hnone,
    List.nil_append, List.append_nil]
  rw [← vehiclesWithSellers_vehicles, List.flatMap_map]

end Parts

/-! ## One vehicle -/

section Single

variable {catalog : Catalog} {options : Options} {thisYear : Int32} {listing : Listing}

theorem filter_flatMap_of_records {α : Type} {records : List α} {issues : α → Report}
    {ofIssue : Issue → Bool} {ofRecord : α → Bool}
    (h : ∀ record, ∀ issue ∈ issues record, ofIssue issue = ofRecord record) :
    (records.flatMap issues).filter ofIssue = (records.filter ofRecord).flatMap issues := by
  induction records with
  | nil => rfl
  | cons record rest ih =>
    rw [List.flatMap_cons, List.filter_append, ih, List.filter_cons]
    cases hrecord : ofRecord record with
    | true =>
      have hall : (issues record).filter ofIssue = issues record :=
        List.filter_eq_self.mpr fun issue hmem => (h record issue hmem).trans hrecord
      rw [hall, if_pos rfl, List.flatMap_cons]
    | false =>
      have hnone : (issues record).filter ofIssue = [] :=
        List.filter_eq_nil_iff.mpr fun issue hmem =>
          Bool.not_eq_true _ ▸ (h record issue hmem).trans hrecord
      rw [hnone, if_neg Bool.false_ne_true, List.nil_append]

theorem filter_allVehicles (h : Invariant catalog) (hmem : listing ∈ Table.values catalog.listings)
    (hnamed : listing.vehicle.id.isBlank = false) :
    (catalog.allVehicles.filter fun vehicle => vehicle.id == listing.vehicle.id) =
      [listing.vehicle] := by
  have hvehicle : listing.vehicle ∈ catalog.allVehicles :=
    List.mem_append_right _ (List.mem_map_of_mem hmem)
  rw [Catalog.filter_id_eq h.distinct hnamed,
    (Catalog.find?_id_eq_some h.distinct hnamed).mpr ⟨hvehicle, rfl⟩]
  rfl

theorem id_of_vehicleFailure {rules : Validation.Rules} {id : VehicleId} (vehicle : Vehicle) :
    ∀ issue ∈ vehicleFailure rules vehicle, (issue.id == id.text) = (vehicle.id == id) := by
  intro issue hmem
  obtain ⟨problem, _, rfl⟩ := mem_ofCheck.mp hmem
  rw [Bool.eq_iff_iff, beq_iff_eq, beq_iff_eq]
  exact Identifier.text_inj

theorem filter_check_of_vehicle (h : Invariant catalog)
    (hmem : listing ∈ Table.values catalog.listings)
    (hnamed : listing.vehicle.id.isBlank = false) :
    ((check thisYear options catalog).filter fun issue =>
      issue.id == listing.vehicle.id.text && issue.isVehicleFailure) =
        vehicleFailure options.rules listing.vehicle := by
  rw [← List.filter_filter, filter_check, filter_flatMap_of_records id_of_vehicleFailure,
    filter_allVehicles h hmem hnamed]
  exact List.append_nil _

theorem finding_of_listingIssues {issue : Issue} (h : Invariant catalog)
    (hmem : listing ∈ Table.values catalog.listings)
    (hissue : issue ∈ listingIssues thisYear options catalog listing) (problem : Problem) :
    issue.finding ≠ .invalid problem := by
  rw [listingIssues, ownIssues_of_mem h hmem, List.nil_append] at hissue
  simp only [List.mem_append, mem_missingUnless, mem_warnIf] at hissue
  rcases hissue with (⟨_, rfl⟩ | ⟨_, rfl⟩) | ⟨_, rfl⟩
  · exact Finding.noConfusion
  · exact Finding.noConfusion
  · exact Finding.noConfusion

theorem listingIssues_year (h : Invariant catalog) (hmem : listing ∈ Table.values catalog.listings)
    (otherYear : Int32) :
    listingIssues thisYear options catalog listing =
      listingIssues otherYear options catalog listing := by
  rw [listingIssues, listingIssues, ownIssues_of_mem h hmem, ownIssues_of_mem h hmem]

end Single

/-- The report of a reachable catalog is the same in every year, and each failure of a vehicle
against the rules of the options is in it once, under the vehicle. -/
theorem report_same_every_year {catalog : Catalog} (h : Reachable catalog) (options : Options) :
    (∀ thisYear otherYear, check thisYear options catalog = check otherYear options catalog) ∧
      ∀ thisYear, VehiclesOnce options catalog (check thisYear options catalog) := by
  constructor
  · intro thisYear otherYear
    have hlistings : (Table.values catalog.listings).flatMap
        (listingIssues thisYear options catalog) =
        (Table.values catalog.listings).flatMap (listingIssues otherYear options catalog) := by
      apply List.flatMap_congr
      intro listing hmem
      exact listingIssues_year h.invariant hmem otherYear
    rw [check, hlistings]
    rfl
  · intro thisYear
    refine ⟨filter_check thisYear, ?_, ?_⟩
    · intro listing hmem hnamed
      exact filter_check_of_vehicle h.invariant hmem hnamed
    · intro issue hissue hkind problem
      obtain ⟨listing, hmem, hlisting⟩ := (mem_check_of_listing hkind).mp hissue
      exact finding_of_listingIssues h.invariant hmem hlisting problem

/-- A vehicle of a year that its listing's own check takes in 2050 and not in 2020. -/
def futureVehicle : Vehicle :=
  { Vehicle.create ⟨"v1"⟩ .empty "Kia" "Picanto" .epoch with year := 2030 }

theorem future_vehicle_same_every_year :
    let catalog := Catalog.empty.run [.insertListing (.create ⟨"l1"⟩ futureVehicle ⟨"u1"⟩)]
    let options : Options := ⟨.standard 2025, true⟩
    futureVehicle.validate (.standard 2050) = .ok () ∧
      futureVehicle.validate (.standard 2020) ≠ .ok () ∧
      (vehicleFailure options.rules futureVehicle).length = 1 ∧
      check 2050 options catalog = check 2020 options catalog ∧
      VehiclesOnce options catalog (check 2050 options catalog) := by
  intro catalog options
  have hreachable : Reachable catalog := Reachable.empty.run _
  obtain ⟨hyears, honce⟩ := report_same_every_year hreachable options
  exact ⟨by decide +kernel, by decide +kernel, by decide +kernel, hyears 2050 2020, honce 2050⟩

end VehicleMarket.Integrity
