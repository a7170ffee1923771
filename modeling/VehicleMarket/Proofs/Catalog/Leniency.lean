import Mathlib.Data.List.Forall2
import VehicleMarket.Command.Run
import VehicleMarket.Proofs.Catalog.Integrity
import VehicleMarket.Proofs.Catalog.Operation
import VehicleMarket.Proofs.Market.Service

/-!
Strict and lenient reports side by side. They tell of the same issues in the same order, and differ
only in how grave it is that a reference leads nowhere; so whatever passes the strict check passes
the lenient one.
-/
namespace VehicleMarket

namespace Integrity

/-- The issues of the references that lead nowhere, each with what it says. -/
inductive Unresolved (catalog : Catalog) : RecordKind → String → Finding → Prop where
  | vehicleSeller {vehicle : Vehicle} {seller : UserId}
      (hmem : (vehicle, seller) ∈ vehiclesWithSellers catalog)
      (hnone : catalog.findUser? seller = none) :
      Unresolved catalog .vehicle vehicle.id.text (.missing "seller" seller.text)
  | listingSeller {listing : Listing} (hmem : listing ∈ Table.values catalog.listings)
      (hnone : catalog.findUser? listing.sellerId = none) :
      Unresolved catalog .listing listing.id.text (.missing "seller" listing.sellerId.text)
  | sender {message : Message} (hmem : message ∈ Table.values catalog.messages)
      (hnone : catalog.findUser? message.senderId = none) :
      Unresolved catalog .message message.id.text (.missing "sender" message.senderId.text)
  | recipient {message : Message} (hmem : message ∈ Table.values catalog.messages)
      (hnone : catalog.findUser? message.recipientId = none) :
      Unresolved catalog .message message.id.text (.missing "recipient" message.recipientId.text)
  | listing {message : Message} (hmem : message ∈ Table.values catalog.messages)
      (hnone : catalog.findListing? message.listingId = none) :
      Unresolved catalog .message message.id.text (.missing "listing" message.listingId.text)
  | historyVehicle {history : VehicleHistory} (hmem : history ∈ Table.values catalog.histories)
      (hnone : catalog.findVehicle? history.vehicleId = none) :
      Unresolved catalog .history history.vehicleId.text
        (.missing "vehicle" history.vehicleId.text)

/-! ## What leniency does to an issue -/

def Finding.isMissing : Finding → Bool
  | .missing _ _ => true
  | _ => false

/-- The issue as a lenient report has it. -/
def Issue.soften (issue : Issue) : Issue :=
  if issue.finding.isMissing then { issue with severity := .warning } else issue

section Soften

variable {kind : RecordKind} {id : String} {rules : Validation.Rules} {catalog : Catalog}

@[simp]
theorem soften_ofCheck (result : Except Problem Unit) :
    (ofCheck kind id result).map Issue.soften = ofCheck kind id result := by
  cases result with
  | ok _ => rfl
  | error problem => rfl

theorem soften_warnIf (condition : Bool) {finding : Finding} (h : finding.isMissing = false) :
    (warnIf condition kind id finding).map Issue.soften = warnIf condition kind id finding := by
  cases condition with
  | false => rfl
  | true => simp [warnIf, Issue.soften, h]

@[simp]
theorem soften_missingUnless (present : Bool) (role target : String) :
    (missingUnless ⟨rules, true⟩ present kind id role target).map Issue.soften =
      missingUnless ⟨rules, false⟩ present kind id role target := by
  cases present with
  | true => rfl
  | false => rfl

theorem soften_ownIssues (thisYear : Int32) (listing : Listing) :
    (ownIssues thisYear listing).map Issue.soften = ownIssues thisYear listing := by
  unfold ownIssues
  split
  · rfl
  · split
    · rfl
    · rfl

theorem soften_sellerIssues (vehicle : Vehicle) (seller : UserId) :
    (sellerIssues ⟨rules, true⟩ catalog vehicle seller).map Issue.soften =
      sellerIssues ⟨rules, false⟩ catalog vehicle seller := by
  unfold sellerIssues
  cases catalog.findUser? seller with
  | none => rfl
  | some user => rw [List.map_append, soften_warnIf _ rfl, soften_warnIf _ rfl]

theorem soften_senderIssues (message : Message) :
    (senderIssues ⟨rules, true⟩ catalog message).map Issue.soften =
      senderIssues ⟨rules, false⟩ catalog message := by
  unfold senderIssues
  cases catalog.findUser? message.senderId with
  | none => rfl
  | some user => rw [soften_warnIf _ rfl]

theorem soften_userIssues (user : User) :
    (userIssues user).map Issue.soften = userIssues user :=
  soften_ofCheck _

theorem soften_vehicleIssues (entry : Vehicle × UserId) :
    (vehicleIssues ⟨rules, true⟩ catalog entry).map Issue.soften =
      vehicleIssues ⟨rules, false⟩ catalog entry := by
  rw [vehicleIssues, List.map_append, soften_ofCheck, soften_sellerIssues]
  rfl

theorem soften_listingIssues (thisYear : Int32) (listing : Listing) :
    (listingIssues thisYear ⟨rules, true⟩ catalog listing).map Issue.soften =
      listingIssues thisYear ⟨rules, false⟩ catalog listing := by
  simp only [listingIssues, List.map_append, soften_ownIssues, soften_missingUnless]
  rw [soften_warnIf _ rfl, soften_warnIf _ rfl]

theorem soften_messageIssues (message : Message) :
    (messageIssues ⟨rules, true⟩ catalog message).map Issue.soften =
      messageIssues ⟨rules, false⟩ catalog message := by
  simp only [messageIssues, List.map_append, soften_ofCheck, soften_senderIssues,
    soften_missingUnless]

theorem soften_historyIssues (history : VehicleHistory) :
    (historyIssues ⟨rules, true⟩ catalog history).map Issue.soften =
      historyIssues ⟨rules, false⟩ catalog history := by
  simp only [historyIssues, List.map_append, soften_ofCheck, soften_missingUnless]

theorem soften_check (thisYear : Int32) (rules : Validation.Rules) (catalog : Catalog) :
    (check thisYear ⟨rules, true⟩ catalog).map Issue.soften =
      check thisYear ⟨rules, false⟩ catalog := by
  simp only [check, List.map_append, List.map_flatMap, soften_userIssues, soften_vehicleIssues,
    soften_listingIssues, soften_messageIssues, soften_historyIssues]

end Soften

/-! ## The issues that differ -/

section Unresolved

variable {options : Options} {catalog : Catalog} {kind : RecordKind} {id : String}
  {finding : Finding} {issue : Issue} {thisYear : Int32}

theorem Unresolved.isMissing (h : Unresolved catalog kind id finding) :
    finding.isMissing = true := by
  cases h with
  | _ => rfl

/-- An issue that tells of a reference that leads nowhere, as grave as the options have it. -/
def Issue.Tells (issue : Issue) (options : Options) (catalog : Catalog) : Prop :=
  issue.finding.isMissing = true →
    issue.severity = options.missingSeverity ∧
      Unresolved catalog issue.kind issue.id issue.finding

theorem tells_ofCheck {result : Except Problem Unit} (h : issue ∈ ofCheck kind id result) :
    issue.Tells options catalog := by
  obtain ⟨problem, _, rfl⟩ := mem_ofCheck.mp h
  exact fun hmissing => absurd hmissing (by simp [Finding.isMissing])

theorem tells_warnIf {condition : Bool} (h : issue ∈ warnIf condition kind id finding)
    (hother : finding.isMissing = false) : issue.Tells options catalog := by
  obtain ⟨_, rfl⟩ := mem_warnIf.mp h
  exact fun hmissing => absurd (hother.symm.trans hmissing) (by simp)

theorem tells_missingUnless {present : Bool} {role target : String}
    (h : issue ∈ missingUnless options present kind id role target)
    (hnone : present = false → Unresolved catalog kind id (.missing role target)) :
    issue.Tells options catalog := by
  obtain ⟨habsent, rfl⟩ := mem_missingUnless.mp h
  exact fun _ => ⟨rfl, hnone habsent⟩

theorem tells_lookup {found : Option User} {missing : Issue} {warnings : User → List Issue}
    (h : issue ∈ match found with
      | none => [missing]
      | some user => warnings user)
    (hnone : found = none → missing.Tells options catalog)
    (hwarnings : ∀ user, issue ∈ warnings user → issue.Tells options catalog) :
    issue.Tells options catalog := by
  cases found with
  | none =>
    rw [List.mem_singleton.mp h]
    exact hnone rfl
  | some user => exact hwarnings user h

theorem tells_vehicleIssues {entry : Vehicle × UserId}
    (hentry : entry ∈ vehiclesWithSellers catalog)
    (h : issue ∈ vehicleIssues options catalog entry) : issue.Tells options catalog := by
  rcases List.mem_append.mp h with hcheck | hseller
  · exact tells_ofCheck hcheck
  · refine tells_lookup hseller (fun hnone _ => ⟨rfl, .vehicleSeller hentry hnone⟩) ?_
    intro user hwarnings
    rcases List.mem_append.mp hwarnings with hwarn | hwarn
    · exact tells_warnIf hwarn rfl
    · exact tells_warnIf hwarn rfl

theorem contains_eq_false_iff {κ α : Type} [DecidableEq κ] {table : Table κ α} {key : κ} :
    Table.contains table key = false ↔ Table.find? table key = none := by
  rw [Table.contains, Option.isSome_eq_false_iff, Option.isNone_iff_eq_none]

theorem tells_listingIssues {listing : Listing} (hlisting : listing ∈ Table.values catalog.listings)
    (h : issue ∈ listingIssues thisYear options catalog listing) : issue.Tells options catalog := by
  simp only [listingIssues, List.mem_append] at h
  rcases h with ((hown | hseller) | hwarn) | hwarn
  · obtain ⟨problem, hfinding⟩ := finding_of_ownIssues hown
    intro hmissing
    rw [hfinding] at hmissing
    exact absurd hmissing (by simp [Finding.isMissing])
  · exact tells_missingUnless hseller fun habsent =>
      .listingSeller hlisting (contains_eq_false_iff.mp habsent)
  · exact tells_warnIf hwarn rfl
  · exact tells_warnIf hwarn rfl

theorem tells_messageIssues {message : Message} (hmessage : message ∈ Table.values catalog.messages)
    (h : issue ∈ messageIssues options catalog message) : issue.Tells options catalog := by
  simp only [messageIssues, List.mem_append] at h
  rcases h with ((hcheck | hsender) | hrecipient) | hlisting
  · exact tells_ofCheck hcheck
  · refine tells_lookup hsender (fun hnone _ => ⟨rfl, .sender hmessage hnone⟩) ?_
    intro user hwarn
    exact tells_warnIf hwarn rfl
  · exact tells_missingUnless hrecipient fun habsent =>
      .recipient hmessage (contains_eq_false_iff.mp habsent)
  · exact tells_missingUnless hlisting fun habsent =>
      .listing hmessage (contains_eq_false_iff.mp habsent)

theorem tells_historyIssues {history : VehicleHistory}
    (hhistory : history ∈ Table.values catalog.histories)
    (h : issue ∈ historyIssues options catalog history) : issue.Tells options catalog := by
  rcases List.mem_append.mp h with hcheck | hvehicle
  · exact tells_ofCheck hcheck
  · refine tells_missingUnless hvehicle fun habsent => .historyVehicle hhistory ?_
    rwa [Option.isSome_eq_false_iff, Option.isNone_iff_eq_none] at habsent

theorem tells_check (h : issue ∈ check thisYear options catalog) : issue.Tells options catalog := by
  rcases mem_check.mp h with ⟨user, _, h⟩ | ⟨entry, hentry, h⟩ | ⟨listing, hlisting, h⟩ |
    ⟨message, hmessage, h⟩ | ⟨history, hhistory, h⟩
  · exact tells_ofCheck h
  · exact tells_vehicleIssues hentry h
  · exact tells_listingIssues hlisting h
  · exact tells_messageIssues hmessage h
  · exact tells_historyIssues hhistory h

theorem Unresolved.mem_check (h : Unresolved catalog kind id finding) :
    ⟨options.missingSeverity, kind, id, finding⟩ ∈ check thisYear options catalog := by
  rw [Integrity.mem_check]
  cases h with
  | vehicleSeller hmem hnone =>
    refine .inr (.inl ⟨_, hmem, List.mem_append_right _ ?_⟩)
    rw [sellerIssues, hnone]
    exact List.mem_singleton_self _
  | listingSeller hmem hnone =>
    refine .inr (.inr (.inl ⟨_, hmem, ?_⟩))
    simp only [listingIssues, List.mem_append, mem_missingUnless]
    exact .inl (.inl (.inr ⟨contains_eq_false_iff.mpr hnone, trivial⟩))
  | sender hmem hnone =>
    refine .inr (.inr (.inr (.inl ⟨_, hmem, ?_⟩)))
    simp only [messageIssues, List.mem_append, senderIssues, hnone]
    exact .inl (.inl (.inr (List.mem_singleton_self _)))
  | recipient hmem hnone =>
    refine .inr (.inr (.inr (.inl ⟨_, hmem, ?_⟩)))
    simp only [messageIssues, List.mem_append, mem_missingUnless]
    exact .inl (.inr ⟨contains_eq_false_iff.mpr hnone, trivial⟩)
  | listing hmem hnone =>
    refine .inr (.inr (.inr (.inl ⟨_, hmem, ?_⟩)))
    simp only [messageIssues, List.mem_append, mem_missingUnless]
    exact .inr ⟨contains_eq_false_iff.mpr hnone, trivial⟩
  | historyVehicle hmem hnone =>
    refine .inr (.inr (.inr (.inr ⟨_, hmem, List.mem_append_right _ ?_⟩)))
    rw [mem_missingUnless, hnone]
    exact ⟨rfl, rfl⟩

end Unresolved

/-! ## The two reports -/

/-- An issue of a strict report and the one in its place in the lenient report. -/
structure Softened (catalog : Catalog) (strict lenient : Issue) : Prop where
  kind : strict.kind = lenient.kind
  id : strict.id = lenient.id
  finding : strict.finding = lenient.finding
  differ_iff : strict.severity ≠ lenient.severity ↔
    Unresolved catalog strict.kind strict.id strict.finding
  of_unresolved : Unresolved catalog strict.kind strict.id strict.finding →
    strict.severity = .error ∧ lenient.severity = .warning

variable {thisYear : Int32} {rules : Validation.Rules} {catalog : Catalog}

theorem softened_soften {issue : Issue} (h : issue ∈ check thisYear ⟨rules, true⟩ catalog) :
    Softened catalog issue issue.soften := by
  cases hmissing : issue.finding.isMissing with
  | true =>
    have hsoften : issue.soften = { issue with severity := .warning } := if_pos hmissing
    obtain ⟨hseverity, hunresolved⟩ := tells_check h hmissing
    have herror : issue.severity = .error := hseverity
    rw [hsoften]
    exact ⟨rfl, rfl, rfl, by simp [herror, hunresolved], fun _ => ⟨herror, rfl⟩⟩
  | false =>
    have hsoften : issue.soften = issue := if_neg (by simp [hmissing])
    have hresolved : ¬ Unresolved catalog issue.kind issue.id issue.finding := by
      intro hunresolved
      exact absurd (hmissing.symm.trans hunresolved.isMissing) (by simp)
    rw [hsoften]
    exact ⟨rfl, rfl, rfl, by simp [hresolved], fun hunresolved => absurd hunresolved hresolved⟩

theorem softened_check (thisYear : Int32) (rules : Validation.Rules) (catalog : Catalog) :
    List.Forall₂ (Softened catalog) (check thisYear ⟨rules, true⟩ catalog)
      (check thisYear ⟨rules, false⟩ catalog) := by
  rw [← soften_check, List.forall₂_map_right_iff, List.forall₂_same]
  exact fun issue hmem => softened_soften hmem

theorem soften_error {issue : Issue} (h : issue.soften.severity = .error) :
    issue.severity = .error := by
  unfold Issue.soften at h
  split at h
  · exact absurd h (by simp)
  · exact h

theorem errorCount_lenient_le (thisYear : Int32) (rules : Validation.Rules) (catalog : Catalog) :
    (check thisYear ⟨rules, false⟩ catalog).errorCount ≤
      (check thisYear ⟨rules, true⟩ catalog).errorCount := by
  rw [← soften_check, Report.errorCount, List.countP_map]
  refine List.countP_mono_left fun issue _ herror => ?_
  exact beq_iff_eq.mpr (soften_error (beq_iff_eq.mp herror))

theorem hasErrors_eq_false_iff {report : Report} :
    report.hasErrors = false ↔ report.errorCount = 0 := by
  simp [Report.hasErrors]

theorem hasErrors_lenient (h : (check thisYear ⟨rules, true⟩ catalog).hasErrors = false) :
    (check thisYear ⟨rules, false⟩ catalog).hasErrors = false := by
  rw [hasErrors_eq_false_iff] at h ⊢
  exact Nat.le_zero.mp (h ▸ errorCount_lenient_le thisYear rules catalog)

end Integrity

/-! ## The check as a command -/

namespace Command

variable {settings : Settings} {setting : Setting} {snapshot : Option String}

theorem load_marketFor {result : Except Failure Catalog} {later : Clock}
    (hload : (snapshotAt settings snapshot).load setting.disk setting.clock = (result, later))
    (lenient : Bool) :
    (marketFor settings setting.thisYear snapshot settings.exportDir lenient).load
      ⟨setting.disk, setting.clock⟩ = (result, ⟨setting.disk, later⟩) := by
  have hsnapshot : (marketFor settings setting.thisYear snapshot settings.exportDir
      lenient).snapshot = snapshotAt settings snapshot := rfl
  rw [Market.load, hsnapshot, hload]

theorem runCheck_of_load_error {failure : Failure} {later : Clock}
    (hload : (snapshotAt settings snapshot).load setting.disk setting.clock =
      (.error failure, later)) (lenient : Bool) :
    runCheck settings setting snapshot lenient = stopped failure setting.disk := by
  have hmarket := load_marketFor hload lenient
  unfold runCheck
  simp only [Market.check_of_load_error setting.thisYear (congrArg Prod.fst hmarket), hmarket]

theorem exitCode_runCheck_of_load {catalog : Catalog} {later : Clock}
    (hload : (snapshotAt settings snapshot).load setting.disk setting.clock =
      (.ok catalog, later)) (lenient : Bool) :
    (runCheck settings setting snapshot lenient).exitCode =
      if (Integrity.check setting.thisYear
        ⟨settings.rules setting.thisYear, settings.strictReferences && !lenient⟩
          catalog).hasErrors then 1 else 0 := by
  have hmarket := load_marketFor hload lenient
  unfold runCheck
  simp only [Market.check_of_load setting.thisYear (congrArg Prod.fst hmarket), hmarket]
  rfl

theorem exitCode_runCheck_lenient (h : (runCheck settings setting snapshot false).exitCode = 0) :
    (runCheck settings setting snapshot true).exitCode = 0 := by
  cases hload : (snapshotAt settings snapshot).load setting.disk setting.clock with
  | mk result later =>
    cases result with
    | error failure =>
      rw [runCheck_of_load_error hload] at h ⊢
      exact h
    | ok catalog =>
      rw [exitCode_runCheck_of_load hload] at h ⊢
      cases hstrict : settings.strictReferences with
      | false =>
        -- the settings ask for a lenient check already
        rw [hstrict] at h
        exact h
      | true =>
        rw [hstrict] at h
        have hclean : (Integrity.check setting.thisYear
            ⟨settings.rules setting.thisYear, true⟩ catalog).hasErrors = false := by
          split at h
          · exact absurd h (by decide)
          · rename_i hnone
            exact eq_false_of_ne_true hnone
        have hlenient := Integrity.hasErrors_lenient hclean
        rw [Bool.not_true, Bool.and_false, if_neg (by simp [hlenient])]

theorem exitCode_run_check_lenient (settings : Settings) (setting : Setting)
    (snapshot : Option String)
    (h : ((Command.check snapshot false).run settings setting).exitCode = 0) :
    ((Command.check snapshot true).run settings setting).exitCode = 0 := by
  have hrun (lenient : Bool) : (Command.check snapshot lenient).run settings setting =
      runCheck settings setting snapshot lenient := rfl
  rw [hrun] at h ⊢
  exact exitCode_runCheck_lenient h

end Command

theorem exitCode_check_lenient (invocation : Invocation) (setting : Setting)
    (snapshot : Option String)
    (h : ({ invocation with command := .check snapshot false }.run setting).exitCode = 0) :
    ({ invocation with command := .check snapshot true }.run setting).exitCode = 0 := by
  unfold Invocation.run at h ⊢
  cases hsettings : Settings.load setting.environment setting.disk invocation.settingsFile with
  | error problem =>
    rw [hsettings] at h
    exact h
  | ok settings =>
    rw [hsettings] at h
    cases hvalid : settings.validate setting.thisYear with
    | error problem =>
      simp only [hvalid] at h ⊢
      exact h
    | ok _ =>
      simp only [hvalid] at h ⊢
      exact Command.exitCode_run_check_lenient settings setting snapshot h

namespace Integrity

/-- Strict and lenient reports have the same issues in the same places; just those of references
that lead nowhere, all of which are there, are errors in the one and warnings in the other. What
has no errors, or ends a run of the program well, does so leniently. -/
theorem strict_and_lenient (thisYear : Int32) (rules : Validation.Rules) (catalog : Catalog) :
    List.Forall₂ (Softened catalog) (check thisYear ⟨rules, true⟩ catalog)
        (check thisYear ⟨rules, false⟩ catalog) ∧
      (∀ kind id finding, Unresolved catalog kind id finding →
        ⟨.error, kind, id, finding⟩ ∈ check thisYear ⟨rules, true⟩ catalog ∧
          ⟨.warning, kind, id, finding⟩ ∈ check thisYear ⟨rules, false⟩ catalog) ∧
      ((check thisYear ⟨rules, true⟩ catalog).hasErrors = false →
        (check thisYear ⟨rules, false⟩ catalog).hasErrors = false) ∧
      ∀ (invocation : Invocation) (setting : Setting) (snapshot : Option String),
        ({ invocation with command := .check snapshot false }.run setting).exitCode = 0 →
          ({ invocation with command := .check snapshot true }.run setting).exitCode = 0 :=
  ⟨softened_check thisYear rules catalog,
    fun _ _ _ hunresolved => ⟨hunresolved.mem_check, hunresolved.mem_check⟩, hasErrors_lenient,
    exitCode_check_lenient⟩

def strayHistory : List Catalog.Operation :=
  [.insertHistory (.create ⟨"v9"⟩)]

theorem sample_leniency :
    let catalog := Catalog.empty.run strayHistory
    let rules := Validation.Rules.standard 2025
    ⟨.error, .history, "v9", .missing "vehicle" "v9"⟩ ∈ check 2025 ⟨rules, true⟩ catalog ∧
      ⟨.warning, .history, "v9", .missing "vehicle" "v9"⟩ ∈ check 2025 ⟨rules, false⟩ catalog ∧
      (check 2025 ⟨rules, false⟩ catalog).hasErrors = false := by
  intro catalog rules
  have hhistory : VehicleHistory.create ⟨"v9"⟩ ∈ Table.values catalog.histories := by decide
  have hvehicle : catalog.findVehicle? ⟨"v9"⟩ = none := by decide
  have hunresolved : Unresolved catalog .history "v9" (.missing "vehicle" "v9") :=
    .historyVehicle hhistory hvehicle
  obtain ⟨_, hall, _⟩ := strict_and_lenient 2025 rules catalog
  obtain ⟨hstrict, hlenient⟩ := hall _ _ _ hunresolved
  exact ⟨hstrict, hlenient, by decide +kernel⟩

end Integrity

end VehicleMarket
