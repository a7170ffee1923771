import VehicleMarket.Catalog.Integrity

/-!
What is in an integrity report. Each part of a report is about records of its own kind, and which
issues a check, a warning or a look-up adds is said once for all parts.
-/
namespace VehicleMarket

namespace Listing

/-- A listing that is sold while its vehicle is not. -/
def HalfSold (listing : Listing) : Prop :=
  listing.status = .sold ∧ listing.vehicle.status ≠ .sold

instance (listing : Listing) : Decidable listing.HalfSold :=
  inferInstanceAs (Decidable (listing.status = .sold ∧ listing.vehicle.status ≠ .sold))

end Listing

namespace Integrity

variable {issue : Issue} {kind : RecordKind} {id : String} {options : Options} {catalog : Catalog}

@[simp]
theorem mem_ofCheck {result : Except Problem Unit} :
    issue ∈ ofCheck kind id result ↔
      ∃ problem, result = .error problem ∧ issue = ⟨.error, kind, id, .invalid problem⟩ := by
  cases result with
  | ok _ => simp [ofCheck]
  | error problem => simp [ofCheck]

@[simp]
theorem mem_warnIf {condition : Bool} {finding : Finding} :
    issue ∈ warnIf condition kind id finding ↔
      condition = true ∧ issue = ⟨.warning, kind, id, finding⟩ := by
  cases condition with
  | false => simp [warnIf]
  | true => simp [warnIf]

@[simp]
theorem mem_missingUnless {present : Bool} {role target : String} :
    issue ∈ missingUnless options present kind id role target ↔
      present = false ∧ issue = ⟨options.missingSeverity, kind, id, .missing role target⟩ := by
  cases present with
  | false => simp [missingUnless]
  | true => simp [missingUnless]

theorem mem_check {thisYear : Int32} :
    issue ∈ check thisYear options catalog ↔
      (∃ user ∈ Table.values catalog.users, issue ∈ userIssues user) ∨
      (∃ entry ∈ vehiclesWithSellers catalog, issue ∈ vehicleIssues options catalog entry) ∨
      (∃ listing ∈ Table.values catalog.listings,
        issue ∈ listingIssues thisYear options catalog listing) ∨
      (∃ message ∈ Table.values catalog.messages, issue ∈ messageIssues options catalog message) ∨
      ∃ history ∈ Table.values catalog.histories,
        issue ∈ historyIssues options catalog history := by
  simp only [check, List.mem_append, List.mem_flatMap, or_assoc]

/-! ## The kinds of the issues -/

theorem kind_of_userIssues {user : User} (h : issue ∈ userIssues user) : issue.kind = .user := by
  obtain ⟨problem, _, rfl⟩ := mem_ofCheck.mp h
  rfl

theorem kind_of_sellerIssues {vehicle : Vehicle} {seller : UserId}
    (h : issue ∈ sellerIssues options catalog vehicle seller) : issue.kind = .vehicle := by
  unfold sellerIssues at h
  split at h
  · rw [List.mem_singleton.mp h]
  · simp only [List.mem_append, mem_warnIf] at h
    obtain ⟨_, rfl⟩ | ⟨_, rfl⟩ := h
    · rfl
    · rfl

theorem kind_of_vehicleIssues {entry : Vehicle × UserId}
    (h : issue ∈ vehicleIssues options catalog entry) : issue.kind = .vehicle := by
  rcases List.mem_append.mp h with hcheck | hseller
  · obtain ⟨problem, _, rfl⟩ := mem_ofCheck.mp hcheck
    rfl
  · exact kind_of_sellerIssues hseller

theorem kind_of_senderIssues {message : Message}
    (h : issue ∈ senderIssues options catalog message) : issue.kind = .message := by
  unfold senderIssues at h
  split at h
  · rw [List.mem_singleton.mp h]
  · obtain ⟨_, rfl⟩ := mem_warnIf.mp h
    rfl

theorem kind_of_messageIssues {message : Message}
    (h : issue ∈ messageIssues options catalog message) : issue.kind = .message := by
  simp only [messageIssues, List.mem_append, mem_ofCheck, mem_missingUnless] at h
  obtain ((⟨problem, _, rfl⟩ | hsender) | ⟨_, rfl⟩) | ⟨_, rfl⟩ := h
  · rfl
  · exact kind_of_senderIssues hsender
  · rfl
  · rfl

theorem kind_of_historyIssues {history : VehicleHistory}
    (h : issue ∈ historyIssues options catalog history) : issue.kind = .history := by
  simp only [historyIssues, List.mem_append, mem_ofCheck, mem_missingUnless] at h
  obtain ⟨problem, _, rfl⟩ | ⟨_, rfl⟩ := h
  · rfl
  · rfl

theorem mem_check_of_listing {thisYear : Int32} (hkind : issue.kind = .listing) :
    issue ∈ check thisYear options catalog ↔
      ∃ listing ∈ Table.values catalog.listings,
        issue ∈ listingIssues thisYear options catalog listing := by
  rw [mem_check]
  constructor
  · rintro (⟨user, _, h⟩ | ⟨entry, _, h⟩ | hlisting | ⟨message, _, h⟩ | ⟨history, _, h⟩)
    · exact absurd (hkind.symm.trans (kind_of_userIssues h)) (by decide)
    · exact absurd (hkind.symm.trans (kind_of_vehicleIssues h)) (by decide)
    · exact hlisting
    · exact absurd (hkind.symm.trans (kind_of_messageIssues h)) (by decide)
    · exact absurd (hkind.symm.trans (kind_of_historyIssues h)) (by decide)
  · exact fun h => .inr (.inr (.inl h))

theorem finding_of_ownIssues {thisYear : Int32} {listing : Listing}
    (h : issue ∈ ownIssues thisYear listing) : ∃ problem, issue.finding = .invalid problem := by
  unfold ownIssues at h
  split at h
  · exact absurd h List.not_mem_nil
  · rename_i problem _
    split at h
    · exact absurd h List.not_mem_nil
    · rw [List.mem_singleton.mp h]
      exact ⟨problem, rfl⟩

theorem vehicleNotSold_mem_check {thisYear : Int32} {listingId : String} {status : VehicleStatus} :
    ⟨.warning, .listing, listingId, .vehicleNotSold status⟩ ∈ check thisYear options catalog ↔
      ∃ listing ∈ Table.values catalog.listings, listing.id.text = listingId ∧
        listing.status = .sold ∧ listing.vehicle.status ≠ .sold ∧
        listing.vehicle.status = status := by
  rw [mem_check_of_listing rfl]
  refine exists_congr fun listing => and_congr_right fun _ => ?_
  simp only [listingIssues, List.mem_append, mem_missingUnless, mem_warnIf]
  constructor
  · rintro (((hown | ⟨_, hmissing⟩) | ⟨_, hdiffer⟩) | ⟨hunsold, hissue⟩)
    · obtain ⟨problem, hfinding⟩ := finding_of_ownIssues hown
      exact absurd hfinding (by simp)
    · exact absurd (congrArg Issue.finding hmissing) (by simp)
    · exact absurd (congrArg Issue.finding hdiffer) (by simp)
    · obtain ⟨_, _, hid, hfinding⟩ := Issue.mk.inj hissue
      obtain ⟨hsold, hvehicle⟩ := (Bool.and_eq_true_iff ..).mp hunsold
      exact ⟨hid.symm, by simpa using hsold, by simpa using hvehicle,
        (Finding.vehicleNotSold.inj hfinding).symm⟩
  · rintro ⟨rfl, hsold, hvehicle, rfl⟩
    exact .inr ⟨by simp [hsold, hvehicle], rfl⟩

end Integrity

end VehicleMarket
