import VehicleMarket.Proofs.Market.Service

/-!
The market on its file against a catalog kept in memory. Every call on the file loads the catalog,
and a call that changes it saves it again; the calls answer as they would on one catalog that is
loaded once, where a change that fails is undone. What ties the two together is that the file loads
as the catalog in memory and can be saved, which every call leaves true.
-/
namespace VehicleMarket

inductive Call (σ : Type) where
  | check (thisYear : Int32)
  | update (change : Catalog → σ → Except Failure Unit × Catalog × σ)
  | setListingStatus (id : ListingId) (status : ListingStatus)

inductive Answer where
  | checked (result : Except Failure (Summary × Integrity.Report))
  | updated (result : Except Failure Catalog)
  | listed (result : Except Failure Listing)
  deriving DecidableEq

variable {σ : Type}

/-! ## Calls on a catalog in memory -/

namespace Catalog

/-- A change that fails is undone; the state it carries is not. -/
def update (catalog : Catalog) (change : Catalog → σ → Except Failure Unit × Catalog × σ) (state : σ) :
    Except Failure Catalog × Catalog × σ :=
  match change catalog state with
  | (.error failure, _, state) => (.error failure, catalog, state)
  | (.ok (), changed, state) => (.ok changed, changed, state)

def setListingStatus (catalog : Catalog) (id : ListingId) (status : ListingStatus) :
    Except Failure Listing × Catalog :=
  match Market.statusChange id status catalog with
  | (.error problem, _) => (.error (.problem problem), catalog)
  | (.ok (), changed) =>
    match changed.findListing? id with
    | some listing => (.ok listing, changed)
    | none => (.error (.problem (noListing id)), changed)

def answer (options : Integrity.Options) (catalog : Catalog) (state : σ) :
    Call σ → Answer × Catalog × σ
  | .check thisYear =>
    (.checked (.ok (catalog.summary, Integrity.check thisYear options catalog)), catalog, state)
  | .update change =>
    match catalog.update change state with
    | (result, catalog, state) => (.updated result, catalog, state)
  | .setListingStatus id status =>
    match catalog.setListingStatus id status with
    | (result, catalog) => (.listed result, catalog, state)

def answerAll (options : Integrity.Options) (catalog : Catalog) (state : σ) :
    List (Call σ) → List Answer × Catalog × σ
  | [] => ([], catalog, state)
  | call :: rest =>
    match catalog.answer options state call with
    | (first, catalog, state) =>
      match catalog.answerAll options state rest with
      | (others, catalog, state) => (first :: others, catalog, state)

end Catalog

/-! ## Calls on the market -/

namespace Market

def answer (market : Market) (state : σ) (premises : Premises) :
    Call σ → Answer × σ × Premises
  | .check thisYear =>
    match market.check thisYear premises with
    | (result, premises) => (.checked result, state, premises)
  | .update change =>
    match market.update change state premises with
    | (result, state, premises) => (.updated result, state, premises)
  | .setListingStatus id status =>
    match market.setListingStatus id status premises with
    | (result, premises) => (.listed result, state, premises)

def answerAll (market : Market) (state : σ) (premises : Premises) :
    List (Call σ) → List Answer × σ × Premises
  | [] => ([], state, premises)
  | call :: rest =>
    match market.answer state premises call with
    | (first, state, premises) =>
      match market.answerAll state premises rest with
      | (others, state, premises) => (first :: others, state, premises)

end Market

/-! ## What is asked of the changes -/

/-- A call whose change, if it succeeds, is made of operations and leaves only binary numbers that
are read back from their own spelling. -/
def Call.Faithful (catalog : Catalog) (state : σ) : Call σ → Prop
  | .check _ => True
  | .update change => ∀ changed later, change catalog state = (.ok (), changed, later) →
      (∃ operations, changed = catalog.run operations) ∧
        ∀ x ∈ changed.amounts, Json.ReadsBack x
  | .setListingStatus id status => ∀ changed,
      Market.statusChange id status catalog = (.ok (), changed) →
        ∀ x ∈ changed.amounts, Json.ReadsBack x

def Call.AllFaithful (options : Integrity.Options) (catalog : Catalog) (state : σ) :
    List (Call σ) → Prop
  | [] => True
  | call :: rest =>
    call.Faithful catalog state ∧
      match catalog.answer options state call with
      | (_, catalog, state) => AllFaithful options catalog state rest

theorem Market.statusChange_step {id : ListingId} {status : ListingStatus}
    {catalog changed : Catalog} (h : Market.statusChange id status catalog = (.ok (), changed)) :
    changed = catalog.step (.editListing id (.setStatus status)) :=
  (congrArg Prod.snd h).symm

namespace Call

variable {catalog : Catalog} {state : σ} {change : Catalog → σ → Except Failure Unit × Catalog × σ}

theorem faithful_of_error (failure : Failure) (h : (change catalog state).1 = .error failure) :
    (Call.update change).Faithful catalog state := by
  intro changed later hresult
  rw [hresult] at h
  cases h

theorem faithful_of_run (operations : List Catalog.Operation)
    (h : (change catalog state).2.1 = catalog.run operations)
    (hamounts : ∀ x ∈ (catalog.run operations).amounts, Json.ReadsBack x) :
    (Call.update change).Faithful catalog state := by
  intro changed later hresult
  rw [hresult] at h
  cases h
  exact ⟨⟨operations, rfl⟩, hamounts⟩

theorem faithful_of_step {id : ListingId} {status : ListingStatus}
    (hamounts : ∀ x ∈ (catalog.step (.editListing id (.setStatus status))).amounts,
      Json.ReadsBack x) : (Call.setListingStatus id status).Faithful catalog state := by
  intro changed hresult
  rw [Market.statusChange_step hresult]
  exact hamounts

end Call

/-! ## The simulation -/

/-- The file loads as the catalog in memory and can be saved, and the clock stands still. -/
structure Stored (market : Market) (now : Moment) (catalog : Catalog) (premises : Premises) :
    Prop where
  clock : premises.clock = .fixed now
  load : (market.snapshot.load premises.disk premises.clock).1 = .ok catalog
  save : ∀ changed, ∃ disk, market.snapshot.save changed premises.disk = (.ok (), disk)
  reachable : Catalog.Reachable catalog

namespace Stored

variable {market : Market} {now : Moment} {catalog changed : Catalog} {premises : Premises}

theorem market_load (h : Stored market now catalog premises) :
    market.load premises = (.ok catalog, premises) := by
  have hclock : (market.snapshot.load premises.disk premises.clock).2 = premises.clock := by
    rw [h.clock]
    exact Snapshot.load_fixed market.snapshot premises.disk
  have hload : market.snapshot.load premises.disk premises.clock = (.ok catalog, premises.clock) :=
    Prod.ext h.load hclock
  unfold Market.load
  rw [hload]

theorem market_save (h : Stored market now catalog premises)
    (hreachable : Catalog.Reachable changed) (hamounts : ∀ x ∈ changed.amounts, Json.ReadsBack x) :
    ∃ later, market.save changed premises = (.ok changed, later) ∧
      Stored market now changed later := by
  obtain ⟨disk, hsave⟩ := h.save changed
  have hmarket : market.save changed premises = (.ok changed, { premises with disk := disk }) :=
    Market.save_eq_ok.mpr ⟨rfl, disk, hsave, rfl⟩
  have hclock := Clock.after?_fixed changed.size now
  have hdocument := Catalog.ofDocument_written hreachable.invariant hamounts hclock
  have hload : (market.snapshot.load disk premises.clock).1 = .ok changed := by
    rw [Snapshot.load_of_save hsave, h.clock, hdocument]
  have hagain := Snapshot.save_of_file (Snapshot.stat_of_save hsave)
  exact ⟨{ premises with disk := disk }, hmarket, h.clock, hload, hagain, hreachable⟩

theorem check (h : Stored market now catalog premises) (thisYear : Int32) :
    market.check thisYear premises =
      (.ok (catalog.summary, Integrity.check thisYear market.options catalog), premises) := by
  rw [Market.check_of_load thisYear (congrArg Prod.fst h.market_load), h.market_load]

theorem update (h : Stored market now catalog premises)
    {change : Catalog → σ → Except Failure Unit × Catalog × σ} {state : σ}
    (hchange : ∀ changed later, change catalog state = (.ok (), changed, later) →
      Catalog.Reachable changed ∧ ∀ x ∈ changed.amounts, Json.ReadsBack x) :
    ∃ later, market.update change state premises =
      ((catalog.update change state).1, (catalog.update change state).2.2, later) ∧
      Stored market now (catalog.update change state).2.1 later := by
  have hload : (market.load premises).1 = .ok catalog := congrArg Prod.fst h.market_load
  unfold Catalog.update
  rcases hresult : change catalog state with ⟨result, changed, later⟩
  cases result with
  | error failure =>
    refine ⟨premises, ?_, h⟩
    rw [Market.update_of_change_error hload hresult, h.market_load]
  | ok =>
    obtain ⟨hreachable, hamounts⟩ := hchange changed later hresult
    obtain ⟨saved, hsave, hstored⟩ := h.market_save hreachable hamounts
    refine ⟨saved, ?_, hstored⟩
    rw [Market.update_of_change hload hresult, h.market_load, hsave]

theorem setListingStatus (h : Stored market now catalog premises) {id : ListingId}
    {status : ListingStatus}
    (hchange : ∀ changed, Market.statusChange id status catalog = (.ok (), changed) →
      ∀ x ∈ changed.amounts, Json.ReadsBack x) :
    ∃ later, market.setListingStatus id status premises =
      ((catalog.setListingStatus id status).1, later) ∧
      Stored market now (catalog.setListingStatus id status).2 later := by
  have hload : (market.load premises).1 = .ok catalog := congrArg Prod.fst h.market_load
  unfold Catalog.setListingStatus
  rcases hstatus : Market.statusChange id status catalog with ⟨problem | _, changed⟩
  · refine ⟨premises, ?_, h⟩
    rw [Market.setListingStatus_of_refused hload (congrArg Prod.fst hstatus), h.market_load]
  · have hreachable : Catalog.Reachable changed := by
      rw [Market.statusChange_step hstatus]
      exact h.reachable.step _
    obtain ⟨later, hsave, hstored⟩ := h.market_save hreachable (hchange changed hstatus)
    refine ⟨later, ?_⟩
    rw [Market.setListingStatus_eq,
      Market.update_of_change hload (Market.statusUpdate_eq_ok.mpr hstatus), h.market_load, hsave]
    simp only [Market.statusOutcome]
    cases changed.findListing? id with
    | none => exact ⟨rfl, hstored⟩
    | some listing => exact ⟨rfl, hstored⟩

/-- One call answers as it does in memory and leaves the file with what is in memory. -/
theorem answer (h : Stored market now catalog premises) {call : Call σ} {state : σ}
    (hfaithful : call.Faithful catalog state) :
    ∃ later, market.answer state premises call =
      ((catalog.answer market.options state call).1,
        (catalog.answer market.options state call).2.2, later) ∧
      Stored market now (catalog.answer market.options state call).2.1 later := by
  cases call with
  | check thisYear =>
    refine ⟨premises, ?_, h⟩
    rw [Market.answer, h.check]
    rfl
  | update change =>
    have hchange : ∀ changed later, change catalog state = (.ok (), changed, later) →
        Catalog.Reachable changed ∧ ∀ x ∈ changed.amounts, Json.ReadsBack x := by
      intro changed later hresult
      obtain ⟨⟨operations, hrun⟩, hamounts⟩ := hfaithful changed later hresult
      rw [hrun]
      exact ⟨h.reachable.run operations, hrun ▸ hamounts⟩
    obtain ⟨later, hupdate, hstored⟩ := h.update hchange
    refine ⟨later, ?_, hstored⟩
    rw [Market.answer, hupdate]
    rfl
  | setListingStatus id status =>
    obtain ⟨later, hset, hstored⟩ := h.setListingStatus hfaithful
    refine ⟨later, ?_, hstored⟩
    rw [Market.answer, hset]
    rfl

theorem answerAll (h : Stored market now catalog premises) {calls : List (Call σ)} {state : σ}
    (hfaithful : Call.AllFaithful market.options catalog state calls) :
    ∃ later, market.answerAll state premises calls =
      ((catalog.answerAll market.options state calls).1,
        (catalog.answerAll market.options state calls).2.2, later) ∧
      Stored market now (catalog.answerAll market.options state calls).2.1 later := by
  induction calls generalizing catalog state premises with
  | nil => exact ⟨premises, rfl, h⟩
  | cons call rest ih =>
    obtain ⟨hfirst, hrest⟩ := hfaithful
    obtain ⟨between, hanswer, hstored⟩ := h.answer hfirst
    rcases hmemory : catalog.answer market.options state call with ⟨first, middle, carried⟩
    simp only [hmemory] at hrest hanswer hstored
    obtain ⟨later, hanswers, hlater⟩ := ih hstored hrest
    refine ⟨later, ?_, ?_⟩
    · simp only [Market.answerAll, Catalog.answerAll, hanswer, hmemory, hanswers]
    · simp only [Catalog.answerAll, hmemory]
      exact hlater

end Stored

theorem Market.stored_of_load {market : Market} {premises : Premises} {now : Moment}
    {catalog : Catalog} (hclock : premises.clock = .fixed now)
    (hload : (market.load premises).1 = .ok catalog)
    (hsave : market.snapshot.folder.contains market.snapshot.fileName premises.disk = false →
      (market.save .empty premises).1 = .ok .empty) : Stored market now catalog premises := by
  rw [Market.load_fst] at hload
  refine ⟨hclock, hload, ?_, Snapshot.reachable_of_load hload⟩
  intro changed
  cases hcontains : market.snapshot.folder.contains market.snapshot.fileName premises.disk with
  | true => exact Snapshot.save_of_load hcontains hload changed
  | false =>
    obtain ⟨later, hempty⟩ := Market.snapshot_save_of_save (hsave hcontains)
    exact Snapshot.save_of_save hempty changed

/-- On a fixed clock, a market whose snapshot loads, or is missing where one can be saved, answers
every row of faithful calls as the loaded catalog does in memory, and then loads as that catalog. -/
theorem Market.answers_as_in_memory {market : Market} {premises : Premises} {now : Moment}
    {catalog : Catalog} (hclock : premises.clock = .fixed now)
    (hload : (market.load premises).1 = .ok catalog)
    (hsave : market.snapshot.folder.contains market.snapshot.fileName premises.disk = false →
      (market.save .empty premises).1 = .ok .empty)
    {calls : List (Call σ)} {state : σ}
    (hfaithful : Call.AllFaithful market.options catalog state calls) :
    (market.answerAll state premises calls).1 =
        (catalog.answerAll market.options state calls).1 ∧
      (market.answerAll state premises calls).2.1 =
        (catalog.answerAll market.options state calls).2.2 ∧
      (market.load (market.answerAll state premises calls).2.2).1 =
        .ok (catalog.answerAll market.options state calls).2.1 := by
  have hstored := Market.stored_of_load hclock hload hsave
  obtain ⟨later, hanswers, hlater⟩ := hstored.answerAll hfaithful
  rw [hanswers]
  exact ⟨rfl, rfl, congrArg Prod.fst hlater.market_load⟩

namespace Market

def sampleMarket (fileName : String) : Market where
  snapshot := ⟨⟨"/"⟩, fileName⟩
  exports := ⟨"/export"⟩
  options := ⟨.standard 2025, true⟩
  bundleName := defaultBundleName

def samplePremises (name text : String) : Premises :=
  ⟨⟨[], [([name], .file (.ofText text))]⟩, .fixed .epoch⟩

def olderDocument : String :=
  "\x7b\"listings\": [\x7b\"id\": \"l1\", \"nbVues\": 3, \"vehicule\": \x7b\"prix\": 12500.5\x7d\x7d]\x7d"

def olderCatalog : Catalog :=
  let vehicle := { Vehicle.blank .epoch with price := Record.sampleAmount }
  Catalog.empty.step (.insertListing { Listing.create ⟨"l1"⟩ vehicle .empty with viewCount := 3 })

/-- A change that counts whether it fails or not. -/
def openHistory (id : VehicleId) (catalog : Catalog) (count : Nat) :
    Except Failure Unit × Catalog × Nat :=
  match catalog.insertHistory (.create id) with
  | (result, catalog) => (result.mapError .problem, catalog, count + 1)

def sampleCalls : List (Call Nat) :=
  [.update (openHistory ⟨"v1"⟩), .check 2025, .setListingStatus ⟨"l1"⟩ .sold,
    .update (openHistory ⟨"v1"⟩)]

theorem older_market_answers_as_in_memory :
    ((sampleMarket "market.json").answerAll 0 (samplePremises "market.json" olderDocument)
        sampleCalls).1 =
        (olderCatalog.answerAll (sampleMarket "market.json").options 0 sampleCalls).1 ∧
      ((sampleMarket "market.json").answerAll 0 (samplePremises "market.json" olderDocument)
        sampleCalls).2.1 = 2 ∧
      ((sampleMarket "market.json").load ((sampleMarket "market.json").answerAll 0
          (samplePremises "market.json" olderDocument) sampleCalls).2.2).1 =
        .ok (olderCatalog.run [.insertHistory (.create ⟨"v1"⟩),
          .editListing ⟨"l1"⟩ (.setStatus .sold)]) := by
  have hload : ((sampleMarket "market.json").load (samplePremises "market.json" olderDocument)).1 =
      .ok olderCatalog := by decide +kernel
  have hcontains : (sampleMarket "market.json").snapshot.folder.contains "market.json"
      (samplePremises "market.json" olderDocument).disk = true := by decide +kernel
  have hfaithful : Call.AllFaithful (sampleMarket "market.json").options olderCatalog 0
      sampleCalls := by
    refine ⟨?opens, trivial, ?sells, ?again, trivial⟩
    case opens =>
      exact Call.faithful_of_run [.insertHistory (.create ⟨"v1"⟩)] (by decide +kernel)
        (by decide +kernel)
    case sells => exact Call.faithful_of_step (by decide +kernel)
    case again =>
      exact Call.faithful_of_error (.problem (.duplicate "history" "v1")) (by decide +kernel)
  obtain ⟨hanswers, hcount, hlater⟩ := answers_as_in_memory rfl hload
    (fun hmissing => absurd (hcontains.symm.trans hmissing) (by decide)) hfaithful
  refine ⟨hanswers, ?_, ?_⟩
  · rw [hcount]
    decide +kernel
  · rw [hlater]
    decide +kernel

/-- A missing snapshot whose folder would be where a file is: it loads as the empty catalog, but
what is changed in it cannot be saved. -/
theorem snapshot_below_file_not_saved :
    (sampleMarket "a/market.json").snapshot.folder.contains "a/market.json"
        (samplePremises "a" "x").disk = false ∧
      ((sampleMarket "a/market.json").load (samplePremises "a" "x")).1 = .ok .empty ∧
      Call.AllFaithful (sampleMarket "a/market.json").options .empty 0
        [.update (openHistory ⟨"v1"⟩)] ∧
      (Catalog.empty.answerAll (sampleMarket "a/market.json").options 0
        [.update (openHistory ⟨"v1"⟩)]).1 =
        [.updated (.ok (Catalog.empty.step (.insertHistory (.create ⟨"v1"⟩))))] ∧
      ((sampleMarket "a/market.json").answerAll 0 (samplePremises "a" "x")
        [.update (openHistory ⟨"v1"⟩)]).1 =
        [.updated (.error (.problem (.io .alreadyExists)))] := by
  refine ⟨by decide +kernel, by decide +kernel, ⟨?_, trivial⟩, by decide +kernel,
    by decide +kernel⟩
  exact Call.faithful_of_run [.insertHistory (.create ⟨"v1"⟩)] (by decide +kernel)
    (by decide +kernel)

end Market

end VehicleMarket
