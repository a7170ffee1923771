import VehicleMarket.Proofs.Catalog.AnyRecord
import VehicleMarket.Proofs.Record.Lines
import VehicleMarket.Proofs.Record.Timestamp

/-!
Loading a document reads the clock once for each item, section by section, and so does reading a
text of lines for each line that is not blank. With a clock that moves on at every reading, a record
that gets its time from the clock has the time of its place among all of them.
-/
namespace VehicleMarket

/-! ## Items and lines -/

section Reads

variable {α : Type} [Record α] [Timed α]

def ItemReads (now : Instant) (item : RecordKind × Json) (record : α) : Prop :=
  item.1 = (Record.schema α).kind ∧
    ∃ members, item.2 = .object members ∧ Record.ReadAt now members record

def ItemFilledIn (item : RecordKind × Json) (record : α) (time : Instant) : Prop :=
  ∃ members, item.2 = .object members ∧ Record.FilledIn members record time

def LineReads (now : Instant) (line : String) (record : α) : Prop :=
  ∃ members, Json.read line = .ok (.object members) ∧ Record.ReadAt now members record

def LineFilledIn (line : String) (record : α) (time : Instant) : Prop :=
  ∃ members, Json.read line = .ok (.object members) ∧ Record.FilledIn members record time

variable {now time : Instant} {record : α}

theorem itemFilledIn_eq_now {item : RecordKind × Json} (hread : ItemReads now item record)
    (hfilled : ItemFilledIn item record time) : time = now := by
  obtain ⟨_, members, hitem, hreads⟩ := hread
  obtain ⟨others, hothers, htime⟩ := hfilled
  cases hitem.symm.trans hothers
  exact htime.eq_now hreads

theorem lineFilledIn_eq_now {line : String} (hread : LineReads now line record)
    (hfilled : LineFilledIn line record time) : time = now := by
  obtain ⟨members, hline, hreads⟩ := hread
  obtain ⟨others, hothers, htime⟩ := hfilled
  cases hline.symm.trans hothers
  exact htime.eq_now hreads

theorem lineReads_of_madeOf {line : String} (h : Record.MadeOf now line record) :
    LineReads now line record := by
  obtain ⟨members, hline, hobject⟩ := h
  exact ⟨members, hline, Record.readAt_of_ofObject hobject⟩

end Reads

namespace AnyRecord

def ReadAt (now : Instant) (item : RecordKind × Json) : AnyRecord → Prop
  | .ofUser user => ItemReads now item user
  | .ofVehicle vehicle => ItemReads now item vehicle
  | .ofListing listing => ItemReads now item listing
  | .ofMessage message => ItemReads now item message
  | .ofHistory history => ItemReads now item history

def FilledIn (item : RecordKind × Json) (record : AnyRecord) (time : Instant) : Prop :=
  match record with
  | .ofUser user => ItemFilledIn item user time
  | .ofVehicle vehicle => ItemFilledIn item vehicle time
  | .ofListing listing => ItemFilledIn item listing time
  | .ofMessage message => ItemFilledIn item message time
  | .ofHistory history => ItemFilledIn item history time

theorem filledIn_eq_now {now time : Instant} {item : RecordKind × Json} {record : AnyRecord}
    (hread : ReadAt now item record) (hfilled : FilledIn item record time) : time = now := by
  cases record with
  | _ => exact itemFilledIn_eq_now hread hfilled

end AnyRecord

namespace Catalog

/-! ## The sections -/

def sectionItems (sections : Members) (name : String) : List Json :=
  match Table.find? sections name with
  | some (.array items) => items
  | _ => []

def itemsOf (kind : RecordKind) (sections : Members) (name : String) : List (RecordKind × Json) :=
  (sectionItems sections name).map fun item => (kind, item)

def documentItems (sections : Members) : List (RecordKind × Json) :=
  itemsOf .user sections "users" ++ itemsOf .vehicle sections "vehicles" ++
    itemsOf .listing sections "listings" ++ itemsOf .message sections "messages" ++
    itemsOf .history sections "histories"

section Sections

variable {α : Type} [Record α] {sections : Members} {name : String} {records : List α}
  {catalog filled : Catalog} {clock later : Clock}

theorem decodeItems_inTurn {items : List Json}
    (h : decodeItems items clock = (.ok records, later)) :
    InTurn (fun now item record => ∃ members, item = .object members ∧
      Record.ofObject now members = .ok record) clock items records later := by
  induction items generalizing clock records with
  | nil =>
    cases h
    exact .nil _
  | cons item rest ih =>
    rw [decodeItems] at h
    split at h
    · exact absurd h (by simp)
    · rename_i record between hrecord
      obtain ⟨members, now, hitem, hread, hobject⟩ := Record.decodeValue_eq_ok.mp hrecord
      split at h
      · exact absurd h (by simp)
      · rename_i others after hothers
        cases h
        exact .cons hread ⟨members, hitem, hobject⟩ (ih hothers)

theorem decodeSection_inTurn (h : decodeSection sections name clock = (.ok records, later)) :
    InTurn (fun now item record => ∃ members, item = .object members ∧
      Record.ofObject now members = .ok record) clock (sectionItems sections name) records
      later := by
  unfold decodeSection at h
  unfold sectionItems
  split at h
  · rename_i hfind
    rw [hfind]
    cases h
    exact .nil _
  · rename_i hfind
    rw [hfind]
    cases h
    exact .nil _
  · rename_i items hfind
    rw [hfind]
    exact decodeItems_inTurn h
  · exact absurd h (by simp)

end Sections

/-- What has come out of reading items one after the other, and inserting the records. -/
def LoadedFrom (clock : Clock) (items : List (RecordKind × Json))
    (state : Except Failure Catalog × Clock) : Prop :=
  ∀ catalog later, state = (.ok catalog, later) → ∃ loaded : List AnyRecord,
    InTurn AnyRecord.ReadAt clock items loaded later ∧
      insertAll insertAny empty loaded = .ok catalog

theorem loadedFrom_start (clock : Clock) : LoadedFrom clock [] (.ok empty, clock) := by
  rintro _ _ ⟨⟩
  exact ⟨[], .nil clock, rfl⟩

theorem insertAll_any {α : Type} {insert : Catalog → α → Except Problem Unit × Catalog}
    {wrap : α → AnyRecord}
    (hinsert : ∀ catalog record, insert catalog record = catalog.insertAny (wrap record))
    (catalog : Catalog) (records : List α) :
    insertAll insert catalog records = insertAll insertAny catalog (records.map wrap) := by
  induction records generalizing catalog with
  | nil => rfl
  | cons record rest ih =>
    rw [List.map_cons, insertAll, insertAll, hinsert]
    rcases catalog.insertAny (wrap record) with ⟨problem | _, next⟩
    · rfl
    · exact ih next

theorem LoadedFrom.addSection {α : Type} [Record α] [Timed α]
    {insert : Catalog → α → Except Problem Unit × Catalog} (wrap : α → AnyRecord)
    (hinsert : ∀ catalog record, insert catalog record = catalog.insertAny (wrap record))
    (hwrap : ∀ now item record, ItemReads now item record → AnyRecord.ReadAt now item (wrap record))
    {clock : Clock} {items : List (RecordKind × Json)} {state : Except Failure Catalog × Clock}
    (h : LoadedFrom clock items state) (sections : Members) (name : String) :
    LoadedFrom clock (items ++ itemsOf (Record.schema α).kind sections name)
      (addSection insert sections name state) := by
  intro filled later hadd
  obtain ⟨catalog, between, records, hstate, hsection, hfill⟩ := addSection_eq_ok.mp hadd
  obtain ⟨loaded, hturn, hloaded⟩ := h catalog between hstate
  have hmore : InTurn AnyRecord.ReadAt between (itemsOf (Record.schema α).kind sections name)
      (records.map wrap) later := by
    refine (decodeSection_inTurn hsection).map ?_
    rintro now item record ⟨members, hitem, hobject⟩
    exact hwrap _ _ _ ⟨rfl, members, hitem, Record.readAt_of_ofObject hobject⟩
  refine ⟨loaded ++ records.map wrap, hturn.append hmore, ?_⟩
  rw [insertAll_append_eq_ok]
  exact ⟨catalog, hloaded, (insertAll_any hinsert catalog records).symm.trans hfill⟩

theorem loadedFrom_ofSections (sections : Members) (clock : Clock) :
    LoadedFrom clock (documentItems sections) (ofSections sections clock) := by
  unfold documentItems ofSections
  -- the sections are peeled from the one read last to the one read first
  refine LoadedFrom.addSection .ofHistory (fun _ _ => rfl) (fun _ _ _ h => h) ?_ _ _
  refine LoadedFrom.addSection .ofMessage (fun _ _ => rfl) (fun _ _ _ h => h) ?_ _ _
  refine LoadedFrom.addSection .ofListing (fun _ _ => rfl) (fun _ _ _ h => h) ?_ _ _
  refine LoadedFrom.addSection .ofVehicle (fun _ _ => rfl) (fun _ _ _ h => h) ?_ _ _
  rw [← List.nil_append (itemsOf .user sections "users")]
  exact LoadedFrom.addSection .ofUser (fun _ _ => rfl) (fun _ _ _ h => h) (loadedFrom_start clock)
    _ _

theorem ofDocument_inTurn {text : String} {catalog : Catalog} {clock later : Clock}
    (h : ofDocument text clock = (.ok catalog, later)) :
    ∃ sections loaded, Json.read text = .ok (.object sections) ∧
      InTurn AnyRecord.ReadAt clock (documentItems sections) loaded later ∧
      insertAll insertAny empty loaded = .ok catalog := by
  unfold ofDocument at h
  split at h
  · exact absurd h (by simp)
  · rename_i sections hread
    obtain ⟨loaded, hturn, hinsert⟩ := loadedFrom_ofSections sections clock catalog later h
    exact ⟨sections, loaded, hread, hturn, hinsert⟩
  · exact absurd h (by simp)

/-! ## One reading each -/

/-- A clock that moves on by a step at every reading shows for each item of a document, and for each
line of a text that is not blank, its place among them; a time that is filled in is the millisecond
of that reading, and any other time comes from what was given for it. In a history nothing is filled
in, not even the time of a repair that is missing. -/
theorem one_reading_each (start : Moment) (step : Int) :
    (∀ text catalog later, ofDocument text (.stepping start step) = (.ok catalog, later) →
      ∃ sections loaded, Json.read text = .ok (.object sections) ∧
        Stepped AnyRecord.ReadAt AnyRecord.FilledIn start step (documentItems sections) loaded
          later ∧
        insertAll insertAny empty loaded = .ok catalog) ∧
    (∀ {α : Type} [Record α] [Timed α] (text : String) (records : List α) (later : Clock),
      Record.decodeLines text (.stepping start step) = (.ok records, later) →
        Stepped LineReads LineFilledIn start step (Record.contentLines text) records later) ∧
    ∀ now members (history : VehicleHistory),
      Record.ofObject now members = .ok history → history.Untimed members := by
  refine ⟨?documents, ?lines, fun _ _ _ => VehicleHistory.untimed_of_ofObject⟩
  case documents =>
    intro text catalog later hload
    obtain ⟨sections, loaded, hread, hturn, hinsert⟩ := ofDocument_inTurn hload
    exact ⟨sections, loaded, hread,
      hturn.stepped fun _ _ _ _ hitem hfilled => AnyRecord.filledIn_eq_now hitem hfilled, hinsert⟩
  case lines =>
    intro α _ _ text records later hlines
    have hturn := (Record.decodeLines_inTurn hlines).imp fun _ _ _ hmade =>
      lineReads_of_madeOf hmade
    exact hturn.stepped fun _ _ _ _ hline hfilled => lineFilledIn_eq_now hline hfilled

def unrepairedMembers : Members :=
  [("accidents", .array [.object [("date", .int 3)]]), ("vehicleId", .string "v1")]

def unrepairedHistory : VehicleHistory :=
  ⟨⟨"v1"⟩, [], [], [⟨.ofMillis 3, "", .minor, none⟩]⟩

/-- A user without a time and one with, a vehicle whose time is null, a listing that has its vehicle
without one, and a history. -/
def timedSections : Members :=
  [("users", .array [.object [("id", .string "u1")],
      .object [("id", .string "u2"), ("registeredAt", .int 7)]]),
    ("vehicles", .array [.object [("id", .string "v1"), ("publishedAt", .null)]]),
    ("listings", .array [.object [("id", .string "l1"), ("vehicle", .object [])]]),
    ("histories", .array [.object unrepairedMembers])]

def timedCatalog : Catalog :=
  { empty with
    users :=
      [(⟨"u1"⟩, { User.blank (.ofMillis 1000) with id := ⟨"u1"⟩ }),
        (⟨"u2"⟩, { User.blank (.ofMillis 7) with id := ⟨"u2"⟩ })]
    vehicles := [(⟨"v1"⟩, { Vehicle.blank (.ofMillis 1001) with id := ⟨"v1"⟩ })]
    listings := [(⟨"l1"⟩, Listing.create ⟨"l1"⟩ (Vehicle.blank (.ofMillis 1001)) .empty)]
    histories := [(⟨"v1"⟩, unrepairedHistory)] }

def timedLines : String :=
  Json.compact (.object [("id", .string "m1")]) ++ "\n \n" ++
    Json.compact (.object [("id", .string "m2")]) ++ "\n"

theorem exists_clock {α : Type} {result : Except Failure α × Clock} {value : α}
    (h : result.1 = .ok value) : ∃ later, result = (.ok value, later) :=
  ⟨result.2, Prod.ext h rfl⟩

theorem sample_readings :
    (∃ sections loaded later,
      Stepped AnyRecord.ReadAt AnyRecord.FilledIn (.ofMillis 1000) 500000 (documentItems sections)
        loaded later ∧
      insertAll insertAny empty loaded = .ok timedCatalog) ∧
    (∃ later, Stepped LineReads LineFilledIn (.ofMillis 1000) 500000
      (Record.contentLines timedLines)
      [{ Message.blank (.ofMillis 1000) with id := ⟨"m1"⟩ },
        { Message.blank (.ofMillis 1000) with id := ⟨"m2"⟩ }] later) ∧
    VehicleHistory.Untimed unrepairedMembers unrepairedHistory := by
  have hload : (ofDocument (Json.compact (.object timedSections))
      (.stepping (.ofMillis 1000) 500000)).1 = .ok timedCatalog := by decide +kernel
  have hlines : (Record.decodeLines timedLines (.stepping (.ofMillis 1000) 500000)).1 =
      .ok [{ Message.blank (.ofMillis 1000) with id := ⟨"m1"⟩ },
        { Message.blank (.ofMillis 1000) with id := ⟨"m2"⟩ }] := by decide +kernel
  obtain ⟨later, hload⟩ := exists_clock hload
  obtain ⟨after, hlines⟩ := exists_clock hlines
  obtain ⟨hdocuments, htexts, hhistories⟩ := one_reading_each (.ofMillis 1000) 500000
  obtain ⟨sections, loaded, _, hstepped, hinsert⟩ := hdocuments _ _ _ hload
  exact ⟨⟨sections, loaded, _, hstepped, hinsert⟩, ⟨_, htexts _ _ _ hlines⟩,
    hhistories .epoch _ _ (by decide +kernel)⟩

/-- The second user has the millisecond of its reading, which began half a millisecond before; and
an accident that was not repaired has no time that could be that of its reading. -/
theorem reading_cut_or_not_used :
    (∃ catalog user, (ofDocument (Json.compact (.object
          [("users", .array [.object [("id", .string "u1")], .object [("id", .string "u2")]])]))
          (.stepping .epoch 500000)).1 = .ok catalog ∧
        catalog.findUser? ⟨"u2"⟩ = some user ∧
        user.registeredAt.moment.nanos ≠ Moment.epoch.nanos + 1 * 500000) ∧
    ∃ catalog history accident, (ofDocument (Json.compact (.object
          [("histories", .array [.object unrepairedMembers])]))
          (.stepping (.ofMillis 1000) (5 * nanosPerMilli))).1 = .ok catalog ∧
        catalog.findHistory? ⟨"v1"⟩ = some history ∧ accident ∈ history.accidents ∧
        accident.repairedAt ≠ some (.ofMillis 1000) := by
  constructor
  · refine ⟨{ empty with
      users :=
        [(⟨"u1"⟩, { User.blank .epoch with id := ⟨"u1"⟩ }),
          (⟨"u2"⟩, { User.blank .epoch with id := ⟨"u2"⟩ })] },
      { User.blank .epoch with id := ⟨"u2"⟩ }, ?_, ?_, ?_⟩
    · decide +kernel
    · decide
    · decide
  · refine ⟨{ empty with histories := [(⟨"v1"⟩, unrepairedHistory)] }, unrepairedHistory,
      ⟨.ofMillis 3, "", .minor, none⟩, ?_, ?_, ?_, ?_⟩
    · decide +kernel
    · decide
    · exact List.mem_singleton_self _
    · simp

end Catalog

end VehicleMarket
