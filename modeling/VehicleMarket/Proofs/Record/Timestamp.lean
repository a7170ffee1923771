import VehicleMarket.Proofs.Record.Decoded
import VehicleMarket.Proofs.Record.Older

/-!
Where the timestamp of a record comes from. What the object gives for it decides: nothing, or null,
is filled in with the time of reading; anything else is the timestamp itself, whatever the time. The
vehicle of a listing is timed like one on its own. A history has no time that is filled in: an
accident that was not repaired has no time of repair, whatever the time of reading.
-/
namespace VehicleMarket

open Json (decodeInstant)

/-- The time of a record that was read at an instant, by what its object gives. -/
def TimeFrom (now : Instant) (given : Option Json) (time : Instant) : Prop :=
  match given with
  | none | some .null => time = now
  | some value => decodeInstant value = .ok time

/-! ## What was read of members and items -/

namespace Json

variable {α : Type} {members : List (String × Json)} {items : List Json} {key : String} {place : Nat}
  {decode : Decoder α} {data absent : α}

theorem field?_cases {found : Option α} (h : field? members key decode = .ok found) :
    Table.find? members key = none ∧ found = none ∨
      ∃ value data, Table.find? members key = some value ∧ decode value = .ok data ∧
        found = some data := by
  unfold field? at h
  split at h
  · rename_i hfind
    cases h
    exact .inl ⟨hfind, rfl⟩
  · rename_i value hfind
    split at h
    · rename_i data hdata
      cases h
      exact .inr ⟨value, data, hfind, hdata, rfl⟩
    · exact absurd h (by simp)

theorem field_cases (h : field members key decode absent = .ok data) :
    Table.find? members key = none ∧ data = absent ∨
      ∃ value, Table.find? members key = some value ∧ decode value = .ok data := by
  unfold field at h
  split at h
  · exact absurd h (by simp)
  · rename_i found hfound
    cases h
    rcases field?_cases hfound with ⟨hfind, rfl⟩ | ⟨value, data, hfind, hdata, rfl⟩
    · exact .inl ⟨hfind, rfl⟩
    · exact .inr ⟨value, hfind, hdata⟩

theorem item_cases (h : item items place decode absent = .ok data) :
    items[place]? = none ∧ data = absent ∨
      ∃ value, items[place]? = some value ∧ decode value = .ok data := by
  unfold item at h
  split at h
  · rename_i hitem
    cases h
    exact .inl ⟨hitem, rfl⟩
  · rename_i value hitem
    exact .inr ⟨value, hitem, h⟩

end Json

/-- A key of a schema under which a time is filled in. -/
structure Schema.Times (schema : Schema) (key : String) : Prop where
  lawful : schema.keys.Lawful
  nodup : (Table.keys schema.nested).Nodup
  timed : key ∈ schema.keys.timestamps
  plain : Table.find? schema.nested key = none
  kept : key ∉ schema.keys.retired
  solid : key ∉ schema.keys.blankable

section Key

variable {now time : Instant} {members : Members} {key : String} {schema : Schema}

theorem timeFrom_of_stamped {given : Option Json}
    (h : decodeInstant (KeyRules.stamped now.millis given) = .ok time) :
    TimeFrom now given time := by
  have hnow : decodeInstant (.int now.millis) = .ok now := Json.decodeInstant_millis now
  cases given with
  | none => exact Except.ok.inj (h.symm.trans hnow)
  | some value =>
    cases value with
    | null => exact Except.ok.inj (h.symm.trans hnow)
    | _ => exact h

theorem Schema.Times.find?_normalize (h : schema.Times key) (now : Int) (members : Members) :
    Table.find? (schema.normalize now members) key =
      some (KeyRules.stamped now (schema.keys.given? members key)) := by
  rw [Schema.find?_normalize h.nodup, h.plain]
  simp only [if_pos h.timed, KeyRules.find?_settle_of_given h.lawful members h.kept h.solid]

theorem Schema.Times.timeFrom (h : schema.Times key) {found : Option Instant}
    (hfound : Json.field? (schema.normalize now.millis members) key decodeInstant = .ok found)
    (htime : Json.required key found = .ok time) :
    TimeFrom now (schema.keys.given? members key) time := by
  rcases Json.field?_cases hfound with ⟨-, rfl⟩ | ⟨value, read, hfind, hread, rfl⟩
  · exact absurd htime (by simp [Json.required])
  · cases htime
    rw [h.find?_normalize] at hfind
    cases hfind
    exact timeFrom_of_stamped hread

end Key

/-- A kind of record with the time that reading may fill in. -/
class Timed (α : Type) [Record α] where
  time? : α → Option Instant
  given? : Members → Option Json
  timeFrom : ∀ now members, Ensures
    (fun record : α => ∀ time, time? record = some time → TimeFrom now (given? members) time)
    (Record.ofObject now members)

instance : Timed User where
  time? user := some user.registeredAt
  given? members := User.schema.keys.given? members "registeredAt"
  timeFrom now members := by
    have htimes : User.schema.Times "registeredAt" :=
      ⟨by decide, by decide, by decide, rfl, by decide, by decide⟩
    change Ensures _ (User.ofMembers (User.schema.normalize now.millis members))
    unfold User.ofMembers
    iterate 8 refine ensures_bind fun _ _ => ?_
    refine ensures_bind fun found hfound => ?_
    refine ensures_bind fun time htime => ensures_pure ?_
    rintro _ ⟨⟩
    exact htimes.timeFrom hfound htime

namespace Vehicle

def timeGiven? (members : Members) : Option Json :=
  keyRules.given? members "publishedAt"

theorem timeFrom_of_ofMembers (now : Instant) (members : Members) :
    Ensures (fun vehicle : Vehicle => TimeFrom now (timeGiven? members) vehicle.publishedAt)
      (ofMembers (keyRules.normalize now.millis members)) := by
  have htimes : schema.Times "publishedAt" :=
    ⟨by decide, by decide, by decide, rfl, by decide, by decide⟩
  rw [← normalize_eq]
  unfold ofMembers
  iterate 9 refine ensures_bind fun _ _ => ?_
  refine ensures_bind fun found hfound => ?_
  iterate 4 refine ensures_bind fun _ _ => ?_
  refine ensures_bind fun time htime => ensures_pure ?_
  exact htimes.timeFrom hfound htime

/-- A vehicle given by its fields in order has no time that is filled in. -/
theorem timeFrom_of_ofItems (now : Instant) (items : List Json) :
    Ensures (fun vehicle : Vehicle => TimeFrom now items[13]? vehicle.publishedAt)
      (ofItems items) := by
  unfold ofItems
  iterate 13 refine ensures_bind fun _ _ => ?_
  refine ensures_bind fun time htime => ?_
  refine ensures_bind fun _ _ => ensures_pure ?_
  unfold Json.requiredItem at htime
  split at htime
  · exact absurd htime (by simp)
  · rename_i value hvalue
    rw [hvalue]
    cases value with
    | null => exact absurd htime (by simp [decodeInstant, Json.wrongType])
    | _ => exact htime

end Vehicle

instance : Timed Vehicle where
  time? vehicle := some vehicle.publishedAt
  given? := Vehicle.timeGiven?
  timeFrom now members := by
    change Ensures _ (Vehicle.ofMembers (Vehicle.schema.normalize now.millis members))
    rw [Vehicle.normalize_eq]
    rintro vehicle hvehicle _ ⟨⟩
    exact Vehicle.timeFrom_of_ofMembers now members vehicle hvehicle

/-- What an object gives for the time of the vehicle in a listing, which is an object itself or a
list of fields. -/
def Listing.timeGiven? (members : Members) : Option Json :=
  match schema.keys.given? members "vehicle" with
  | some (.object inner) => Vehicle.timeGiven? inner
  | some (.array items) => items[13]?
  | _ => none

theorem Listing.find?_vehicle (now : Int) (members : Members) :
    Table.find? (schema.normalize now members) "vehicle" =
      (schema.keys.given? members "vehicle").map (Schema.nestedValue Vehicle.keyRules now) := by
  have hlawful : schema.keys.Lawful := by decide
  have hnested : Table.find? schema.nested "vehicle" = some Vehicle.keyRules := rfl
  have huntimed : "vehicle" ∉ schema.keys.timestamps := by decide
  rw [Schema.find?_normalize (by decide), hnested]
  simp only [if_neg huntimed]
  rw [KeyRules.find?_settle_of_given hlawful members (by decide) (by decide)]

theorem Listing.timeFrom_of_vehicle {now : Instant} {members : Members} {found : Option Vehicle}
    {vehicle : Vehicle}
    (hfound : Json.field? (schema.normalize now.millis members) "vehicle" Vehicle.decode =
      .ok found)
    (hvehicle : Json.required "vehicle" found = .ok vehicle) :
    TimeFrom now (timeGiven? members) vehicle.publishedAt := by
  rcases Json.field?_cases hfound with ⟨-, rfl⟩ | ⟨_, read, hfind, hread, rfl⟩
  · exact absurd hvehicle (by simp [Json.required])
  · cases hvehicle
    rw [find?_vehicle, Option.map_eq_some_iff] at hfind
    obtain ⟨value, hgiven, rfl⟩ := hfind
    rw [timeGiven?, hgiven]
    cases value with
    | object inner => exact Vehicle.timeFrom_of_ofMembers now inner _ hread
    | array items => exact Vehicle.timeFrom_of_ofItems now items _ hread
    | _ => exact absurd hread (by
        simp [Schema.nestedValue, Vehicle.decode, Json.decodeRecord, Json.wrongType])

instance : Timed Listing where
  time? listing := some listing.vehicle.publishedAt
  given? := Listing.timeGiven?
  timeFrom now members := by
    change Ensures _ (Listing.ofMembers (Listing.schema.normalize now.millis members))
    unfold Listing.ofMembers
    iterate 4 refine ensures_bind fun _ _ => ?_
    refine ensures_bind fun found hfound => ?_
    refine ensures_bind fun _ _ => ?_
    refine ensures_bind fun vehicle hvehicle => ensures_pure ?_
    rintro _ ⟨⟩
    exact Listing.timeFrom_of_vehicle hfound hvehicle

instance : Timed Message where
  time? message := some message.timestamp
  given? members := Message.schema.keys.given? members "timestamp"
  timeFrom now members := by
    have htimes : Message.schema.Times "timestamp" :=
      ⟨by decide, by decide, by decide, rfl, by decide, by decide⟩
    change Ensures _ (Message.ofMembers (Message.schema.normalize now.millis members))
    unfold Message.ofMembers
    iterate 6 refine ensures_bind fun _ _ => ?_
    refine ensures_bind fun found hfound => ?_
    refine ensures_bind fun time htime => ensures_pure ?_
    rintro _ ⟨⟩
    exact htimes.timeFrom hfound htime

instance : Timed VehicleHistory where
  time? _ := none
  given? _ := none
  timeFrom _ _ _ _ _ htime := absurd htime (by simp)

/-! ## Times that are never filled in -/

/-- The time of a repair, by what is given for it: nothing, or null, is no time. -/
def RepairedFrom (given : Option Json) (repairedAt : Option Instant) : Prop :=
  match given with
  | none | some .null => repairedAt = none
  | some value => ∃ time, repairedAt = some time ∧ decodeInstant value = .ok time

theorem Json.forall₂_of_decodeList {α : Type} {decode : Json.Decoder α} {value : Json}
    {found : List α} (h : Json.decodeList decode value = .ok found) :
    ∃ items, value = .array items ∧
      List.Forall₂ (fun item data => decode item = .ok data) items found := by
  unfold Json.decodeList at h
  split at h
  · rename_i items
    refine ⟨items, rfl, ?_⟩
    induction items generalizing found with
    | nil =>
      cases h
      exact .nil
    | cons item rest ih =>
      rw [Json.decodeAll] at h
      split at h
      · exact absurd h (by simp)
      · rename_i first hfirst
        split at h
        · exact absurd h (by simp)
        · rename_i others hothers
          cases h
          exact .cons hfirst (ih hothers)
  · exact absurd h (by simp [Json.wrongType])

namespace Accident

def repairGiven? : Json → Option Json
  | .object members => Table.find? members "repairedAt"
  | .array items => items[3]?
  | _ => none

theorem repairedFrom_of_decodeInstant? {value : Json} {repairedAt : Option Instant}
    (h : Json.decodeInstant? value = .ok repairedAt) : RepairedFrom (some value) repairedAt := by
  unfold Json.decodeInstant? at h
  split at h
  · cases h
    rfl
  · rename_i hnull
    split at h
    · rename_i time htime
      cases h
      cases value with
      | null => exact absurd rfl hnull
      | _ => exact ⟨time, rfl, htime⟩
    · exact absurd h (by simp)

theorem repairedFrom_of_decode (value : Json) :
    Ensures (fun accident : Accident => RepairedFrom (repairGiven? value) accident.repairedAt)
      (decode value) := by
  cases value with
  | object members =>
    change Ensures _ (ofMembers members)
    unfold ofMembers
    iterate 2 refine ensures_bind fun _ _ => ?_
    refine ensures_bind fun repairedAt hrepaired => ?_
    iterate 2 refine ensures_bind fun _ _ => ?_
    refine ensures_pure ?_
    rw [repairGiven?]
    rcases Json.field_cases hrepaired with ⟨hfind, hnone⟩ | ⟨value, hfind, hread⟩
    · rw [hfind]
      exact hnone
    · rw [hfind]
      exact repairedFrom_of_decodeInstant? hread
  | array items =>
    change Ensures _ (ofItems items)
    unfold ofItems
    iterate 3 refine ensures_bind fun _ _ => ?_
    refine ensures_bind fun repairedAt hrepaired => ?_
    refine ensures_bind fun _ _ => ensures_pure ?_
    rw [repairGiven?]
    rcases Json.item_cases hrepaired with ⟨hitem, hnone⟩ | ⟨value, hitem, hread⟩
    · rw [hitem]
      exact hnone
    · rw [hitem]
      exact repairedFrom_of_decodeInstant? hread
  | _ => exact fun _ hdata => absurd hdata (by simp [decode, Json.decodeRecord, Json.wrongType])

end Accident

namespace VehicleHistory

def accidentsGiven (members : Members) : List Json :=
  match Table.find? members "accidents" with
  | some (.array items) => items
  | _ => []

/-- A history that is the same whenever its object is read, with no repair but those that are
given. -/
structure Untimed (members : Members) (history : VehicleHistory) : Prop where
  always : ∀ now, Record.ofObject now members = .ok history
  repairs : List.Forall₂
    (fun given accident => RepairedFrom (Accident.repairGiven? given) accident.repairedAt)
    (accidentsGiven members) history.accidents

theorem find?_accidents (members : Members) :
    Table.find? (schema.keys.settle members) "accidents" = Table.find? members "accidents" := by
  rw [KeyRules.find?_settle_of_given (by decide) members (by decide) (by decide)]
  simp [KeyRules.given?, KeyRules.moved?, schema]

theorem repairs_of_ofMembers (members : Members) :
    Ensures (fun history : VehicleHistory => List.Forall₂
        (fun given accident => RepairedFrom (Accident.repairGiven? given) accident.repairedAt)
        (accidentsGiven members) history.accidents)
      (ofMembers (schema.keys.settle members)) := by
  unfold ofMembers
  refine ensures_bind fun accidents haccidents => ?_
  iterate 3 refine ensures_bind fun _ _ => ?_
  refine ensures_pure ?_
  rw [accidentsGiven, ← find?_accidents]
  rcases Json.field_cases haccidents with ⟨hfind, rfl⟩ | ⟨value, hfind, hread⟩
  · rw [hfind]
    exact .nil
  · obtain ⟨items, rfl, hitems⟩ := Json.forall₂_of_decodeList hread
    rw [hfind]
    exact hitems.imp fun given accident => Accident.repairedFrom_of_decode given accident

theorem untimed_of_ofObject {now : Instant} {members : Members} {history : VehicleHistory}
    (h : Record.ofObject now members = .ok history) : history.Untimed members where
  always _ := h
  repairs := repairs_of_ofMembers members history h

end VehicleHistory

namespace Record

variable {α : Type} [Record α] [Timed α] {record : α} {now time : Instant} {members : Members}

/-- A record as it was made of the members of an object at an instant. -/
structure ReadAt (now : Instant) (members : Members) (record : α) : Prop where
  decoded : ofObject now members = .ok record
  timed : ∀ time, Timed.time? record = some time → TimeFrom now (Timed.given? α members) time

/-- The time of a record to which its object gives none. -/
structure FilledIn (members : Members) (record : α) (time : Instant) : Prop where
  time : Timed.time? record = some time
  ungiven : Timed.given? α members = none ∨ Timed.given? α members = some .null

theorem readAt_of_ofObject (h : ofObject now members = .ok record) : ReadAt now members record where
  decoded := h
  timed := Timed.timeFrom now members record h

theorem FilledIn.eq_now (h : FilledIn members record time) (hread : ReadAt now members record) :
    time = now := by
  have htime := hread.timed time h.time
  rcases h.ungiven with hnone | hnull
  · rw [hnone] at htime
    exact htime
  · rw [hnull] at htime
    exact htime

end Record

end VehicleMarket
