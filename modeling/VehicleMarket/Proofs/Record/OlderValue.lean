import VehicleMarket.Proofs.Record.Footprint
import VehicleMarket.Proofs.Record.Readings
import VehicleMarket.Proofs.Record.Timestamp

/-!
Older values of the fields that reading fills in, which are the times and the enumerations for which
blank counts as absent. Whether an older value counts is decided by the canonical key alone: where
it is absent, the object is read as if the value stood under it; where it is there, even with null
or a blank text, the object is read as if there were no older value, and the field is filled in.
-/
namespace VehicleMarket

open Json (Ordered)

namespace KeyRules

/-- A value that stands for nothing under a key: null, or blank where blank counts as absent. -/
def holdsNothing (rules : KeyRules) (key : String) (value : Json) : Bool :=
  if key ∈ rules.blankable then isBlankValue value else isNull value

/-- An object with a value put under the canonical key of a rule, in place of the older one. -/
def respell (members : Members) (rule : String × String) (value : Json) : Members :=
  Table.insert (Table.erase members rule.1) rule.2 value

/-! ## One older key -/

section Older

variable {rules : KeyRules} {members others : Members} {rule : String × String} {key : String}
  {value : Json}

theorem settle_congr (hlawful : rules.Lawful) (hsorted : Table.Sorted members)
    (hothers : Table.Sorted others)
    (h : ∀ key ∉ rules.retired, rules.given? others key = rules.given? members key) :
    rules.settle others = rules.settle members := by
  refine (sorted_settle hothers rules).ext (sorted_settle hsorted rules) ?_
  intro key
  rw [find?_settle hlawful hothers, find?_settle hlawful hsorted]
  by_cases hretired : key ∈ rules.retired
  · rw [if_pos hretired, if_pos hretired]
  · rw [if_neg hretired, if_neg hretired, h key hretired]

theorem given?_of_apart (hlawful : rules.Lawful) (hrule : rule ∈ rules.renames)
    (h : ∀ name, name ≠ rule.1 → name ≠ rule.2 →
      Table.find? others name = Table.find? members name)
    (hretired : key ∉ rules.retired) (hkey : key ≠ rule.2) :
    rules.given? others key = rules.given? members key := by
  obtain ⟨hrenames, -, hapart⟩ := List.nodup_append.mp hlawful.nodup
  have hold : rule.1 ∈ rules.retired := List.mem_append_left _ (List.mem_map_of_mem hrule)
  have htarget {name : String} (hname : name ∈ rules.retired) : name ≠ rule.2 := fun heq =>
    hlawful.renames rule hrule (heq ▸ hname)
  have hself : Table.find? others key = Table.find? members key :=
    h key (fun heq => hretired (heq ▸ hold)) hkey
  have hrenamed : moved? some others rules.renames key = moved? some members rules.renames key := by
    refine moved?_congr ?_
    intro other hmem hother
    refine h other.1 ?_ (htarget (List.mem_append_left _ (List.mem_map_of_mem hmem)))
    -- the key of the renaming is taken by no other rule
    intro heq
    have hfirst : Table.find? rules.renames rule.1 = some rule.2 :=
      Table.find?_of_mem hrenames hrule
    have hsecond : Table.find? rules.renames rule.1 = some other.2 :=
      Table.find?_of_mem hrenames (heq ▸ hmem)
    exact hkey (hother.symm.trans (Option.some.inj (hsecond.symm.trans hfirst)))
  have hembedded : moved? embeddedId? others rules.references key =
      moved? embeddedId? members rules.references key := by
    refine moved?_congr ?_
    intro other hmem _
    have hreference : other.1 ∈ Table.keys rules.references := List.mem_map_of_mem hmem
    refine h other.1 ?_ (htarget (List.mem_append_right _ hreference))
    intro heq
    exact hapart rule.1 (List.mem_map_of_mem hrule) other.1 hreference heq.symm
  rw [given?, given?, hself, hrenamed, hembedded]

theorem settle_of_apart (hlawful : rules.Lawful) (hsorted : Table.Sorted members)
    (hothers : Table.Sorted others) (hrule : rule ∈ rules.renames)
    (h : ∀ name, name ≠ rule.1 → name ≠ rule.2 →
      Table.find? others name = Table.find? members name)
    (hgiven : rules.given? others rule.2 = rules.given? members rule.2) :
    rules.settle others = rules.settle members := by
  refine settle_congr hlawful hsorted hothers ?_
  intro key hretired
  by_cases hkey : key = rule.2
  · rw [hkey, hgiven]
  · exact given?_of_apart hlawful hrule h hretired hkey

theorem sorted_respell (hsorted : Table.Sorted members) (rule : String × String) (value : Json) :
    Table.Sorted (respell members rule value) :=
  (hsorted.erase rule.1).insert rule.2 value

/-- Where the canonical key is absent, what is under its only older key counts as if it were under
the canonical one. -/
theorem settle_respell (hlawful : rules.Lawful) (hsorted : Table.Sorted members)
    (hrule : rule ∈ rules.renames)
    (honly : ∀ other ∈ rules.renames, other.2 = rule.2 → other.1 = rule.1)
    (hnone : Table.find? members rule.2 = none)
    (hvalue : Table.find? members rule.1 = some value) :
    rules.settle (respell members rule value) = rules.settle members := by
  refine settle_of_apart hlawful hsorted (sorted_respell hsorted rule value) hrule ?_ ?_
  · intro name hold hkey
    rw [respell, Table.find?_insert_of_ne _ _ hkey, Table.find?_erase_of_ne _ hold]
  · have hmoved : moved? some members rules.renames rule.2 = some value :=
      moved?_eq_some hrule hvalue rfl fun other hmem heq hne => absurd (honly other hmem heq) hne
    rw [given?, given?, respell, Table.find?_insert_self, hnone, hmoved]
    rfl

/-- Where the canonical key is there, what is under an older key does not count. -/
theorem settle_erase_older (hlawful : rules.Lawful) (hsorted : Table.Sorted members)
    (hrule : rule ∈ rules.renames) (hvalue : Table.find? members rule.2 = some value) :
    rules.settle (Table.erase members rule.1) = rules.settle members := by
  refine settle_of_apart hlawful hsorted (hsorted.erase rule.1) hrule ?_ ?_
  · intro name hold _
    exact Table.find?_erase_of_ne _ hold
  · have hne : rule.2 ≠ rule.1 := by
      intro heq
      exact hlawful.renames rule hrule
        (heq ▸ List.mem_append_left _ (List.mem_map_of_mem hrule))
    have hthere : Table.find? (Table.erase members rule.1) rule.2 = some value :=
      (Table.find?_erase_of_ne members hne).trans hvalue
    rw [given?, given?, hthere, hvalue]
    rfl

theorem Orderly.find?_of_holdsNothing (h : rules.Orderly) (hsorted : Table.Sorted members)
    (hretired : key ∉ rules.retired) (hvalue : Table.find? members key = some value)
    (hnothing : rules.holdsNothing key value = true) (now : Int) :
    (key ∈ rules.blankable → Table.find? (rules.normalize now members) key = none) ∧
      (key ∈ rules.timestamps →
        Table.find? (rules.normalize now members) key = some (.int now)) := by
  constructor
  · intro hblank
    have htime : key ∉ rules.flat.keys.timestamps := fun hmem => (h.timestamps key hmem).2.1 hblank
    have hgiven : rules.given? members key = some value := by
      rw [given?, hvalue]
      rfl
    rw [holdsNothing, if_pos hblank] at hnothing
    show Table.find? (rules.flat.normalize now members) key = none
    rw [h.flat.find?_plain now members htime List.not_mem_nil]
    show Table.find? (rules.settle members) key = none
    rw [find?_settle h.lawful hsorted, if_neg hretired, if_pos hblank, hgiven]
    simp [hnothing]
  · intro htime
    have hrenamed : Table.find? (rules.renamed members) key = some value := by
      rw [find?_renamed h.lawful hretired, hvalue]
      rfl
    rw [holdsNothing, if_neg (h.timestamps key htime).2.1] at hnothing
    show Table.find? (rules.flat.normalize now members) key = some (.int now)
    rw [h.flat.find?_time now members htime]
    show some (stamped now (Table.find? (rules.renamed members) key)) = some (.int now)
    rw [hrenamed, stamped, if_pos hnothing]

end Older

end KeyRules

/-! ## Fields that are filled in -/

/-- Two objects of which the same record is made, or none for the same reason. -/
def Record.ReadAlike (α : Type) [Record α] (members others : Members) : Prop :=
  ∀ line clock, decodeValue (α := α) line (.object members) clock =
    decodeValue line (.object others) clock

theorem Record.readAlike_of_normalize {α : Type} [Record α] {members others : Members}
    (h : ∀ now, (schema α).normalize now others = (schema α).normalize now members) :
    ReadAlike α members others := by
  intro line clock
  simp only [decodeValue, ofObject, h]

/-- The object that has a field: that of its record, or one nested in it. -/
structure Holder (α : Type) [Record α] where
  rules : KeyRules
  inner? : Members → Option Members
  /-- The object of the record with another one in place of the inner one. -/
  replace : Members → Members → Members
  orderly : rules.Orderly
  sorted {members inner : Members} : Ordered (.object members) → inner? members = some inner →
    Table.Sorted inner
  normalize_replace {members inner other : Members} : Ordered (.object members) →
    inner? members = some inner → rules.settle other = rules.settle inner →
    ∀ now, (Record.schema α).normalize now (replace members other) =
      (Record.schema α).normalize now members

/-- A field that takes the time of reading, or a default, where it is not given. -/
structure FilledField {α : Type} [Record α] (holder : Holder α) (β : Type) where
  old : String
  key : String
  decode : Json.Decoder β
  absent : Instant → β
  get : α → β
  renamed : (old, key) ∈ holder.rules.renames := by decide
  only : ∀ rule ∈ holder.rules.renames, rule.2 = key → rule.1 = old := by decide
  filled : key ∈ holder.rules.blankable ∨
    key ∈ holder.rules.timestamps ∧ ∀ now, decode (.int now.millis) = .ok (absent now)
  usable {value : Json} {given : β} : decode value = .ok given →
    KeyRules.isBlankValue value = false
  reads {now : Instant} {members inner : Members} {record : α} :
    holder.inner? members = some inner → Record.ofObject now members = .ok record →
    Json.field (holder.rules.normalize now.millis inner) key decode (absent now) = .ok (get record)

namespace FilledField

variable {α β : Type} [Record α] {holder : Holder α}

def rule (field : FilledField holder β) : String × String :=
  (field.old, field.key)

/-- What becomes of an older value of a field, in any object and whatever else is in it. -/
structure Settles (field : FilledField holder β) : Prop where
  /-- With no canonical key, the value counts as if it stood under that. -/
  carried : ∀ {members inner : Members} {value : Json}, Ordered (.object members) →
    holder.inner? members = some inner → Table.find? inner field.key = none →
    Table.find? inner field.old = some value →
    Record.ReadAlike α members
        (holder.replace members (KeyRules.respell inner field.rule value)) ∧
      ∀ given, field.decode value = .ok given → ∀ line clock record later,
        Record.decodeValue line (.object members) clock = (.ok record, later) →
        field.get record = given
  /-- With the canonical key there, the value does not count, even if nothing else is given. -/
  ignored : ∀ {members inner : Members} {held : Json}, Ordered (.object members) →
    holder.inner? members = some inner → Table.find? inner field.key = some held →
    Record.ReadAlike α members (holder.replace members (Table.erase inner field.old)) ∧
      (holder.rules.holdsNothing field.key held = true →
        ∀ line clock now record later, clock.read? = some (now, later) →
          Record.decodeValue line (.object members) clock = (.ok record, later) →
          field.get record = field.absent now)

section Settles

variable {field : FilledField holder β} {members inner : Members} {value : Json}

theorem key_not_retired (field : FilledField holder β) : field.key ∉ holder.rules.retired :=
  holder.orderly.lawful.renames _ field.renamed

theorem get_of_found (hinner : holder.inner? members = some inner) {now : Instant} {record : α}
    (hrecord : Record.ofObject now members = .ok record) {given : β} {omitted : Bool}
    (hfound : Found (fun value => field.decode value = .ok given)
      (Table.find? (holder.rules.normalize now.millis inner) field.key) omitted) :
    field.get record = if omitted then field.absent now else given := by
  have hread : Json.field (holder.rules.normalize now.millis inner) field.key field.decode
      (field.absent now) = .ok (if omitted then field.absent now else given) :=
    hfound.field fun _ hdecode => hdecode
  exact Except.ok.inj ((field.reads hinner hrecord).symm.trans hread)

theorem settle_carried (field : FilledField holder β) (hsorted : Table.Sorted inner)
    (hnone : Table.find? inner field.key = none)
    (hvalue : Table.find? inner field.old = some value) :
    holder.rules.settle (KeyRules.respell inner field.rule value) = holder.rules.settle inner :=
  KeyRules.settle_respell holder.orderly.lawful hsorted field.renamed field.only hnone hvalue

theorem carried_value (hordered : Ordered (.object members))
    (hinner : holder.inner? members = some inner) (hnone : Table.find? inner field.key = none)
    (hvalue : Table.find? inner field.old = some value) {given : β}
    (hgiven : field.decode value = .ok given) {now : Instant} {record : α}
    (hrecord : Record.ofObject now members = .ok record) : field.get record = given := by
  have hsorted := holder.sorted hordered hinner
  have hthere : Table.find? (KeyRules.respell inner field.rule value) field.key = some value :=
    Table.find?_insert_self _ _ _
  have hfind : Table.find? (holder.rules.normalize now.millis inner) field.key = some value := by
    rw [KeyRules.normalize, ← field.settle_carried hsorted hnone hvalue]
    exact holder.orderly.flat.find?_canonical (KeyRules.sorted_respell hsorted _ _)
      now.millis field.key_not_retired hthere (field.usable hgiven)
  have hfound : Found (fun value => field.decode value = .ok given)
      (Table.find? (holder.rules.normalize now.millis inner) field.key) false :=
    ⟨value, hfind, hgiven⟩
  exact get_of_found hinner hrecord hfound

theorem ignored_value (hordered : Ordered (.object members))
    (hinner : holder.inner? members = some inner)
    (hvalue : Table.find? inner field.key = some value)
    (hnothing : holder.rules.holdsNothing field.key value = true) {now : Instant} {record : α}
    (hrecord : Record.ofObject now members = .ok record) : field.get record = field.absent now := by
  obtain ⟨hblank, htime⟩ := holder.orderly.find?_of_holdsNothing (holder.sorted hordered hinner)
    field.key_not_retired hvalue hnothing now.millis
  rcases field.filled with hmem | ⟨hmem, hnow⟩
  · have hfound : Found (fun value => field.decode value = .ok (field.absent now))
        (Table.find? (holder.rules.normalize now.millis inner) field.key) true := hblank hmem
    exact get_of_found hinner hrecord hfound
  · have hfound : Found (fun value => field.decode value = .ok (field.absent now))
        (Table.find? (holder.rules.normalize now.millis inner) field.key) false :=
      ⟨_, htime hmem, hnow now⟩
    exact get_of_found hinner hrecord hfound

theorem settles (field : FilledField holder β) : field.Settles where
  carried {members inner value} hordered hinner hnone hvalue := by
    have hsettle := field.settle_carried (holder.sorted hordered hinner) hnone hvalue
    refine ⟨Record.readAlike_of_normalize
      (holder.normalize_replace hordered hinner hsettle), ?_⟩
    intro given hgiven line clock record later hdecode
    obtain ⟨_, now, ⟨⟩, -, hrecord⟩ := Record.decodeValue_eq_ok.mp hdecode
    exact carried_value hordered hinner hnone hvalue hgiven hrecord
  ignored {members inner held} hordered hinner hheld := by
    have hsettle := KeyRules.settle_erase_older holder.orderly.lawful
      (holder.sorted hordered hinner) field.renamed hheld
    refine ⟨Record.readAlike_of_normalize
      (holder.normalize_replace hordered hinner hsettle), ?_⟩
    intro hnothing line clock now record later hclock hdecode
    obtain ⟨_, instant, ⟨⟩, hread, hrecord⟩ := Record.decodeValue_eq_ok.mp hdecode
    obtain ⟨rfl, -⟩ := Prod.mk.inj (Option.some.inj (hread.symm.trans hclock))
    exact ignored_value hordered hinner hheld hnothing hrecord

end Settles

end FilledField

/-! ## The fields of the records -/

namespace Json

theorem field_of_required {members : Members} {key : String} {α : Type} {decode : Decoder α}
    {found : Option α} {data : α} (hfound : field? members key decode = .ok found)
    (hrequired : required key found = .ok data) (absent : α) :
    field members key decode absent = .ok data := by
  cases found with
  | none => exact absurd hrequired (by simp [required])
  | some read =>
    cases hrequired
    rw [field, hfound]
    rfl

theorem decodeInstant_usable {value : Json} {time : Instant} (h : decodeInstant value = .ok time) :
    KeyRules.isBlankValue value = false := by
  cases value with
  | int n => rfl
  | _ => exact absurd h (by simp [decodeInstant, wrongType])

theorem decodeSpelled_usable {α : Type} [Spelled α] [LawfulSpelled α] {value : Json} {given : α}
    (h : decodeSpelled value = .ok given) : KeyRules.isBlankValue value = false := by
  cases value with
  | string s =>
    rw [decodeSpelled, decodeSpelling] at h
    split at h
    · rename_i found hfound
      exact LawfulSpelled.spelling_not_blank found s (Spelled.ofSpelling?_eq_some_iff.mp hfound)
    · exact absurd h (by simp)
  | object members => rfl
  | _ => exact absurd h (by simp [decodeSpelled, wrongType])

end Json

/-- A key under which nothing is nested is read as if nothing were nested elsewhere. -/
theorem Schema.Orderly.field_keys {schema : Schema} {key : String} (h : schema.Orderly)
    (hnested : key ∉ Table.keys schema.nested) (now : Int) (members : Members) {α : Type}
    (decode : Json.Decoder α) (absent : α) :
    Json.field (schema.keys.normalize now members) key decode absent =
      Json.field (schema.normalize now members) key decode absent := by
  have hfind : Table.find? (schema.keys.flat.normalize now members) key =
      Table.find? (schema.normalize now members) key := by
    by_cases htime : key ∈ schema.keys.timestamps
    · rw [h.find?_time now members htime, h.keys.flat.find?_time now members htime]
      rfl
    · rw [h.find?_plain now members htime hnested,
        h.keys.flat.find?_plain now members htime List.not_mem_nil]
      rfl
  show Json.field (schema.keys.flat.normalize now members) key decode absent = _
  rw [Json.field, Json.field, Json.field?, Json.field?, hfind]

def Holder.whole (α : Type) [Record α] (h : (Record.schema α).Orderly) : Holder α where
  rules := (Record.schema α).keys
  inner? := some
  replace _ inner := inner
  orderly := h.keys
  sorted := by
    rintro members _ hordered ⟨⟩
    exact hordered.sorted
  normalize_replace := by
    rintro members _ other _ ⟨⟩ hsettle now
    rw [Schema.normalize, Schema.normalize, hsettle]

theorem Holder.reads_whole {α β : Type} [Record α] (h : (Record.schema α).Orderly) {key : String}
    (hnested : key ∉ Table.keys (Record.schema α).nested) {decode : Json.Decoder β}
    {absent : Instant → β} {get : α → β}
    (hread : ∀ members now, Ensures (fun record => Json.field members key decode (absent now) =
      .ok (get record)) (Record.ofMembers members))
    {now : Instant} {members inner : Members} {record : α}
    (hinner : (whole α h).inner? members = some inner)
    (hrecord : Record.ofObject now members = .ok record) :
    Json.field ((whole α h).rules.normalize now.millis inner) key decode (absent now) =
      .ok (get record) := by
  cases hinner
  exact (h.field_keys hnested now.millis members decode (absent now)).trans
    (hread _ now record hrecord)

namespace User

theorem filled_of_ofMembers (members : Members) (now : Instant) :
    Ensures (fun user : User =>
      Json.field members "accountType" Json.decodeSpelled AccountType.buyer = .ok user.accountType ∧
        Json.field members "registeredAt" Json.decodeInstant now = .ok user.registeredAt)
      (ofMembers members) := by
  unfold ofMembers
  refine ensures_bind fun _ haccount => ?_
  iterate 7 refine ensures_bind fun _ _ => ?_
  refine ensures_bind fun found hfound => ?_
  refine ensures_bind fun _ htime => ensures_pure ?_
  exact ⟨haccount, Json.field_of_required hfound htime now⟩

def holder : Holder User :=
  .whole User (RecordKind.schema_orderly .user)

def registration : FilledField holder Instant where
  old := "dateInscription"
  key := "registeredAt"
  decode := Json.decodeInstant
  absent now := now
  get := User.registeredAt
  filled := .inr ⟨by decide, Json.decodeInstant_millis⟩
  usable := Json.decodeInstant_usable
  reads := Holder.reads_whole _ (by decide) fun members now user huser =>
    (filled_of_ofMembers members now user huser).2

def account : FilledField holder AccountType where
  old := "typeCompte"
  key := "accountType"
  decode := Json.decodeSpelled
  absent _ := .buyer
  get := User.accountType
  filled := .inl (by decide)
  usable := Json.decodeSpelled_usable
  reads := Holder.reads_whole _ (by decide) fun members now user huser =>
    (filled_of_ofMembers members now user huser).1

end User

namespace Vehicle

theorem filled_of_ofMembers (members : Members) (now : Instant) :
    Ensures (fun vehicle : Vehicle =>
      Json.field members "publishedAt" Json.decodeInstant now = .ok vehicle.publishedAt ∧
        Json.field members "status" Json.decodeSpelled VehicleStatus.available =
          .ok vehicle.status)
      (ofMembers members) := by
  unfold ofMembers
  iterate 9 refine ensures_bind fun _ _ => ?_
  refine ensures_bind fun found hfound => ?_
  refine ensures_bind fun _ _ => ?_
  refine ensures_bind fun _ hstatus => ?_
  iterate 2 refine ensures_bind fun _ _ => ?_
  refine ensures_bind fun _ htime => ensures_pure ?_
  exact ⟨Json.field_of_required hfound htime now, hstatus⟩

def holder : Holder Vehicle :=
  .whole Vehicle (RecordKind.schema_orderly .vehicle)

def publication : FilledField holder Instant where
  old := "datePublication"
  key := "publishedAt"
  decode := Json.decodeInstant
  absent now := now
  get := Vehicle.publishedAt
  filled := .inr ⟨by decide, Json.decodeInstant_millis⟩
  usable := Json.decodeInstant_usable
  reads := Holder.reads_whole _ (by decide) fun members now vehicle hvehicle =>
    (filled_of_ofMembers members now vehicle hvehicle).1

def state : FilledField holder VehicleStatus where
  old := "statut"
  key := "status"
  decode := Json.decodeSpelled
  absent _ := .available
  get := Vehicle.status
  filled := .inl (by decide)
  usable := Json.decodeSpelled_usable
  reads := Holder.reads_whole _ (by decide) fun members now vehicle hvehicle =>
    (filled_of_ofMembers members now vehicle hvehicle).2

end Vehicle

namespace Listing

theorem filled_of_ofMembers (members : Members) :
    Ensures (fun listing : Listing =>
      Json.field members "status" Json.decodeSpelled ListingStatus.active = .ok listing.status ∧
        Json.field? members "vehicle" Vehicle.decode = .ok (some listing.vehicle))
      (ofMembers members) := by
  unfold ofMembers
  iterate 3 refine ensures_bind fun _ _ => ?_
  refine ensures_bind fun _ hstatus => ?_
  refine ensures_bind fun found hfound => ?_
  refine ensures_bind fun _ _ => ?_
  refine ensures_bind fun _ hvehicle => ensures_pure ?_
  cases found with
  | none => exact absurd hvehicle (by simp [Json.required])
  | some _ =>
    cases hvehicle
    exact ⟨hstatus, hfound⟩

def holder : Holder Listing :=
  .whole Listing (RecordKind.schema_orderly .listing)

def state : FilledField holder ListingStatus where
  old := "statut"
  key := "status"
  decode := Json.decodeSpelled
  absent _ := .active
  get := Listing.status
  filled := .inl (by decide)
  usable := Json.decodeSpelled_usable
  reads := Holder.reads_whole _ (by decide) fun members _ listing hlisting =>
    (filled_of_ofMembers members listing hlisting).1

def offer? (members : Members) : Option Members :=
  match schema.keys.given? members "vehicle" with
  | some (.object inner) => some inner
  | _ => none

def withOffer (members inner : Members) : Members :=
  KeyRules.respell members ("vehicule", "vehicle") (.object inner)

theorem given?_of_offer? {members inner : Members} (h : offer? members = some inner) :
    schema.keys.given? members "vehicle" = some (.object inner) := by
  unfold offer? at h
  split at h
  · rename_i given hgiven
    rw [hgiven, Option.some.inj h]
  · exact absurd h (by simp)

theorem sorted_of_offer? {members inner : Members} (hordered : Ordered (.object members))
    (h : offer? members = some inner) : Table.Sorted inner := by
  have horderly : schema.Orderly := RecordKind.schema_orderly .listing
  have hrule : ("vehicle", Vehicle.keyRules) ∈ schema.nested := List.mem_singleton_self _
  have hfind : Table.find? (schema.keys.renamed members) "vehicle" = some (.object inner) := by
    rw [← KeyRules.given?_eq_renamed horderly.keys.lawful (by decide) (by decide)]
    exact given?_of_offer? h
  have hvehicle : Ordered (.object inner) := horderly.ordered_nested hordered hrule hfind
  exact hvehicle.sorted

theorem normalize_withOffer {members inner other : Members} (hordered : Ordered (.object members))
    (hinner : offer? members = some inner)
    (hsettle : Vehicle.keyRules.settle other = Vehicle.keyRules.settle inner) (now : Int) :
    schema.normalize now (withOffer members other) = schema.normalize now members := by
  have horderly : schema.Orderly := RecordKind.schema_orderly .listing
  have hsorted := hordered.sorted
  have hothers : Table.Sorted (withOffer members other) := KeyRules.sorted_respell hsorted _ _
  refine (Schema.sorted_normalize hothers schema now).ext
    (Schema.sorted_normalize hsorted schema now) ?_
  intro key
  by_cases hvehicle : key = "vehicle"
  · have hnormal : Vehicle.keyRules.normalize now other = Vehicle.keyRules.normalize now inner := by
      rw [KeyRules.normalize, KeyRules.normalize, hsettle]
    have hgiven : schema.keys.given? (withOffer members other) "vehicle" =
        some (.object other) := by
      rw [KeyRules.given?, withOffer, KeyRules.respell, Table.find?_insert_self]
      rfl
    rw [hvehicle, find?_vehicle, find?_vehicle, hgiven, given?_of_offer? hinner, Option.map_some,
      Option.map_some, Schema.nestedValue, Schema.nestedValue, hnormal]
  · have hplain : key ∉ Table.keys schema.nested := fun hmem =>
      hvehicle (List.mem_singleton.mp hmem)
    have hrule : ("vehicule", "vehicle") ∈ schema.keys.renames := by decide
    have hgiven (hretired : key ∉ schema.keys.retired) :
        schema.keys.given? (withOffer members other) key = schema.keys.given? members key := by
      refine KeyRules.given?_of_apart horderly.keys.lawful hrule ?_ hretired hvehicle
      intro name hold hnew
      rw [withOffer, KeyRules.respell, Table.find?_insert_of_ne _ _ hnew,
        Table.find?_erase_of_ne _ hold]
    rw [horderly.find?_plain now _ List.not_mem_nil hplain,
      horderly.find?_plain now _ List.not_mem_nil hplain,
      KeyRules.find?_settle horderly.keys.lawful hothers,
      KeyRules.find?_settle horderly.keys.lawful hsorted]
    by_cases hretired : key ∈ schema.keys.retired
    · rw [if_pos hretired, if_pos hretired]
    · rw [if_neg hretired, if_neg hretired, hgiven hretired]

def offerHolder : Holder Listing where
  rules := Vehicle.keyRules
  inner? := offer?
  replace := withOffer
  orderly := by decide
  sorted := sorted_of_offer?
  normalize_replace := normalize_withOffer

theorem vehicle_of_ofObject {now : Instant} {members inner : Members} {listing : Listing}
    (hinner : offer? members = some inner) (h : Record.ofObject now members = .ok listing) :
    Record.ofObject now inner = .ok listing.vehicle := by
  have hfield := (filled_of_ofMembers _ listing h).2
  change Json.field? (schema.normalize now.millis members) _ _ = _ at hfield
  rw [Json.field?, find?_vehicle, given?_of_offer? hinner, Option.map_some,
    Schema.nestedValue] at hfield
  change Vehicle.ofMembers (Vehicle.schema.normalize now.millis inner) = .ok listing.vehicle
  rw [Vehicle.normalize_eq]
  simp only [Vehicle.decode_object] at hfield
  split at hfield
  · rename_i read hread
    rw [hread, Option.some.inj (Except.ok.inj hfield)]
  · exact absurd hfield (by simp)

/-- A field of a vehicle, as a field of the listing that offers the vehicle. -/
def offered {β : Type} (field : FilledField Vehicle.holder β) : FilledField offerHolder β where
  old := field.old
  key := field.key
  decode := field.decode
  absent := field.absent
  get listing := field.get listing.vehicle
  renamed := field.renamed
  only := field.only
  filled := field.filled
  usable := field.usable
  reads := by
    intro now members inner listing hinner hlisting
    have hwhole : Vehicle.holder.inner? inner = some inner := rfl
    exact field.reads hwhole (vehicle_of_ofObject hinner hlisting)

end Listing

/-! ## All of them -/

def KeyRules.fillingRenames (rules : KeyRules) : List (String × String) :=
  rules.renames.filter fun rule => rule.2 ∈ rules.blankable ++ rules.timestamps

/-- The fields of a kind that are filled in and have an older key. -/
def RecordKind.filled : RecordKind → List (String × String)
  | .user => [User.account.rule, User.registration.rule]
  | .vehicle => [Vehicle.state.rule, Vehicle.publication.rule]
  | .listing => [Listing.state.rule]
  | .message | .history => []

/-- Of every field that is filled in, in a record or in the vehicle of a listing, the older value is
carried where the canonical key is absent and ignored where it is there. There are no other such
fields. -/
theorem older_values_settle :
    (User.account.Settles ∧ User.registration.Settles) ∧
    (Vehicle.state.Settles ∧ Vehicle.publication.Settles) ∧ Listing.state.Settles ∧
    ((Listing.offered Vehicle.state).Settles ∧ (Listing.offered Vehicle.publication).Settles) ∧
    ∀ kind : RecordKind, kind.schema.keys.fillingRenames = kind.filled ∧
      ∀ rule ∈ kind.schema.nested, kind = .listing ∧ rule = ("vehicle", Vehicle.keyRules) := by
  refine ⟨⟨User.account.settles, User.registration.settles⟩,
    ⟨Vehicle.state.settles, Vehicle.publication.settles⟩, Listing.state.settles,
    ⟨(Listing.offered Vehicle.state).settles, (Listing.offered Vehicle.publication).settles⟩, ?_⟩
  intro kind
  cases kind <;> decide

/-- The older value of a field counts wherever the canonical key is absent or holds nothing. -/
def FilledField.Recovers {α β : Type} [Record α] {holder : Holder α}
    (field : FilledField holder β) : Prop :=
  ∀ members inner value given line clock record later, Ordered (.object members) →
    holder.inner? members = some inner →
    (∀ held, Table.find? inner field.key = some held →
      holder.rules.holdsNothing field.key held = true) →
    Table.find? inner field.old = some value → field.decode value = .ok given →
    Record.decodeValue line (.object members) clock = (.ok record, later) →
    field.get record = given

def hidingUser : Members :=
  [("accountType", .string ""), ("dateInscription", .int 1690000000000), ("id", .string "u1"),
    ("registeredAt", .null), ("typeCompte", .string "vendeur")]

set_option maxRecDepth 2000 in
theorem hidingUser_ordered : Ordered (.object hidingUser) := by
  have hread : Json.read ("\x7b\"id\":\"u1\",\"accountType\":\"\",\"typeCompte\":\"vendeur\"," ++
      "\"registeredAt\":null,\"dateInscription\":1690000000000\x7d") =
      .ok (.object hidingUser) := by rfl
  exact Json.read_ordered hread

/-- Neither the account nor the time of the user is what the older keys say. -/
theorem empty_key_hides_older_value :
    ¬ User.account.Recovers ∧ ¬ User.registration.Recovers := by
  have hdecoded : Record.decodeValue none (.object hidingUser) (.fixed .epoch) =
      (.ok { User.blank .epoch with id := ⟨"u1"⟩ }, .fixed .epoch) :=
    Prod.ext (by decide +kernel) (Record.decodeValue_fixed none _ _)
  constructor
  · intro hclaim
    have haccount := hclaim hidingUser hidingUser (.string "vendeur") .seller none _ _ _
      hidingUser_ordered rfl (by decide) rfl rfl hdecoded
    exact absurd haccount (by decide)
  · intro hclaim
    have htime := hclaim hidingUser hidingUser (.int 1690000000000)
      (.ofMillis 1690000000000) none _ _ _ hidingUser_ordered rfl (by decide) rfl rfl hdecoded
    exact absurd htime (by decide)

end VehicleMarket
