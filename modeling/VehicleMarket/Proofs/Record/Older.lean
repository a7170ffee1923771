import Mathlib.Data.List.Forall2
import VehicleMarket.Proofs.Record.Form
import VehicleMarket.Proofs.Record.RoundTrip

/-!
Older and partial records. For each kind: the values that an object may give for a field besides the
one that is written, the record with defaults in place of omitted fields, and that an object which
stands for a record is read as just that.
-/
namespace VehicleMarket

open Json

def SpellingOf {α : Type} [Spelled α] (value : α) (json : Json) : Prop :=
  ∃ s ∈ Spelled.spellings value, json = .string s

namespace SpellingOf

variable {α : Type} [Spelled α] [LawfulSpelled α] {value : α} {json : Json}

theorem not_blank (h : SpellingOf value json) : KeyRules.isBlankValue json = false := by
  obtain ⟨s, hs, rfl⟩ := h
  exact LawfulSpelled.spelling_not_blank value s hs

theorem decode (h : SpellingOf value json) : decodeSpelled json = .ok value := by
  obtain ⟨s, hs, rfl⟩ := h
  exact decodeSpelled_spelling hs

end SpellingOf

theorem Identifier.mk_kept {kind : RecordKind} (omitted : Bool) (id : Identifier kind) :
    (⟨if omitted then "" else id.text⟩ : Identifier kind) = if omitted then .empty else id := by
  cases omitted <;> rfl

namespace User

def wording (user : User) : Wording where
  written := user.toJson.members
  others := [("accountType", SpellingOf user.accountType)]

def without (user : User) (omitted : String → Bool) (now : Instant) : User where
  id := if omitted "id" then .empty else user.id
  firstName := if omitted "firstName" then "" else user.firstName
  lastName := if omitted "lastName" then "" else user.lastName
  email := if omitted "email" then "" else user.email
  phone := if omitted "phone" then "" else user.phone
  accountType := if omitted "accountType" then .buyer else user.accountType
  profilePhotoUrl := if omitted "profilePhotoUrl" then "" else user.profilePhotoUrl
  city := if omitted "city" then "" else user.city
  registeredAt := if omitted "registeredAt" then now else user.registeredAt

theorem suits (user : User) : Suits schema user.wording where
  lawful := by decide
  nested := by decide
  apart := user.canonical.apart
  not_blank := by
    intro key hmem value hvalue
    obtain rfl : key = "accountType" := List.mem_singleton.mp hmem
    exact SpellingOf.not_blank hvalue

theorem ofMembers_older {user : User} {omitted : String → Bool} {members : Members}
    (h : StandsFor schema.keys user.wording omitted members) (now : Instant) :
    ofMembers (schema.normalize now.millis members) = .ok (user.without omitted now) := by
  have hs := user.suits
  unfold ofMembers
  refine bind_ok (h.respelled hs rfl rfl (by decide) fun _ => SpellingOf.decode) ?_
  refine bind_ok (h.written hs rfl rfl (by decide) (decodeString_string user.city)) ?_
  refine bind_ok (h.written hs rfl rfl (by decide) (decodeString_string user.email)) ?_
  refine bind_ok (h.written hs rfl rfl (by decide) (decodeString_string user.firstName)) ?_
  refine bind_ok (h.written hs rfl rfl (by decide) (decodeString_string user.id.text)) ?_
  refine bind_ok (h.written hs rfl rfl (by decide) (decodeString_string user.lastName)) ?_
  refine bind_ok (h.written hs rfl rfl (by decide) (decodeString_string user.phone)) ?_
  refine bind_ok (h.written hs rfl rfl (by decide) (decodeString_string user.profilePhotoUrl)) ?_
  refine bind_ok (h.timestamp hs rfl rfl (by decide)) ?_
  rw [Json.required, Identifier.mk_kept]
  rfl

end User

namespace Vehicle

def wording (vehicle : Vehicle) : Wording where
  written := vehicle.toJson.members
  others := [("status", SpellingOf vehicle.status)]

def without (vehicle : Vehicle) (omitted : String → Bool) (now : Instant) : Vehicle where
  id := if omitted "id" then .empty else vehicle.id
  make := if omitted "make" then "" else vehicle.make
  model := if omitted "model" then "" else vehicle.model
  year := if omitted "year" then 0 else vehicle.year
  mileage := if omitted "mileage" then 0 else vehicle.mileage
  price := if omitted "price" then .zero false else vehicle.price
  color := if omitted "color" then "" else vehicle.color
  fuelType := if omitted "fuelType" then "" else vehicle.fuelType
  transmission := if omitted "transmission" then "" else vehicle.transmission
  photoUrls := if omitted "photoUrls" then [] else vehicle.photoUrls
  description := if omitted "description" then "" else vehicle.description
  sellerId := if omitted "sellerId" then .empty else vehicle.sellerId
  status := if omitted "status" then .available else vehicle.status
  publishedAt := if omitted "publishedAt" then now else vehicle.publishedAt

theorem suits (vehicle : Vehicle) : Suits schema vehicle.wording where
  lawful := by decide
  nested := by decide
  apart := vehicle.canonical.apart
  not_blank := by
    intro key hmem value hvalue
    obtain rfl : key = "status" := List.mem_singleton.mp hmem
    exact SpellingOf.not_blank hvalue

theorem ofMembers_older {vehicle : Vehicle} {omitted : String → Bool} {members : Members}
    (h : StandsFor schema.keys vehicle.wording omitted members) (now : Instant) :
    ofMembers (schema.normalize now.millis members) = .ok (vehicle.without omitted now) := by
  have hs := vehicle.suits
  have hphotos : decodeList decodeString (Json.array (vehicle.photoUrls.map .string)).sorted =
      .ok vehicle.photoUrls := decodeList_map decodeString_string vehicle.photoUrls
  unfold ofMembers
  refine bind_ok (h.written hs rfl rfl (by decide) (decodeString_string vehicle.color)) ?_
  refine bind_ok (h.written hs rfl rfl (by decide) (decodeString_string vehicle.description)) ?_
  refine bind_ok (h.written hs rfl rfl (by decide) (decodeString_string vehicle.fuelType)) ?_
  refine bind_ok (h.written hs rfl rfl (by decide) (decodeString_string vehicle.id.text)) ?_
  refine bind_ok (h.written hs rfl rfl (by decide) (decodeString_string vehicle.make)) ?_
  refine bind_ok (h.written hs rfl rfl (by decide) (decodeCount_toNat vehicle.mileage)) ?_
  refine bind_ok (h.written hs rfl rfl (by decide) (decodeString_string vehicle.model)) ?_
  refine bind_ok (h.written hs rfl rfl (by decide) hphotos) ?_
  refine bind_ok (h.written hs rfl rfl (by decide) (decodeAmount_float vehicle.price)) ?_
  refine bind_ok (h.timestamp hs rfl rfl (by decide)) ?_
  refine bind_ok (h.written hs rfl rfl (by decide) (decodeString_string vehicle.sellerId.text)) ?_
  refine bind_ok (h.respelled hs rfl rfl (by decide) fun _ => SpellingOf.decode) ?_
  refine bind_ok (h.written hs rfl rfl (by decide) (decodeString_string vehicle.transmission)) ?_
  refine bind_ok (h.written hs rfl rfl (by decide) (decodeYear_toInt vehicle.year)) ?_
  rw [Json.required, Identifier.mk_kept, Identifier.mk_kept]
  rfl

/-- A vehicle inside a listing is brought into shape as one on its own. -/
theorem normalize_eq (now : Int) (members : Members) :
    schema.normalize now members = keyRules.normalize now members := by
  simp only [Schema.normalize, KeyRules.normalize, schema, List.foldl_nil]

theorem decode_object (members : Members) : decode (.object members) = ofMembers members := rfl

end Vehicle

namespace Listing

/-- An object that stands for the vehicle of a listing. -/
def GivesVehicle (listing : Listing) (inside : String → Bool) (value : Json) : Prop :=
  ∃ inner, value = .object inner ∧
    StandsFor Vehicle.keyRules listing.vehicle.wording inside inner

/-- Fields of the vehicle may be left out too: inside says which. -/
def wording (listing : Listing) (inside : String → Bool) : Wording where
  written := listing.toJson.members
  others :=
    [("vehicle", listing.GivesVehicle inside), ("status", SpellingOf listing.status)]

def without (listing : Listing) (omitted inside : String → Bool) (now : Instant) : Listing where
  id := if omitted "id" then .empty else listing.id
  vehicle := listing.vehicle.without inside now
  sellerId := if omitted "sellerId" then .empty else listing.sellerId
  viewCount := if omitted "viewCount" then 0 else listing.viewCount
  favoriteCount := if omitted "favoriteCount" then 0 else listing.favoriteCount
  status := if omitted "status" then .active else listing.status

theorem suits (listing : Listing) (inside : String → Bool) :
    Suits schema (listing.wording inside) where
  lawful := by decide
  nested := by decide
  apart := listing.canonical.apart
  not_blank := by
    intro key hmem value hvalue
    obtain rfl : key = "status" := List.mem_singleton.mp hmem
    exact SpellingOf.not_blank hvalue

theorem vehicle_older {listing : Listing} {omitted inside : String → Bool} {members : Members}
    (h : StandsFor schema.keys (listing.wording inside) omitted members)
    (hgiven : omitted "vehicle" = false) (now : Instant) :
    Json.field? (schema.normalize now.millis members) "vehicle" Vehicle.decode =
      .ok (some (listing.vehicle.without inside now)) := by
  have hrules : Table.find? schema.nested "vehicle" = some Vehicle.keyRules ∧
      "vehicle" ∉ schema.keys.timestamps := by decide
  obtain ⟨value, hadmits, hfind⟩ :=
    h.nested (listing.suits inside) rfl hgiven hrules now.millis
  obtain ⟨inner, rfl, hinner⟩ := hadmits
  have hdecode : Vehicle.decode (Schema.nestedValue Vehicle.keyRules now.millis (.object inner)) =
      .ok (listing.vehicle.without inside now) := by
    rw [Schema.nestedValue, Vehicle.decode_object, ← Vehicle.normalize_eq]
    exact Vehicle.ofMembers_older hinner now
  rw [Json.field?, hfind]
  simp only [hdecode]

theorem ofMembers_older {listing : Listing} {omitted inside : String → Bool} {members : Members}
    (h : StandsFor schema.keys (listing.wording inside) omitted members)
    (hgiven : omitted "vehicle" = false) (now : Instant) :
    ofMembers (schema.normalize now.millis members) =
      .ok (listing.without omitted inside now) := by
  have hs := listing.suits inside
  unfold ofMembers
  refine bind_ok (h.written hs rfl rfl (by decide) (decodeCount_toNat listing.favoriteCount)) ?_
  refine bind_ok (h.written hs rfl rfl (by decide) (decodeString_string listing.id.text)) ?_
  refine bind_ok (h.written hs rfl rfl (by decide) (decodeString_string listing.sellerId.text)) ?_
  refine bind_ok (h.respelled hs rfl rfl (by decide) fun _ => SpellingOf.decode) ?_
  refine bind_ok (vehicle_older h hgiven now) ?_
  refine bind_ok (h.written hs rfl rfl (by decide) (decodeCount_toNat listing.viewCount)) ?_
  rw [Json.required, Identifier.mk_kept, Identifier.mk_kept]
  rfl

end Listing

namespace Message

def wording (message : Message) : Wording where
  written := message.toJson.members
  others := []

def without (message : Message) (omitted : String → Bool) (now : Instant) : Message where
  id := if omitted "id" then .empty else message.id
  senderId := if omitted "senderId" then .empty else message.senderId
  recipientId := if omitted "recipientId" then .empty else message.recipientId
  listingId := if omitted "listingId" then .empty else message.listingId
  content := if omitted "content" then "" else message.content
  timestamp := if omitted "timestamp" then now else message.timestamp
  read := if omitted "read" then false else message.read

theorem suits (message : Message) : Suits schema message.wording where
  lawful := by decide
  nested := by decide
  apart := message.canonical.apart
  not_blank := fun _ hmem => absurd hmem List.not_mem_nil

theorem ofMembers_older {message : Message} {omitted : String → Bool} {members : Members}
    (h : StandsFor schema.keys message.wording omitted members) (now : Instant) :
    ofMembers (schema.normalize now.millis members) = .ok (message.without omitted now) := by
  have hs := message.suits
  unfold ofMembers
  refine bind_ok (h.written hs rfl rfl (by decide) (decodeString_string message.content)) ?_
  refine bind_ok (h.written hs rfl rfl (by decide) (decodeString_string message.id.text)) ?_
  refine bind_ok (h.written hs rfl rfl (by decide) (decodeString_string message.listingId.text)) ?_
  refine bind_ok (h.written hs rfl rfl (by decide) (decodeBool_bool message.read)) ?_
  refine bind_ok
    (h.written hs rfl rfl (by decide) (decodeString_string message.recipientId.text)) ?_
  refine bind_ok (h.written hs rfl rfl (by decide) (decodeString_string message.senderId.text)) ?_
  refine bind_ok (h.timestamp hs rfl rfl (by decide)) ?_
  rw [Json.required]
  simp only [Identifier.mk_kept]
  rfl

end Message

namespace Accident

def schema : Schema where
  kind := .history
  keys := { renames := [], references := [], blankable := [], timestamps := [] }
  nested := []

def wording (accident : Accident) : Wording where
  written := accident.toJson.members
  others := [("severity", SpellingOf accident.severity)]

theorem suits (accident : Accident) : Suits schema accident.wording where
  lawful := by decide
  nested := by decide
  apart := fun _ _ => List.not_mem_nil
  not_blank := fun _ hmem => absurd hmem List.not_mem_nil

/-- An object with all fields of an accident, its severity in any spelling. -/
def Respelled (accident : Accident) (value : Json) : Prop :=
  ∃ members, value = .object members ∧
    StandsFor schema.keys accident.wording (fun _ => false) members

theorem Respelled.decode {accident : Accident} {value : Json} (h : accident.Respelled value) :
    Accident.decode value = .ok accident := by
  obtain ⟨members, rfl, h⟩ := h
  have hs := accident.suits
  have hmembers : ofMembers (schema.normalize 0 members) = .ok accident := by
    unfold ofMembers
    refine bind_ok ((h.plain hs rfl 0 (by decide)).field?
      (Wording.decode_written rfl rfl (decodeInstant_millis accident.date))) ?_
    refine bind_ok (h.written hs rfl rfl (by decide) (decodeString_string accident.description)) ?_
    refine bind_ok (h.written hs rfl rfl (by decide) accident.decodeInstant?_repairedAtJson) ?_
    refine bind_ok (h.respelled hs rfl rfl (by decide) fun _ => SpellingOf.decode) ?_
    rfl
  exact hmembers

end Accident

namespace VehicleHistory

def GivesAccidents (history : VehicleHistory) (value : Json) : Prop :=
  ∃ items, value = .array items ∧ List.Forall₂ Accident.Respelled history.accidents items

def wording (history : VehicleHistory) : Wording where
  written := history.toJson.members
  others := [("accidents", history.GivesAccidents)]

def without (history : VehicleHistory) (omitted : String → Bool) : VehicleHistory where
  vehicleId := if omitted "vehicleId" then .empty else history.vehicleId
  maintenance := if omitted "maintenance" then [] else history.maintenance
  repairs := if omitted "repairs" then [] else history.repairs
  accidents := if omitted "accidents" then [] else history.accidents

theorem suits (history : VehicleHistory) : Suits schema history.wording where
  lawful := by decide
  nested := by decide
  apart := history.canonical.apart
  not_blank := fun _ hmem => absurd hmem List.not_mem_nil

theorem GivesAccidents.decode {history : VehicleHistory} {value : Json}
    (h : history.GivesAccidents value) :
    decodeList Accident.decode value = .ok history.accidents := by
  obtain ⟨items, rfl, hitems⟩ := h
  have hall : decodeAll Accident.decode items = .ok history.accidents := by
    generalize history.accidents = accidents at hitems
    induction hitems with
    | nil => rfl
    | cons hfirst _ ih => rw [decodeAll, hfirst.decode, ih]
  rw [decodeList, hall]

theorem ofMembers_older {history : VehicleHistory} {omitted : String → Bool} {members : Members}
    (h : StandsFor schema.keys history.wording omitted members) (now : Instant) :
    ofMembers (schema.normalize now.millis members) = .ok (history.without omitted) := by
  have hs := history.suits
  have hmaintenance := decodeList_map MaintenanceEvent.decode_sorted history.maintenance
  have hrepairs := decodeList_map Repair.decode_sorted history.repairs
  unfold ofMembers
  refine bind_ok (h.respelled hs rfl rfl (by decide) fun _ => GivesAccidents.decode) ?_
  refine bind_ok (h.written hs rfl rfl (by decide) hmaintenance) ?_
  refine bind_ok (h.written hs rfl rfl (by decide) hrepairs) ?_
  refine bind_ok (h.written hs rfl rfl (by decide) (decodeString_string history.vehicleId.text)) ?_
  rw [Identifier.mk_kept]
  rfl

end VehicleHistory

namespace Record

section Value

variable {α : Type} [Record α]

/-- A value is read as a record, on its own and out of every text of it, with one reading of the
clock. -/
def IsReadAs (value : Json) (record : α) (clock later : Clock) : Prop :=
  decodeValue none value clock = (.ok record, later) ∧
    ∀ text, Json.read text = .ok value → decode text clock = (.ok record, later)

theorem isReadAs {members : Members} {record : α} {clock later : Clock} {now : Instant}
    (hclock : clock.read? = some (now, later)) (hmembers : ofObject now members = .ok record) :
    IsReadAs (.object members) record clock later := by
  have hvalue : decodeValue none (.object members) clock = (.ok record, later) := by
    simp only [decodeValue, hclock, hmembers]
  exact ⟨hvalue, fun _ hread => decodeAt_of_read hread hvalue⟩

end Value

/-- Whatever mixture of forms an object gives the fields of a record in, it is read as the record;
each omitted field has its default, and each omitted timestamp the one time of reading. Of a
listing only the vehicle has to be there, and its own fields may be omitted. -/
theorem older_objects_decode {clock later : Clock} {now : Instant}
    (hclock : clock.read? = some (now, later)) :
    (∀ (user : User) (omitted : String → Bool) (members : Members),
      StandsFor User.schema.keys user.wording omitted members →
      IsReadAs (.object members) (user.without omitted now) clock later) ∧
    (∀ (vehicle : Vehicle) (omitted : String → Bool) (members : Members),
      StandsFor Vehicle.schema.keys vehicle.wording omitted members →
      IsReadAs (.object members) (vehicle.without omitted now) clock later) ∧
    (∀ (listing : Listing) (omitted inside : String → Bool) (members : Members),
      StandsFor Listing.schema.keys (listing.wording inside) omitted members →
      omitted "vehicle" = false →
      IsReadAs (.object members) (listing.without omitted inside now) clock later) ∧
    (∀ (message : Message) (omitted : String → Bool) (members : Members),
      StandsFor Message.schema.keys message.wording omitted members →
      IsReadAs (.object members) (message.without omitted now) clock later) ∧
    (∀ (history : VehicleHistory) (omitted : String → Bool) (members : Members),
      StandsFor VehicleHistory.schema.keys history.wording omitted members →
      IsReadAs (.object members) (history.without omitted) clock later) := by
  refine ⟨?_, ?_, ?_, ?_, ?_⟩
  · intro user omitted members h
    exact isReadAs hclock (User.ofMembers_older h now)
  · intro vehicle omitted members h
    exact isReadAs hclock (Vehicle.ofMembers_older h now)
  · intro listing omitted inside members h hgiven
    exact isReadAs hclock (Listing.ofMembers_older h hgiven now)
  · intro message omitted members h
    exact isReadAs hclock (Message.ofMembers_older h now)
  · intro history omitted members h
    exact isReadAs hclock (VehicleHistory.ofMembers_older h now)

def olderVehicle : Members :=
  [("id", .string "v1"), ("photosUrls", .array [.string "b", .string "a"]),
    ("prix", .float sampleAmount), ("statut", .string "disponible")]

/-- A listing in older words, with its seller embedded and with no count of favourites. -/
def olderListing : Members :=
  [("id", .string "l1"), ("nbVues", .int 0), ("statut", .string "vendue"),
    ("vehicule", .object olderVehicle),
    ("vendeur", .object [("id", .string "u1"), ("ville", .string "Béziers")])]

def notInOlderVehicle (key : String) : Bool :=
  key ∉ ["id", "photoUrls", "price", "status"]

theorem olderVehicle_stands :
    StandsFor Vehicle.keyRules sampleVehicle.wording notInOlderVehicle olderVehicle where
  sorted := by
    unfold Table.Sorted
    decide
  forms := by
    have hstatus : SpellingOf VehicleStatus.available (.string "disponible") :=
      ⟨"disponible", by decide, rfl⟩
    simp only [Vehicle.wording, Vehicle.toJson, Json.members, Table.keys, List.map_cons,
      List.map_nil, List.forall_mem_cons]
    exact ⟨.canonical rfl rfl, .omitted (by decide), .omitted (by decide), .omitted (by decide),
      .omitted (by decide), .older "prix" (by decide) (by decide) rfl rfl, .omitted (by decide),
      .omitted (by decide), .omitted (by decide),
      .older "photosUrls" (by decide) (by decide) rfl rfl, .omitted (by decide),
      .omitted (by decide), .older "statut" (by decide) (by decide) rfl hstatus,
      .omitted (by decide), fun _ hmem => absurd hmem List.not_mem_nil⟩

theorem olderListing_stands :
    StandsFor Listing.schema.keys
      (Listing.wording { sampleListing with status := .sold } notInOlderVehicle)
      (fun key => key = "favoriteCount") olderListing where
  sorted := by
    unfold Table.Sorted
    decide
  forms := by
    have hstatus : SpellingOf ListingStatus.sold (.string "vendue") :=
      ⟨"vendue", by decide, rfl⟩
    simp only [Listing.wording, Listing.toJson, Json.members, Table.keys, List.map_cons,
      List.map_nil, List.forall_mem_cons]
    exact ⟨.canonical rfl rfl,
      .older "vehicule" (by decide) (by decide) rfl ⟨_, rfl, olderVehicle_stands⟩,
      .embedded "vendeur" (by decide) (by decide) rfl (.record rfl) rfl,
      .older "nbVues" (by decide) (by decide) rfl rfl, .omitted (by decide),
      .older "statut" (by decide) (by decide) rfl hstatus,
      fun _ hmem => absurd hmem List.not_mem_nil⟩

theorem older_listing_decodes :
    IsReadAs (.object olderListing)
      { sampleListing with
        status := .sold
        vehicle := { sampleVehicle with publishedAt := ⟨5, by decide⟩ } }
      (.stepping ⟨5999999, by decide⟩ 1000) (.stepping ⟨6000999, by decide⟩ 1000) := by
  have hclock : (Clock.stepping ⟨5999999, by decide⟩ 1000).read? =
      some (⟨5, by decide⟩, .stepping ⟨6000999, by decide⟩ 1000) := by
    rw [Clock.read?_stepping]
    rfl
  obtain ⟨_, _, hlisting, _, _⟩ := older_objects_decode hclock
  exact hlisting _ _ _ olderListing olderListing_stands (by decide)

end Record

end VehicleMarket
