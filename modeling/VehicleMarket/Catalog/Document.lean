import VehicleMarket.Catalog.Basic

/-!
The document of a catalog: an object with a section for each kind of record. A section that is
absent or null is empty. The sections are read one after the other; all records of a section are
read before the first of them is inserted.
-/
namespace VehicleMarket.Catalog

def unreadable (fault : DecodeFault) : Failure :=
  .problem (.undecodable "snapshot" none fault)

def decodeItems {α : Type} [Record α] : List Json → Clock → Except Failure (List α) × Clock
  | [], clock => (.ok [], clock)
  | item :: rest, clock =>
    match Record.decodeValue none item clock with
    | (.error failure, clock) => (.error failure, clock)
    | (.ok record, clock) =>
      match decodeItems rest clock with
      | (.error failure, clock) => (.error failure, clock)
      | (.ok records, clock) => (.ok (record :: records), clock)

def decodeSection {α : Type} [Record α] (sections : Members) (name : String) (clock : Clock) :
    Except Failure (List α) × Clock :=
  match Table.find? sections name with
  | none | some .null => (.ok [], clock)
  | some (.array items) => decodeItems items clock
  | some _ => (.error (unreadable (.sectionNotList name)), clock)

/-- Inserts records one after the other; a catalog that does not take all of them is given up. -/
def insertAll {α : Type} (insert : Catalog → α → Except Problem Unit × Catalog)
    (catalog : Catalog) : List α → Except Problem Catalog
  | [] => .ok catalog
  | record :: rest =>
    match insert catalog record with
    | (.error problem, _) => .error problem
    | (.ok (), catalog) => insertAll insert catalog rest

def addSection {α : Type} [Record α] (insert : Catalog → α → Except Problem Unit × Catalog)
    (sections : Members) (name : String) (state : Except Failure Catalog × Clock) :
    Except Failure Catalog × Clock :=
  match state with
  | (.error failure, clock) => (.error failure, clock)
  | (.ok catalog, clock) =>
    match decodeSection sections name clock with
    | (.error failure, clock) => (.error failure, clock)
    | (.ok records, clock) =>
      match insertAll insert catalog records with
      | .error problem => (.error (.problem problem), clock)
      | .ok catalog => (.ok catalog, clock)

def ofSections (sections : Members) (clock : Clock) : Except Failure Catalog × Clock :=
  addSection insertHistory sections "histories" <|
  addSection insertMessage sections "messages" <|
  addSection insertListing sections "listings" <|
  addSection insertVehicle sections "vehicles" <|
  addSection insertUser sections "users" (.ok empty, clock)

def ofDocument (text : String) (clock : Clock) : Except Failure Catalog × Clock :=
  match Json.read text with
  | .error error => (.error (unreadable (.malformed error)), clock)
  | .ok (.object sections) => ofSections sections clock
  | .ok _ => (.error (unreadable .notObject), clock)

def toJson (catalog : Catalog) : Json :=
  .object
    [("users", .array ((Table.values catalog.users).map User.toJson)),
      ("vehicles", .array ((Table.values catalog.vehicles).map Vehicle.toJson)),
      ("listings", .array ((Table.values catalog.listings).map Listing.toJson)),
      ("messages", .array ((Table.values catalog.messages).map Message.toJson)),
      ("histories", .array ((Table.values catalog.histories).map VehicleHistory.toJson))]

def toDocument (catalog : Catalog) : String :=
  Json.pretty catalog.toJson

end VehicleMarket.Catalog
