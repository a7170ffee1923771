import Mathlib.Data.List.Forall2
import VehicleMarket.Catalog.Sheets
import VehicleMarket.Proofs.Catalog.Attainable
import VehicleMarket.Proofs.Csv.Reader
import VehicleMarket.Proofs.Decimal.Amount
import VehicleMarket.Proofs.Time.Calendar

/-!
What the sheets of a catalog show to a reader of comma-separated values. A sheet has columns, each a
name and the texts that show a field; what is read back of it has a line of the names and a line of
texts for each record, in the order in which the catalog keeps them. The sheets of users and of
messages show every field, and no two values of a field by one text, so that they determine the
records. A price is shown to the nearest hundredth only.
-/
namespace VehicleMarket

/-- A column of a sheet: its name, and which texts show the field of a record. -/
structure Column (α : Type) where
  name : String
  shows : α → String → Prop

def Column.plain {α : Type} (name : String) (text : α → String) : Column α :=
  ⟨name, fun record cell => cell = text record⟩

/-- A line with a cell to each column that shows the field of a record. -/
def Shown {α : Type} (columns : List (Column α)) (record : α) (cells : List String) : Prop :=
  List.Forall₂ (fun column cell => column.shows record cell) columns cells

/-- A text that is read as the names of columns, and then a line for each record in turn. -/
def SheetOf {α : Type} (columns : List (Column α)) (records : List α) (text : String) : Prop :=
  ∃ lines, Csv.read text = some (columns.map Column.name :: lines) ∧
    List.Forall₂ (Shown columns) records lines

theorem sheetOf_render {α : Type} {columns : List (Column α)} {row : α → List String}
    (hcolumns : columns ≠ []) (hrow : ∀ record, Shown columns record (row record))
    (records : List α) :
    SheetOf columns records (Csv.render (columns.map Column.name :: records.map row)) := by
  refine ⟨records.map row, Csv.read_render ?_, ?_⟩
  · rintro cells hmem rfl
    rcases List.mem_cons.mp hmem with hnames | hmem
    · exact hcolumns (List.map_eq_nil_iff.mp hnames.symm)
    · obtain ⟨record, -, hnone⟩ := List.mem_map.mp hmem
      have hlength := (hrow record).length_eq
      rw [hnone] at hlength
      exact hcolumns (List.length_eq_zero_iff.mp hlength)
  · exact List.forall₂_map_right_iff.mpr (List.forall₂_same.mpr fun record _ => hrow record)

theorem SheetOf.unique {α : Type} {columns : List (Column α)} {records others : List α}
    {text : String} (hunique : Relator.LeftUnique (Shown columns))
    (h : SheetOf columns records text) (hothers : SheetOf columns others text) :
    records = others := by
  obtain ⟨lines, hread, hlines⟩ := h
  obtain ⟨lines', hread', hlines'⟩ := hothers
  rw [hread] at hread'
  obtain rfl := (List.cons.inj (Option.some.inj hread')).2
  exact List.left_unique_forall₂' hunique hlines hlines'

/-- A title: make and model without white space around them, and the year if there is one. -/
def IsTitle (vehicle : Vehicle) (text : String) : Prop :=
  ∃ name, Text.Trimmed (vehicle.make ++ " " ++ vehicle.model).toList name ∧
    text.toList = if 0 < vehicle.year.toInt then
      name ++ " (".toList ++ (toString vehicle.year.toInt).toList ++ ")".toList else name

theorem isTitle_title (vehicle : Vehicle) : IsTitle vehicle vehicle.title := by
  refine ⟨_, Text.trimmed_trimChars _, ?_⟩
  simp only [Vehicle.title, Text.trim]
  split
  · simp only [String.toList_append, String.toList_ofList]
  · rw [String.toList_ofList]

namespace Catalog

def userColumns : List (Column User) :=
  [.plain "id" fun user => user.id.text, .plain "firstName" User.firstName,
    .plain "lastName" User.lastName, .plain "email" User.email, .plain "phone" User.phone,
    .plain "accountType" fun user => Spelled.name user.accountType,
    .plain "profilePhotoUrl" User.profilePhotoUrl, .plain "city" User.city,
    ⟨"registeredAt", fun user => Calendar.IsTimestamp user.registeredAt⟩]

def vehicleColumns : List (Column Vehicle) :=
  [.plain "id" fun vehicle => vehicle.id.text, .plain "make" Vehicle.make,
    .plain "model" Vehicle.model, .plain "year" fun vehicle => toString vehicle.year.toInt,
    .plain "mileage" fun vehicle => toString vehicle.mileage.toNat,
    ⟨"price", fun vehicle => IsAmount vehicle.price⟩, .plain "color" Vehicle.color,
    .plain "fuelType" Vehicle.fuelType, .plain "transmission" Vehicle.transmission,
    .plain "photoUrls" fun vehicle => "|".intercalate vehicle.photoUrls,
    .plain "description" Vehicle.description,
    .plain "sellerId" fun vehicle => vehicle.sellerId.text,
    .plain "status" fun vehicle => Spelled.name vehicle.status,
    ⟨"publishedAt", fun vehicle => Calendar.IsTimestamp vehicle.publishedAt⟩]

def listingColumns : List (Column Listing) :=
  [.plain "id" fun listing => listing.id.text,
    .plain "vehicleId" fun listing => listing.vehicle.id.text,
    .plain "sellerId" fun listing => listing.sellerId.text,
    ⟨"title", fun listing => IsTitle listing.vehicle⟩,
    ⟨"price", fun listing => IsAmount listing.vehicle.price⟩,
    .plain "viewCount" fun listing => toString listing.viewCount.toNat,
    .plain "favoriteCount" fun listing => toString listing.favoriteCount.toNat,
    .plain "status" fun listing => Spelled.name listing.status]

def messageColumns : List (Column Message) :=
  [.plain "id" fun message => message.id.text,
    .plain "senderId" fun message => message.senderId.text,
    .plain "recipientId" fun message => message.recipientId.text,
    .plain "listingId" fun message => message.listingId.text, .plain "content" Message.content,
    ⟨"timestamp", fun message => Calendar.IsTimestamp message.timestamp⟩,
    .plain "read" fun message => toString message.read]

/-! ## Reading sheets -/

theorem shown_userRow (user : User) : Shown userColumns user (userRow user) := by
  simp [Shown, userColumns, userRow, Column.plain, Calendar.isTimestamp_timestamp]

theorem shown_vehicleRow (vehicle : Vehicle) :
    Shown vehicleColumns vehicle (vehicleRow vehicle) := by
  simp [Shown, vehicleColumns, vehicleRow, Column.plain, Calendar.isTimestamp_timestamp,
    isAmount_amountSpelling, amount, count, photoCell]

theorem shown_listingRow (listing : Listing) :
    Shown listingColumns listing (listingRow listing) := by
  simp [Shown, listingColumns, listingRow, Column.plain, isTitle_title, isAmount_amountSpelling,
    amount, count]

theorem shown_messageRow (message : Message) :
    Shown messageColumns message (messageRow message) := by
  have hread : (if message.read then "true" else "false") = toString message.read := by
    cases message.read <;> rfl
  simp [Shown, messageColumns, messageRow, Column.plain, Calendar.isTimestamp_timestamp, hread]

theorem sheetOf_usersCsv (catalog : Catalog) :
    SheetOf userColumns (Table.values catalog.users) catalog.usersCsv :=
  sheetOf_render (List.cons_ne_nil _ _) shown_userRow _

theorem sheetOf_vehiclesCsv (catalog : Catalog) :
    SheetOf vehicleColumns catalog.allVehicles catalog.vehiclesCsv :=
  sheetOf_render (List.cons_ne_nil _ _) shown_vehicleRow _

theorem sheetOf_listingsCsv (catalog : Catalog) :
    SheetOf listingColumns (Table.values catalog.listings) catalog.listingsCsv :=
  sheetOf_render (List.cons_ne_nil _ _) shown_listingRow _

theorem sheetOf_messagesCsv (catalog : Catalog) :
    SheetOf messageColumns (Table.values catalog.messages) catalog.messagesCsv :=
  sheetOf_render (List.cons_ne_nil _ _) shown_messageRow _

/-! ## Records from their lines -/

theorem accountType_name_injective : ∀ a b : AccountType,
    Spelled.name a = Spelled.name b → a = b := by
  intro a b h
  cases a <;> cases b <;> first | rfl | exact absurd h (by decide)

theorem shown_userColumns_iff {user : User} {cells : List String} :
    Shown userColumns user cells ↔ ∃ time, Calendar.IsTimestamp user.registeredAt time ∧
      cells = [user.id.text, user.firstName, user.lastName, user.email, user.phone,
        Spelled.name user.accountType, user.profilePhotoUrl, user.city, time] := by
  simp [Shown, userColumns, Column.plain, List.forall₂_cons_left_iff]

theorem shown_messageColumns_iff {message : Message} {cells : List String} :
    Shown messageColumns message cells ↔ ∃ time, Calendar.IsTimestamp message.timestamp time ∧
      cells = [message.id.text, message.senderId.text, message.recipientId.text,
        message.listingId.text, message.content, time, toString message.read] := by
  simp [Shown, messageColumns, Column.plain, List.forall₂_cons_left_iff]

theorem leftUnique_shown_user : Relator.LeftUnique (Shown userColumns) := by
  intro a b cells ha hb
  obtain ⟨time, htime, rfl⟩ := shown_userColumns_iff.mp ha
  obtain ⟨time', htime', hcells⟩ := shown_userColumns_iff.mp hb
  obtain ⟨⟨id⟩, first, last, email, phone, account, photo, city, registered⟩ := a
  obtain ⟨⟨id'⟩, first', last', email', phone', account', photo', city', registered'⟩ := b
  simp only [List.cons.injEq, and_true] at hcells
  obtain ⟨rfl, rfl, rfl, rfl, rfl, haccount, rfl, rfl, rfl⟩ := hcells
  obtain rfl := accountType_name_injective _ _ haccount
  obtain rfl := htime.unique htime'
  rfl

theorem leftUnique_shown_message : Relator.LeftUnique (Shown messageColumns) := by
  intro a b cells ha hb
  obtain ⟨time, htime, rfl⟩ := shown_messageColumns_iff.mp ha
  obtain ⟨time', htime', hcells⟩ := shown_messageColumns_iff.mp hb
  obtain ⟨⟨id⟩, ⟨sender⟩, ⟨recipient⟩, ⟨listing⟩, content, sent, read⟩ := a
  obtain ⟨⟨id'⟩, ⟨sender'⟩, ⟨recipient'⟩, ⟨listing'⟩, content', sent', read'⟩ := b
  simp only [List.cons.injEq, and_true] at hcells
  obtain ⟨rfl, rfl, rfl, rfl, rfl, rfl, hread⟩ := hcells
  obtain rfl := htime.unique htime'
  obtain rfl : read = read' := by
    cases read <;> cases read' <;> first | rfl | exact absurd hread (by decide)
  rfl

/-! ## The sheets of a catalog -/

/-- What the sheets of a catalog are read as, and what they tell of it. -/
structure FaithfulSheets (catalog : Catalog) : Prop where
  users : SheetOf userColumns (Table.values catalog.users) catalog.usersCsv
  vehicles : SheetOf vehicleColumns
    (Table.values catalog.vehicles ++ (Table.values catalog.listings).map Listing.vehicle)
    catalog.vehiclesCsv
  listings : SheetOf listingColumns (Table.values catalog.listings) catalog.listingsCsv
  messages : SheetOf messageColumns (Table.values catalog.messages) catalog.messagesCsv
  users_ordered : (Table.values catalog.users).Pairwise fun a b => a.id < b.id
  vehicles_ordered : (Table.values catalog.vehicles).Pairwise fun a b => a.id < b.id
  /-- Listings are in the order of what they are kept under, whatever they are named. -/
  listings_ordered : (Table.keys catalog.listings).Pairwise (· < ·)
  listings_named : (∀ entry ∈ catalog.listings, entry.2.id = entry.1) →
    (Table.values catalog.listings).Pairwise fun a b => a.id < b.id
  messages_ordered : (Table.values catalog.messages).Pairwise fun a b => a.id < b.id
  users_told : ∀ other, Attainable other → other.usersCsv = catalog.usersCsv →
    other.users = catalog.users
  messages_told : ∀ other, Attainable other → other.messagesCsv = catalog.messagesCsv →
    other.messages = catalog.messages

theorem listings_by_name {catalog : Catalog} (h : Table.Sorted catalog.listings)
    (hown : ∀ entry ∈ catalog.listings, entry.2.id = entry.1) :
    (Table.values catalog.listings).Pairwise fun a b => a.id < b.id := by
  refine List.pairwise_map.mpr (h.imp_of_mem ?_)
  intro a b ha hb hlt
  rwa [hown a ha, hown b hb]

theorem values_of_usersCsv {catalog other : Catalog} (h : other.usersCsv = catalog.usersCsv) :
    Table.values other.users = Table.values catalog.users := by
  have hother := sheetOf_usersCsv other
  rw [h] at hother
  exact hother.unique leftUnique_shown_user (sheetOf_usersCsv catalog)

theorem values_of_messagesCsv {catalog other : Catalog}
    (h : other.messagesCsv = catalog.messagesCsv) :
    Table.values other.messages = Table.values catalog.messages := by
  have hother := sheetOf_messagesCsv other
  rw [h] at hother
  exact hother.unique leftUnique_shown_message (sheetOf_messagesCsv catalog)

theorem sheets_show_records {catalog : Catalog} (h : Attainable catalog) :
    FaithfulSheets catalog ∧
      ∀ a b : Instant, Calendar.timestamp a = Calendar.timestamp b → a = b := by
  have hfiled := h.filed
  refine ⟨?_, fun a b heq => Calendar.timestamp_injective heq⟩
  exact
    { users := sheetOf_usersCsv catalog
      vehicles := sheetOf_vehiclesCsv catalog
      listings := sheetOf_listingsCsv catalog
      messages := sheetOf_messagesCsv catalog
      users_ordered := List.pairwise_map.mp hfiled.users.ids_increase
      vehicles_ordered := List.pairwise_map.mp hfiled.vehicles.ids_increase
      listings_ordered := (Table.sorted_iff_keys _).mp hfiled.listings
      listings_named := listings_by_name hfiled.listings
      messages_ordered := List.pairwise_map.mp hfiled.messages.ids_increase
      users_told := fun other hother heq =>
        hother.filed.users.eq_of_values hfiled.users (values_of_usersCsv heq)
      messages_told := fun other hother heq =>
        hother.filed.messages.eq_of_values hfiled.messages (values_of_messagesCsv heq) }

def unrulyOperations : List Operation :=
  [.insertUser { User.create ⟨"u\r\n2"⟩ "Ann, \"A\"" "" .seller .epoch with
      registeredAt := ⟨-62198755200000, by decide⟩ },
    .insertUser (.create ⟨"u1"⟩ "," "\n" .buyer .epoch),
    .insertListing (.create ⟨"l1"⟩ (.create ⟨"v1"⟩ ⟨"u1"⟩ " Kia" "Rio\n" .epoch) ⟨"u1"⟩),
    .insertListing (.create ⟨"l2"⟩ (.create ⟨"v2"⟩ ⟨"u1"⟩ "" "" .epoch) ⟨"u1"⟩)]

def unrulyMarket : Catalog :=
  ((empty.run unrulyOperations).changeListing ⟨"l1"⟩ fun listing =>
    .ok { listing with id := ⟨"l3"⟩ }).2

theorem attainable_unrulyMarket : Attainable unrulyMarket :=
  (Attainable.empty.run unrulyOperations).changedListing ⟨"l1"⟩ _

theorem unruly_sheets :
    (Table.values unrulyMarket.users).map (fun user => user.id.text) = ["u\r\n2", "u1"] ∧
      (Table.values unrulyMarket.listings).map (fun listing => listing.id.text) = ["l3", "l2"] ∧
      FaithfulSheets unrulyMarket :=
  ⟨by decide, by decide, (sheets_show_records attainable_unrulyMarket).1⟩

def marketAt (price : Binary64) : Catalog :=
  empty.run [.insertVehicle { Vehicle.create ⟨"v1"⟩ ⟨"u1"⟩ "Kia" "Rio" .epoch with price }]

/-- A price of an eighth is shown as twelve hundredths, and so is that price itself. Listings are
shown in the order of what they are kept under, also when they are named otherwise. -/
theorem eighth_shown_as_hundredths :
    Csv.read (marketAt (.ofRatio false 1 8)).vehiclesCsv =
      some [vehicleHeader, ["v1", "Kia", "Rio", "0", "0", "0.12", "", "", "", "", "", "u1",
        "available", "1970-01-01T00:00:00.000Z"]] ∧
    Json.compact (.float (.ofRatio false 1 8)) = "0.125" ∧
    (∀ text, IsAmount (.ofRatio false 1 8) text ↔ text = "0.12") ∧
    (marketAt (.ofRatio false 1 8)).vehiclesCsv = (marketAt (.ofRatio false 12 100)).vehiclesCsv ∧
    marketAt (.ofRatio false 1 8) ≠ marketAt (.ofRatio false 12 100) ∧
    Csv.read unrulyMarket.listingsCsv =
      some [listingHeader, ["l3", "v1", "u1", "Kia Rio", "0.00", "0", "0", "active"],
        ["l2", "v2", "u1", "", "0.00", "0", "0", "active"]] := by
  have hspelled : String.ofList (Decimal.amountSpelling (.ofRatio false 1 8)) = "0.12" := by
    decide +kernel
  refine ⟨?_, by decide +kernel, fun text => hspelled ▸ isAmount_iff, by decide +kernel,
    by decide +kernel, ?_⟩
  · rw [vehiclesCsv, Csv.read_render (by decide +kernel)]
    decide +kernel
  · rw [listingsCsv, Csv.read_render (by decide +kernel)]
    decide +kernel

end Catalog

end VehicleMarket
