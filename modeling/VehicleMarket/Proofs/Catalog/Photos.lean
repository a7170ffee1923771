import Mathlib.Data.List.Basic
import VehicleMarket.Proofs.Catalog.Sheets

/-!
The photos of a vehicle in its sheet. The addresses share one cell with a bar between two of them,
and a bar within an address is written as it is. A valid vehicle has no empty address, so that an
empty cell tells that there are no photos; beyond that the addresses are told apart just when none of
them has a bar, and a valid address may have one in its path.
-/
namespace VehicleMarket

/-! ## Cells by name -/

/-- The cell of a line under one of the names above the lines. -/
def Csv.cell? (rows : List (List String)) (line : Nat) (name : String) : Option String :=
  match rows with
  | [] => none
  | names :: lines => lines[line]?.bind fun cells => cells[names.idxOf name]?

theorem exists_getElem? {α β : Type} {R : α → β → Prop} {as : List α} {bs : List β}
    (h : List.Forall₂ R as bs) {place : Nat} {a : α} (ha : as[place]? = some a) :
    ∃ b, bs[place]? = some b ∧ R a b := by
  obtain ⟨hlt, rfl⟩ := List.getElem?_eq_some_iff.mp ha
  have hplace : place < bs.length := h.length_eq ▸ hlt
  exact ⟨bs[place], List.getElem?_eq_getElem hplace, h.get hlt hplace⟩

theorem SheetOf.exists_cell? {α : Type} {columns : List (Column α)} {column : Column α}
    {records : List α} {record : α} {text : String} {place k : Nat}
    (h : SheetOf columns records text) (hnames : (columns.map Column.name).Nodup)
    (hcolumn : columns[k]? = some column) (hrecord : records[place]? = some record) :
    ∃ rows cell, Csv.read text = some rows ∧ Csv.cell? rows place column.name = some cell ∧
      column.shows record cell := by
  obtain ⟨lines, hread, hlines⟩ := h
  obtain ⟨cells, hcells, hshown⟩ := exists_getElem? hlines hrecord
  obtain ⟨cell, hcell, hshows⟩ := exists_getElem? hshown hcolumn
  refine ⟨_, cell, hread, ?_, hshows⟩
  obtain ⟨hk, rfl⟩ := List.getElem?_eq_some_iff.mp hcolumn
  have hindex := hnames.idxOf_getElem k (by simpa using hk)
  rw [List.getElem_map] at hindex
  rw [Csv.cell?, hcells, hindex]
  exact hcell

namespace Catalog

/-! ## Pieces between bars -/

def betweenBars (text : String) : List String :=
  (List.splitOn '|' text.toList).map String.ofList

theorem betweenBars_of_noBar {text : String} (h : '|' ∉ text.toList) :
    betweenBars text = [text] := by
  rw [betweenBars, List.splitOn_eq_singleton h, List.map_singleton, String.ofList_toList]

/-- The induction is on the list; an item that is no separator goes to the front of the first piece. -/
theorem not_mem_of_mem_splitOn {α : Type} [BEq α] [LawfulBEq α] {sep : α} {items piece : List α}
    (h : piece ∈ items.splitOn sep) : sep ∉ piece := by
  induction items generalizing piece with
  | nil =>
    obtain rfl : piece = [] := by simpa using h
    exact List.not_mem_nil
  | cons item items ih =>
    rw [List.splitOn_cons_eq_if_modifyHead] at h
    split at h
    · rcases List.mem_cons.mp h with rfl | hrest
      · exact List.not_mem_nil
      · exact ih hrest
    · rename_i hitem
      obtain ⟨first, others, hcut⟩ := List.exists_cons_of_ne_nil (List.splitOn_ne_nil sep items)
      rw [hcut] at h ih
      rcases List.mem_cons.mp h with rfl | hrest
      · intro hsep
        rcases List.mem_cons.mp hsep with rfl | hlater
        · exact hitem (BEq.refl sep)
        · exact ih List.mem_cons_self hlater
      · exact ih (List.mem_cons_of_mem first hrest)

theorem noBar_of_mem_betweenBars {text piece : String} (h : piece ∈ betweenBars text) :
    '|' ∉ piece.toList := by
  obtain ⟨cs, hcs, rfl⟩ := List.mem_map.mp h
  rw [String.toList_ofList]
  exact not_mem_of_mem_splitOn hcs

theorem betweenBars_intercalate {texts : List String} (h : texts ≠ []) :
    betweenBars ("|".intercalate texts) = texts.flatMap betweenBars := by
  induction texts with
  | nil => exact absurd rfl h
  | cons text rest ih =>
    cases rest with
    | nil => simp
    | cons next rest =>
      have hcut : betweenBars (text ++ "|" ++ "|".intercalate (next :: rest)) =
          betweenBars text ++ betweenBars ("|".intercalate (next :: rest)) := by
        simp only [betweenBars, String.toList_append, List.append_assoc]
        rw [← List.map_append, ← List.splitOn_append_cons_self]
        rfl
      rw [String.intercalate_cons_cons, hcut, ih (List.cons_ne_nil next rest)]
      exact List.flatMap_cons.symm

theorem flatMap_betweenBars_eq_iff {texts : List String} :
    texts.flatMap betweenBars = texts ↔ ∀ text ∈ texts, '|' ∉ text.toList := by
  constructor
  · intro heq text hmem
    rw [← heq] at hmem
    obtain ⟨whole, -, hpiece⟩ := List.mem_flatMap.mp hmem
    exact noBar_of_mem_betweenBars hpiece
  · intro h
    have hwhole : texts.flatMap betweenBars = texts.flatMap fun text => [text] :=
      List.flatMap_congr fun text hmem => betweenBars_of_noBar (h text hmem)
    rw [hwhole, List.flatMap_singleton']

/-- The photo addresses that are told by a cell; an empty one tells of none. -/
def photosOf (cell : String) : List String :=
  if cell = "" then [] else betweenBars cell

/-! ## Valid vehicles -/

theorem passed_of_bind {α β : Type} {first : Except Problem α} {next : α → Except Problem β}
    {result : β} (h : first >>= next = .ok result) :
    ∃ between, first = .ok between ∧ next between = .ok result := by
  cases first with
  | error problem => cases h
  | ok between => exact ⟨between, rfl, h⟩

theorem ne_empty_of_checkAddress {entity field address : String}
    (h : Validation.checkAddress entity field address = .ok ()) : address ≠ "" := by
  rintro rfl
  cases h

theorem ne_empty_of_checkPhotos {urls : List String} (h : Vehicle.checkPhotos urls = .ok ()) :
    ∀ url ∈ urls, url ≠ "" := by
  induction urls with
  | nil => simp
  | cons url rest ih =>
    obtain ⟨_, hfirst, hrest⟩ := passed_of_bind h
    exact List.forall_mem_cons.mpr ⟨ne_empty_of_checkAddress hfirst, ih hrest⟩

theorem checkPhotos_of_validate {vehicle : Vehicle} {rules : Validation.Rules}
    (h : vehicle.validate rules = .ok ()) : Vehicle.checkPhotos vehicle.photoUrls = .ok () := by
  obtain ⟨_, -, hyear⟩ := passed_of_bind h
  obtain ⟨_, -, hmileage⟩ := passed_of_bind hyear
  obtain ⟨_, -, hprice⟩ := passed_of_bind hmileage
  obtain ⟨_, -, hphotos⟩ := passed_of_bind hprice
  exact hphotos

theorem photosOf_photoCell {vehicle : Vehicle} (h : ∀ url ∈ vehicle.photoUrls, url ≠ "") :
    photosOf (photoCell vehicle) = vehicle.photoUrls.flatMap betweenBars := by
  unfold photosOf photoCell
  cases hphotos : vehicle.photoUrls with
  | nil => simp
  | cons url rest =>
    rw [hphotos] at h
    have hurl := h url List.mem_cons_self
    have hcell : "|".intercalate (url :: rest) ≠ "" := by
      cases rest with
      | nil => simpa using hurl
      | cons next rest =>
        rw [String.intercalate_cons_cons]
        simp [hurl]
    rw [if_neg hcell, betweenBars_intercalate (List.cons_ne_nil url rest)]

/-! ## The cell of the photos -/

theorem photoCell_of_sheet {catalog : Catalog} {place : Nat} {vehicle : Vehicle}
    (h : catalog.allVehicles[place]? = some vehicle) :
    ∃ rows, Csv.read catalog.vehiclesCsv = some rows ∧
      Csv.cell? rows place "photoUrls" = some (photoCell vehicle) := by
  have hnames : (vehicleColumns.map Column.name).Nodup := by decide
  have hcolumn : vehicleColumns[9]? = some (.plain "photoUrls" photoCell) := rfl
  obtain ⟨rows, cell, hrows, hcell, rfl⟩ :=
    (sheetOf_vehiclesCsv catalog).exists_cell? hnames hcolumn h
  exact ⟨rows, hrows, hcell⟩

/-- The photos of a valid vehicle are told by their cell just when no address of them has a bar;
with bars the cell tells the pieces between them. -/
theorem photos_told_iff {catalog : Catalog}
    (hvalid : ∀ vehicle ∈ catalog.allVehicles, ∃ rules, vehicle.validate rules = .ok ())
    {place : Nat} {vehicle : Vehicle} (hplace : catalog.allVehicles[place]? = some vehicle) :
    ∃ rows cell, Csv.read catalog.vehiclesCsv = some rows ∧
      Csv.cell? rows place "photoUrls" = some cell ∧
      (photosOf cell = vehicle.photoUrls ↔ ∀ url ∈ vehicle.photoUrls, '|' ∉ url.toList) ∧
      photosOf cell = vehicle.photoUrls.flatMap betweenBars := by
  obtain ⟨rules, hrules⟩ := hvalid vehicle (List.mem_of_getElem? hplace)
  obtain ⟨rows, hrows, hcell⟩ := photoCell_of_sheet hplace
  have hpieces := photosOf_photoCell (ne_empty_of_checkPhotos (checkPhotos_of_validate hrules))
  refine ⟨rows, photoCell vehicle, hrows, hcell, ?_, hpieces⟩
  rw [hpieces]
  exact flatMap_betweenBars_eq_iff

def photoVehicle (urls : List String) : Vehicle :=
  { Vehicle.create ⟨"v2"⟩ ⟨"u1"⟩ "Dacia" "Logan" .epoch with photoUrls := urls }

def photoMarket (urls : List String) : Catalog :=
  empty.run [.insertVehicle (.create ⟨"v1"⟩ ⟨"u1"⟩ "Kia" "Picanto" .epoch),
    .insertListing (.create ⟨"l1"⟩ (photoVehicle urls) ⟨"u1"⟩)]

def plainUrls : List String :=
  ["https://cdn.example.com/1,2.jpg", "http://[::1]:80/\"a\"?b#c"]

theorem plain_photos_told :
    (∀ vehicle ∈ (photoMarket plainUrls).allVehicles,
      ∃ rules, vehicle.validate rules = .ok ()) ∧
    (photoMarket plainUrls).allVehicles[1]? = some (photoVehicle plainUrls) ∧
    ∃ rows cell, Csv.read (photoMarket plainUrls).vehiclesCsv = some rows ∧
      Csv.cell? rows 1 "photoUrls" = some cell ∧ photosOf cell = plainUrls := by
  have hvalid : ∀ vehicle ∈ (photoMarket plainUrls).allVehicles,
      ∃ rules, vehicle.validate rules = .ok () := by
    have hchecked : ∀ vehicle ∈ (photoMarket plainUrls).allVehicles,
        vehicle.validate (.standard 2025) = .ok () := by decide +kernel
    exact fun vehicle hmem => ⟨_, hchecked vehicle hmem⟩
  have hplace : (photoMarket plainUrls).allVehicles[1]? = some (photoVehicle plainUrls) := rfl
  obtain ⟨rows, cell, hrows, hcell, htold, -⟩ := photos_told_iff hvalid hplace
  exact ⟨hvalid, hplace, rows, cell, hrows, hcell, htold.mpr (by decide)⟩

def barredUrls : List String :=
  ["http://a/b|http://c/d"]

/-- It is valid, and is told as two. -/
theorem barred_photo_told_as_two :
    (∀ vehicle ∈ (photoMarket barredUrls).allVehicles,
      vehicle.validate (.standard 2025) = .ok ()) ∧
    (photoMarket barredUrls).allVehicles[1]? = some (photoVehicle barredUrls) ∧
    ∃ rows cell, Csv.read (photoMarket barredUrls).vehiclesCsv = some rows ∧
      Csv.cell? rows 1 "photoUrls" = some cell ∧
      photosOf cell = ["http://a/b", "http://c/d"] ∧
      photosOf cell ≠ (photoVehicle barredUrls).photoUrls := by
  have hplace : (photoMarket barredUrls).allVehicles[1]? = some (photoVehicle barredUrls) := rfl
  obtain ⟨rows, hrows, hcell⟩ := photoCell_of_sheet hplace
  exact ⟨by decide +kernel, hplace, rows, _, hrows, hcell, by decide, by decide⟩

end Catalog

end VehicleMarket
