import VehicleMarket.Market.Snapshot
import VehicleMarket.Proofs.Catalog.Acceptance
import VehicleMarket.Proofs.Catalog.Finite
import VehicleMarket.Proofs.Catalog.Reload
import VehicleMarket.Proofs.Storage.Disk

/-!
Snapshots that are loaded and saved. Loading after saving is reading the document that was written.
A snapshot that could be loaded from a file can be saved there, and a clock that stands still is not
moved by loading.
-/
namespace VehicleMarket

theorem Text.decodeUtf8_toUTF8 (text : String) :
    Text.decodeUtf8 text.toUTF8.data.toList = .ok text := by
  have hbytes : (⟨text.toUTF8.data.toList.toArray⟩ : ByteArray) = text.toByteArray := by
    rw [Array.toArray_toList, String.toUTF8_eq_toByteArray]
  have htext : String.fromUTF8? text.toByteArray = some text := by
    rw [String.fromUTF8?, dif_pos text.isValidUTF8]
    rfl
  rw [Text.decodeUtf8, hbytes, htext]

namespace Snapshot

theorem load_fixed (snapshot : Snapshot) (disk : Disk) {now : Moment} :
    (snapshot.load disk (.fixed now)).2 = .fixed now := by
  unfold load
  split
  · split
    · rfl
    · unfold decodeContent
      split
      · rfl
      · split
        · rfl
        · exact Catalog.ofDocument_fixed _
  · rfl

variable {snapshot : Snapshot} {disk later : Disk} {catalog : Catalog}

theorem save_eq_ok : snapshot.save catalog disk = (.ok (), later) ↔
    snapshot.folder.write snapshot.fileName (.ofText catalog.toDocument) disk =
      (.ok (), later) := by
  unfold save
  constructor
  · intro h
    split at h
    · exact absurd h (by simp)
    · rename_i written hwrite
      cases h
      exact hwrite
  · intro h
    rw [h]

theorem stat_of_save (h : snapshot.save catalog disk = (.ok (), later)) :
    later.stat (snapshot.folder.fullPath snapshot.fileName) =
      .ok (.file (.ofText catalog.toDocument)) :=
  Folder.stat_of_write (save_eq_ok.mp h)

theorem save_of_file {content : Content}
    (h : disk.stat (snapshot.folder.fullPath snapshot.fileName) = .ok (.file content))
    (catalog : Catalog) : ∃ later, snapshot.save catalog disk = (.ok (), later) := by
  obtain ⟨later, hlater⟩ := Folder.write_of_file h (.ofText catalog.toDocument)
  exact ⟨later, save_eq_ok.mpr hlater⟩

theorem load_of_save (h : snapshot.save catalog disk = (.ok (), later)) (clock : Clock) :
    snapshot.load later clock = Catalog.ofDocument catalog.toDocument clock := by
  have hstat := stat_of_save h
  have hcontains : snapshot.folder.contains snapshot.fileName later = true := by
    rw [Folder.contains, Disk.exists?, hstat]
  have hread : snapshot.folder.read snapshot.fileName later =
      .ok (.ofText catalog.toDocument) := by
    rw [Folder.read, Disk.read, hstat]
  rw [load, if_pos hcontains, hread]
  simp only [decodeContent, Content.ofText, Text.decodeUtf8_toUTF8]

theorem save_of_load {clock : Clock}
    (hcontains : snapshot.folder.contains snapshot.fileName disk = true)
    (hload : (snapshot.load disk clock).1 = .ok catalog) (next : Catalog) :
    ∃ later, snapshot.save next disk = (.ok (), later) := by
  rw [load, if_pos hcontains] at hload
  cases hread : snapshot.folder.read snapshot.fileName disk with
  | error fault =>
    rw [hread] at hload
    exact absurd hload (by simp)
  | ok content =>
    have hstat : disk.stat (snapshot.folder.fullPath snapshot.fileName) =
        .ok (.file content) := by
      unfold Folder.read Disk.read at hread
      split at hread
      · exact absurd hread (by simp)
      · exact absurd hread (by simp)
      · rename_i hfile
        cases hread
        exact hfile
    exact save_of_file hstat next

/-- Whether a snapshot can be saved does not depend on the catalog. -/
theorem save_of_save (h : snapshot.save catalog disk = (.ok (), later)) (next : Catalog) :
    ∃ later, snapshot.save next disk = (.ok (), later) := by
  obtain ⟨later, hlater⟩ := Folder.write_of_write (save_eq_ok.mp h) (.ofText next.toDocument)
  exact ⟨later, save_eq_ok.mpr hlater⟩

theorem document_of_load {clock : Clock} (h : (snapshot.load disk clock).1 = .ok catalog) :
    (∀ other, snapshot.load disk other = (.ok .empty, other)) ∨
      ∃ text, ∀ other, snapshot.load disk other = Catalog.ofDocument text other := by
  unfold load at h ⊢
  split at h
  · rename_i hcontains
    simp only [if_pos hcontains]
    split at h
    · exact absurd h (by simp)
    · rename_i content hread
      unfold decodeContent at h
      split at h
      · exact absurd h (by simp)
      · rename_i data
        split at h
        · exact absurd h (by simp)
        · rename_i text htext
          refine .inr ⟨text, fun other => ?_⟩
          simp only [decodeContent, htext]
  · rename_i hmissing
    exact .inl fun other => if_neg hmissing

theorem reachable_of_load {clock : Clock} (h : (snapshot.load disk clock).1 = .ok catalog) :
    Catalog.Reachable catalog := by
  rcases document_of_load h with hempty | ⟨text, htext⟩
  · rw [hempty] at h
    cases h
    exact .empty
  · rw [htext] at h
    exact .loaded (Prod.ext h rfl)

/-- No number that is loaded is infinite. -/
theorem finite_of_load {clock : Clock} (h : (snapshot.load disk clock).1 = .ok catalog) :
    catalog.FiniteAmounts := by
  rcases document_of_load h with hempty | ⟨text, htext⟩
  · rw [hempty] at h
    cases h
    exact fun _ hmem => absurd hmem List.not_mem_nil
  · rw [htext] at h
    exact Catalog.ofDocument_finite h

end Snapshot

end VehicleMarket
