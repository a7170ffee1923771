import VehicleMarket.Proofs.Storage.Disk
import VehicleMarket.Proofs.Table

/-!
What a write to one path does to another one. Directories that are made take nothing away, and the
file that is written stands at one place: a path that leads elsewhere names what it named before.
A path that named nothing may come to name something, for a directory that is made on the way of the
write can be on its own way as well. Of two writes to one path nothing is left of the first.
-/
namespace VehicleMarket

namespace Disk

variable {disk between later : Disk} {path other : String} {place : Place} {entry : Entry}

/-! ## Disks that have grown -/

/-- A later disk has everything that was there, as it was. -/
structure Grown (disk later : Disk) : Prop where
  here : later.here = disk.here
  entries : ∀ place entry, disk.entry? place = some entry → later.entry? place = some entry

theorem Grown.refl (disk : Disk) : Grown disk disk where
  here := rfl
  entries _ _ h := h

theorem Grown.trans (h : Grown disk between) (hlater : Grown between later) :
    Grown disk later where
  here := hlater.here.trans h.here
  entries place entry hentry := hlater.entries place entry (h.entries place entry hentry)

theorem grown_makeDirectory (h : disk.makeDirectory path = .ok later) : Grown disk later := by
  unfold makeDirectory at h
  split at h
  · exact absurd h (by simp)
  · exact absurd h (by simp)
  · rename_i parent name slash _
    split at h
    · exact absurd h (by simp)
    · rename_i hfree
      cases h
      refine ⟨rfl, ?_⟩
      intro place entry hentry
      have hne : place ≠ parent ++ [name] := by
        intro heq
        rw [heq, hfree] at hentry
        exact absurd hentry (by simp)
      rw [entry_put_of_ne hne]
      exact hentry

theorem grown_makeParents (path : String) (disk : Disk) :
    Grown disk (Folder.makeParents path disk).2 :=
  related_makeParents .refl .trans grown_makeDirectory path disk

theorem Grown.stat (h : Grown disk later) (hstat : disk.stat path = .ok entry) :
    later.stat path = .ok entry := by
  have hdirs := fun place => h.entries place .directory
  unfold Disk.stat at hstat ⊢
  cases hfollow : disk.follow path with
  | error fault =>
    simp only [hfollow] at hstat
    exact absurd hstat (by simp)
  | ok target =>
    rw [follow_of_directories hdirs h.here hfollow]
    cases target with
    | directory place =>
      simp only [hfollow] at hstat
      exact hstat
    | name parent name slash =>
      simp only [hfollow] at hstat
      cases hentry : disk.entry? (parent ++ [name]) with
      | none =>
        simp only [hentry] at hstat
        exact absurd hstat (by simp)
      | some found =>
        simp only [hentry] at hstat
        simp only [h.entries _ _ hentry]
        exact hstat

/-! ## The place of a file -/

/-- The place at which a path names a file, be it there or not. -/
def filePlace? (disk : Disk) (path : String) : Option Place :=
  match disk.follow path with
  | .ok (.name parent name false) => some (parent ++ [name])
  | _ => none

theorem filePlace?_eq_some : disk.filePlace? path = some place ↔
    ∃ parent name, disk.follow path = .ok (.name parent name false) ∧ place = parent ++ [name] := by
  unfold filePlace?
  constructor
  · intro h
    split at h
    · rename_i parent name hfollow
      exact ⟨parent, name, hfollow, (Option.some.inj h).symm⟩
    · exact absurd h (by simp)
  · rintro ⟨parent, name, hfollow, rfl⟩
    rw [hfollow]

/-! ## The file that is written -/

section Write

variable {content : Content} (h : disk.write path content = .ok later)
include h

theorem filePlace?_of_write : ∃ place, disk.filePlace? path = some place ∧ place ≠ [] ∧
    disk.entry? place ≠ some .directory ∧ later = disk.put place (.file content) := by
  obtain ⟨parent, name, hfollow, hplace, rfl⟩ := write_eq_ok.mp h
  exact ⟨_, filePlace?_eq_some.mpr ⟨parent, name, hfollow, rfl⟩, by simp, hplace, rfl⟩

theorem follow_of_write_iff {target : Target} :
    later.follow other = .ok target ↔ disk.follow other = .ok target := by
  obtain ⟨place, _, hroot, hplace, rfl⟩ := filePlace?_of_write h
  have hdirs := directory_put hplace hroot content
  exact ⟨follow_of_directories (fun place => (hdirs place).mp) rfl,
    follow_of_directories (fun place => (hdirs place).mpr) rfl⟩

theorem stat_of_write_elsewhere (hne : disk.filePlace? other ≠ disk.filePlace? path) :
    later.stat other = .ok entry ↔ disk.stat other = .ok entry := by
  obtain ⟨place, hpath, hroot, hplace, hlater⟩ := filePlace?_of_write h
  rw [hpath] at hne
  unfold stat
  cases hfollow : disk.follow other with
  | error fault =>
    cases hafter : later.follow other with
    | error _ => simp
    | ok target =>
      rw [follow_of_write_iff h, hfollow] at hafter
      exact absurd hafter (by simp)
  | ok target =>
    rw [(follow_of_write_iff h).mpr hfollow]
    cases target with
    | directory _ => exact Iff.rfl
    | name parent name slash =>
      by_cases heq : parent ++ [name] = place
      · have hslash : slash = true := by
          cases slash with
          | true => rfl
          | false => exact absurd (filePlace?_eq_some.mpr ⟨parent, name, hfollow, heq.symm⟩) hne
        have hnot : disk.entry? (parent ++ [name]) ≠ some .directory := heq ▸ hplace
        have hafter : later.entry? (parent ++ [name]) = some (.file content) := by
          rw [hlater, heq]
          exact entry_put_self hroot _
        simp only [hafter, hslash, if_true]
        cases hbefore : disk.entry? (parent ++ [name]) with
        | none => simp
        | some found =>
          cases found with
          | directory => exact absurd hbefore hnot
          | file _ => simp
      · have hafter : later.entry? (parent ++ [name]) = disk.entry? (parent ++ [name]) := by
          rw [hlater]
          exact entry_put_of_ne heq _
        simp only [hafter]

theorem stat_of_write_there (heq : disk.filePlace? other = disk.filePlace? path) :
    later.stat other = .ok (.file content) := by
  obtain ⟨place, hpath, hroot, _, hlater⟩ := filePlace?_of_write h
  rw [hpath] at heq
  obtain ⟨parent, name, hfollow, rfl⟩ := filePlace?_eq_some.mp heq
  refine stat_eq_file.mpr ⟨parent, name, (follow_of_write_iff h).mpr hfollow, ?_⟩
  rw [hlater]
  exact entry_put_self hroot _

theorem write_of_write_again {next : Content} {last : Disk}
    (hnext : later.write path next = .ok last) : disk.write path next = .ok last := by
  obtain ⟨parent, name, hfollow, hplace, rfl⟩ := write_eq_ok.mp h
  obtain ⟨parent', name', hfollow', _, rfl⟩ := write_eq_ok.mp hnext
  rw [follow_of_write_iff h, hfollow] at hfollow'
  cases hfollow'
  refine write_eq_ok.mpr ⟨parent, name, hfollow, hplace, ?_⟩
  rw [put, put, put, Table.insert_insert]

end Write

/-! ## Writes apart from a path -/

/-- What a path names is on a later disk what it was: a file with the same content, a directory, or
nothing that is there. -/
def SameAt (path : String) (disk later : Disk) : Prop :=
  ∀ entry, later.stat path = .ok entry ↔ disk.stat path = .ok entry

theorem SameAt.exists_eq (h : SameAt path disk later) : later.exists? path = disk.exists? path := by
  unfold exists?
  cases hstat : disk.stat path with
  | ok entry => rw [(h entry).mpr hstat]
  | error fault =>
    cases hlater : later.stat path with
    | error _ => rfl
    | ok entry =>
      rw [h entry, hstat] at hlater
      exact absurd hlater (by simp)

/-- A write to one path has nothing to do with another one: once the directories of the write are
made, the two do not lead to one place, and the other path names nothing that it did not before. -/
structure Apart (disk : Disk) (path other : String) : Prop where
  places : ∀ place, (Folder.makeParents path disk).2.filePlace? path = some place →
    (Folder.makeParents path disk).2.filePlace? other ≠ some place
  absent : disk.exists? other = false → (Folder.makeParents path disk).2.exists? other = false

theorem exists_iff : disk.exists? path = true ↔ ∃ entry, disk.stat path = .ok entry := by
  unfold exists?
  cases disk.stat path with
  | error fault => simp
  | ok entry => simp

theorem filePlace?_ne_of_names {disk : Disk}
    (hnames : (Path.walked path.toList).getLast? ≠ (Path.walked other.toList).getLast?)
    (hpath : disk.filePlace? path = some place) : disk.filePlace? other ≠ some place := by
  intro hother
  obtain ⟨parent, name, hfollow, rfl⟩ := filePlace?_eq_some.mp hpath
  obtain ⟨parent', name', hfollow', heq⟩ := filePlace?_eq_some.mp hother
  obtain ⟨dirs, last, hleads, rfl, _⟩ := follow_eq_name.mp hfollow
  obtain ⟨dirs', last', hleads', rfl, _⟩ := follow_eq_name.mp hfollow'
  obtain ⟨_, hlast⟩ := List.append_inj' heq rfl
  refine hnames ?_
  rw [hleads.walked_eq, hleads'.walked_eq, List.getLast?_concat, List.getLast?_concat,
    String.ofList_injective (List.cons.inj hlast).1]

theorem apart_of_names (hexists : disk.exists? other = true)
    (hnames : (Path.walked path.toList).getLast? ≠ (Path.walked other.toList).getLast?) :
    Apart disk path other where
  places _ := filePlace?_ne_of_names hnames
  absent habsent := absurd (habsent.symm.trans hexists) Bool.false_ne_true

/-- The directories that are made for a write that is apart do not matter to the other path. -/
theorem Apart.sameAt_makeParents (h : Apart disk path other) :
    SameAt other disk (Folder.makeParents path disk).2 := by
  have hgrown := grown_makeParents path disk
  intro entry
  constructor
  · intro hmade
    cases hexists : disk.exists? other with
    | false =>
      have habsent := h.absent hexists
      rw [exists_iff.mpr ⟨entry, hmade⟩] at habsent
      exact absurd habsent (by simp)
    | true =>
      obtain ⟨found, hfound⟩ := exists_iff.mp hexists
      rw [hgrown.stat hfound] at hmade
      cases hmade
      exact hfound
  · exact hgrown.stat

end Disk

namespace Folder

open Disk (Apart SameAt)

variable {folder : Folder} {path other : String} {disk later : Disk} {content : Content}

theorem sameAt_write (h : Apart disk (folder.fullPath path) other) (content : Content) :
    SameAt other disk (folder.write path content disk).2 := by
  have hmade := h.sameAt_makeParents
  unfold write
  rcases hparents : makeParents (folder.fullPath path) disk with ⟨result, made⟩
  rw [hparents] at hmade
  cases result with
  | error fault => exact hmade
  | ok _ =>
    simp only
    split
    · exact hmade
    · rename_i written hwrite
      intro entry
      obtain ⟨place, hplace, _⟩ := Disk.filePlace?_of_write hwrite
      have hne : made.filePlace? other ≠ made.filePlace? (folder.fullPath path) := by
        have hplaces := h.places place
        rw [hparents] at hplaces
        rw [hplace]
        exact hplaces hplace
      exact (Disk.stat_of_write_elsewhere hwrite hne).trans (hmade entry)

/-- A write that succeeds and leaves what a path names was apart from it, unless the path named a
file with the very content that was written. -/
theorem apart_of_write (hwrite : folder.write path content disk = (.ok (), later))
    (hsame : SameAt other disk later) (hfresh : disk.stat other ≠ .ok (.file content)) :
    Apart disk (folder.fullPath path) other := by
  obtain ⟨made, hmade, hwritten⟩ := write_eq_ok.mp hwrite
  obtain ⟨place, hplace, _⟩ := Disk.filePlace?_of_write hwritten
  have hne : made.filePlace? other ≠ made.filePlace? (folder.fullPath path) := by
    intro heq
    exact hfresh ((hsame _).mp (Disk.stat_of_write_there hwritten heq))
  constructor
  · intro place' hplace' hother
    rw [hmade] at hplace' hother
    exact hne (hother.trans hplace'.symm)
  · intro habsent
    rw [hmade]
    rw [← hsame.exists_eq] at habsent
    cases hexists : made.exists? other with
    | false => rfl
    | true =>
      obtain ⟨entry, hentry⟩ := Disk.exists_iff.mp hexists
      have hlater := (Disk.stat_of_write_elsewhere hwritten hne).mpr hentry
      rw [Disk.exists_iff.mpr ⟨entry, hlater⟩] at habsent
      exact absurd habsent (by simp)

/-- The directories that the first of two writes has made are those that the second asks for. -/
theorem write_of_write_again {next : Content} {last : Disk}
    (h : folder.write path content disk = (.ok (), later))
    (hnext : folder.write path next later = (.ok (), last)) :
    folder.write path next disk = (.ok (), last) := by
  have hthere := Disk.makeParents_of_file (stat_of_write h)
  obtain ⟨made, hmade, hwritten⟩ := write_eq_ok.mp h
  obtain ⟨made', hmade', hlast⟩ := write_eq_ok.mp hnext
  rw [hthere] at hmade'
  cases hmade'
  exact write_eq_ok.mpr ⟨made, hmade, Disk.write_of_write_again hwritten hlast⟩

end Folder

end VehicleMarket
