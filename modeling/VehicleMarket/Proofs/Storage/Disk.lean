import VehicleMarket.Proofs.Storage.Path
import VehicleMarket.Storage.Folder

/-!
Files that are written and read. A file that was written is found where it was written, for nothing
on the way to it has changed. A file that is there can be written again: the directories above it
are there, so that none has to be made.
-/
namespace VehicleMarket

namespace Disk

open VehicleMarket.Path (walked stripped partOf?)

def start (disk : Disk) (path : String) : Place :=
  if Path.isAbsolute path then [] else disk.here

/-- What lets the system look at a path at all. -/
structure WellFormed (path : String) : Prop where
  no_nul : Char.ofNat 0 ∉ path.toList
  not_empty : path.toList ≠ []
  not_long : path.utf8ByteSize ≤ longestPath

variable {disk : Disk} {path : String}

theorem follow_eq (h : WellFormed path) : disk.follow path =
    match (walked path.toList).getLast? with
    | none => .ok (.directory [])
    | some last =>
      match disk.descend (disk.start path) (walked path.toList).dropLast with
      | .error fault => .error fault
      | .ok place => targetIn place last (path.toList.getLast? == some '/') := by
  have hnul : path.toList.contains (Char.ofNat 0) = false := by simpa using h.no_nul
  have hempty : path.toList.isEmpty = false := by simpa using h.not_empty
  have hlong : ¬ longestPath < path.utf8ByteSize := Nat.not_lt.mpr h.not_long
  simp only [follow, hnul, hempty, hlong, Bool.false_eq_true, if_false]
  rfl

theorem wellFormed_of_follow {target : Target} (h : disk.follow path = .ok target) :
    WellFormed path := by
  simp only [follow] at h
  split at h
  · exact absurd h (by simp)
  · rename_i hnul
    split at h
    · exact absurd h (by simp)
    · rename_i hempty
      split at h
      · exact absurd h (by simp)
      · rename_i hlong
        exact ⟨by simpa using hnul, by simpa using hempty, Nat.not_lt.mp hlong⟩

/-- The way to a name: through directories that are there, to a last piece that is no dot. -/
structure Leads (disk : Disk) (path : String) (dirs : List (List Char)) (last : List Char)
    (parent : Place) : Prop where
  wellFormed : WellFormed path
  walked_eq : walked path.toList = dirs ++ [last]
  descend_eq : disk.descend (disk.start path) dirs = .ok parent
  named : partOf? last = some (.name (String.ofList last))
  short : (String.ofList last).utf8ByteSize ≤ longestName

theorem targetIn_name {place parent : Place} {piece : List Char} {name : String}
    {slash after : Bool} (hempty : piece ≠ [])
    (h : targetIn place piece after = .ok (.name parent name slash)) :
    place = parent ∧ name = String.ofList piece ∧ slash = after ∧
      partOf? piece = some (.name (String.ofList piece)) ∧
      (String.ofList piece).utf8ByteSize ≤ longestName := by
  unfold targetIn at h
  by_cases hdot : piece = ['.']
  · simp [hdot] at h
  · by_cases hup : piece = ['.', '.']
    · simp [hup] at h
    · by_cases hlong : longestName < (String.ofList piece).utf8ByteSize
      · simp [hdot, hup, hlong] at h
      · simp only [hdot, hup, hlong, if_false] at h
        cases h
        exact ⟨rfl, rfl, rfl, Path.partOf?_name hempty hdot hup, Nat.not_lt.mp hlong⟩

theorem targetIn_of_named {place : Place} {piece : List Char} (slash : Bool)
    (hnamed : partOf? piece = some (.name (String.ofList piece)))
    (hshort : (String.ofList piece).utf8ByteSize ≤ longestName) :
    targetIn place piece slash = .ok (.name place (String.ofList piece) slash) := by
  have hdot : piece ≠ ['.'] := by
    intro heq
    rw [heq] at hnamed
    exact absurd hnamed (by decide)
  have hup : piece ≠ ['.', '.'] := by
    intro heq
    rw [heq] at hnamed
    exact absurd hnamed (by decide)
  have hlong : ¬ longestName < (String.ofList piece).utf8ByteSize := Nat.not_lt.mpr hshort
  simp only [targetIn, hdot, hup, hlong, if_false]

theorem mem_walked {cs piece : List Char} (h : piece ∈ walked cs) : piece ≠ [] := by
  have hnonempty := (List.mem_filter.mp h).2
  intro heq
  rw [heq] at hnonempty
  exact absurd hnonempty (by decide)

theorem follow_eq_name {parent : Place} {name : String} {slash : Bool} :
    disk.follow path = .ok (.name parent name slash) ↔
      ∃ dirs last, disk.Leads path dirs last parent ∧ name = String.ofList last ∧
        slash = (path.toList.getLast? == some '/') := by
  constructor
  · intro h
    have hwell := wellFormed_of_follow h
    rw [follow_eq hwell] at h
    cases hlast : (walked path.toList).getLast? with
    | none => simp [hlast] at h
    | some last =>
      obtain ⟨dirs, hdirs⟩ := List.getLast?_eq_some_iff.mp hlast
      rw [hlast, hdirs, List.dropLast_concat] at h
      cases hdescend : disk.descend (disk.start path) dirs with
      | error fault => simp [hdescend] at h
      | ok place =>
        simp only [hdescend] at h
        have hmem : last ∈ walked path.toList := List.mem_of_getLast? hlast
        obtain ⟨rfl, hname, hslash, hnamed, hshort⟩ := targetIn_name (mem_walked hmem) h
        exact ⟨dirs, last, ⟨hwell, hdirs, hdescend, hnamed, hshort⟩, hname, hslash⟩
  · rintro ⟨dirs, last, hleads, rfl, rfl⟩
    rw [follow_eq hleads.wellFormed, hleads.walked_eq, List.getLast?_concat, List.dropLast_concat]
    simp only [hleads.descend_eq]
    exact targetIn_of_named _ hleads.named hleads.short

/-! ## Going through directories -/

theorem descend_append (place : Place) (front rest : List (List Char)) :
    disk.descend place (front ++ rest) =
      match disk.descend place front with
      | .error fault => .error fault
      | .ok place => disk.descend place rest := by
  induction front generalizing place with
  | nil => rfl
  | cons piece front ih =>
    rw [List.cons_append, descend, descend]
    split
    · exact ih place
    · split
      · exact ih place.dropLast
      · simp only
        split
        · rfl
        · split
          · rfl
          · rfl
          · exact ih _

theorem descend_stripped {ps : List (List Char)} (hps : ∀ piece ∈ ps, piece ≠ []) (place : Place) :
    disk.descend place (stripped ps) = disk.descend place ps := by
  induction ps generalizing place with
  | nil => rfl
  | cons piece rest ih =>
    have hrest := ih fun other hmem => hps other (List.mem_cons_of_mem piece hmem)
    have hempty := hps piece List.mem_cons_self
    by_cases hdot : piece = ['.']
    · have hpart : partOf? piece = none := by rw [hdot]; rfl
      have hskip : stripped (piece :: rest) = stripped rest := by simp [stripped, hpart]
      rw [hskip, descend, if_pos hdot]
      exact hrest place
    · have hpart : (partOf? piece).isSome = true := by
        by_cases hup : piece = ['.', '.']
        · rw [hup]; rfl
        · rw [Path.partOf?_name hempty hdot hup]; rfl
      have hkeep : stripped (piece :: rest) = piece :: stripped rest := by simp [stripped, hpart]
      rw [hkeep, descend, descend, if_neg hdot, if_neg hdot]
      split
      · exact hrest place.dropLast
      · simp only [hrest]

theorem targetIn_of_descend {front place : Place} {piece : List Char} (slash : Bool)
    (h : disk.descend front [piece] = .ok place) :
    targetIn front piece slash = .ok (.directory place) ∨
      ∃ name, targetIn front piece slash = .ok (.name front name slash) ∧
        disk.entry? (front ++ [name]) = some .directory := by
  unfold descend at h
  unfold targetIn
  by_cases hdot : piece = ['.']
  · rw [if_pos hdot] at h ⊢
    cases h
    exact .inl rfl
  · rw [if_neg hdot] at h ⊢
    by_cases hup : piece = ['.', '.']
    · rw [if_pos hup] at h ⊢
      cases h
      exact .inl rfl
    · rw [if_neg hup] at h ⊢
      refine .inr ⟨String.ofList piece, ?_⟩
      simp only at h ⊢
      split at h
      · exact absurd h (by simp)
      · rename_i hlong
        rw [if_neg hlong]
        split at h
        · exact absurd h (by simp)
        · exact absurd h (by simp)
        · rename_i hentry
          exact ⟨rfl, hentry⟩

theorem isDirectory_of_descend (h : WellFormed path) {place : Place}
    (hdescend : disk.descend (disk.start path) (walked path.toList) = .ok place) :
    disk.isDirectory path = true := by
  have hstat : disk.stat path = .ok .directory := by
    rw [stat, follow_eq h]
    cases hlast : (walked path.toList).getLast? with
    | none => rfl
    | some last =>
      obtain ⟨dirs, hdirs⟩ := List.getLast?_eq_some_iff.mp hlast
      rw [hdirs, descend_append] at hdescend
      rw [hdirs, List.dropLast_concat]
      cases hfront : disk.descend (disk.start path) dirs with
      | error fault => simp [hfront] at hdescend
      | ok front =>
        simp only [hfront] at hdescend ⊢
        rcases targetIn_of_descend (path.toList.getLast? == some '/') hdescend with
          htarget | ⟨name, htarget, hentry⟩
        · simp only [htarget]
        · simp only [htarget, hentry]
  rw [isDirectory, hstat]

/-! ## Writing a file that is there -/

theorem utf8ByteSize_ofList_le {cs ds : List Char} (h : cs.Sublist ds) :
    (String.ofList cs).utf8ByteSize ≤ (String.ofList ds).utf8ByteSize := by
  induction h with
  | slnil => exact Nat.le_refl _
  | @cons cs ds c _ ih =>
    rw [String.ofList_cons, String.utf8ByteSize_append]
    omega
  | @cons_cons cs ds c _ ih =>
    rw [String.ofList_cons, String.ofList_cons, String.utf8ByteSize_append,
      String.utf8ByteSize_append]
    omega

theorem WellFormed.of_sublist (h : WellFormed path) {other : String} (hne : other ≠ "")
    (hsub : other.toList.Sublist path.toList) : WellFormed other where
  no_nul hmem := h.no_nul (hsub.subset hmem)
  not_empty := by simpa using hne
  not_long := by
    have hle := utf8ByteSize_ofList_le hsub
    rw [String.ofList_toList, String.ofList_toList] at hle
    exact Nat.le_trans hle h.not_long

theorem stat_eq_file {content : Content} : disk.stat path = .ok (.file content) ↔
    ∃ parent name, disk.follow path = .ok (.name parent name false) ∧
      disk.entry? (parent ++ [name]) = some (.file content) := by
  constructor
  · intro h
    unfold stat at h
    split at h
    · exact absurd h (by simp)
    · exact absurd h (by simp)
    · rename_i parent name slash hfollow
      split at h
      · exact absurd h (by simp)
      · exact absurd h (by simp)
      · rename_i other hentry
        cases slash with
        | true => exact absurd h (by simp)
        | false =>
          cases h
          exact ⟨parent, name, hfollow, hentry⟩
  · rintro ⟨parent, name, hfollow, hentry⟩
    simp [stat, hfollow, hentry]

theorem makeDirectory_of_directory (h : disk.isDirectory path = true) :
    disk.makeDirectory path = .error .alreadyExists := by
  unfold isDirectory stat at h
  unfold makeDirectory
  cases hfollow : disk.follow path with
  | error fault => simp [hfollow] at h
  | ok target =>
    cases target with
    | directory place => rfl
    | name parent name slash =>
      cases hentry : disk.entry? (parent ++ [name]) with
      | none => simp [hfollow, hentry] at h
      | some entry => simp [hentry]

theorem makeAll_of_directory (h : disk.isDirectory path = true) (ancestors : List String) :
    disk.makeAll path ancestors = (.ok (), disk) := by
  have hmake := makeDirectory_of_directory h
  have hensure : disk.ensureDirectory path = (.ok (), disk) := by
    simp only [ensureDirectory, hmake, h, if_true]
  unfold makeAll
  split
  · rfl
  · simp only [hmake, IoFault.alreadyExists, hensure]

theorem makeParents_of_file {content : Content} (h : disk.stat path = .ok (.file content)) :
    Folder.makeParents path disk = (.ok (), disk) := by
  obtain ⟨parent, name, hfollow, _⟩ := stat_eq_file.mp h
  obtain ⟨dirs, last, hleads, _, _⟩ := follow_eq_name.mp hfollow
  obtain ⟨above, habove, hcases⟩ := Path.parent?_named hleads.walked_eq hleads.named
  rw [Folder.makeParents, habove]
  by_cases hempty : above = ""
  · rw [hempty]
    rfl
  · have hparent : Path.IsParent path above dirs := hcases.resolve_left hempty
    have hwell := hleads.wellFormed.of_sublist hempty hparent.sublist
    have hdirs : ∀ piece ∈ dirs, piece ≠ [] := by
      intro piece hmem
      have hwalked : piece ∈ walked path.toList := by
        rw [hleads.walked_eq]
        exact List.mem_append_left _ hmem
      exact mem_walked hwalked
    have hstart : disk.start above = disk.start path := by
      rw [start, start, hparent.absolute]
    have hdescend : disk.descend (disk.start above) (walked above.toList) = .ok parent := by
      rw [hstart, ← descend_stripped (fun _ => mem_walked), hparent.walk, descend_stripped hdirs]
      exact hleads.descend_eq
    exact makeAll_of_directory (isDirectory_of_descend hwell hdescend) _

theorem write_eq_ok {content : Content} {later : Disk} : disk.write path content = .ok later ↔
    ∃ parent name, disk.follow path = .ok (.name parent name false) ∧
      disk.entry? (parent ++ [name]) ≠ some .directory ∧
      later = disk.put (parent ++ [name]) (.file content) := by
  constructor
  · intro h
    unfold write at h
    split at h
    · exact absurd h (by simp)
    · exact absurd h (by simp)
    · rename_i parent name slash hfollow
      split at h
      · exact absurd h (by simp)
      · rename_i hfree
        cases h
        rw [Bool.or_eq_true, decide_eq_true_eq, not_or] at hfree
        obtain ⟨hslash, hplace⟩ := hfree
        rw [Bool.eq_false_iff.mpr hslash] at hfollow
        exact ⟨parent, name, hfollow, hplace, rfl⟩
  · rintro ⟨parent, name, hfollow, hplace, rfl⟩
    unfold write
    simp only [hfollow, hplace, decide_false, Bool.or_self, Bool.false_eq_true, if_false]

theorem write_of_file {content : Content} (h : disk.stat path = .ok (.file content))
    (next : Content) : ∃ later, disk.write path next = .ok later := by
  obtain ⟨parent, name, hfollow, hentry⟩ := stat_eq_file.mp h
  have hplace : disk.entry? (parent ++ [name]) ≠ some .directory := by
    rw [hentry]
    simp
  exact ⟨_, write_eq_ok.mpr ⟨parent, name, hfollow, hplace, rfl⟩⟩

theorem write_of_write {content : Content} {later : Disk}
    (h : disk.write path content = .ok later) (next : Content) :
    ∃ other, disk.write path next = .ok other := by
  obtain ⟨parent, name, hfollow, hplace, _⟩ := write_eq_ok.mp h
  exact ⟨_, write_eq_ok.mpr ⟨parent, name, hfollow, hplace, rfl⟩⟩

/-! ## Reading what was written -/

theorem entry_put_self {place : Place} (h : place ≠ []) (entry : Entry) :
    Disk.entry? (disk.put place entry) place = some entry := by
  unfold entry?
  rw [if_neg h, put, Table.find?_insert_self]

theorem entry_put_of_ne {place other : Place} (h : other ≠ place) (entry : Entry) :
    Disk.entry? (disk.put place entry) other = disk.entry? other := by
  unfold entry?
  rw [put, Table.find?_insert_of_ne _ _ h]

theorem descend_of_directories {later : Disk}
    (hdirs : ∀ place, disk.entry? place = some .directory → later.entry? place = some .directory)
    {ps : List (List Char)} {front target : Place} (h : disk.descend front ps = .ok target) :
    later.descend front ps = .ok target := by
  induction ps generalizing front with
  | nil => exact h
  | cons piece rest ih =>
    unfold descend at h ⊢
    split
    · rename_i hdot
      rw [if_pos hdot] at h
      exact ih h
    · rename_i hdot
      rw [if_neg hdot] at h
      split
      · rename_i hup
        rw [if_pos hup] at h
        exact ih h
      · rename_i hup
        rw [if_neg hup] at h
        simp only at h ⊢
        split
        · rename_i hlong
          rw [if_pos hlong] at h
          exact absurd h (by simp)
        · rename_i hlong
          rw [if_neg hlong] at h
          cases hentry : disk.entry? (front ++ [String.ofList piece]) with
          | none => simp [hentry] at h
          | some entry =>
            cases entry with
            | file other => simp [hentry] at h
            | directory =>
              simp only [hentry] at h
              simp only [hdirs _ hentry]
              exact ih h

/-- Where a path led, it leads as long as the directories are there. -/
theorem follow_of_directories {later : Disk}
    (hdirs : ∀ place, disk.entry? place = some .directory → later.entry? place = some .directory)
    (hhere : later.here = disk.here) {target : Target} (h : disk.follow path = .ok target) :
    later.follow path = .ok target := by
  have hwell := wellFormed_of_follow h
  have hstart : later.start path = disk.start path := by rw [start, start, hhere]
  rw [follow_eq hwell] at h ⊢
  cases hlast : (walked path.toList).getLast? with
  | none =>
    rw [hlast] at h
    exact h
  | some last =>
    rw [hlast] at h
    cases hdescend : disk.descend (disk.start path) (walked path.toList).dropLast with
    | error fault =>
      simp only [hdescend] at h
      exact absurd h (by simp)
    | ok place =>
      simp only [hdescend] at h
      simp only [hstart, descend_of_directories hdirs hdescend]
      exact h

theorem directory_put {place : Place} (hplace : disk.entry? place ≠ some .directory)
    (hroot : place ≠ []) (content : Content) (other : Place) :
    Disk.entry? (disk.put place (.file content)) other = some .directory ↔
      disk.entry? other = some .directory := by
  by_cases heq : other = place
  · rw [heq, entry_put_self hroot]
    constructor
    · intro h
      exact absurd h (by simp)
    · intro h
      exact absurd h hplace
  · rw [entry_put_of_ne heq]

theorem follow_of_write {content : Content} {later : Disk}
    (h : disk.write path content = .ok later) : ∃ parent name,
      later.follow path = .ok (.name parent name false) ∧
      later = disk.put (parent ++ [name]) (.file content) := by
  obtain ⟨parent, name, hfollow, hplace, rfl⟩ := write_eq_ok.mp h
  have hdirs := fun other => (directory_put hplace (by simp) content other).mpr
  exact ⟨parent, name, follow_of_directories hdirs rfl hfollow, rfl⟩

theorem stat_of_write {content : Content} {later : Disk}
    (h : disk.write path content = .ok later) : later.stat path = .ok (.file content) := by
  obtain ⟨parent, name, hfollow, rfl⟩ := follow_of_write h
  exact stat_eq_file.mpr ⟨parent, name, hfollow, entry_put_self (by simp) _⟩

/-! ## Making directories -/

/-- Every file that is on one of two disks is on the other one, with what it holds. -/
def SameFiles (disk later : Disk) : Prop :=
  ∀ place content,
    later.entry? place = some (.file content) ↔ disk.entry? place = some (.file content)

theorem SameFiles.refl (disk : Disk) : SameFiles disk disk :=
  fun _ _ => Iff.rfl

theorem SameFiles.trans {between later : Disk} (h : SameFiles disk between)
    (hlater : SameFiles between later) : SameFiles disk later :=
  fun place content => (hlater place content).trans (h place content)

variable {later : Disk}

theorem sameFiles_makeDirectory (h : disk.makeDirectory path = .ok later) :
    SameFiles disk later := by
  unfold makeDirectory at h
  split at h
  · exact absurd h (by simp)
  · exact absurd h (by simp)
  · rename_i parent name slash _
    split at h
    · exact absurd h (by simp)
    · rename_i hfree
      cases h
      intro place content
      by_cases hplace : place = parent ++ [name]
      · rw [hplace, entry_put_self (by simp), hfree]
        simp
      · rw [entry_put_of_ne hplace]

section Making

variable {R : Disk → Disk → Prop} (hrefl : ∀ disk, R disk disk)
  (htrans : ∀ {disk between later}, R disk between → R between later → R disk later)
  (hmake : ∀ {disk later : Disk} {path : String}, disk.makeDirectory path = .ok later →
    R disk later)
include hrefl hmake

theorem related_ensureDirectory (disk : Disk) (path : String) :
    R disk (disk.ensureDirectory path).2 := by
  unfold ensureDirectory
  split
  · rename_i hmade
    exact hmake hmade
  · exact hrefl disk

include htrans

/-- What making one directory does, making it with its ancestors does one after the other. -/
theorem related_makeAll (disk : Disk) (path : String) (ancestors : List String) :
    R disk (disk.makeAll path ancestors).2 := by
  have hensure := related_ensureDirectory hrefl hmake
  induction ancestors generalizing path with
  | nil =>
    have hnone : disk.makeAll path [] =
        if path = "" then (.ok (), disk) else disk.ensureDirectory path := by
      unfold makeAll
      split
      · rfl
      · split
        · contradiction
        · rfl
    rw [hnone]
    split
    · exact hrefl disk
    · exact hensure disk path
  | cons parent others ih =>
    unfold makeAll
    split
    · exact hrefl disk
    · split
      · rename_i hancestors
        cases hancestors
        have hparents := ih parent
        split
        · rename_i between heq
          rw [heq] at hparents
          exact hparents
        · rename_i between heq
          rw [heq] at hparents
          exact htrans hparents (hensure between path)
      · exact hensure disk path

theorem related_makeParents (path : String) (disk : Disk) :
    R disk (Folder.makeParents path disk).2 := by
  unfold Folder.makeParents
  split
  · exact hrefl disk
  · exact related_makeAll hrefl htrans hmake disk _ _

end Making

theorem sameFiles_makeParents (path : String) (disk : Disk) :
    SameFiles disk (Folder.makeParents path disk).2 :=
  related_makeParents .refl .trans sameFiles_makeDirectory path disk

/-! ## The one file that was written -/

/-- A disk after one file was written: the file holds what was written, and every other file is
there just as it was before. -/
structure Rewritten (disk : Disk) (path : String) (content : Content) (later : Disk) : Prop where
  holds : later.stat path = .ok (.file content)
  others : ∃ parent name, later.follow path = .ok (.name parent name false) ∧
    ∀ place, place ≠ parent ++ [name] → ∀ other,
      later.entry? place = some (.file other) ↔ disk.entry? place = some (.file other)

theorem rewritten_of_write {content : Content} (h : disk.write path content = .ok later) :
    Rewritten disk path content later := by
  refine ⟨stat_of_write h, ?_⟩
  obtain ⟨parent, name, hfollow, rfl⟩ := follow_of_write h
  refine ⟨parent, name, hfollow, ?_⟩
  intro place hplace other
  rw [entry_put_of_ne hplace]

theorem SameFiles.rewritten {made : Disk} {content : Content} (h : SameFiles disk made)
    (hwritten : Rewritten made path content later) : Rewritten disk path content later := by
  obtain ⟨hholds, parent, name, hfollow, hothers⟩ := hwritten
  refine ⟨hholds, parent, name, hfollow, ?_⟩
  intro place hplace other
  exact (hothers place hplace other).trans (h place other)

end Disk

namespace Folder

variable {folder : Folder} {path : String} {disk later : Disk} {content : Content}

theorem write_eq_ok : folder.write path content disk = (.ok (), later) ↔
    ∃ made, makeParents (folder.fullPath path) disk = (.ok (), made) ∧
      made.write (folder.fullPath path) content = .ok later := by
  constructor
  · intro h
    unfold write at h
    split at h
    · exact absurd h (by simp)
    · rename_i made hmade
      split at h
      · exact absurd h (by simp)
      · rename_i written hwritten
        cases h
        exact ⟨made, hmade, hwritten⟩
  · rintro ⟨made, hmade, hwritten⟩
    unfold write
    simp only [hmade, hwritten]

theorem stat_of_write (h : folder.write path content disk = (.ok (), later)) :
    later.stat (folder.fullPath path) = .ok (.file content) := by
  obtain ⟨made, _, hwritten⟩ := write_eq_ok.mp h
  exact Disk.stat_of_write hwritten

theorem rewritten_of_write (h : folder.write path content disk = (.ok (), later)) :
    Disk.Rewritten disk (folder.fullPath path) content later := by
  have hparents := Disk.sameFiles_makeParents (folder.fullPath path) disk
  obtain ⟨made, hmade, hwritten⟩ := write_eq_ok.mp h
  rw [hmade] at hparents
  exact hparents.rewritten (Disk.rewritten_of_write hwritten)

/-- A write that fails has written nothing, whatever directories it has made. -/
theorem sameFiles_of_write_error {fault : IoFault}
    (h : folder.write path content disk = (.error fault, later)) : Disk.SameFiles disk later := by
  have hparents := Disk.sameFiles_makeParents (folder.fullPath path) disk
  unfold write at h
  split at h
  · rename_i made heq
    cases h
    rw [heq] at hparents
    exact hparents
  · rename_i made heq
    rw [heq] at hparents
    split at h
    · cases h
      exact hparents
    · exact absurd h (by simp)

theorem write_of_file (h : disk.stat (folder.fullPath path) = .ok (.file content))
    (next : Content) : ∃ later, folder.write path next disk = (.ok (), later) := by
  have hparents := Disk.makeParents_of_file h
  obtain ⟨later, hlater⟩ := Disk.write_of_file h next
  exact ⟨later, write_eq_ok.mpr ⟨disk, hparents, hlater⟩⟩

theorem write_of_write (h : folder.write path content disk = (.ok (), later)) (next : Content) :
    ∃ other, folder.write path next disk = (.ok (), other) := by
  obtain ⟨made, hmade, hwritten⟩ := write_eq_ok.mp h
  obtain ⟨other, hother⟩ := Disk.write_of_write hwritten next
  exact ⟨other, write_eq_ok.mpr ⟨made, hmade, hother⟩⟩

end Folder

end VehicleMarket
