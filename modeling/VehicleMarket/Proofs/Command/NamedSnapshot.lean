import VehicleMarket.Proofs.Command.ReadOnly
import VehicleMarket.Proofs.Storage.Parts

/-!
The snapshot that a command is told to work on. The path is taken apart into a directory and a file
and put together again when the file is opened. A path that ends in a name comes out as it went in,
but for a dot in front; the empty path and the dot name no file, and the file of the settings takes
its place.
-/
namespace VehicleMarket

namespace Path

/-- The parts of a path without a dot in front, which leads nowhere. -/
def route (path : String) : List Part :=
  match parts path with
  | .here :: rest => rest
  | ps => ps

theorem route_of_here {path : String} {rest : List Part} (h : parts path = .here :: rest) :
    route path = rest := by
  unfold route
  rw [h]

theorem route_of_parts_eq {path other : String} (h : parts path = parts other) :
    route path = route other := by
  unfold route
  rw [h]

theorem WellFormed.dropName {front lead rest : List Part} {text : String}
    (h : WellFormed (front ++ [.name text]) lead rest) :
    (Part.name text).Ordinary ∧ ∃ others, WellFormed front lead others := by
  obtain ⟨hparts, hlead, hrest⟩ := h
  rcases List.eq_nil_or_concat rest with rfl | ⟨init, last, rfl⟩
  · have hlast := congrArg List.getLast? hparts
    rw [List.getLast?_concat, List.append_nil] at hlast
    rcases hlead with rfl | rfl | rfl
    · exact absurd hlast (by simp)
    · exact absurd hlast (by simp)
    · exact absurd hlast (by simp)
  · rw [List.concat_eq_append, ← List.append_assoc] at hparts
    obtain ⟨rfl, hlast⟩ := List.append_inj' hparts rfl
    obtain rfl := List.singleton_inj.mp hlast
    refine ⟨hrest _ (by simp), init, rfl, hlead, ?_⟩
    intro part hmem
    exact hrest part (by simp [hmem])

theorem parent?_of_parts {path : String} {front : List Part} {text : String}
    (h : parts path = front ++ [.name text]) : parent? path = some (ofParts front) := by
  unfold parent?
  rw [h]
  split
  · rename_i heq
    exact absurd heq (by simp)
  · rename_i heq
    exact absurd (List.getLast?_concat ▸ congrArg List.getLast? heq) (by simp)
  · rw [List.dropLast_concat]

theorem fileName?_of_parts {path : String} {front : List Part} {text : String}
    (h : parts path = front ++ [.name text]) : fileName? path = some text := by
  unfold fileName?
  rw [h, List.getLast?_concat]

theorem ofParts_ne_empty {ps lead rest : List Part} (h : WellFormed ps lead rest) (hne : ps ≠ []) :
    ofParts ps ≠ "" := by
  by_cases hroot : ps = [.root]
  · rw [hroot]
    decide
  · intro hempty
    obtain ⟨c, hlast, -⟩ := getLast?_ofParts h hne hroot
    rw [hempty] at hlast
    exact absurd hlast (by simp)

end Path

namespace Command

open VehicleMarket.Path (Part parts route parent? fileName? ofParts)

variable {settings : Settings} {named : Option String}

def namedPath (settings : Settings) (named : Option String) : String :=
  named.getD settings.snapshotPath

theorem snapshotFile_of_parent {parent text : String}
    (hparent : parent? (namedPath settings named) = some parent) (hne : parent ≠ "")
    (hname : fileName? (namedPath settings named) = some text) :
    snapshotFile settings named = Path.join parent text := by
  unfold snapshotFile snapshotAt
  unfold namedPath at hparent hname
  simp only [hparent, hname, Option.getD_some, Folder.fullPath]

theorem snapshotFile_of_no_parent
    (hparent : parent? (namedPath settings named) = none ∨
      parent? (namedPath settings named) = some "") :
    snapshotFile settings named =
      Path.join "." ((fileName? (namedPath settings named)).getD settings.snapshotFile) := by
  unfold snapshotFile snapshotAt
  unfold namedPath at hparent ⊢
  rcases hparent with hparent | hparent
  · simp only [hparent, Folder.fullPath]
  · simp only [hparent, Folder.fullPath]

theorem route_snapshotFile {front : List Part} {text : String}
    (h : parts (namedPath settings named) = front ++ [.name text]) :
    route (snapshotFile settings named) = route (namedPath settings named) := by
  obtain ⟨lead, rest, hformed⟩ := Path.exists_wellFormed (namedPath settings named)
  have hwhole := Path.parts_ofParts hformed
  rw [h] at hformed hwhole
  obtain ⟨hname, others, hfront⟩ := hformed.dropName
  have hparent := Path.parent?_of_parts h
  have hfile := Path.fileName?_of_parts h
  by_cases hne : front = []
  · rw [hne] at hparent h
    have hdot : Path.WellFormed [.here] [.here] [] := ⟨rfl, .inr (.inr rfl), by simp⟩
    have hboth : Path.WellFormed ([.here] ++ [.name text]) [.here] [.name text] :=
      ⟨rfl, .inr (.inr rfl), by simpa using hname⟩
    have hjoin : Path.join "." text = ofParts ([.here] ++ [.name text]) :=
      Path.join_ofParts hdot (by simp) hname
    have hopened : route (Path.join "." text) = [.name text] :=
      hjoin ▸ Path.route_of_here (Path.parts_ofParts hboth)
    rw [snapshotFile_of_no_parent (.inr hparent), hfile, Option.getD_some, hopened]
    unfold route
    rw [h]
    rfl
  · rw [snapshotFile_of_parent hparent (Path.ofParts_ne_empty hfront hne) hfile,
      Path.join_ofParts hfront hne hname]
    exact Path.route_of_parts_eq (hwhole.trans h.symm)

theorem snapshotFile_of_dot
    (h : parts (namedPath settings named) = [] ∨ parts (namedPath settings named) = [.here]) :
    snapshotFile settings named = Path.join "." settings.snapshotFile := by
  have hparent : parent? (namedPath settings named) = none ∨
      parent? (namedPath settings named) = some "" := by
    unfold parent?
    rcases h with h | h
    · exact .inl (by rw [h])
    · exact .inr (by rw [h]; rfl)
  have hfile : fileName? (namedPath settings named) = none := by
    unfold fileName?
    rcases h with h | h
    · rw [h]
      rfl
    · rw [h]
      rfl
  rw [snapshotFile_of_no_parent hparent, hfile, Option.getD_none]

variable (settings named)

/-- Every command opens the path it is given, or the one that the settings make, when that ends in a
name: the file has the same parts but for a dot in front. The empty path and the dot end in no name;
for them it opens the file of the settings, as seen from the working directory. -/
theorem named_snapshot_opened (thisYear : Int32) (exportDir : String) (lenient : Bool) :
    let market := marketFor settings thisYear named exportDir lenient
    let opened := market.snapshot.folder.fullPath market.snapshot.fileName
    let path := named.getD settings.snapshotPath
    (∀ front text, parts path = front ++ [.name text] → route opened = route path) ∧
      (parts path = [] ∨ parts path = [.here] →
        opened = Path.join "." settings.snapshotFile) := by
  intro market opened path
  have hopened : opened = snapshotFile settings named := rfl
  rw [hopened]
  constructor
  · intro front text h
    exact route_snapshotFile h
  · exact snapshotFile_of_dot

/-- Slashes that are doubled or stand last and dots inside do not matter. -/
theorem nested_snapshot_opened :
    let named := "a//b/./../c.json/"
    let market := marketFor .standard 2025 (some named) "out" false
    let dotted := marketFor .standard 2025 (some ".") "out" false
    parts named = [.name "a", .name "b", .up] ++ [.name "c.json"] ∧
      market.snapshot.folder.fullPath market.snapshot.fileName = "a/b/../c.json" ∧
      route (market.snapshot.folder.fullPath market.snapshot.fileName) = route named ∧
      dotted.snapshot.folder.fullPath dotted.snapshot.fileName = "./market.json" := by
  intro named market dotted
  have hparts : parts named = [.name "a", .name "b", .up] ++ [.name "c.json"] := by decide
  have hjoin : Path.join "." Settings.standard.snapshotFile = "./market.json" := by decide +kernel
  obtain ⟨hopened, -⟩ := named_snapshot_opened .standard (some named) 2025 "out" false
  obtain ⟨-, hfallback⟩ := named_snapshot_opened .standard (some ".") 2025 "out" false
  exact ⟨hparts, by decide +kernel, hopened _ _ hparts, (hfallback (.inr (by decide))).trans hjoin⟩

/-- With the standard settings, which are accepted, a directory that ends in no name is not opened:
the snapshot of the dot is a file in it. -/
theorem dot_not_opened :
    ¬ ∀ (settings : Settings) (named : Option String) (thisYear : Int32),
      settings.validate thisYear = .ok () →
      route (snapshotFile settings named) = route (named.getD settings.snapshotPath) := by
  intro hclaim
  have hsame := hclaim .standard (some ".") 2025 (by decide +kernel)
  have hopened : route (snapshotFile .standard (some ".")) = [.name "market.json"] := by
    decide +kernel
  have hnamed : route ((some ".").getD Settings.standard.snapshotPath) = [] := by decide +kernel
  rw [hopened, hnamed] at hsame
  exact absurd hsame (by simp)

end Command

end VehicleMarket
