import VehicleMarket.Storage.Path

/-!
Paths and their parents. The parent of a path that ends in a name leads through the same pieces as
the path itself up to that name, and is written with no more than the characters of the path.
-/
namespace VehicleMarket.Path

theorem pieces_eq_splitOn (cs : List Char) : pieces cs = cs.splitOn '/' := by
  induction cs with
  | nil => rfl
  | cons c rest ih =>
    rw [List.splitOn_cons_eq_if_modifyHead, pieces, ih]
    by_cases hslash : c = '/'
    · simp [hslash]
    · cases hrest : rest.splitOn '/' with
      | nil => exact absurd hrest (List.splitOn_ne_nil _ _)
      | cons piece others => simp [hslash]

theorem join_pieces (cs : List Char) : ['/'].intercalate (pieces cs) = cs := by
  rw [pieces_eq_splitOn, List.intercalate_splitOn]

theorem pieces_join {ps : List (List Char)} (hslash : ∀ piece ∈ ps, '/' ∉ piece) (hne : ps ≠ []) :
    pieces (['/'].intercalate ps) = ps := by
  rw [pieces_eq_splitOn, List.splitOn_intercalate '/' hslash hne]

theorem no_slash_of_mem_pieces {cs piece : List Char} (h : piece ∈ pieces cs) : '/' ∉ piece := by
  induction cs generalizing piece with
  | nil =>
    rw [List.mem_singleton.mp h]
    exact List.not_mem_nil
  | cons c rest ih =>
    unfold pieces at h
    split at h
    · rcases List.mem_cons.mp h with heq | hmem
      · rw [heq]
        exact List.not_mem_nil
      · exact ih hmem
    · rename_i hslash
      split at h
      · rw [List.mem_singleton.mp h]
        simpa using Ne.symm hslash
      · rename_i first others hrest
        rcases List.mem_cons.mp h with heq | hmem
        · have hfirst := ih (hrest ▸ List.mem_cons_self)
          rw [heq]
          simpa [Ne.symm hslash] using hfirst
        · exact ih (hrest ▸ List.mem_cons_of_mem first hmem)

/-- Fewer pieces are joined to fewer characters. -/
theorem join_sublist {ps qs : List (List Char)} (h : ps.Sublist qs) :
    (['/'].intercalate ps).Sublist (['/'].intercalate qs) := by
  induction h with
  | slnil => exact List.Sublist.refl _
  | @cons ps qs piece hsub ih =>
    cases qs with
    | nil =>
      rw [List.sublist_nil.mp hsub]
      exact List.nil_sublist _
    | cons other rest =>
      rw [List.intercalate_cons_cons]
      exact ih.trans (List.sublist_append_right _ _)
  | @cons_cons ps qs piece hsub ih =>
    cases ps with
    | nil =>
      cases qs with
      | nil => exact List.Sublist.refl _
      | cons other rest =>
        rw [List.intercalate_singleton, List.intercalate_cons_cons, List.append_assoc]
        exact List.sublist_append_left _ _
    | cons first others =>
      cases qs with
      | nil => exact absurd (List.sublist_nil.mp hsub) (List.cons_ne_nil _ _)
      | cons other rest =>
        rw [List.intercalate_cons_cons, List.intercalate_cons_cons]
        exact (List.Sublist.refl _).append ih

def walked (cs : List Char) : List (List Char) :=
  (pieces cs).filter fun piece => !piece.isEmpty

/-- Pieces without the dots, which lead nowhere, and without empty ones. -/
def stripped (ps : List (List Char)) : List (List Char) :=
  ps.filter fun piece => (partOf? piece).isSome

theorem partOf?_text {piece : List Char} {part : Part} (h : partOf? piece = some part) :
    part.text.toList = piece := by
  unfold partOf? at h
  split at h
  · exact absurd h (by simp)
  · split at h
    · rename_i hup
      cases h
      exact hup.symm
    · cases h
      exact String.toList_ofList

theorem partOf?_name {piece : List Char} (hempty : piece ≠ []) (hdot : piece ≠ ['.'])
    (hup : piece ≠ ['.', '.']) : partOf? piece = some (.name (String.ofList piece)) := by
  simp [partOf?, hempty, hdot, hup]

theorem texts_filterMap (ps : List (List Char)) :
    (ps.filterMap partOf?).map (fun part => part.text.toList) = stripped ps := by
  induction ps with
  | nil => rfl
  | cons piece rest ih =>
    cases hpart : partOf? piece with
    | none => simpa [stripped, hpart] using ih
    | some part => simpa [stripped, hpart, partOf?_text hpart] using ih

theorem stripped_nonempty (ps : List (List Char)) :
    stripped (ps.filter fun piece => !piece.isEmpty) = stripped ps := by
  rw [stripped, stripped, List.filter_filter]
  refine List.filter_congr ?_
  intro piece _
  cases piece with
  | nil => rfl
  | cons c others => simp

theorem filterMap_stripped (ps : List (List Char)) :
    (stripped ps).filterMap partOf? = ps.filterMap partOf? := by
  induction ps with
  | nil => rfl
  | cons piece rest ih =>
    cases hpart : partOf? piece with
    | none => simpa [stripped, hpart] using ih
    | some part => simpa [stripped, hpart] using ih

theorem filterMap_walked (cs : List Char) :
    (walked cs).filterMap partOf? = (pieces cs).filterMap partOf? := by
  rw [← filterMap_stripped, walked, stripped_nonempty, filterMap_stripped]

theorem isAbsolute_iff (path : String) :
    isAbsolute path = true ↔ ∃ piece rest, pieces path.toList = [] :: piece :: rest := by
  have hjoin := join_pieces path.toList
  unfold isAbsolute
  constructor
  · intro habsolute
    cases hchars : path.toList with
    | nil =>
      rw [hchars] at habsolute
      exact absurd habsolute (by decide)
    | cons c rest =>
      rw [hchars] at habsolute
      have hc : c = '/' := by simpa using habsolute
      cases hrest : pieces rest with
      | nil =>
        rw [pieces_eq_splitOn] at hrest
        exact absurd hrest (List.splitOn_ne_nil _ _)
      | cons piece others => exact ⟨piece, others, by rw [pieces, if_pos hc, hrest]⟩
  · rintro ⟨piece, rest, hpieces⟩
    rw [hpieces, List.intercalate_cons_cons] at hjoin
    rw [← hjoin]
    rfl

inductive Lead (path : String) : List Part → Prop where
  | root : isAbsolute path = true → Lead path [.root]
  | here : isAbsolute path = false → Lead path [.here]
  | none : isAbsolute path = false → Lead path []

theorem parts_eq (path : String) : ∃ lead, Lead path lead ∧
    parts path = lead ++ (walked path.toList).filterMap partOf? ∧
    (lead.map (fun part => part.text.toList) ++ stripped (pieces path.toList)).Sublist
      (pieces path.toList) := by
  have hstripped (ps : List (List Char)) : (stripped ps).Sublist ps := List.filter_sublist
  have hempty : partOf? [] = none := rfl
  have hdot : partOf? ['.'] = none := rfl
  have habsolute := isAbsolute_iff path
  rw [filterMap_walked]
  unfold parts
  split
  · rename_i hpieces
    rw [hpieces] at habsolute ⊢
    exact ⟨[], .none (by simpa using habsolute), rfl, List.Sublist.refl _⟩
  · rename_i hpieces
    rw [hpieces] at habsolute ⊢
    exact ⟨[], .none (by simpa using habsolute), rfl, List.nil_sublist _⟩
  · rename_i rest hmore hpieces
    rw [hpieces] at habsolute ⊢
    obtain ⟨piece, others, rfl⟩ := List.exists_cons_of_ne_nil hmore
    refine ⟨[.root], .root (habsolute.mpr ⟨piece, others, rfl⟩), by simp [hempty], ?_⟩
    simp [stripped, hempty, Part.text]
  · rename_i rest hpieces
    rw [hpieces] at habsolute ⊢
    refine ⟨[.here], .here (by simpa using habsolute), by simp [hdot], ?_⟩
    simp [stripped, hdot, Part.text]
  · rename_i _ _ hslash _
    have hrelative : isAbsolute path = false := by
      rw [Bool.eq_false_iff, Ne, habsolute]
      rintro ⟨piece, rest, hpieces⟩
      exact hslash _ hpieces
    exact ⟨[], .none hrelative, rfl, hstripped _⟩

/-- The parent of a path that ends in a name. -/
structure IsParent (path parent : String) (dirs : List (List Char)) : Prop where
  sublist : parent.toList.Sublist path.toList
  absolute : isAbsolute parent = isAbsolute path
  walk : stripped (walked parent.toList) = stripped dirs

theorem stripped_walked_of_pieces {path : String} {ps : List (List Char)}
    (h : pieces path.toList = ps) : stripped (walked path.toList) = stripped ps := by
  rw [walked, h, stripped_nonempty]

theorem stripped_append (ps qs : List (List Char)) :
    stripped (ps ++ qs) = stripped ps ++ stripped qs := by
  rw [stripped, List.filter_append]
  rfl

theorem stripped_stripped (ps : List (List Char)) : stripped (stripped ps) = stripped ps := by
  rw [stripped, stripped, List.filter_filter]
  simp only [Bool.and_self]

theorem stripped_lead {path : String} {lead : List Part} (h : Lead path lead) :
    stripped (lead.map fun part => part.text.toList) = [] := by
  cases h with
  | root => rfl
  | here => rfl
  | none => rfl

theorem toList_ofParts {ps : List Part} (hroot : ps ≠ [.root]) :
    (ofParts ps).toList = ['/'].intercalate (ps.map fun part => part.text.toList) := by
  unfold ofParts
  split
  · exact absurd rfl hroot
  · rw [String.toList_intercalate, List.map_map]
    rfl

theorem pieces_ofParts {ps : List Part} (hslash : ∀ part ∈ ps, '/' ∉ part.text.toList)
    (hne : ps ≠ []) (hroot : ps ≠ [.root]) :
    pieces (ofParts ps).toList = ps.map fun part => part.text.toList := by
  rw [toList_ofParts hroot]
  refine pieces_join ?_ (by simpa using hne)
  intro piece hmem
  obtain ⟨part, hpart, rfl⟩ := List.mem_map.mp hmem
  exact hslash part hpart

theorem ofParts_pieces {front : List Part} {path : String}
    (hsub : (front.map fun part => part.text.toList).Sublist (pieces path.toList))
    (hne : front ≠ []) (hroot : front ≠ [.root]) :
    pieces (ofParts front).toList = front.map (fun part => part.text.toList) ∧
      (ofParts front).toList.Sublist path.toList := by
  constructor
  · refine pieces_ofParts ?_ hne hroot
    intro part hmem
    exact no_slash_of_mem_pieces (hsub.subset (List.mem_map_of_mem hmem))
  · have hjoined := join_sublist hsub
    rw [join_pieces] at hjoined
    rw [toList_ofParts hroot]
    exact hjoined

theorem isParent_root {path : String} (habsolute : isAbsolute path = true)
    {dirs : List (List Char)} (hdirs : stripped dirs = []) : IsParent path "/" dirs where
  sublist := by
    unfold isAbsolute at habsolute
    cases hchars : path.toList with
    | nil =>
      rw [hchars] at habsolute
      exact absurd habsolute (by decide)
    | cons c rest =>
      rw [hchars] at habsolute
      have hc : c = '/' := by simpa using habsolute
      rw [hc]
      exact (List.nil_sublist rest).cons_cons '/'
  absolute := by
    rw [habsolute]
    decide
  walk := by
    rw [hdirs]
    decide

theorem nil_not_mem_stripped (ps : List (List Char)) : [] ∉ stripped ps := by
  intro hmem
  exact absurd (List.mem_filter.mp hmem).2 (by decide)

theorem isParent_of_lead {path : String} {lead rest : List Part} {dirs : List (List Char)}
    (hlead : Lead path lead) (hrest : rest.map (fun part => part.text.toList) = stripped dirs)
    (hsub : ((lead ++ rest).map fun part => part.text.toList).Sublist (pieces path.toList))
    (hne : lead ++ rest ≠ []) (hroot : lead ++ rest ≠ [.root]) :
    IsParent path (ofParts (lead ++ rest)) dirs := by
  obtain ⟨hpieces, hsublist⟩ := ofParts_pieces hsub hne hroot
  rw [List.map_append, hrest] at hpieces
  have hwalk : stripped (walked (ofParts (lead ++ rest)).toList) = stripped dirs := by
    rw [stripped_walked_of_pieces hpieces, stripped_append, stripped_lead hlead,
      List.nil_append, stripped_stripped]
  refine ⟨hsublist, ?_, hwalk⟩
  have habsolute := isAbsolute_iff (ofParts (lead ++ rest))
  rw [hpieces] at habsolute
  cases hlead with
  | root hpath =>
    rw [hpath, habsolute, ← hrest]
    cases rest with
    | nil => exact absurd rfl hroot
    | cons part others => exact ⟨_, _, rfl⟩
  | here hpath =>
    rw [hpath, Bool.eq_false_iff, Ne, habsolute]
    rintro ⟨piece, others, heq⟩
    exact absurd (List.cons.inj heq).1 (by decide)
  | none hpath =>
    rw [hpath, Bool.eq_false_iff, Ne, habsolute]
    rintro ⟨piece, others, heq⟩
    have hmem : [] ∈ stripped dirs := by
      rw [List.map_nil, List.nil_append] at heq
      rw [heq]
      exact List.mem_cons_self
    exact nil_not_mem_stripped dirs hmem

theorem parent?_named {path : String} {dirs : List (List Char)} {last : List Char}
    (hwalked : walked path.toList = dirs ++ [last])
    (hlast : partOf? last = some (.name (String.ofList last))) :
    ∃ parent, parent? path = some parent ∧ (parent = "" ∨ IsParent path parent dirs) := by
  obtain ⟨lead, hlead, hparts, hsub⟩ := parts_eq path
  have hfilter : (walked path.toList).filterMap partOf? =
      dirs.filterMap partOf? ++ [.name (String.ofList last)] := by
    simp [hwalked, hlast]
  rw [hfilter, ← List.append_assoc] at hparts
  have hparent : parent? path = some (ofParts (lead ++ dirs.filterMap partOf?)) := by
    unfold parent?
    split
    · rename_i hnil
      rw [hnil] at hparts
      exact absurd hparts.symm (by simp)
    · rename_i hroot
      have hname := congrArg List.getLast? (hroot.symm.trans hparts)
      simp at hname
    · rw [hparts, List.dropLast_concat]
  have hrest := texts_filterMap dirs
  have hfront : ((lead ++ dirs.filterMap partOf?).map fun part => part.text.toList).Sublist
      (pieces path.toList) := by
    have hdirs : stripped (pieces path.toList) = stripped dirs ++ stripped [last] := by
      rw [← stripped_append, ← hwalked, walked, stripped_nonempty]
    refine List.Sublist.trans ?_ hsub
    rw [List.map_append, hrest, hdirs, ← List.append_assoc]
    exact List.sublist_append_left _ _
  refine ⟨_, hparent, ?_⟩
  by_cases hne : lead ++ dirs.filterMap partOf? = []
  · rw [hne]
    exact .inl rfl
  · refine .inr ?_
    by_cases hroot : lead ++ dirs.filterMap partOf? = [.root]
    · rw [hroot]
      cases hlead with
      | root hpath =>
        have hnone : dirs.filterMap partOf? = [] := (List.cons.inj hroot).2
        rw [hnone] at hrest
        exact isParent_root hpath hrest.symm
      | here hpath => exact absurd (List.cons.inj hroot).1 (by decide)
      | none hpath =>
        rw [List.nil_append] at hroot
        rw [hroot] at hrest
        have hmem : [] ∈ stripped dirs := hrest ▸ List.mem_cons_self
        exact absurd hmem (nil_not_mem_stripped dirs)
    · exact isParent_of_lead hlead hrest hfront hne hroot

end VehicleMarket.Path
