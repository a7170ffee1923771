import VehicleMarket.Proofs.Storage.Path

/-!
Paths that are made of parts. The parts of a path, written one after the other, are a path with
these parts; and a name that is joined to a path comes after the parts of that path.
-/
namespace VehicleMarket.Path

/-- A part that is read back from its text wherever it stands: a name, or two dots. -/
structure Part.Ordinary (part : Part) : Prop where
  read_back : partOf? part.text.toList = some part
  no_slash : '/' ∉ part.text.toList

/-- What may stand in front of the ordinary parts of a path: a root, a dot, or nothing. -/
def IsLead (lead : List Part) : Prop :=
  lead = [] ∨ lead = [.root] ∨ lead = [.here]

structure WellFormed (ps lead rest : List Part) : Prop where
  parts : ps = lead ++ rest
  lead : IsLead lead
  rest : ∀ part ∈ rest, part.Ordinary

theorem Part.Ordinary.text_ne_nil {part : Part} (h : part.Ordinary) : part.text.toList ≠ [] := by
  intro hnil
  have hread := h.read_back
  rw [hnil] at hread
  simp [partOf?] at hread

theorem Part.Ordinary.text_ne_dot {part : Part} (h : part.Ordinary) : part.text.toList ≠ ['.'] := by
  intro hdot
  have hread := h.read_back
  rw [hdot] at hread
  simp [partOf?] at hread

theorem Part.Ordinary.ne_root {part : Part} (h : part.Ordinary) : part ≠ .root := by
  rintro rfl
  exact h.text_ne_nil rfl

theorem ordinary_of_mem_filterMap {ps : List (List Char)} {part : Part}
    (hslash : ∀ piece ∈ ps, '/' ∉ piece) (h : part ∈ ps.filterMap partOf?) : part.Ordinary := by
  obtain ⟨piece, hmem, hpart⟩ := List.mem_filterMap.mp h
  have htext := partOf?_text hpart
  refine ⟨?_, ?_⟩
  · rw [htext]
    exact hpart
  · rw [htext]
    exact hslash piece hmem

theorem exists_wellFormed (path : String) : ∃ lead rest, WellFormed (parts path) lead rest := by
  obtain ⟨lead, hlead, hparts, -⟩ := parts_eq path
  refine ⟨lead, _, hparts, ?_, ?_⟩
  · cases hlead with
    | root => exact .inr (.inl rfl)
    | here => exact .inr (.inr rfl)
    | none => exact .inl rfl
  · intro part hmem
    refine ordinary_of_mem_filterMap ?_ hmem
    intro piece hpiece
    exact no_slash_of_mem_pieces (List.mem_filter.mp hpiece).1

theorem filterMap_texts {rest : List Part} (h : ∀ part ∈ rest, part.Ordinary) :
    (rest.map fun part => part.text.toList).filterMap partOf? = rest := by
  induction rest with
  | nil => rfl
  | cons part rest ih =>
    rw [List.map_cons, List.filterMap_cons_some (h part List.mem_cons_self).read_back,
      ih fun other hmem => h other (List.mem_cons_of_mem part hmem)]

/-! ## Parts that are written and read again -/

theorem parts_of_pieces_root {path : String} {ps : List (List Char)} (hne : ps ≠ [])
    (h : pieces path.toList = [] :: ps) : parts path = .root :: ps.filterMap partOf? := by
  unfold parts
  rw [h]
  cases ps with
  | nil => exact absurd rfl hne
  | cons piece ps => rfl

theorem parts_of_pieces_here {path : String} {ps : List (List Char)}
    (h : pieces path.toList = ['.'] :: ps) : parts path = .here :: ps.filterMap partOf? := by
  unfold parts
  rw [h]
  rfl

theorem parts_of_pieces {path : String} {piece : List Char} {ps : List (List Char)}
    (hempty : piece ≠ []) (hdot : piece ≠ ['.']) (h : pieces path.toList = piece :: ps) :
    parts path = (piece :: ps).filterMap partOf? := by
  unfold parts
  rw [h]
  split
  · rename_i heq
    exact absurd heq (by simp)
  · rename_i heq
    exact absurd (List.cons.inj heq).1 hempty
  · rename_i heq
    exact absurd (List.cons.inj heq).1 hempty
  · rename_i heq
    exact absurd (List.cons.inj heq).1 hdot
  · rfl

theorem parts_ofParts {ps lead rest : List Part} (h : WellFormed ps lead rest) :
    parts (ofParts ps) = ps := by
  obtain ⟨rfl, hlead, hrest⟩ := h
  have hread := filterMap_texts hrest
  have hslash (front : List Part) (hfront : ∀ part ∈ front, '/' ∉ part.text.toList) :
      ∀ part ∈ front ++ rest, '/' ∉ part.text.toList := by
    intro part hmem
    rcases List.mem_append.mp hmem with hmem | hmem
    · exact hfront part hmem
    · exact (hrest part hmem).no_slash
  rcases hlead with rfl | rfl | rfl
  · cases rest with
    | nil => decide
    | cons part rest =>
      have hpart := hrest part List.mem_cons_self
      have hpieces := pieces_ofParts (hslash [] (by simp)) (by simp)
        (fun heq => hpart.ne_root (List.cons.inj heq).1)
      rw [List.nil_append, List.map_cons] at hpieces
      rw [List.nil_append, parts_of_pieces hpart.text_ne_nil hpart.text_ne_dot hpieces]
      exact hread
  · cases rest with
    | nil => decide
    | cons part rest =>
      have hpieces := pieces_ofParts (hslash [.root] (by decide)) (by simp) (by simp)
      rw [parts_of_pieces_root (by simp) hpieces]
      exact congrArg _ hread
  · have hpieces := pieces_ofParts (hslash [.here] (by decide)) (by simp) (by simp)
    rw [parts_of_pieces_here hpieces]
    exact congrArg _ hread

/-! ## Joining a name to a path -/

theorem intercalate_concat {ps : List (List Char)} (hne : ps ≠ []) (piece : List Char) :
    ['/'].intercalate (ps ++ [piece]) = ['/'].intercalate ps ++ '/' :: piece := by
  induction ps with
  | nil => exact absurd rfl hne
  | cons first others ih =>
    cases others with
    | nil => simp [List.intercalate_cons_cons]
    | cons second others =>
      rw [List.cons_append, List.cons_append, List.intercalate_cons_cons, ← List.cons_append,
        ih (List.cons_ne_nil _ _), List.intercalate_cons_cons]
      simp only [List.append_assoc]

theorem isAbsolute_of_no_slash {text : String} (h : '/' ∉ text.toList) :
    isAbsolute text = false := by
  unfold isAbsolute
  cases htext : text.toList with
  | nil => rfl
  | cons c rest =>
    have hc : c ≠ '/' := by
      rintro rfl
      exact h (htext ▸ List.mem_cons_self)
    simpa using hc

theorem toList_join {base text : String} {c : Char} (hrelative : isAbsolute text = false)
    (hlast : base.toList.getLast? = some c) (hc : c ≠ '/') :
    (join base text).toList = base.toList ++ '/' :: text.toList := by
  unfold join
  rw [if_neg (by simp [hrelative])]
  split
  · rename_i hnone
    rw [hlast] at hnone
    exact absurd hnone (by simp)
  · rename_i hslash
    rw [hlast] at hslash
    exact absurd (Option.some.inj hslash) hc
  · simp

theorem getLast?_intercalate {ps : List (List Char)} {piece : List Char} (hne : piece ≠ []) :
    (['/'].intercalate (ps ++ [piece])).getLast? = piece.getLast? := by
  obtain ⟨front, c, rfl⟩ := (List.eq_nil_or_concat piece).resolve_left hne
  by_cases hps : ps = []
  · rw [hps, List.nil_append, List.intercalate_singleton]
  · rw [intercalate_concat hps, List.concat_eq_append, ← List.cons_append, ← List.append_assoc,
      List.getLast?_concat, List.getLast?_concat]

theorem WellFormed.last {ps lead rest : List Part} (h : WellFormed ps lead rest) (hne : ps ≠ [])
    (hroot : ps ≠ [.root]) :
    ∃ init last, ps = init ++ [last] ∧ last.text.toList ≠ [] ∧ '/' ∉ last.text.toList := by
  obtain ⟨rfl, hlead, hrest⟩ := h
  rcases List.eq_nil_or_concat rest with rfl | ⟨init, last, rfl⟩
  · rcases hlead with rfl | rfl | rfl
    · exact absurd rfl hne
    · exact absurd rfl hroot
    · exact ⟨[], .here, rfl, by decide, by decide⟩
  · have hlast := hrest last (by simp)
    refine ⟨lead ++ init, last, ?_, hlast.text_ne_nil, hlast.no_slash⟩
    rw [List.concat_eq_append, List.append_assoc]

theorem getLast?_ofParts {ps lead rest : List Part} (h : WellFormed ps lead rest) (hne : ps ≠ [])
    (hroot : ps ≠ [.root]) : ∃ c, (ofParts ps).toList.getLast? = some c ∧ c ≠ '/' := by
  obtain ⟨init, last, hps, htext, hslash⟩ := h.last hne hroot
  have hlast : (ofParts ps).toList.getLast? = last.text.toList.getLast? := by
    rw [toList_ofParts hroot, hps, List.map_append, List.map_singleton, getLast?_intercalate htext]
  rw [hlast, List.getLast?_eq_some_getLast htext]
  refine ⟨_, rfl, ?_⟩
  intro hc
  exact hslash (hc ▸ List.getLast_mem htext)

theorem join_ofParts {ps lead rest : List Part} {text : String} (h : WellFormed ps lead rest)
    (hne : ps ≠ []) (hname : (Part.name text).Ordinary) :
    join (ofParts ps) text = ofParts (ps ++ [.name text]) := by
  have hrelative : isAbsolute text = false := isAbsolute_of_no_slash hname.no_slash
  have hwritten : (ofParts (ps ++ [.name text])).toList =
      ['/'].intercalate (ps.map fun part => part.text.toList) ++ '/' :: text.toList := by
    have hmore : ps ++ [.name text] ≠ [.root] := by
      intro heq
      exact absurd (List.getLast?_concat ▸ congrArg List.getLast? heq) (by simp)
    rw [toList_ofParts hmore, List.map_append, List.map_singleton,
      intercalate_concat (by simpa using hne)]
    rfl
  apply String.toList_injective
  rw [hwritten]
  by_cases hroot : ps = [.root]
  · unfold join
    rw [if_neg (by simp [hrelative]), hroot]
    simp [ofParts, Part.text]
  · obtain ⟨c, hlast, hc⟩ := getLast?_ofParts h hne hroot
    rw [toList_join hrelative hlast hc, toList_ofParts hroot]

end VehicleMarket.Path
