import Mathlib.Data.List.Forall2
import VehicleMarket.Proofs.Text.Pattern
import VehicleMarket.Settings.Environment

/-!
The substitution of environment variables. A text is cut at the slots that stand furthest to the
left, and only one cut does that. What is put out is what the pieces of that cut stand for, one
after the other: a value is never looked into, and where no slot lies across a place in the text,
the parts before and after it are substituted each on its own.
-/
namespace VehicleMarket.Environment

open Text.Pattern (match?_isSome_iff takes_of_matchItems takes_nil_iff takes_one_iff takes_many_iff)

def slotText (name : List Char) : List Char :=
  '$' :: '{' :: (name ++ ['}'])

/-- A name runs on to the first closing brace, and there is something of it. -/
structure IsName (name : List Char) : Prop where
  ne_nil : name ≠ []
  no_brace : '}' ∉ name

def Piece.source : Piece → List Char
  | .plain c => [c]
  | .slot name => slotText name

def spelling (ps : List Piece) : List Char :=
  ps.flatMap Piece.source

def BeginsSlot (text : List Char) : Prop :=
  ∃ name rest, IsName name ∧ text = slotText name ++ rest

/-- A cut of a text at its leftmost slots: what is plain begins no slot. -/
structure IsCut (text : List Char) (ps : List Piece) : Prop where
  whole : spelling ps = text
  names : ∀ name, .slot name ∈ ps → IsName name
  leftmost : ∀ before c after, ps = before ++ .plain c :: after →
    ¬ BeginsSlot (spelling (.plain c :: after))

/-- What a piece is replaced by: a character by itself, the slot of a variable by its value, and a
slot whose name is not set by itself. -/
inductive Fills (environment : Environment) : Piece → List Char → Prop where
  | plain (c : Char) : Fills environment (.plain c) [c]
  | set {name : List Char} {value : String} :
      environment.value? (String.ofList name) = some value →
      Fills environment (.slot name) value.toList
  | unset {name : List Char} : environment.value? (String.ofList name) = none →
      Fills environment (.slot name) (slotText name)

/-- A slot begins before a place in the spelling of pieces and ends after it. -/
def Straddled (ps : List Piece) (place : Nat) : Prop :=
  ∃ before name after, ps = before ++ .slot name :: after ∧
    (spelling before).length < place ∧
    place < (spelling before).length + (slotText name).length

@[simp] theorem spelling_nil : spelling [] = [] :=
  rfl

@[simp] theorem spelling_plain (c : Char) (ps : List Piece) :
    spelling (.plain c :: ps) = c :: spelling ps :=
  rfl

@[simp] theorem spelling_slot (name : List Char) (ps : List Piece) :
    spelling (.slot name :: ps) = slotText name ++ spelling ps :=
  rfl

@[simp] theorem spelling_append (ps qs : List Piece) :
    spelling (ps ++ qs) = spelling ps ++ spelling qs :=
  List.flatMap_append

theorem slotText_append (name rest : List Char) :
    slotText name ++ rest = '$' :: '{' :: (name ++ '}' :: rest) := by
  simp [slotText]

theorem length_slotText (name : List Char) : (slotText name).length = name.length + 3 := by
  simp [slotText]

/-! ## The slot at the front of a text -/

theorem name_unique {name other rest more : List Char} (hname : '}' ∉ name) (hother : '}' ∉ other)
    (h : name ++ '}' :: rest = other ++ '}' :: more) : name = other ∧ rest = more := by
  induction name generalizing other with
  | nil =>
    cases other with
    | nil => exact ⟨rfl, (List.cons.inj h).2⟩
    | cons d other => exact absurd ((List.cons.inj h).1 ▸ List.mem_cons_self) hother
  | cons c name ih =>
    cases other with
    | nil => exact absurd ((List.cons.inj h).1 ▸ List.mem_cons_self) hname
    | cons d other =>
      obtain ⟨rfl, htail⟩ := List.cons.inj h
      obtain ⟨rfl, hrest⟩ := ih (fun hmem => hname (List.mem_cons_of_mem _ hmem))
        (fun hmem => hother (List.mem_cons_of_mem _ hmem)) htail
      exact ⟨rfl, hrest⟩

theorem takes_slotPattern {cs rest : List Char} {runs : List (List Char)} :
    Text.Pattern.Takes slotPattern.toEnd slotPattern.items cs runs rest ↔
      ∃ name, runs = [name] ∧ IsName name ∧ cs = slotText name ++ rest := by
  simp only [slotPattern, takes_many_iff, takes_one_iff, takes_nil_iff, beq_iff_eq, bne_iff_ne]
  constructor
  · rintro ⟨_, _, rfl, rfl, _, _, rfl, rfl, name, _, _, rfl, rfl, hne, hbrace, _, _, rfl, rfl,
      rfl, rfl, -⟩
    refine ⟨name, rfl, ⟨hne, fun hmem => hbrace _ hmem rfl⟩, ?_⟩
    rw [slotText_append]
  · rintro ⟨name, rfl, hname, rfl⟩
    rw [slotText_append]
    refine ⟨_, _, rfl, rfl, _, _, rfl, rfl, name, _, _, rfl, rfl, hname.ne_nil, ?_, _, _, rfl, rfl,
      rfl, rfl, fun h => absurd h Bool.false_ne_true⟩
    rintro c hc rfl
    exact hname.no_brace hc

theorem slot?_eq_some {cs name rest : List Char} :
    slot? cs = some (name, rest) ↔ IsName name ∧ cs = slotText name ++ rest := by
  have hsound {name rest : List Char} (h : slot? cs = some (name, rest)) :
      IsName name ∧ cs = slotText name ++ rest := by
    unfold slot? at h
    split at h
    · rename_i hmatch
      obtain ⟨rfl, rfl⟩ := Prod.mk.inj (Option.some.inj h)
      obtain ⟨name, hruns, hname, htext⟩ :=
        takes_slotPattern.mp (takes_of_matchItems hmatch)
      obtain rfl := List.singleton_inj.mp hruns
      exact ⟨hname, htext⟩
    · simp at h
  constructor
  · exact hsound
  · rintro ⟨hname, htext⟩
    have hsome : (slotPattern.match? cs).isSome :=
      match?_isSome_iff.mpr ⟨[name], rest, takes_slotPattern.mpr ⟨name, rfl, hname, htext⟩⟩
    obtain ⟨⟨runs, other⟩, hmatch⟩ := Option.isSome_iff_exists.mp hsome
    obtain ⟨found, rfl, hfound, hcs⟩ := takes_slotPattern.mp (takes_of_matchItems hmatch)
    have hslot : slot? cs = some (found, other) := by
      unfold slot?
      rw [hmatch]
    rw [htext, slotText_append, slotText_append] at hcs
    obtain ⟨rfl, rfl⟩ := name_unique hname.no_brace hfound.no_brace
      (List.cons.inj (List.cons.inj hcs).2).2
    exact hslot

theorem slot?_eq_none {cs : List Char} : slot? cs = none ↔ ¬ BeginsSlot cs := by
  rw [Option.eq_none_iff_forall_ne_some]
  constructor
  · rintro h ⟨name, rest, hname, htext⟩
    exact h (name, rest) (slot?_eq_some.mpr ⟨hname, htext⟩)
  · rintro h ⟨name, rest⟩ hslot
    exact h ⟨name, rest, slot?_eq_some.mp hslot⟩

theorem pieces_slot {name rest : List Char} (hname : IsName name) :
    pieces (slotText name ++ rest) = .slot name :: pieces rest := by
  have hslot : slot? (slotText name ++ rest) = some (name, rest) := slot?_eq_some.mpr ⟨hname, rfl⟩
  rw [slotText_append] at hslot ⊢
  rw [pieces]
  split
  · rename_i heq
    obtain ⟨rfl, rfl⟩ := Prod.mk.inj (Option.some.inj (hslot.symm.trans heq))
    rfl
  · rename_i heq
    rw [hslot] at heq
    exact absurd heq (by simp)

theorem pieces_plain {c : Char} {rest : List Char} (h : ¬ BeginsSlot (c :: rest)) :
    pieces (c :: rest) = .plain c :: pieces rest := by
  have hslot := slot?_eq_none.mpr h
  rw [pieces]
  split
  · rename_i heq
    rw [hslot] at heq
    exact absurd heq (by simp)
  · rfl

/-! ## The cut -/

theorem isCut_nil : IsCut [] [] where
  whole := rfl
  names name hmem := absurd hmem List.not_mem_nil
  leftmost before c after heq := absurd heq (by simp)

theorem IsCut.plain {c : Char} {rest : List Char} {ps : List Piece} (h : IsCut rest ps)
    (hfront : ¬ BeginsSlot (c :: rest)) : IsCut (c :: rest) (.plain c :: ps) where
  whole := by rw [spelling_plain, h.whole]
  names name hmem := by
    rcases List.mem_cons.mp hmem with heq | hmem
    · exact absurd heq (by simp)
    · exact h.names name hmem
  leftmost before d after heq := by
    cases before with
    | nil =>
      obtain ⟨hpiece, rfl⟩ := List.cons.inj heq
      obtain rfl := Piece.plain.inj hpiece
      rw [spelling_plain, h.whole]
      exact hfront
    | cons piece before => exact h.leftmost before d after (List.cons.inj heq).2

theorem IsCut.slot {name rest : List Char} {ps : List Piece} (h : IsCut rest ps)
    (hname : IsName name) : IsCut (slotText name ++ rest) (.slot name :: ps) where
  whole := by rw [spelling_slot, h.whole]
  names other hmem := by
    rcases List.mem_cons.mp hmem with heq | hmem
    · rw [Piece.slot.inj heq]
      exact hname
    · exact h.names other hmem
  leftmost before d after heq := by
    cases before with
    | nil => exact absurd (List.cons.inj heq).1 (by simp)
    | cons piece before => exact h.leftmost before d after (List.cons.inj heq).2

theorem IsCut.append_right {text : List Char} {ps qs : List Piece} (h : IsCut text (ps ++ qs)) :
    IsCut (spelling qs) qs where
  whole := rfl
  names name hmem := h.names name (List.mem_append_right _ hmem)
  leftmost before c after heq := by
    refine h.leftmost (ps ++ before) c after ?_
    rw [heq, List.append_assoc]

/-- The first pieces of a cut cut what stands before the others: a slot that begins there goes on
beginning when more text follows. -/
theorem IsCut.append_left {text : List Char} {ps qs : List Piece} (h : IsCut text (ps ++ qs)) :
    IsCut (spelling ps) ps where
  whole := rfl
  names name hmem := h.names name (List.mem_append_left _ hmem)
  leftmost before c after heq := by
    rintro ⟨name, rest, hname, hbegins⟩
    refine h.leftmost before c (after ++ qs) ?_ ⟨name, rest ++ spelling qs, hname, ?_⟩
    · rw [heq, List.append_assoc, List.cons_append]
    · rw [← List.cons_append, spelling_append, hbegins, List.append_assoc]

/-- By induction on the length of the text, along the slot or the character at its front. -/
theorem isCut_pieces (text : List Char) : IsCut text (pieces text) := by
  induction hlength : text.length using Nat.strongRecOn generalizing text with
  | _ length ih =>
    cases text with
    | nil =>
      rw [pieces]
      exact isCut_nil
    | cons c rest =>
      by_cases hbegins : BeginsSlot (c :: rest)
      · obtain ⟨name, after, hname, htext⟩ := hbegins
        rw [htext, pieces_slot hname]
        refine (ih after.length ?_ after rfl).slot hname
        rw [← hlength, htext, List.length_append, length_slotText]
        omega
      · rw [pieces_plain hbegins]
        refine (ih rest.length ?_ rest rfl).plain hbegins
        rw [← hlength, List.length_cons]
        omega

theorem IsCut.eq_pieces {text : List Char} {ps : List Piece} (h : IsCut text ps) :
    ps = pieces text := by
  induction ps generalizing text with
  | nil =>
    rw [← h.whole, spelling_nil, pieces]
  | cons piece ps ih =>
    have htail := ih (IsCut.append_right (show IsCut text ([piece] ++ ps) from h))
    cases piece with
    | plain c =>
      have hfront := h.leftmost [] c ps rfl
      rw [spelling_plain] at hfront
      rw [← h.whole, spelling_plain, pieces_plain hfront, ← htail]
    | slot name =>
      have hname := h.names name List.mem_cons_self
      rw [← h.whole, spelling_slot, pieces_slot hname, ← htail]

theorem spelling_pieces (text : List Char) : spelling (pieces text) = text :=
  (isCut_pieces text).whole

/-! ## Cutting a text in two -/

theorem exists_split {ps : List Piece} {place : Nat} (hbound : place ≤ (spelling ps).length)
    (h : ¬ Straddled ps place) :
    ∃ qs rs, ps = qs ++ rs ∧ (spelling qs).length = place := by
  induction ps generalizing place with
  | nil => exact ⟨[], [], rfl, (Nat.le_zero.mp hbound).symm⟩
  | cons piece ps ih =>
    by_cases hzero : place = 0
    · exact ⟨[], piece :: ps, rfl, hzero.symm⟩
    · have hpiece : piece.source.length ≤ place := by
        cases piece with
        | plain c => exact Nat.one_le_iff_ne_zero.mpr hzero
        | slot name =>
          by_contra hlong
          refine h ⟨[], name, ps, rfl, Nat.pos_of_ne_zero hzero, ?_⟩
          simpa [Piece.source] using hlong
      have hlength : (spelling (piece :: ps)).length =
          piece.source.length + (spelling ps).length := List.length_append
      obtain ⟨qs, rs, rfl, hqs⟩ := @ih (place - piece.source.length) (by omega) (by
        rintro ⟨before, name, after, rfl, hbefore, hafter⟩
        refine h ⟨piece :: before, name, after, rfl, ?_, ?_⟩
        · rw [show spelling (piece :: before) = piece.source ++ spelling before from rfl,
            List.length_append]
          omega
        · rw [show spelling (piece :: before) = piece.source ++ spelling before from rfl,
            List.length_append]
          omega)
      refine ⟨piece :: qs, rs, rfl, ?_⟩
      rw [show spelling (piece :: qs) = piece.source ++ spelling qs from rfl, List.length_append]
      omega

theorem pieces_append {front back : List Char}
    (h : ¬ Straddled (pieces (front ++ back)) front.length) :
    pieces (front ++ back) = pieces front ++ pieces back := by
  have hcut := isCut_pieces (front ++ back)
  obtain ⟨qs, rs, hsplit, hlength⟩ := exists_split (by simp [spelling_pieces]) h
  rw [hsplit] at hcut ⊢
  have hwhole := hcut.whole
  rw [spelling_append] at hwhole
  obtain ⟨hfront, hback⟩ := List.append_inj hwhole hlength
  have hqs := hcut.append_left.eq_pieces
  have hrs := hcut.append_right.eq_pieces
  rw [hfront] at hqs
  rw [hback] at hrs
  rw [← hqs, ← hrs]

/-! ## What is put out -/

variable (environment : Environment)

theorem fill_of_set {name : List Char} {value : String}
    (h : environment.value? (String.ofList name) = some value) :
    environment.fill (.slot name) = value.toList := by
  simp only [fill, h]

theorem fill_of_unset {name : List Char} (h : environment.value? (String.ofList name) = none) :
    environment.fill (.slot name) = slotText name := by
  simp only [fill, h]
  rfl

theorem fills_fill (piece : Piece) : Fills environment piece (environment.fill piece) := by
  cases piece with
  | plain c => exact .plain c
  | slot name =>
    cases hvalue : environment.value? (String.ofList name) with
    | some value =>
      rw [fill_of_set environment hvalue]
      exact .set hvalue
    | none =>
      rw [fill_of_unset environment hvalue]
      exact .unset hvalue

theorem toList_substitute (text : String) :
    (environment.substitute text).toList = (pieces text.toList).flatMap environment.fill :=
  String.toList_ofList

theorem substitute_of_unset {text : String}
    (h : ∀ name, .slot name ∈ pieces text.toList →
      environment.value? (String.ofList name) = none) :
    environment.substitute text = text := by
  have hfill : ∀ piece ∈ pieces text.toList, environment.fill piece = piece.source := by
    intro piece hmem
    cases piece with
    | plain c => rfl
    | slot name => exact fill_of_unset environment (h name hmem)
  apply String.toList_injective
  rw [toList_substitute, List.flatMap_congr hfill]
  exact spelling_pieces text.toList

theorem substitute_append {front back : String}
    (h : ¬ Straddled (pieces (front ++ back).toList) front.toList.length) :
    environment.substitute (front ++ back) =
      environment.substitute front ++ environment.substitute back := by
  rw [String.toList_append] at h
  apply String.toList_injective
  rw [String.toList_append, toList_substitute, toList_substitute, toList_substitute,
    String.toList_append, pieces_append h, List.flatMap_append]

/-- Every text has one cut at its leftmost slots, and what is put out for it is what the pieces of
the cut are replaced by, one after the other. Where no variable is set the text stays as it is, and
where no slot lies across the end of a front part, the part and what follows it are substituted each
on its own. -/
theorem substituted_in_one_pass (content : String) :
    ∃ ps, IsCut content.toList ps ∧ (∀ qs, IsCut content.toList qs → qs = ps) ∧
      (∃ texts, List.Forall₂ (Fills environment) ps texts ∧
        (environment.substitute content).toList = texts.flatten) ∧
      ((∀ name, .slot name ∈ ps → environment.value? (String.ofList name) = none) →
        environment.substitute content = content) ∧
      ∀ front back, content = front ++ back → ¬ Straddled ps front.toList.length →
        environment.substitute content =
          environment.substitute front ++ environment.substitute back := by
  refine ⟨pieces content.toList, isCut_pieces _, fun qs h => h.eq_pieces, ?_, ?_, ?_⟩
  · refine ⟨(pieces content.toList).map environment.fill, ?_, ?_⟩
    · rw [List.forall₂_map_right_iff, List.forall₂_same]
      exact fun piece _ => fills_fill environment piece
    · rw [toList_substitute, List.flatMap_def]
  · exact substitute_of_unset environment
  · rintro front back rfl hplace
    exact substitute_append environment hplace

/-- Markers in values stay, and so do slots that are empty, not closed or not set. -/
example : substitute [("A", "${B}$1"), ("B", "b"), ("$\x7bA", "c")]
    "${A}${}$\x7b${A}${C}$\x7bB" = "${B}$1${}c${C}$\x7bB" := by
  decide +kernel

end VehicleMarket.Environment
