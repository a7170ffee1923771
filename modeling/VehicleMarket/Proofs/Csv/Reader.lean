import VehicleMarket.Csv.Writer

/-!
A reader of comma-separated values in the form of RFC 4180, and what it makes of written rows. A row
ends at a line feed, with or without a carriage return in front of it; a cell either holds none of
the four special characters or stands between quotes, where every quote is doubled. The reader takes
one character after the other and turns away what is not of this form.
-/
namespace VehicleMarket.Csv

/-- Where in a cell the reader is: before it, in one without quotes, in one between quotes, behind
a quote that ends it or begins a doubled one, or behind a carriage return that ends it. -/
inductive Place where
  | before
  | bare
  | quoted
  | closed
  | returned
  deriving DecidableEq, Repr

/-- What has been read: whole rows, whole cells of the next row, and characters of the next cell. -/
structure Reading where
  rows : List (List String)
  cells : List String
  cell : List Char
  place : Place
  deriving DecidableEq, Repr

namespace Reading

def ofRows (rows : List (List String)) : Reading :=
  ⟨rows, [], [], .before⟩

def endCell (reading : Reading) : Reading :=
  { reading with
    cells := reading.cells ++ [String.ofList reading.cell]
    cell := []
    place := .before }

def endRow (reading : Reading) : Reading :=
  ofRows (reading.rows ++ [reading.endCell.cells])

def add (reading : Reading) (c : Char) (place : Place) : Reading :=
  { reading with cell := reading.cell ++ [c], place }

def takeBare (reading : Reading) (c : Char) : Reading :=
  if c = ',' then reading.endCell
  else if c = '\n' then reading.endRow
  else if c = '\r' then { reading with place := .returned }
  else reading.add c .bare

def step (reading : Reading) (c : Char) : Option Reading :=
  match reading.place with
  | .before =>
    if c = '"' then some { reading with place := .quoted } else some (reading.takeBare c)
  | .bare => if c = '"' then none else some (reading.takeBare c)
  | .quoted =>
    if c = '"' then some { reading with place := .closed } else some (reading.add c .quoted)
  | .closed =>
    if c = '"' then some (reading.add c .quoted)
    else if c = ',' || c = '\n' || c = '\r' then some (reading.takeBare c)
    else none
  | .returned => if c = '\n' then some reading.endRow else none

/-- The rows, once there is nothing more to read. The last row may lack its line feed. -/
def finish (reading : Reading) : Option (List (List String)) :=
  match reading.place with
  | .before => if reading.cells = [] then some reading.rows else some reading.endRow.rows
  | .bare | .closed => some reading.endRow.rows
  | .quoted | .returned => none

end Reading

def read (text : String) : Option (List (List String)) :=
  (text.toList.foldlM Reading.step (Reading.ofRows [])).bind Reading.finish

/-! ## Cells -/

section Cell

open Reading

variable {reading : Reading} {text rest : List Char} {ending : Char}

theorem takeBare_ending {other : Reading} (hend : ending = ',' ∨ ending = '\n')
    (hrows : reading.rows = other.rows) (hcells : reading.cells = other.cells)
    (hcell : reading.cell = other.cell) : reading.takeBare ending = other.takeBare ending := by
  rcases hend with rfl | rfl
  · simp [takeBare, endCell, hrows, hcells, hcell]
  · simp [takeBare, endRow, endCell, hrows, hcells, hcell]

theorem takeBare_of_plain {c : Char} (h : isSpecial c = false) :
    reading.takeBare c = reading.add c .bare := by
  simp only [isSpecial, Bool.or_eq_false_iff, decide_eq_false_iff_not] at h
  obtain ⟨⟨⟨hcomma, _⟩, hreturn⟩, hfeed⟩ := h
  rw [takeBare, if_neg hcomma, if_neg hfeed, if_neg hreturn]

theorem step_open {c : Char} (hplace : reading.place = .before ∨ reading.place = .bare)
    (hc : c ≠ '"') : reading.step c = some (reading.takeBare c) := by
  rcases hplace with hplace | hplace
  · rw [step, hplace]
    exact if_neg hc
  · rw [step, hplace]
    exact if_neg hc

theorem read_bare (hend : ending = ',' ∨ ending = '\n')
    (hplace : reading.place = .before ∨ reading.place = .bare)
    (hplain : ∀ c ∈ text, isSpecial c = false) :
    (text ++ ending :: rest).foldlM step reading =
      rest.foldlM step ({ reading with cell := reading.cell ++ text }.takeBare ending) := by
  induction text generalizing reading with
  | nil =>
    have hquote : ending ≠ '"' := by
      rcases hend with rfl | rfl <;> decide
    rw [List.nil_append, List.foldlM_cons, step_open hplace hquote, List.append_nil]
    rfl
  | cons c text ih =>
    have hc := hplain c List.mem_cons_self
    have hquote : c ≠ '"' := by
      rintro rfl
      exact absurd hc (by decide)
    rw [List.cons_append, List.foldlM_cons, step_open hplace hquote, takeBare_of_plain hc,
      Option.bind_eq_bind, Option.bind_some,
      ih (.inr rfl) fun d hd => hplain d (List.mem_cons_of_mem c hd)]
    rw [add, List.append_assoc, List.singleton_append]
    exact congrArg (List.foldlM step · rest) (takeBare_ending hend rfl rfl rfl)

theorem read_quoted (hend : ending = ',' ∨ ending = '\n') (hplace : reading.place = .quoted) :
    (text.flatMap doubled ++ '"' :: ending :: rest).foldlM step reading =
      rest.foldlM step ({ reading with cell := reading.cell ++ text }.takeBare ending) := by
  induction text generalizing reading with
  | nil =>
    have hclose : reading.step '"' = some { reading with place := .closed } := by
      rw [step, hplace]
      rfl
    have hstep : Reading.step { reading with place := .closed } ending =
        some (reading.takeBare ending) := by
      rcases hend with rfl | rfl <;> rfl
    rw [List.flatMap_nil, List.nil_append, List.foldlM_cons, hclose, Option.bind_eq_bind,
      Option.bind_some, List.foldlM_cons, hstep, List.append_nil]
    rfl
  | cons c text ih =>
    have hnext : (text.flatMap doubled ++ '"' :: ending :: rest).foldlM step
        (reading.add c .quoted) = _ := ih rfl
    have hcell : (reading.add c .quoted).cell ++ text = reading.cell ++ c :: text := by
      rw [add, List.append_assoc, List.singleton_append]
    rw [hcell] at hnext
    rw [List.flatMap_cons, List.append_assoc]
    refine Eq.trans ?_ (hnext.trans
      (congrArg (List.foldlM step · rest) (takeBare_ending hend rfl rfl rfl)))
    by_cases hquote : c = '"'
    · subst hquote
      have hopen : reading.step '"' = some { reading with place := .closed } := by
        rw [step, hplace]
        rfl
      rw [doubled, if_pos rfl]
      simp only [List.cons_append, List.nil_append, List.foldlM_cons, hopen, Option.bind_eq_bind,
        Option.bind_some]
      rfl
    · have hstep : reading.step c = some (reading.add c .quoted) := by
        rw [step, hplace]
        exact if_neg hquote
      rw [doubled, if_neg hquote, List.singleton_append, List.foldlM_cons, hstep]
      rfl

theorem read_field (hend : ending = ',' ∨ ending = '\n') (hplace : reading.place = .before)
    (hcell : reading.cell = []) :
    (field text ++ ending :: rest).foldlM step reading =
      rest.foldlM step ({ reading with cell := text }.takeBare ending) := by
  have hstart : reading.cell ++ text = text := by rw [hcell, List.nil_append]
  unfold field
  split
  · have hopen : reading.step '"' = some { reading with place := .quoted } := by
      rw [step, hplace]
      rfl
    rw [List.cons_append, List.cons_append, List.foldlM_cons, hopen, Option.bind_eq_bind,
      Option.bind_some, List.append_assoc, List.singleton_append, read_quoted hend rfl]
    dsimp only
    rw [hstart]
    exact congrArg (List.foldlM step · rest) (takeBare_ending hend rfl rfl rfl)
  · rename_i hplain
    have hnone : ∀ c ∈ text, isSpecial c = false := by
      simpa using hplain
    rw [read_bare hend (.inl hplace) hnone, hstart]

end Cell

/-! ## Rows -/

theorem read_row (rows : List (List String)) (done : List String) {cells : List String}
    (h : cells ≠ []) (rest : List Char) :
    (row (cells.map String.toList) ++ rest).foldlM Reading.step ⟨rows, done, [], .before⟩ =
      rest.foldlM Reading.step (.ofRows (rows ++ [done ++ cells])) := by
  induction cells generalizing done with
  | nil => exact absurd rfl h
  | cons cell others ih =>
    cases others with
    | nil =>
      rw [List.map_cons, List.map_nil, row, List.append_assoc, List.singleton_append,
        read_field (.inr rfl) rfl rfl]
      simp [Reading.takeBare, Reading.endRow, Reading.endCell]
    | cons next others =>
      rw [List.map_cons, List.map_cons, row, List.append_assoc, List.cons_append,
        read_field (.inl rfl) rfl rfl]
      have hcell : Reading.takeBare ⟨rows, done, cell.toList, .before⟩ ',' =
          ⟨rows, done ++ [cell], [], .before⟩ := by
        simp [Reading.takeBare, Reading.endCell]
      dsimp only
      rw [hcell, ← List.map_cons, ih (done ++ [cell]) (List.cons_ne_nil next others),
        List.append_assoc, List.singleton_append]

theorem read_rows (before rows : List (List String)) (h : ∀ cells ∈ rows, cells ≠ []) :
    (rows.flatMap fun cells => row (cells.map String.toList)).foldlM Reading.step
      (.ofRows before) = some (.ofRows (before ++ rows)) := by
  induction rows generalizing before with
  | nil =>
    rw [List.append_nil]
    rfl
  | cons cells rows ih =>
    rw [List.flatMap_cons, Reading.ofRows,
      read_row before [] (h cells List.mem_cons_self), List.nil_append,
      ih _ fun other hother => h other (List.mem_cons_of_mem cells hother), List.append_assoc,
      List.singleton_append]

/-- Whatever commas, quotes and line ends are in the cells, written rows are read as they were. -/
theorem read_render {rows : List (List String)} (h : ∀ cells ∈ rows, cells ≠ []) :
    read (render rows) = some rows := by
  rw [read, render, String.toList_ofList, read_rows [] rows h]
  rfl

end VehicleMarket.Csv
