import VehicleMarket.Text.Blank

/-!
Texts of lines. Lines that hold no end of a line, each ended by a line feed, are what the text of
them is divided into. Every text is divided in one way: at each line feed, which takes one carriage
return in front of it along; a carriage return elsewhere belongs to its line.
-/
namespace VehicleMarket.Text

structure OneLine (line : String) : Prop where
  noFeed : '\n' ∉ line.toList
  noReturn : '\r' ∉ line.toList

theorem splitLines_cons {line : List Char} (h : '\n' ∉ line) (rest : List Char) :
    splitLines (line ++ '\n' :: rest) = line :: splitLines rest := by
  induction line with
  | nil => simp [splitLines]
  | cons c line ih =>
    obtain ⟨hc, hline⟩ := not_or.mp (mt List.mem_cons.mpr h)
    have hrest := ih hline
    rw [List.cons_append, splitLines, if_neg (Ne.symm hc), hrest]

theorem splitLines_ended {ls : List (List Char)} (h : ∀ line ∈ ls, '\n' ∉ line) :
    splitLines (ls.flatMap fun line => line ++ ['\n']) = ls ++ [[]] := by
  induction ls with
  | nil => rfl
  | cons line ls ih =>
    obtain ⟨hline, hrest⟩ := List.forall_mem_cons.mp h
    rw [List.flatMap_cons, List.append_assoc, List.singleton_append, splitLines_cons hline,
      ih hrest, List.cons_append]

theorem dropReturn_eq {line : List Char} (h : '\r' ∉ line) : dropReturn line = line := by
  unfold dropReturn
  split
  · rename_i rest hreverse
    have hmem : '\r' ∈ line := by
      rw [← List.mem_reverse, hreverse]
      exact List.mem_cons_self
    exact absurd hmem h
  · rfl

theorem lines_join {ls : List String} (h : ∀ line ∈ ls, OneLine line) :
    lines (String.join (ls.map fun line => line ++ "\n")) = ls := by
  have htext : (String.join (ls.map fun line => line ++ "\n")).toList =
      (ls.map String.toList).flatMap fun line => line ++ ['\n'] := by
    rw [String.toList_join, List.flatMap_map, List.flatMap_map]
    simp
  have hfeeds : ∀ line ∈ ls.map String.toList, '\n' ∉ line := by
    intro line hmem
    obtain ⟨text, htext, rfl⟩ := List.mem_map.mp hmem
    exact (h text htext).noFeed
  have hreturns : ((ls.map String.toList).map dropReturn).map String.ofList = ls := by
    have hsame : ∀ line ∈ ls, String.ofList (dropReturn line.toList) = id line := by
      intro line hmem
      rw [dropReturn_eq (h line hmem).noReturn, String.ofList_toList, id]
    rw [List.map_map, List.map_map]
    exact (List.map_congr_left hsame).trans (List.map_id ls)
  simp only [lines, htext, splitLines_ended hfeeds, List.dropLast_concat, List.getLast?_concat]
  exact hreturns

/-! ## The one division of a text -/

/-- The lines of a text, each ended by a line feed or by a carriage return and a line feed. The last
one may lack its end, if it is not empty. -/
inductive Divided : List Char → List (List Char) → Prop where
  | nil : Divided [] []
  | last {line : List Char} : line ≠ [] → '\n' ∉ line → Divided line [line]
  | feed {line rest : List Char} {ls : List (List Char)} :
      '\n' ∉ line → line.getLast? ≠ some '\r' → Divided rest ls →
        Divided (line ++ '\n' :: rest) (line :: ls)
  | returnFeed {line rest : List Char} {ls : List (List Char)} :
      '\n' ∉ line → Divided rest ls → Divided (line ++ '\r' :: '\n' :: rest) (line :: ls)

def DividedInto (text : String) (ls : List String) : Prop :=
  Divided text.toList (ls.map String.toList)

theorem splitLines_ne_nil (cs : List Char) : splitLines cs ≠ [] := by
  induction cs with
  | nil => exact List.cons_ne_nil _ _
  | cons c rest ih =>
    unfold splitLines
    split
    · exact List.cons_ne_nil _ _
    · split
      · exact List.cons_ne_nil _ _
      · exact List.cons_ne_nil _ _

theorem splitLines_last {line : List Char} (h : '\n' ∉ line) : splitLines line = [line] := by
  induction line with
  | nil => rfl
  | cons c line ih =>
    obtain ⟨hc, hline⟩ := not_or.mp (mt List.mem_cons.mpr h)
    rw [splitLines, if_neg (Ne.symm hc), ih hline]

theorem dropReturn_of_last {line : List Char} (h : line.getLast? ≠ some '\r') :
    dropReturn line = line := by
  unfold dropReturn
  split
  · rename_i rest hreverse
    rw [List.getLast?_eq_head?_reverse, hreverse] at h
    exact absurd rfl h
  · rfl

theorem dropReturn_return (line : List Char) : dropReturn (line ++ ['\r']) = line := by
  simp [dropReturn]

theorem lines_ended {line : List Char} (h : '\n' ∉ line) (rest : List Char) :
    lines (String.ofList (line ++ '\n' :: rest)) =
      String.ofList (dropReturn line) :: lines (String.ofList rest) := by
  obtain ⟨first, others, hrest⟩ := List.exists_cons_of_ne_nil (splitLines_ne_nil rest)
  simp only [lines, String.toList_ofList, splitLines_cons h, hrest, List.dropLast_cons_cons,
    List.map_cons, List.getLast?_cons_cons]
  split
  · rfl
  · rfl
  · rfl

/-- A text is divided in no other way than into its lines. -/
theorem Divided.eq_lines {cs : List Char} {ls : List (List Char)} (h : Divided cs ls) :
    ls.map String.ofList = lines (String.ofList cs) := by
  induction h with
  | nil => rfl
  | @last line hne hfeed =>
    obtain ⟨c, others, rfl⟩ := List.exists_cons_of_ne_nil hne
    simp only [lines, String.toList_ofList, splitLines_last hfeed]
    rfl
  | @feed line rest ls hfeed hlast _ ih =>
    rw [lines_ended hfeed, dropReturn_of_last hlast, List.map_cons, ih]
  | @returnFeed line rest ls hfeed _ ih =>
    have hline : '\n' ∉ line ++ ['\r'] := by simpa using hfeed
    have hcut : line ++ '\r' :: '\n' :: rest = (line ++ ['\r']) ++ '\n' :: rest := by simp
    rw [hcut, lines_ended hline, dropReturn_return, List.map_cons, ih]

/-- The induction is on the length of what is left behind the first line feed. -/
theorem exists_divided (cs : List Char) : ∃ ls, Divided cs ls := by
  induction hlength : cs.length using Nat.strongRecOn generalizing cs with
  | ind n ih =>
    by_cases hfeed : '\n' ∈ cs
    · obtain ⟨line, rest, rfl, hline⟩ := List.eq_append_cons_of_mem hfeed
      have hshorter : rest.length < n := by
        rw [← hlength, List.length_append, List.length_cons]
        omega
      obtain ⟨ls, hrest⟩ := ih _ hshorter rest rfl
      by_cases hlast : line.getLast? = some '\r'
      · obtain ⟨front, rfl⟩ := List.getLast?_eq_some_iff.mp hlast
        have hfront : '\n' ∉ front := fun hmem => hline (List.mem_append_left _ hmem)
        rw [List.append_assoc, List.singleton_append]
        exact ⟨front :: ls, .returnFeed hfront hrest⟩
      · exact ⟨line :: ls, .feed hline hlast hrest⟩
    · by_cases hne : cs = []
      · exact ⟨[], hne ▸ .nil⟩
      · exact ⟨[cs], .last hne hfeed⟩

theorem dividedInto_iff {text : String} {ls : List String} :
    DividedInto text ls ↔ ls = lines text := by
  have hback (ls : List String) : (ls.map String.toList).map String.ofList = ls := by
    rw [List.map_map]
    exact (List.map_congr_left fun line _ => String.ofList_toList).trans (List.map_id ls)
  constructor
  · intro h
    rw [← hback ls, h.eq_lines, String.ofList_toList]
  · rintro rfl
    obtain ⟨pieces, hpieces⟩ := exists_divided text.toList
    have hlines := hpieces.eq_lines
    rw [String.ofList_toList] at hlines
    have hsame : (lines text).map String.toList = pieces := by
      rw [← hlines, List.map_map]
      exact (List.map_congr_left fun piece _ => String.toList_ofList).trans (List.map_id pieces)
    rw [DividedInto, hsame]
    exact hpieces

end VehicleMarket.Text
