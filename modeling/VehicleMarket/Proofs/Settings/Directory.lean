import VehicleMarket.Proofs.Settings.Substitution
import VehicleMarket.Proofs.Toml.Quoted
import VehicleMarket.Proofs.Toml.Variation
import VehicleMarket.Settings.Document

/-!
The directory of the data out of an environment variable. Values are put into the text of a file
before it is read, so what arrives is what the reader of strings makes of the value between its
quotes. The lines before the directory are read alike whatever the value, the string is the value if
all its characters stand for themselves, and the lines after it only add to tables that differ in
this one string.
-/
namespace VehicleMarket.Settings

open Environment (IsName slotText pieces pieces_slot pieces_plain Straddled BeginsSlot)
open Toml (Draft Ended Varied DraftVaried Verbatim draftOf)

/-! ## Settings of tables that differ in the directory -/

def directoryPath : List String :=
  ["storage", "data_dir"]

theorem openSection_congr {document other : Toml.Members} {name : String}
    (h : Table.find? other name = Table.find? document name) :
    openSection other name = openSection document name := by
  simp only [openSection, h]

theorem setting_congr {α : Type} (read : String → Toml → Except DocumentFault α)
    {part other : Section} {key : String} {place : Nat} (h : other key place = part key place)
    (standard : α) :
    setting read other key place standard = setting read part key place standard := by
  simp only [setting, setting?, h]

theorem ok_bind {ε α β : Type} (a : α) (next : α → Except ε β) :
    (Except.ok a >>= next) = next a :=
  rfl

theorem ok_of_bind {ε α β : Type} {first : Except ε α} {next other : α → Except ε β} {x y : β}
    (h : first >>= next = .ok x) (hnext : ∀ a, next a = .ok x → other a = .ok y) :
    first >>= other = .ok y := by
  cases first with
  | error e => cases h
  | ok a => exact hnext a h

theorem ofMembers_varied {old new : String} {document other : Toml.Members} {settings : Settings}
    (hvaried : Varied old new directoryPath document other)
    (h : ofMembers document = .ok settings) :
    ofMembers other = .ok { settings with dataDir := new } := by
  cases hvaried with
  | @inside _ _ origin _ _ inner varied hold hnew hinner hothers =>
    cases hinner with
    | inside _ _ hdeeper => cases hdeeper
    | here hdir hdirNew hrest =>
      have hvalidation := openSection_congr (hothers "validation" (by decide))
      have hexport := openSection_congr (hothers "export" (by decide))
      have hstorage : openSection document "storage" = .ok fun key _ => Table.find? inner key := by
        simp only [openSection, hold]
      have hstorageNew : openSection other "storage" = .ok fun key _ => Table.find? varied key := by
        simp only [openSection, hnew]
      have hdirectory : setting readText (fun key _ => Table.find? inner key) "data_dir" 0
          standard.dataDir = .ok old := by
        simp only [setting, setting?, hdir]
        rfl
      have hdirectoryNew : setting readText (fun key _ => Table.find? varied key) "data_dir" 0
          standard.dataDir = .ok new := by
        simp only [setting, setting?, hdirNew]
        rfl
      have hfile : setting readText (fun key _ => Table.find? varied key) "snapshot_file" 1
          standard.snapshotFile = setting readText (fun key _ => Table.find? inner key)
            "snapshot_file" 1 standard.snapshotFile :=
        setting_congr readText (hrest "snapshot_file" (by decide)) standard.snapshotFile
      rw [ofMembers, hstorage, ok_bind, hdirectory, ok_bind] at h
      rw [ofMembers, hstorageNew, hvalidation, hexport, ok_bind, hdirectoryNew, ok_bind, hfile]
      iterate 9 refine ok_of_bind h fun _ h => ?_
      cases h
      rfl

/-! ## The line of the directory -/

/-- The line up to the quote in front of the directory. -/
def lineStart : List Char :=
  ['d', 'a', 't', 'a', '_', 'd', 'i', 'r', ' ', '=', ' ', '"']

theorem toList_lineStart : "data_dir = \"".toList = lineStart :=
  rfl

theorem readKey_lineStart (cs : List Char) :
    Toml.readKey (lineStart ++ cs) = .ok (["data_dir"], '=' :: ' ' :: '"' :: cs) :=
  rfl

theorem readPair_lineStart (cs : List Char) :
    Toml.readPair (Toml.readValue Toml.deepest) (lineStart ++ cs) =
      (Toml.readString ('"' :: cs)).map fun read => ((["data_dir"], read.1), read.2) := by
  have hvalue : Toml.readValue Toml.deepest (Toml.skipBlanks (' ' :: '"' :: cs)) =
      Toml.readString ('"' :: cs) :=
    Toml.readValue_scalar Toml.deepest cs (by decide) (by decide)
  rw [Toml.readPair, readKey_lineStart]
  simp only [hvalue]
  cases Toml.readString ('"' :: cs) <;> rfl

theorem readLine_lineStart {cs rest : List Char} {draft next : Draft} :
    Toml.readLine (lineStart ++ cs) draft = .ok (next, rest) ↔
      ∃ value mid members, Toml.readString ('"' :: cs) = .ok (value, mid) ∧
        Toml.atHeader (Toml.assign value ["data_dir"]) draft.header draft.members = some members ∧
        Toml.endLine false mid = .ok rest ∧ next = { draft with members } := by
  have hkey (tail : List Char) : lineStart ++ cs ≠ '[' :: tail := by
    intro heq
    exact absurd (List.cons.inj heq).1 (by decide)
  rw [Toml.readLine_pair hkey, Toml.addPair, readPair_lineStart]
  constructor
  · intro h
    split at h
    · cases h
    · rename_i path value mid hpair
      obtain ⟨read, hread, heq⟩ := Toml.map_eq_ok hpair
      cases heq
      split at h
      · cases h
      · rename_i members hmembers
        obtain ⟨after, hend, heq⟩ := Toml.map_eq_ok h
        cases heq
        exact ⟨read.1, read.2, members, hread, hmembers, hend, rfl⟩
  · rintro ⟨value, mid, members, hread, hmembers, hend, rfl⟩
    rw [hread]
    simp only [Except.map, hmembers, hend]

structure StorageOpen (draft : Draft) : Prop where
  header : draft.header = ["storage"]
  table : ∃ inner, Table.find? draft.members "storage" = some (.table .header inner)

theorem StorageOpen.varied {draft : Draft} (h : StorageOpen draft) {old : String}
    {members : Toml.Members}
    (hold : Toml.atHeader (Toml.assign (.string old) ["data_dir"]) draft.header draft.members =
      some members) (new : String) :
    ∃ others, Toml.atHeader (Toml.assign (.string new) ["data_dir"]) draft.header draft.members =
        some others ∧ Varied old new directoryPath members others := by
  obtain ⟨inner, hinner⟩ := h.table
  simp only [h.header, Toml.atHeader, Toml.within, hinner, Toml.assign] at hold ⊢
  split at hold
  · cases hold
  · rename_i habsent
    cases hold
    rw [if_neg habsent]
    refine ⟨_, rfl, .inside (Table.find?_insert_self _ _ _) (Table.find?_insert_self _ _ _)
      (.here (Table.find?_insert_self _ _ _) (Table.find?_insert_self _ _ _) ?_) ?_⟩
    · intro other hother
      rw [Table.find?_insert_of_ne _ _ hother, Table.find?_insert_of_ne _ _ hother]
    · intro other hother
      rw [Table.find?_insert_of_ne _ _ hother, Table.find?_insert_of_ne _ _ hother]

/-! ## Texts with the line -/

/-- A text of whole lines that leaves the table of the storage section open. -/
structure OpensStorage (text : String) : Prop where
  ended : Ended text.toList
  draft : ∃ draft, draftOf text = .ok draft ∧ StorageOpen draft

def withDirectory (front directory after : String) : String :=
  front ++ "data_dir = \"" ++ (directory ++ "\"" ++ after)

/-- What is read of a text with the line of the directory: the lines before it, the line, and the
lines after it. -/
theorem read_line {front : String} (hfront : Ended front.toList) {draft : Draft}
    (hdraft : draftOf front = .ok draft) (back : String) {document : Toml.Members} :
    Toml.read (front ++ "data_dir = \"" ++ back) = .ok document ↔
      ∃ next rest final, Toml.readLine (lineStart ++ back.toList) draft = .ok (next, rest) ∧
        Toml.readDraft (rest.length + 1) next rest = .ok final ∧ final.members = document := by
  have hback : ("data_dir = \"" ++ back).toList = lineStart ++ back.toList := by
    rw [String.toList_append, toList_lineStart]
  have hlayout : Toml.skipLayout false (lineStart ++ back.toList) =
      .ok (lineStart ++ back.toList) := rfl
  have hread := Toml.read_append hfront hdraft ("data_dir = \"" ++ back)
  rw [hback, ← String.append_assoc] at hread
  rw [hread]
  constructor
  · intro h
    obtain ⟨final, hfinal, rfl⟩ := Toml.map_eq_ok h
    obtain ⟨next, rest, hline, hlines⟩ := (Toml.readDraft_line hlayout).mp hfinal
    exact ⟨next, rest, final, hline, hlines, rfl⟩
  · rintro ⟨next, rest, final, hline, hlines, rfl⟩
    have hfinal := (Toml.readDraft_line hlayout).mpr ⟨next, rest, hline, hlines⟩
    exact congrArg (Except.map Draft.members) hfinal

theorem ofText_eq_ok {text : String} {settings : Settings} :
    ofText text = .ok settings ↔
      ∃ document, Toml.read text = .ok document ∧ ofMembers document = .ok settings := by
  unfold ofText
  cases Toml.read text with
  | error fault => simp
  | ok document => simp

theorem toList_quoted (directory after : String) :
    '"' :: (directory ++ "\"" ++ after).toList =
      '"' :: (directory.toList ++ '"' :: after.toList) := by
  simp

section Line

variable {front after : String} {settings : Settings} (hfront : OpensStorage front)
include hfront

/-- A directory whose characters stand for themselves could have been any other such one. -/
theorem ofText_exchanged {old new : String} (hold : Verbatim old.toList) (hsome : old ≠ "")
    (hnew : Verbatim new.toList)
    (h : ofText (withDirectory front old after) = .ok settings) :
    ofText (withDirectory front new after) = .ok { settings with dataDir := new } := by
  obtain ⟨draft, hdraft, hstorage⟩ := hfront.draft
  obtain ⟨document, hread, hsettings⟩ := ofText_eq_ok.mp h
  obtain ⟨next, rest, final, hline, hlines, rfl⟩ := (read_line hfront.ended hdraft _).mp hread
  obtain ⟨value, mid, members, hvalue, hmembers, hend, rfl⟩ := readLine_lineStart.mp hline
  -- the directory that is there
  have hempty : old.toList ≠ [] := by simpa using hsome
  rw [toList_quoted, Toml.readString_verbatim hold fun hnil => absurd hnil hempty] at hvalue
  cases hvalue
  rw [String.ofList_toList] at hmembers
  -- the directory that is put there
  have hquote (tail : List Char) : after.toList ≠ '"' :: tail := by
    intro heq
    rw [heq] at hend
    cases hend
  obtain ⟨others, hothers, hvaried⟩ := hstorage.varied hmembers new
  have hdrafts : DraftVaried old new directoryPath { draft with members }
      { draft with members := others } := ⟨rfl, hvaried⟩
  obtain ⟨varied, hfinal, -, hdocument⟩ := Toml.readDraft_varied hdrafts hlines
  apply ofText_eq_ok.mpr
  refine ⟨varied.members, (read_line hfront.ended hdraft _).mpr
    ⟨{ draft with members := others }, rest, varied, readLine_lineStart.mpr
      ⟨.string new, after.toList, others, ?_, hothers, hend, rfl⟩, hfinal, rfl⟩,
    ofMembers_varied hdocument hsettings⟩
  rw [toList_quoted, Toml.readString_verbatim hnew fun _ => hquote, String.ofList_toList]

/-- Where no quote follows, no other directory arrives as it is. -/
theorem verbatim_of_ofText {text : String} (hafter : '"' ∉ after.toList)
    (h : ofText (withDirectory front text after) = .ok settings)
    (hsame : settings.dataDir = text) : Verbatim text.toList := by
  obtain ⟨draft, hdraft, hstorage⟩ := hfront.draft
  obtain ⟨document, hread, hsettings⟩ := ofText_eq_ok.mp h
  obtain ⟨next, rest, final, hline, hlines, rfl⟩ := (read_line hfront.ended hdraft _).mp hread
  obtain ⟨value, mid, members, hvalue, hmembers, hend, rfl⟩ := readLine_lineStart.mp hline
  obtain ⟨read, rfl⟩ := Toml.string_of_readString hvalue
  -- exchanged for itself, the string that was read is the directory in the end
  obtain ⟨others, hothers, hvaried⟩ := hstorage.varied hmembers read
  obtain rfl := Option.some.inj (hmembers.symm.trans hothers)
  have hdrafts : DraftVaried read read directoryPath { draft with members }
      { draft with members } := ⟨rfl, hvaried⟩
  obtain ⟨varied, hfinal, -, hdocument⟩ := Toml.readDraft_varied hdrafts hlines
  obtain rfl := Except.ok.inj (hlines.symm.trans hfinal)
  have hdirectory := Except.ok.inj (hsettings.symm.trans (ofMembers_varied hdocument hsettings))
  obtain rfl : read = text := by rw [← hsame, hdirectory]
  rw [toList_quoted] at hvalue
  apply Toml.verbatim_of_readString hafter
  rw [String.ofList_toList]
  exact hvalue

end Line

/-! ## The directory out of a variable -/

/-- No slot is begun and not ended in a text. -/
def SlotsClosed (text : String) : Prop :=
  ∀ front rest, text.toList = front ++ '$' :: '{' :: rest → '}' ∈ rest

theorem pieces_noDollar {front : List Char} (h : '$' ∉ front) (rest : List Char) :
    pieces (front ++ rest) = front.map .plain ++ pieces rest := by
  induction front with
  | nil => rfl
  | cons c front ih =>
    obtain ⟨hc, hfront⟩ := not_or.mp (mt List.mem_cons.mpr h)
    have hplain : ¬ BeginsSlot (c :: (front ++ rest)) := by
      rintro ⟨name, after, -, heq⟩
      exact hc (List.cons.inj heq).1.symm
    rw [List.cons_append, pieces_plain hplain, ih hfront]
    rfl

theorem not_straddled {text : String} (h : SlotsClosed text) {back : List Char}
    (hback : ∀ rest, back ≠ '{' :: rest) :
    ¬ Straddled (pieces (text.toList ++ back)) text.toList.length := by
  rintro ⟨before, name, after, hpieces, hbegins, hends⟩
  have hname : IsName name := (Environment.isCut_pieces _).names name
    (hpieces ▸ List.mem_append_right _ List.mem_cons_self)
  have hspelling := Environment.spelling_pieces (text.toList ++ back)
  rw [hpieces, Environment.spelling_append, Environment.spelling_slot,
    Environment.slotText_append] at hspelling
  rw [Environment.length_slotText] at hends
  rcases List.append_eq_append_iff.mp hspelling with ⟨begun, htext, hslot⟩ | ⟨more, hlong, -⟩
  · rw [htext, List.length_append] at hbegins hends
    rcases begun with _ | ⟨c, _ | ⟨d, begun⟩⟩
    · exact Nat.lt_irrefl _ hbegins
    · exact hback _ (List.cons.inj hslot).2.symm
    · obtain ⟨rfl, hinner⟩ := List.cons.inj hslot
      obtain ⟨rfl, hrest⟩ := List.cons.inj hinner
      have hbrace : '}' ∈ begun := h _ _ htext
      simp only [List.length_cons] at hends
      rcases List.append_eq_append_iff.mp hrest with ⟨more, hbegun, -⟩ | ⟨others, hwhole, -⟩
      · have hmore : more = [] := by
          rw [hbegun, List.length_append] at hends
          exact List.eq_nil_of_length_eq_zero (by omega)
        rw [hbegun, hmore, List.append_nil] at hbrace
        exact hname.no_brace hbrace
      · exact hname.no_brace (hwhole ▸ List.mem_append_left _ hbrace)
  · rw [hlong, List.length_append] at hbegins
    omega

theorem substitute_withDirectory (environment : Environment) {name value before : String}
    (hname : IsName name.toList) (hvalue : environment.value? name = some value)
    (hclosed : SlotsClosed before) (after : String) :
    environment.substitute (withDirectory before ("$\x7b" ++ name ++ "\x7d") after) =
      withDirectory (environment.substitute before) value (environment.substitute after) := by
  have hslot : environment.fill (.slot name.toList) = value.toList :=
    Environment.fill_of_set environment (by rw [String.ofList_toList, hvalue])
  have htext : (withDirectory before ("$\x7b" ++ name ++ "\x7d") after).toList =
      before.toList ++ (lineStart ++ (slotText name.toList ++ (['"'] ++ after.toList))) := by
    have hbegin : "$\x7b".toList = ['$', '{'] := rfl
    have hend : "\x7d".toList = ['}'] := rfl
    have hquote : "\"".toList = ['"'] := rfl
    simp only [withDirectory, slotText, String.toList_append, toList_lineStart, hbegin, hend,
      hquote, List.append_assoc, List.cons_append, List.nil_append]
  have hpieces : pieces (withDirectory before ("$\x7b" ++ name ++ "\x7d") after).toList =
      pieces before.toList ++ (lineStart.map .plain ++
        .slot name.toList :: (['"'].map .plain ++ pieces after.toList)) := by
    have hback (rest : List Char) :
        lineStart ++ (slotText name.toList ++ (['"'] ++ after.toList)) ≠ '{' :: rest := by
      intro heq
      exact absurd (List.cons.inj heq).1 (by decide)
    rw [htext, Environment.pieces_append (not_straddled hclosed hback),
      pieces_noDollar (by decide), pieces_slot hname, pieces_noDollar (by decide)]
  have hplain (cs : List Char) :
      (cs.map Environment.Piece.plain).flatMap environment.fill = cs := by
    rw [List.flatMap_map]
    exact List.flatMap_singleton' cs
  apply String.toList_injective
  rw [Environment.toList_substitute, hpieces, List.flatMap_append, List.flatMap_append,
    List.flatMap_cons, List.flatMap_append, hplain, hplain, hslot]
  simp only [withDirectory, String.toList_append, Environment.toList_substitute, List.append_assoc]
  rfl

theorem noDollar_closed {text : String} (h : '$' ∉ text.toList) : SlotsClosed text := by
  intro front rest htext
  refine absurd ?_ h
  rw [htext]
  exact List.mem_append_right front List.mem_cons_self

theorem opensStorage_header : OpensStorage "[storage]\n" :=
  ⟨by decide, ⟨["storage"], [("storage", .table .header [])]⟩, rfl, rfl, [], rfl⟩

/-- A variable whose value has only characters that stand for themselves gives the directory its
value, and the other settings are those that the file gives with any directory in this place. Where
no quote follows the line, no other value arrives as it is. -/
theorem directory_from_variable (environment : Environment) {name value before after : String}
    {settings : Settings} (hname : IsName name.toList)
    (hvalue : environment.value? name = some value) (hclosed : SlotsClosed before)
    (hstorage : OpensStorage (environment.substitute before))
    (hfile : ofText (withDirectory (environment.substitute before) standard.dataDir
      (environment.substitute after)) = .ok settings) :
    (Verbatim value.toList →
      ofDocument environment (withDirectory before ("$\x7b" ++ name ++ "\x7d") after) =
        .ok { settings with dataDir := value }) ∧
    ('"' ∉ (environment.substitute after).toList → ∀ result,
      ofDocument environment (withDirectory before ("$\x7b" ++ name ++ "\x7d") after) = .ok result →
      result.dataDir = value → Verbatim value.toList) := by
  rw [ofDocument, substitute_withDirectory environment hname hvalue hclosed after]
  constructor
  · intro hverbatim
    rw [ofText_exchanged hstorage (by decide) (by decide) hverbatim hfile]
  · intro hquote result h hsame
    split at h
    · rename_i found hfound
      obtain rfl := Except.ok.inj h
      exact verbatim_of_ofText hstorage hquote hfound hsame
    · cases h

theorem directory_beside_file :
    ofDocument [("FILE", "m.json"), ("X", "/srv/market")]
        (withDirectory "[storage]\n" "${X}" "\nsnapshot_file = \"${FILE}\"\n") =
      .ok { standard with dataDir := "/srv/market", snapshotFile := "m.json" } := by
  have hbefore : Environment.substitute [("FILE", "m.json"), ("X", "/srv/market")] "[storage]\n" =
      "[storage]\n" := by decide +kernel
  have hstorage : OpensStorage
      (Environment.substitute [("FILE", "m.json"), ("X", "/srv/market")] "[storage]\n") := by
    rw [hbefore]
    exact opensStorage_header
  have hname : IsName "X".toList := ⟨by decide, by decide⟩
  have hfile : ofText (withDirectory
      (Environment.substitute [("FILE", "m.json"), ("X", "/srv/market")] "[storage]\n")
      standard.dataDir (Environment.substitute [("FILE", "m.json"), ("X", "/srv/market")]
        "\nsnapshot_file = \"${FILE}\"\n")) = .ok { standard with snapshotFile := "m.json" } := by
    decide +kernel
  exact (directory_from_variable _ hname (by decide) (noDollar_closed (by decide)) hstorage
    hfile).1 (by decide)

/-- A quote ends the string, a backslash begins an escape, a line end may not stand in it; and a
slot that an earlier comment begins runs on to the brace of this one. -/
theorem directory_not_taken_over :
    ofDocument [("X", "a\"b")] (withDirectory "[storage]\n" "${X}" "\n") ≠
        .ok { standard with dataDir := "a\"b" } ∧
      ofDocument [("X", "a\\b")] (withDirectory "[storage]\n" "${X}" "\n") ≠
        .ok { standard with dataDir := "a\\b" } ∧
      ofDocument [("X", "a\nb")] (withDirectory "[storage]\n" "${X}" "\n") ≠
        .ok { standard with dataDir := "a\nb" } ∧
      ofDocument [("X", "a")] (withDirectory "# $\x7b\n[storage]\n" "${X}" "\n") ≠
        .ok { standard with dataDir := "a" } := by
  decide +kernel

end VehicleMarket.Settings
