import Mathlib.Data.List.Forall2
import VehicleMarket.Proofs.Json.Printable
import VehicleMarket.Proofs.Record.Decoded
import VehicleMarket.Proofs.Record.Readings
import VehicleMarket.Proofs.Text.Lines

/-!
Texts of lines that are brought into canonical form. Whatever the lines were, the canonical text has
one line for each that held a record; no string in a record breaks a line, for line ends in it are
written as escapes. The canonical text is read as the same records, whatever the clock shows, and
bringing it into canonical form again does not change it.
-/
namespace VehicleMarket.Record

open Json (ReadsBack reread)
open Text (OneLine)

def contentLines (text : String) : List String :=
  (Text.lines text).filter fun line => !Text.isBlank line

variable {α : Type} [Record α] {text out line : String} {record : α} {records : List α}
  {clock later : Clock}

/-- A line that was read as a record, at whatever place and time. -/
def ReadAs (line : String) (record : α) : Prop :=
  ∃ number before after, decodeAt (some number) line before = (.ok record, after)

/-! ## One record for each line -/

theorem numbered_lines (number : Nat) (ls : List String) :
    (numbered number ls).map Prod.snd = ls := by
  induction ls generalizing number with
  | nil => rfl
  | cons line rest ih => rw [numbered, List.map_cons, ih]

theorem decodeLines_inTurn (h : decodeLines text clock = (.ok records, later)) :
    InTurn MadeOf clock (contentLines text) records later := by
  have hreads := decodeNumbered_inTurn h
  rw [numbered_lines] at hreads
  exact hreads

theorem MadeOf.readAs {now : Instant} (h : MadeOf now line record) : ReadAs line record :=
  ⟨0, .fixed now.moment, .fixed now.moment,
    decodeAt_eq_ok.mpr ⟨now, by rw [Clock.read?_fixed, Moment.millisecond_moment], h⟩⟩

theorem decodeLines_reads (h : decodeLines text clock = (.ok records, later)) :
    List.Forall₂ ReadAs (contentLines text) records :=
  (decodeLines_inTurn h).forall₂.imp fun _ _ ⟨_, hmade⟩ => hmade.readAs

theorem normalizeLines_eq_ok : normalizeLines α text clock = (.ok out, later) ↔
    ∃ records : List α, decodeLines text clock = (.ok records, later) ∧
      out = encodeLines records := by
  unfold normalizeLines
  constructor
  · intro h
    split at h
    · exact absurd h (by simp)
    · rename_i records after hrecords
      cases h
      exact ⟨records, hrecords, rfl⟩
  · rintro ⟨records, hrecords, rfl⟩
    rw [hrecords]

theorem encodeLines_eq (records : List α) :
    encodeLines records = String.join ((records.map encode).map fun line => line ++ "\n") := by
  rw [List.map_map]
  rfl

theorem oneLine_encode (record : α) : OneLine (encode record) := by
  have hprintable := Json.printable_compactChars (toJson record)
  have htext : (encode record).toList = Json.compactChars (toJson record) := String.toList_ofList
  constructor
  · intro hmem
    rw [htext] at hmem
    exact absurd (hprintable _ hmem) (by decide)
  · intro hmem
    rw [htext] at hmem
    exact absurd (hprintable _ hmem) (by decide)

/-! ## The canonical lines -/

variable [LawfulRecord α]

theorem ReadAs.finite [FiniteRecord α] (h : ReadAs line record) :
    ∀ x ∈ LawfulRecord.amounts record, x.isFinite = true := by
  obtain ⟨number, before, after, hrecord⟩ := h
  unfold decodeAt at hrecord
  split at hrecord
  · exact absurd hrecord (by simp)
  · rename_i value hread
    exact decodeValue_finite (Json.read_finite hread) (congrArg Prod.fst hrecord)

theorem finite_of_reads [FiniteRecord α] {ls : List String} (h : List.Forall₂ ReadAs ls records) :
    ∀ record ∈ records, ∀ x ∈ LawfulRecord.amounts record, x.isFinite = true := by
  induction h with
  | nil => exact fun _ hmem => absurd hmem List.not_mem_nil
  | cons hread _ ih => exact List.forall_mem_cons.mpr ⟨hread.finite, ih⟩

theorem isBlank_encode (record : α) : Text.isBlank (encode record) = false := by
  have htext : (encode record).toList = Json.compactChars (toJson record) := String.toList_ofList
  unfold Text.isBlank
  rw [htext, (LawfulRecord.isRecord record).object, Json.compactChars, List.cons_append,
    List.all_cons]
  exact Bool.and_eq_false_iff.mpr (.inl (by decide))

theorem decodeAt_encode (hamounts : ∀ x ∈ LawfulRecord.amounts record, ReadsBack x)
    {now : Instant} (hclock : clock.read? = some (now, later)) (number : Option Nat) :
    decodeAt number (encode record) clock = (.ok record, later) := by
  have hreadable : Json.Readable Json.deepest (toJson record) :=
    LawfulRecord.fits record hamounts 124
  exact decodeAt_of_read (Json.read_compact hreadable) (decodeValue_sorted record number hclock)

theorem decodeNumbered_encoded
    (hamounts : ∀ record ∈ records, ∀ x ∈ LawfulRecord.amounts record, ReadsBack x)
    (hclock : Clock.after? records.length clock = some later) (number : Nat) :
    decodeNumbered (numbered number (records.map encode)) clock = (.ok records, later) := by
  induction records generalizing clock number with
  | nil =>
    rw [List.length_nil, Clock.after?] at hclock
    rw [← Option.some.inj hclock]
    rfl
  | cons record rest ih =>
    obtain ⟨hrecord, hothers⟩ := List.forall_mem_cons.mp hamounts
    obtain ⟨now, next, hread, hnext⟩ := Clock.after?_succ hclock
    have hfirst := decodeAt_encode hrecord hread (some number)
    have hrest := ih hothers hnext (number + 1)
    rw [List.map_cons, numbered, decodeNumbered, isBlank_encode, if_neg Bool.false_ne_true]
    simp only [hfirst, hrest]

/-- Records come back from their lines when the clock can be read once for each. -/
theorem decodeLines_encodeLines
    (hamounts : ∀ record ∈ records, ∀ x ∈ LawfulRecord.amounts record, ReadsBack x)
    (hclock : Clock.after? records.length clock = some later) :
    decodeLines (encodeLines records) clock = (.ok records, later) := by
  have hlines : ∀ line ∈ records.map encode, OneLine line := by
    intro line hmem
    obtain ⟨record, _, rfl⟩ := List.mem_map.mp hmem
    exact oneLine_encode record
  unfold decodeLines
  rw [encodeLines_eq, Text.lines_join hlines]
  exact decodeNumbered_encoded hamounts hclock 1

/-! ## Once is enough -/

/-- What holds of the canonical form of every text of lines: it has a line for each record that was
read, without a line end in it, and it is its own canonical form, read as the same records by every
clock that can be read so often, if the reader takes their numbers back from their own spelling. -/
def Settles (α : Type) [Record α] [LawfulRecord α] : Prop :=
  ∀ text out clock later, normalizeLines α text clock = (.ok out, later) →
    ∃ records : List α, decodeLines text clock = (.ok records, later) ∧
      (∃ ls : List String, ls.length = (contentLines text).length ∧ (∀ line ∈ ls, OneLine line) ∧
        out = String.join (ls.map fun line => line ++ "\n")) ∧
      ((∀ record ∈ records, ∀ x ∈ LawfulRecord.amounts record, reread x = x) →
        ∀ second after, Clock.after? records.length second = some after →
          decodeLines out second = (.ok records, after) ∧
            normalizeLines α out second = (.ok out, after))

theorem settles (α : Type) [Record α] [LawfulRecord α] [FiniteRecord α] : Settles α := by
  intro text out clock later hout
  obtain ⟨records, hrecords, rfl⟩ := normalizeLines_eq_ok.mp hout
  have hreads := decodeLines_reads hrecords
  refine ⟨records, hrecords, ⟨records.map encode, ?count, ?lines, encodeLines_eq records⟩, ?again⟩
  case count => rw [List.length_map, hreads.length_eq]
  case lines =>
    intro line hmem
    obtain ⟨record, _, rfl⟩ := List.mem_map.mp hmem
    exact oneLine_encode record
  case again =>
    intro hreread second after hsecond
    have hamounts : ∀ record ∈ records, ∀ x ∈ LawfulRecord.amounts record, ReadsBack x := by
      intro record hmem x hx
      exact Json.readsBack_iff.mpr ⟨finite_of_reads hreads record hmem x hx,
        hreread record hmem x hx⟩
    have hsame := decodeLines_encodeLines hamounts hsecond
    exact ⟨hsame, normalizeLines_eq_ok.mpr ⟨records, hsame, rfl⟩⟩

theorem every_kind_settles :
    Settles User ∧ Settles Vehicle ∧ Settles Listing ∧ Settles Message ∧ Settles VehicleHistory :=
  ⟨settles User, settles Vehicle, settles Listing, settles Message, settles VehicleHistory⟩

/-- Older lines of three vehicles with blank ones between them. The description of the first holds a
line feed and a line separator. -/
def olderLines : String :=
  "\x7b\"id\": \"v1\", \"prix\": 12500.5, \"description\": \"a\\nb\u2028c\"\x7d\r\n\n \t\n" ++
    "\x7b\"id\": \"v2\"\x7d\n\x7b\"id\": \"v3\"\x7d"

def olderVehicles : List Vehicle :=
  [{ Vehicle.blank .epoch with
      id := ⟨"v1"⟩, price := sampleAmount, description := "a\nb\u2028c" },
    { Vehicle.blank ⟨1, by decide⟩ with id := ⟨"v2"⟩ },
    { Vehicle.blank ⟨3, by decide⟩ with id := ⟨"v3"⟩ }]

theorem older_lines_settle :
    (contentLines olderLines).length = 3 ∧
    ∃ out later, normalizeLines Vehicle olderLines (.system unevenTime) = (.ok out, later) ∧
      (∃ ls : List String, ls.length = 3 ∧ (∀ line ∈ ls, OneLine line) ∧
        out = String.join (ls.map fun line => line ++ "\n")) ∧
      decodeLines out (.fixed .epoch) = (.ok olderVehicles, .fixed .epoch) ∧
      normalizeLines Vehicle out (.fixed .epoch) = (.ok out, .fixed .epoch) := by
  have hcount : (contentLines olderLines).length = 3 := by decide +kernel
  have hrecords : (decodeLines olderLines (.system unevenTime)).1 = .ok olderVehicles := by
    decide +kernel
  have hread : decodeLines olderLines (.system unevenTime) =
      (.ok olderVehicles, (decodeLines (α := Vehicle) olderLines (.system unevenTime)).2) :=
    Prod.ext hrecords rfl
  have hout := normalizeLines_eq_ok.mpr ⟨_, hread, rfl⟩
  obtain ⟨_, hvehicles, _⟩ := every_kind_settles
  obtain ⟨records, hrecords, ⟨ls, hlength, hlines, hjoin⟩, hagain⟩ := hvehicles _ _ _ _ hout
  obtain rfl : olderVehicles = records := by
    rw [hread] at hrecords
    exact Except.ok.inj (Prod.mk.inj hrecords).1
  have hreread : ∀ vehicle ∈ olderVehicles, ∀ x ∈ LawfulRecord.amounts vehicle, reread x = x := by
    decide +kernel
  obtain ⟨hsame, hnormal⟩ := hagain hreread (.fixed .epoch) (.fixed .epoch)
    (Clock.after?_fixed _ _)
  exact ⟨hcount, _, _, hout, ⟨ls, hlength.trans hcount, hlines, hjoin⟩, hsame, hnormal⟩

end VehicleMarket.Record
