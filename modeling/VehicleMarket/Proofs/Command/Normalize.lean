import Mathlib.Data.List.Forall2
import VehicleMarket.Proofs.Catalog.Invariant
import VehicleMarket.Proofs.Command.Outcome
import VehicleMarket.Proofs.Record.Lines
import VehicleMarket.Proofs.Storage.Disk

/-!
Lines that are read one by one. The lines of a text that are not blank give their records, or the
text fails with the first line that holds none: what is said is what is said of that line alone,
with its place among all lines, the blank ones included. A text that fails is brought into no other
form, and nothing is printed or written for it.
-/
namespace VehicleMarket

namespace Record

open Text (DividedInto)

variable {α : Type} [Record α] {now : Moment} {line : String} {ls : List String}
  {record : α} {records : List α} {fault : DecodeFault}

/-- A line that must hold a record. -/
def Content (line : String) : Prop :=
  Text.trim line ≠ ""

theorem content_iff : Content line ↔ Text.isBlank line = false := by
  rw [Content, Ne, Text.trim_eq_empty_iff, Bool.not_eq_true]

instance (line : String) : Decidable (Content line) :=
  inferInstanceAs (Decidable (_ ≠ _))

def contentOf (ls : List String) : List String :=
  ls.filter fun line => Content line

theorem contentOf_cons_of_content (h : Content line) (ls : List String) :
    contentOf (line :: ls) = line :: contentOf ls := by
  simp [contentOf, h]

theorem contentOf_cons_of_blank (h : ¬ Content line) (ls : List String) :
    contentOf (line :: ls) = contentOf ls := by
  simp [contentOf, h]

/-- A line that is read as a record at an instant. -/
def Holds (now : Moment) (line : String) (record : α) : Prop :=
  (decode line (.fixed now)).1 = .ok record

def Refused (α : Type) [Record α] (now : Moment) (line : String) (fault : DecodeFault) : Prop :=
  (decode (α := α) line (.fixed now)).1 = .error (undecodable α none fault)

structure FirstFault (α : Type) [Record α] (now : Moment) (ls : List String) (place : Nat)
    (fault : DecodeFault) : Prop where
  refused : ∃ line, ls[place]? = some line ∧ Content line ∧ Refused α now line fault
  before : ∀ (j : Nat) line, j < place → ls[j]? = some line → Content line →
    ∃ record : α, Holds now line record

/-! ## One line -/

/-- With a clock that stands still a text is a record or has a fault; where it stands is told with
the fault and decides nothing. -/
theorem decodeAt_fixed (α : Type) [Record α] (text : String) (now : Moment) :
    (∃ record : α, ∀ number, decodeAt number text (.fixed now) = (.ok record, .fixed now)) ∨
    ∃ fault, ∀ number, decodeAt (α := α) number text (.fixed now) =
      (.error (undecodable α number fault), .fixed now) := by
  cases hread : Json.read text with
  | error error => exact .inr ⟨.malformed error, fun number => by rw [decodeAt, hread]⟩
  | ok value =>
    cases value with
    | object members =>
      cases hobject : (ofObject now.millisecond members : Except Json.Mismatch α) with
      | error mismatch =>
        refine .inr ⟨.data mismatch, fun number => ?_⟩
        simp only [decodeAt, hread, decodeValue, Clock.read?_fixed, hobject]
      | ok record =>
        refine .inl ⟨record, fun number => ?_⟩
        simp only [decodeAt, hread, decodeValue, Clock.read?_fixed, hobject]
    | _ =>
      refine .inr ⟨.notObject, fun number => ?_⟩
      simp only [decodeAt, hread, decodeValue]

theorem Holds.unique {other : α} (h : Holds now line record) (hother : Holds now line other) :
    record = other :=
  Except.ok.inj (h.symm.trans hother)

theorem Holds.not_refused (h : Holds now line record) : ¬ Refused α now line fault := by
  intro hrefused
  have hsame := h.symm.trans hrefused
  exact absurd hsame (by simp)

/-! ## All lines -/

theorem FirstFault.unique {place other : Nat} {otherFault : DecodeFault}
    (h : FirstFault α now ls place fault) (hother : FirstFault α now ls other otherFault) :
    place = other ∧ fault = otherFault := by
  obtain ⟨line, hline, hcontent, hrefused⟩ := h.refused
  obtain ⟨later, hlater, hlaterContent, hlaterRefused⟩ := hother.refused
  rcases Nat.lt_trichotomy place other with hlt | rfl | hgt
  · obtain ⟨record, hholds⟩ := hother.before place line hlt hline hcontent
    exact absurd hrefused hholds.not_refused
  · obtain rfl : line = later := Option.some.inj (hline.symm.trans hlater)
    have hsame := Except.error.inj (hrefused.symm.trans hlaterRefused)
    simp only [undecodable, Failure.problem.injEq, Problem.undecodable.injEq] at hsame
    exact ⟨rfl, hsame.2.2⟩
  · obtain ⟨record, hholds⟩ := h.before other later hgt hlater hlaterContent
    exact absurd hlaterRefused hholds.not_refused

theorem FirstFault.cons {place : Nat} (h : FirstFault α now ls place fault)
    (hline : Content line → ∃ record : α, Holds now line record) :
    FirstFault α now (line :: ls) (place + 1) fault where
  refused := h.refused
  before j other hj hother hcontent := by
    cases j with
    | zero =>
      obtain rfl : line = other := Option.some.inj hother
      exact hline hcontent
    | succ j => exact h.before j other (Nat.lt_of_succ_lt_succ hj) hother hcontent

theorem FirstFault.not_forall {place : Nat} (h : FirstFault α now ls place fault) :
    ¬ List.Forall₂ (Holds (α := α) now) (contentOf ls) records := by
  intro hall
  obtain ⟨line, hline, hcontent, hrefused⟩ := h.refused
  have hmem : line ∈ contentOf ls :=
    List.mem_filter.mpr ⟨List.mem_of_getElem? hline, decide_eq_true hcontent⟩
  obtain ⟨record, _, hholds⟩ := exists_related hall hmem
  exact hholds.not_refused hrefused

/-- The induction is on the lines that are left, from whatever number the first of them has. -/
theorem decodeNumbered_fixed (now : Moment) (number : Nat) (ls : List String) :
    (∃ records : List α, List.Forall₂ (Holds now) (contentOf ls) records ∧
      decodeNumbered (numbered number ls) (.fixed now) = (.ok records, .fixed now)) ∨
    ∃ place fault, FirstFault α now ls place fault ∧
      decodeNumbered (α := α) (numbered number ls) (.fixed now) =
        (.error (undecodable α (some (number + place)) fault), .fixed now) := by
  induction ls generalizing number with
  | nil => exact .inl ⟨[], .nil, rfl⟩
  | cons line rest ih =>
    by_cases hcontent : Content line
    · have hblank : ¬ Text.isBlank line = true := by simpa using content_iff.mp hcontent
      rw [numbered, decodeNumbered, if_neg hblank, contentOf_cons_of_content hcontent]
      rcases decodeAt_fixed α line now with ⟨record, hrecord⟩ | ⟨fault, hfault⟩
      · have hholds : Holds now line record := congrArg Prod.fst (hrecord none)
        simp only [hrecord]
        rcases ih (number + 1) with ⟨records, hall, hrest⟩ | ⟨place, fault, hfirst, hrest⟩
        · exact .inl ⟨record :: records, .cons hholds hall, by rw [hrest]⟩
        · refine .inr ⟨place + 1, fault, hfirst.cons fun _ => ⟨record, hholds⟩, ?_⟩
          rw [hrest, Nat.add_assoc, Nat.add_comm 1 place]
      · refine .inr ⟨0, fault, ⟨⟨line, rfl, hcontent, congrArg Prod.fst (hfault none)⟩, ?_⟩, ?_⟩
        · intro j _ hj
          exact absurd hj (Nat.not_lt_zero j)
        · simp only [hfault, Nat.add_zero]
    · have hblank : Text.isBlank line = true := by
        rw [content_iff, Bool.not_eq_false] at hcontent
        exact hcontent
      rw [numbered, decodeNumbered, if_pos hblank, contentOf_cons_of_blank hcontent]
      rcases ih (number + 1) with hread | ⟨place, fault, hfirst, hrest⟩
      · exact .inl hread
      · refine .inr ⟨place + 1, fault, hfirst.cons fun h => absurd h hcontent, ?_⟩
        rw [hrest, Nat.add_assoc, Nat.add_comm 1 place]

theorem decodeLines_fixed_eq_ok {text : String} :
    (decodeLines text (.fixed now)).1 = .ok records ↔
      List.Forall₂ (Holds now) (contentOf (Text.lines text)) records := by
  rw [decodeLines]
  rcases decodeNumbered_fixed (α := α) now 1 (Text.lines text) with
    ⟨others, hall, heq⟩ | ⟨place, fault, hfirst, heq⟩
  · rw [heq]
    constructor
    · intro hsame
      exact Except.ok.inj hsame ▸ hall
    · intro hrecords
      have hunique : Relator.RightUnique (Holds (α := α) now) := fun _ _ _ h => h.unique
      rw [List.right_unique_forall₂' hunique hall hrecords]
  · rw [heq]
    exact ⟨fun h => absurd h (by simp), fun h => absurd h hfirst.not_forall⟩

theorem decodeLines_fixed_eq_error {text : String} {failure : Failure} :
    (decodeLines (α := α) text (.fixed now)).1 = .error failure ↔
      ∃ place fault, FirstFault α now (Text.lines text) place fault ∧
        failure = undecodable α (some (place + 1)) fault := by
  rw [decodeLines]
  rcases decodeNumbered_fixed (α := α) now 1 (Text.lines text) with
    ⟨others, hall, heq⟩ | ⟨place, fault, hfirst, heq⟩
  · rw [heq]
    constructor
    · intro h
      exact absurd h (by simp)
    · rintro ⟨place, fault, hfirst, _⟩
      exact absurd hall hfirst.not_forall
  · rw [heq, Nat.add_comm 1 place]
    constructor
    · intro h
      exact ⟨place, fault, hfirst, (Except.error.inj h).symm⟩
    · rintro ⟨other, otherFault, hother, rfl⟩
      obtain ⟨rfl, rfl⟩ := hfirst.unique hother
      rfl

theorem decodeLines_fixed_clock (text : String) (now : Moment) :
    (decodeLines (α := α) text (.fixed now)).2 = .fixed now := by
  rw [decodeLines]
  rcases decodeNumbered_fixed (α := α) now 1 (Text.lines text) with
    ⟨_, _, heq⟩ | ⟨_, _, _, heq⟩
  · rw [heq]
  · rw [heq]

theorem normalizeLines_eq_error {text : String} {failure : Failure} {clock later : Clock} :
    normalizeLines α text clock = (.error failure, later) ↔
      decodeLines (α := α) text clock = (.error failure, later) := by
  unfold normalizeLines
  constructor
  · intro h
    split at h
    · rename_i heq
      cases h
      exact heq
    · exact absurd h (by simp)
  · intro h
    rw [h]

end Record

/-! ## The command -/

namespace Command

variable {setting : Setting} {kind : RecordKind} {input text normalized : String}
  {out : Option String} {later : Clock}

theorem runNormalize_of_unread {problem : Problem}
    (hread : Settings.readFile setting.disk input = .error problem) :
    runNormalize setting kind input out = failed problem setting.disk := by
  unfold runNormalize
  rw [hread]

theorem runNormalize_of_error (hread : Settings.readFile setting.disk input = .ok text)
    {failure : Failure} (hnormalize : normalizeText kind text setting.clock =
      (.error failure, later)) :
    runNormalize setting kind input out = stopped failure setting.disk := by
  unfold runNormalize
  simp only [hread, hnormalize]

theorem runNormalize_of_ok (hread : Settings.readFile setting.disk input = .ok text)
    (hnormalize : normalizeText kind text setting.clock = (.ok normalized, later)) :
    runNormalize setting kind input out = deliver normalized out setting.disk := by
  unfold runNormalize
  simp only [hread, hnormalize]

theorem deliver_of_write {path : String} {disk written : Disk}
    (h : disk.write path (.ofText text) = .ok written) :
    deliver text (some path) disk = ⟨0, "", "", written⟩ := by
  simp only [deliver, h]

theorem deliver_of_write_error {path : String} {disk : Disk} {fault : IoFault}
    (h : disk.write path (.ofText text) = .error fault) :
    deliver text (some path) disk = failed (.io fault) disk := by
  simp only [deliver, h]

end Command

namespace Record

open Text (DividedInto)

variable {α : Type} [Record α]

/-- A text is read as the records of its lines, or fails with its first line that holds none. -/
def ReadsLineByLine (α : Type) [Record α] : Prop :=
  ∀ (text : String) (now : Moment), ∃ ls, DividedInto text ls ∧
    (∀ other, DividedInto text other → other = ls) ∧
    (∀ records : List α, (decodeLines text (.fixed now)).1 = .ok records ↔
      List.Forall₂ (Holds now) (contentOf ls) records) ∧
    ∀ failure, (decodeLines (α := α) text (.fixed now)).1 = .error failure ↔
      ∃ place fault, FirstFault α now ls place fault ∧
        failure = undecodable α (some (place + 1)) fault

/-- A text has a canonical form when it is read, and fails as the reading does. -/
def NormalizesWhatIsRead (α : Type) [Record α] : Prop :=
  ∀ (text : String) (clock later : Clock),
    (∀ out, normalizeLines α text clock = (.ok out, later) ↔
      ∃ records : List α, decodeLines text clock = (.ok records, later) ∧
        out = encodeLines records) ∧
    ∀ failure, normalizeLines α text clock = (.error failure, later) ↔
      decodeLines (α := α) text clock = (.error failure, later)

/-- The command prints or writes the canonical form of a text that is read, and leaves nothing
behind for any other. What it prints is its own output, without the log lines of a run. -/
def CommandWritesWhatIsRead (α : Type) [Record α] : Prop :=
  ∀ (settings : Settings) (setting : Setting) (input : String) (out : Option String)
    (outcome : Outcome),
    (Command.normalize (schema α).kind input out).run settings setting = outcome →
    (∀ problem, Settings.readFile setting.disk input = .error problem →
      outcome.Fruitless setting.disk) ∧
    ∀ text, Settings.readFile setting.disk input = .ok text →
      (∀ failure later, decodeLines (α := α) text setting.clock = (.error failure, later) →
        outcome.Fruitless setting.disk) ∧
      ∀ (records : List α) later, decodeLines text setting.clock = (.ok records, later) →
        (out = none → outcome = ⟨0, encodeLines records, "", setting.disk⟩) ∧
        ∀ path, out = some path →
          (∀ fault, setting.disk.write path (.ofText (encodeLines records)) = .error fault →
            outcome.Fruitless setting.disk) ∧
          ∀ written, setting.disk.write path (.ofText (encodeLines records)) = .ok written →
            outcome = ⟨0, "", "", written⟩ ∧
              setting.disk.Rewritten path (.ofText (encodeLines records)) written

theorem readsLineByLine (α : Type) [Record α] : ReadsLineByLine α := by
  intro text now
  exact ⟨Text.lines text, Text.dividedInto_iff.mpr rfl, fun _ => Text.dividedInto_iff.mp,
    fun _ => decodeLines_fixed_eq_ok, fun _ => decodeLines_fixed_eq_error⟩

theorem normalizesWhatIsRead (α : Type) [Record α] : NormalizesWhatIsRead α :=
  fun _ _ _ => ⟨fun _ => normalizeLines_eq_ok, fun _ => normalizeLines_eq_error⟩

theorem commandWritesWhatIsRead (hkind : ∀ text clock,
    Command.normalizeText (schema α).kind text clock = normalizeLines α text clock) :
    CommandWritesWhatIsRead α := by
  rintro settings setting input out outcome rfl
  have hrun : (Command.normalize (schema α).kind input out).run settings setting =
      Command.runNormalize setting (schema α).kind input out := rfl
  rw [hrun]
  refine ⟨?unread, fun text hread => ⟨?refused, ?read⟩⟩
  case unread =>
    intro problem hread
    rw [Command.runNormalize_of_unread hread]
    exact Command.fruitless_failed problem setting.disk
  case refused =>
    intro failure later hrefused
    have hnormalize := (hkind text setting.clock).trans (normalizeLines_eq_error.mpr hrefused)
    rw [Command.runNormalize_of_error hread hnormalize]
    exact Command.fruitless_stopped failure setting.disk
  case read =>
    intro records later hrecords
    have hnormalize := (hkind text setting.clock).trans
      (normalizeLines_eq_ok.mpr ⟨records, hrecords, rfl⟩)
    rw [Command.runNormalize_of_ok hread hnormalize]
    refine ⟨?printed, ?written⟩
    case printed =>
      rintro rfl
      rfl
    case written =>
      rintro path rfl
      refine ⟨fun fault hfault => ?_, fun written hwritten => ?_⟩
      · rw [Command.deliver_of_write_error hfault]
        exact Command.fruitless_failed (.io fault) setting.disk
      · rw [Command.deliver_of_write hwritten]
        exact ⟨rfl, Disk.rewritten_of_write hwritten⟩

/-- Under a clock that stands still, a text of lines of any kind is read line by line; it has a
canonical form, which the command prints or writes, only when all its lines are read. -/
def LineAccurate (α : Type) [Record α] : Prop :=
  ReadsLineByLine α ∧ NormalizesWhatIsRead α ∧ CommandWritesWhatIsRead α

theorem lineAccurate (hkind : ∀ text clock,
    Command.normalizeText (schema α).kind text clock = normalizeLines α text clock) :
    LineAccurate α :=
  ⟨readsLineByLine α, normalizesWhatIsRead α, commandWritesWhatIsRead hkind⟩

theorem every_kind_line_accurate :
    LineAccurate User ∧ LineAccurate Vehicle ∧ LineAccurate Listing ∧ LineAccurate Message ∧
      LineAccurate VehicleHistory :=
  ⟨lineAccurate fun _ _ => rfl, lineAccurate fun _ _ => rfl, lineAccurate fun _ _ => rfl,
    lineAccurate fun _ _ => rfl, lineAccurate fun _ _ => rfl⟩

def faultyLines : String :=
  "\x7b\"id\": \"m1\"\x7d\r\n\u00a0\n\x7b\"id\": \"m2\", \"lu\": \"yes\"\x7d\n"

def linesSetting (text : String) : Setting :=
  ⟨[], 2025, .fixed .epoch, ⟨[], [(["lines"], .file (.ofText text))]⟩⟩

def firstLine : String :=
  "\x7b\"id\": \"m1\"\x7d\r"

def firstMessage : Message :=
  { Message.blank .epoch with id := ⟨"m1"⟩ }

/-- The third line is the first that is refused, and nothing is written; without it, the command
writes the message that is left. -/
theorem faulty_lines_refused :
    (∃ ls, DividedInto faultyLines ls ∧ ls.length = 3 ∧
      ∃ fault, FirstFault Message .epoch ls 2 fault ∧
        fault.message = "invalid type: string \"yes\", expected a boolean") ∧
    ((Command.normalize .message "lines" (some "out")).run .standard
      (linesSetting faultyLines)).Fruitless (linesSetting faultyLines).disk ∧
    ∃ written, (Command.normalize .message "lines" (some "out")).run .standard
        (linesSetting firstLine) = ⟨0, "", "", written⟩ ∧
      (linesSetting firstLine).disk.Rewritten "out"
        (.ofText (encodeLines [firstMessage])) written := by
  have hrefused : (decodeLines (α := Message) faultyLines (.fixed .epoch)) =
      (.error (undecodable Message (some 3)
        (.data (.invalidType (.string "yes") "a boolean"))), .fixed .epoch) :=
    Prod.ext (by decide +kernel) (decodeLines_fixed_clock _ _)
  have hread : decodeLines firstLine (.fixed .epoch) =
      (.ok [firstMessage], .fixed .epoch) :=
    Prod.ext (by decide +kernel) (decodeLines_fixed_clock _ _)
  obtain ⟨_, _, _, ⟨hlines, _, hcommand⟩, _⟩ := every_kind_line_accurate
  refine ⟨?place, ?nothing, ?written⟩
  case place =>
    obtain ⟨ls, hdivided, hunique, _, herror⟩ := hlines faultyLines .epoch
    obtain ⟨place, fault, hfirst, hfailure⟩ := (herror _).mp (congrArg Prod.fst hrefused)
    simp only [undecodable, Failure.problem.injEq, Problem.undecodable.injEq, Option.some.injEq]
      at hfailure
    obtain ⟨_, hplace, rfl⟩ := hfailure
    obtain rfl : 2 = place := Nat.succ.inj hplace
    have hcount : ls.length = 3 := by
      rw [Text.dividedInto_iff.mp hdivided]
      decide +kernel
    exact ⟨ls, hdivided, hcount, _, hfirst, by decide +kernel⟩
  case nothing =>
    obtain ⟨_, hruns⟩ := hcommand .standard (linesSetting faultyLines) "lines" (some "out") _ rfl
    exact (hruns faultyLines (by decide +kernel)).1 _ _ hrefused
  case written =>
    obtain ⟨_, hruns⟩ := hcommand .standard (linesSetting firstLine) "lines"
      (some "out") _ rfl
    obtain ⟨_, hwrites⟩ := (hruns _ (by decide +kernel)).2 _ _ hread
    obtain ⟨written, hwritten⟩ : ∃ written, (linesSetting firstLine).disk.write
        "out" (.ofText (encodeLines [firstMessage])) =
          .ok written :=
      ⟨_, Disk.write_eq_ok.mpr ⟨[], "out", by decide +kernel, by decide +kernel, rfl⟩⟩
    exact ⟨written, (hwrites "out" rfl).2 written hwritten⟩

end Record

end VehicleMarket
