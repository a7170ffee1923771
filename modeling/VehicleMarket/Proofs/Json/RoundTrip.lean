import VehicleMarket.Proofs.Json.BinaryNumber
import VehicleMarket.Proofs.Json.QuotedText

/-!
The round trip of JSON values. A value that is readable is read back from its compact and from its
pretty text, with the members of its objects sorted; for any other finite number comes back the one
that the reader takes it for, and null for the rest. Both texts have one shape, pieces between
commas with a gap of layout before each, and the reader is followed on that shape once.
-/
namespace VehicleMarket.Json

open Decimal (isDigit)

/-- Values with whole numbers of 64 bits and with binary numbers that are admitted, nested no deeper
than given. -/
inductive Fits (admits : Binary64 → Prop) : Nat → Json → Prop where
  | null (depth : Nat) : Fits admits depth .null
  | bool (depth : Nat) (b : Bool) : Fits admits depth (.bool b)
  | int (depth : Nat) {n : Int} : IsWhole n → Fits admits depth (.int n)
  | float (depth : Nat) {x : Binary64} : admits x → Fits admits depth (.float x)
  | string (depth : Nat) (s : String) : Fits admits depth (.string s)
  | array {depth : Nat} {items : List Json} :
      (∀ item ∈ items, Fits admits depth item) → Fits admits (depth + 1) (.array items)
  | object {depth : Nat} {members : List (String × Json)} :
      (∀ member ∈ members, Fits admits depth member.2) → Fits admits (depth + 1) (.object members)

abbrev Readable : Nat → Json → Prop :=
  Fits ReadsBack

/-! ## What a text stands for -/

/-- What is read from the written form of a number; one that is not finite is written as null. -/
def numberAsRead (x : Binary64) : Json :=
  if x.isFinite then .float (reread x) else .null

mutual

/-- The value that is read from the text of a value, but for the order of members. -/
def asRead : Json → Json
  | .array items => .array (itemsAsRead items)
  | .object members => .object (membersAsRead members)
  | .float x => numberAsRead x
  | .null => .null
  | .bool b => .bool b
  | .int n => .int n
  | .string s => .string s

def itemsAsRead : List Json → List Json
  | [] => []
  | item :: rest => asRead item :: itemsAsRead rest

def membersAsRead : List (String × Json) → List (String × Json)
  | [] => []
  | (key, value) :: rest => (key, asRead value) :: membersAsRead rest

end

theorem itemsAsRead_eq_map (items : List Json) : itemsAsRead items = items.map asRead := by
  induction items with
  | nil => rfl
  | cons item items ih => simp only [itemsAsRead, ih, List.map_cons]

theorem membersAsRead_eq_map (members : List (String × Json)) :
    membersAsRead members = Table.mapValues members asRead := by
  induction members with
  | nil => rfl
  | cons member members ih => simp only [membersAsRead, ih, Table.mapValues, List.map_cons]

theorem numberAsRead_readsBack {x : Binary64} (h : ReadsBack x) : numberAsRead x = .float x := by
  obtain ⟨hfinite, hreread⟩ := readsBack_iff.mp h
  rw [numberAsRead, if_pos hfinite, hreread]

theorem Fits.asRead_eq {depth : Nat} {value : Json} (h : Readable depth value) :
    value.asRead = value := by
  induction h with
  | null depth => rfl
  | bool depth b => rfl
  | int depth hn => rfl
  | float depth hx => exact numberAsRead_readsBack hx
  | string depth s => rfl
  | array _ ih =>
    rw [asRead, itemsAsRead_eq_map, List.map_congr_left ih, List.map_id']
  | object _ ih =>
    have hmembers : ∀ member ∈ _, (member.1, asRead member.2) = member :=
      fun member hmem => Prod.ext rfl (ih member hmem)
    rw [asRead, membersAsRead_eq_map, Table.mapValues, List.map_congr_left hmembers, List.map_id']

/-- The text is read as the value, whatever follows it but the rest of a number. -/
def Spells (depth : Nat) (text : List Char) (value : Json) : Prop :=
  ∀ rest, AfterNumber rest → readValue depth (text ++ rest) = .ok (value, rest)

/-! ## Layout -/

def IsGap (gap : List Char) : Prop :=
  ∀ c ∈ gap, isLayout c = true

theorem isGap_nil : IsGap [] := by simp [IsGap]

theorem isGap_newline (level : Nat) : IsGap (newline level) := by
  intro c hc
  rcases List.mem_cons.mp hc with rfl | hc
  · decide
  · rw [List.eq_of_mem_replicate hc]
    decide

theorem skipLayout_gap {gap : List Char} (h : IsGap gap) (text : List Char) :
    skipLayout (gap ++ text) = skipLayout text := by
  induction gap with
  | nil => rfl
  | cons c gap ih =>
    have hc := h c List.mem_cons_self
    have hgap := ih fun d hd => h d (List.mem_cons_of_mem c hd)
    rw [← hgap, List.cons_append, skipLayout, List.dropWhile_cons_of_pos hc]
    rfl

theorem skipLayout_cons {c : Char} (h : isLayout c = false) (text : List Char) :
    skipLayout (c :: text) = c :: text := by
  simp [skipLayout, h]

theorem skipLayout_skipLayout (text : List Char) :
    skipLayout (skipLayout text) = skipLayout text := by
  induction text with
  | nil => rfl
  | cons c text ih => by_cases hc : isLayout c <;> simp_all [skipLayout]

theorem readValue_skipLayout (depth : Nat) (text : List Char) :
    readValue depth (skipLayout text) = readValue depth text := by
  rw [readValue, readValue, skipLayout_skipLayout]

theorem readValue_gap (depth : Nat) {gap : List Char} (h : IsGap gap) (text : List Char) :
    readValue depth (gap ++ text) = readValue depth text := by
  rw [← readValue_skipLayout, skipLayout_gap h, readValue_skipLayout]

theorem Spells.after_gap {depth : Nat} {gap text : List Char} {value : Json} (hgap : IsGap gap)
    (h : Spells depth text value) : Spells depth (gap ++ text) value := by
  intro rest hrest
  rw [List.append_assoc, readValue_gap depth hgap]
  exact h rest hrest

theorem afterNumber_gap {gap : List Char} (h : IsGap gap) {c : Char} (hdigit : isDigit c = false)
    (hmark : c ≠ '.' ∧ c ≠ 'e' ∧ c ≠ 'E') (rest : List Char) :
    AfterNumber (gap ++ c :: rest) := by
  cases gap with
  | nil => exact afterNumber_cons rest hdigit hmark
  | cons d gap =>
    have hd : isLayout d = true := h d List.mem_cons_self
    have hnot : isDigit d = false := by
      refine Bool.eq_false_iff.mpr fun hdig => ?_
      rw [isLayout_eq_false_of_isDigit hdig] at hd
      cases hd
    refine afterNumber_cons _ hnot ⟨?_, ?_, ?_⟩ <;> rintro rfl <;> exact absurd hd (by decide)

theorem readValue_start {depth : Nat} {text : List Char} {result : Json × List Char}
    (h : readValue depth text = .ok result) :
    ∃ c rest, skipLayout text = c :: rest ∧ c ≠ ']' := by
  rw [readValue] at h
  cases hskip : skipLayout text with
  | nil => rw [hskip] at h; cases h
  | cons c rest =>
    refine ⟨c, rest, rfl, ?_⟩
    rintro rfl
    rw [hskip] at h
    cases h

theorem length_le_skipLayout {c : Char} (h : isLayout c = false) (front text : List Char) :
    (c :: text).length ≤ (skipLayout (front ++ c :: text)).length := by
  induction front with
  | nil => simp only [List.nil_append, skipLayout_cons h, Nat.le_refl]
  | cons d front ih =>
    by_cases hd : isLayout d
    · simpa [skipLayout, hd] using ih
    · simp [skipLayout, hd]
      omega

/-! ## Pieces between commas -/

def continued (gap : List Char) (pieces : List (List Char)) : List Char :=
  pieces.flatMap fun piece => ',' :: gap ++ piece

theorem continued_cons (gap piece : List Char) (pieces : List (List Char)) :
    continued gap (piece :: pieces) = ',' :: (gap ++ piece ++ continued gap pieces) := by
  simp [continued]

theorem length_le_continued (gap : List Char) (pieces : List (List Char)) :
    pieces.length ≤ (continued gap pieces).length := by
  induction pieces with
  | nil => simp
  | cons piece pieces ih =>
    simp only [continued_cons, List.length_cons, List.length_append]
    omega

theorem afterNumber_continued (gap : List Char) (pieces : List (List Char)) {close : List Char}
    (hclose : IsGap close) {c : Char} (hdigit : isDigit c = false)
    (hmark : c ≠ '.' ∧ c ≠ 'e' ∧ c ≠ 'E') (rest : List Char) :
    AfterNumber (continued gap pieces ++ (close ++ c :: rest)) := by
  cases pieces with
  | nil => exact afterNumber_gap hclose hdigit hmark rest
  | cons piece pieces =>
    rw [continued_cons]
    exact afterNumber_cons _ (by decide) (by decide)

theorem readItems_skipLayout (depth steps : Nat) (text : List Char) :
    readItems (readValue depth) steps (skipLayout text) =
      readItems (readValue depth) steps text := by
  cases steps with
  | zero => rfl
  | succ steps => rw [readItems, readItems, readValue_skipLayout]

theorem readItems_last {item : List Char → Reading Json} {text after rest : List Char}
    {value : Json} (hitem : item text = .ok (value, after))
    (hclose : skipLayout after = ']' :: rest) (steps : Nat) :
    readItems item (steps + 1) text = .ok ([value], rest) := by
  simp [readItems, hitem, hclose]

theorem readItems_more {item : List Char → Reading Json} {text after next more rest : List Char}
    {value : Json} {values : List Json} {steps : Nat} {c : Char}
    (hitem : item text = .ok (value, after)) (hcomma : skipLayout after = ',' :: next)
    (hnext : skipLayout next = c :: more) (hc : c ≠ ']')
    (hgo : readItems item steps (c :: more) = .ok (values, rest)) :
    readItems item (steps + 1) text = .ok (value :: values, rest) := by
  simp [readItems, hitem, hcomma, hnext, hc, hgo]

/-- The first item is given by its text; the induction is on the items after it. -/
theorem readItems_continued {depth : Nat} {gap close : List Char} (hgap : IsGap gap)
    (hclose : IsGap close) {spelling : Json → List Char} {result : Json → Json}
    {items : List Json} (hitems : ∀ item ∈ items, Spells depth (spelling item) (result item))
    {text : List Char} {value : Json} (htext : Spells depth text value) {steps : Nat}
    (hsteps : items.length < steps) (rest : List Char) :
    readItems (readValue depth) steps
        (text ++ (continued gap (items.map spelling) ++ (close ++ ']' :: rest))) =
      .ok (value :: items.map result, rest) := by
  induction items generalizing text value steps with
  | nil =>
    obtain ⟨steps, rfl⟩ := Nat.exists_eq_add_of_lt hsteps
    have hread := htext _ (afterNumber_gap hclose (c := ']') (by decide) (by decide) rest)
    have hbracket : skipLayout (close ++ ']' :: rest) = ']' :: rest := by
      rw [skipLayout_gap hclose, skipLayout_cons (by decide)]
    exact readItems_last hread hbracket _
  | cons item items ih =>
    obtain ⟨steps, rfl⟩ : ∃ k, steps = k + 1 := ⟨steps - 1, by simp at hsteps; omega⟩
    have hitem := (hitems item List.mem_cons_self).after_gap hgap
    have hothers : ∀ other ∈ items, Spells depth (spelling other) (result other) :=
      fun other hother => hitems other (List.mem_cons_of_mem item hother)
    let next := gap ++ spelling item ++
      (continued gap (items.map spelling) ++ (close ++ ']' :: rest))
    have hgo : readItems (readValue depth) steps next =
        .ok (result item :: items.map result, rest) :=
      ih hothers hitem (by simpa using hsteps)
    have hcomma : continued gap ((item :: items).map spelling) ++ (close ++ ']' :: rest) =
        ',' :: next := by
      simp only [List.map_cons, continued_cons, List.cons_append, List.append_assoc, next]
    have hread := htext (',' :: next) (afterNumber_cons _ (by decide) (by decide))
    have hvalue : ∃ result, readValue depth next = .ok result := by
      cases steps with
      | zero => cases hgo
      | succ steps =>
        rw [readItems] at hgo
        split at hgo
        · cases hgo
        · next value after heq => exact ⟨_, heq⟩
    obtain ⟨result, hvalue⟩ := hvalue
    obtain ⟨c, more, hstart, hc⟩ := readValue_start hvalue
    rw [← readItems_skipLayout, hstart] at hgo
    rw [hcomma]
    exact readItems_more hread (skipLayout_cons (by decide) next) hstart hc hgo

theorem readArray_items {item : List Char → Reading Json} {text rest more : List Char} {c : Char}
    {values : List Json} (hstart : skipLayout text = c :: more) (hc : c ≠ ']')
    (h : readItems item ((c :: more).length + 1) (c :: more) = .ok (values, rest)) :
    readArray item text = .ok (.array values, rest) := by
  simp only [List.length_cons] at h
  simp [readArray, hstart, hc, h]

theorem readValue_array (depth : Nat) (text : List Char) :
    readValue (depth + 1) ('[' :: text) = readArray (readValue depth) text := by
  rw [readValue, skipLayout_cons (by decide)]
  rfl

theorem readValue_object (depth : Nat) (text : List Char) :
    readValue (depth + 1) ('{' :: text) = readObject (readValue depth) text := by
  rw [readValue, skipLayout_cons (by decide)]
  rfl

theorem spells_empty_array (depth : Nat) : Spells (depth + 1) ['[', ']'] (.array []) := by
  intro rest _
  rw [List.cons_append, readValue_array, readArray, List.cons_append, skipLayout_cons (by decide)]
  rfl

theorem spells_array {depth : Nat} {gap close : List Char} (hgap : IsGap gap)
    (hclose : IsGap close) {spelling : Json → List Char} {result : Json → Json} {first : Json}
    {items : List Json}
    (hitems : ∀ item ∈ first :: items, Spells depth (spelling item) (result item)) :
    Spells (depth + 1)
      ('[' :: (gap ++ spelling first ++ continued gap (items.map spelling) ++ close ++ [']']))
      (.array ((first :: items).map result)) := by
  intro rest _
  have hfirst := (hitems first List.mem_cons_self).after_gap hgap
  have hothers : ∀ item ∈ items, Spells depth (spelling item) (result item) :=
    fun item hitem => hitems item (List.mem_cons_of_mem first hitem)
  let tail := continued gap (items.map spelling) ++ (close ++ ']' :: rest)
  have htail : AfterNumber tail :=
    afterNumber_continued gap (items.map spelling) hclose (by decide) (by decide) rest
  obtain ⟨c, more, hstart, hc⟩ := readValue_start (hfirst _ htail)
  have hlength : items.length < (c :: more).length + 1 := by
    cases items with
    | nil => simp
    | cons item items =>
      have hle := length_le_skipLayout (c := ',') (by decide) (gap ++ spelling first)
        (gap ++ spelling item ++ continued gap (items.map spelling) ++ (close ++ ']' :: rest))
      simp only [tail, List.map_cons, continued_cons, List.cons_append] at hstart
      rw [hstart] at hle
      have hpieces := length_le_continued gap (items.map spelling)
      simp only [List.length_cons, List.length_append, List.length_map] at hle hpieces ⊢
      omega
  have hread := readItems_continued hgap hclose hothers hfirst hlength rest
  rw [← readItems_skipLayout, hstart] at hread
  have htext : '[' :: (gap ++ spelling first ++ continued gap (items.map spelling) ++ close ++
      [']']) ++ rest = '[' :: (gap ++ spelling first ++ tail) := by
    simp [tail]
  rw [htext, readValue_array]
  exact readArray_items hstart hc hread

/-! ## Members of objects -/

def memberRest (space : List Char) (spelling : Json → List Char) (member : String × Json) :
    List Char :=
  member.1.toList.flatMap escapeChar ++ '"' :: ':' :: (space ++ spelling member.2)

def memberText (space : List Char) (spelling : Json → List Char) (member : String × Json) :
    List Char :=
  '"' :: memberRest space spelling member

theorem readMemberValue_colon (item : List Char → Reading Json) (text : List Char) :
    readMemberValue item (':' :: text) = item text := by
  rw [readMemberValue, skipLayout_cons (by decide)]
  rfl

theorem readMembers_last {item : List Char → Reading Json} {text after later rest : List Char}
    {key : String} {value : Json} (hkey : readString text = .ok (key, after))
    (hvalue : readMemberValue item after = .ok (value, later))
    (hclose : skipLayout later = '}' :: rest) (steps : Nat) :
    readMembers item (steps + 1) text = .ok ([(key, value)], rest) := by
  simp [readMembers, hkey, hvalue, hclose]

theorem readMembers_more {item : List Char → Reading Json}
    {text after later next more rest : List Char} {key : String} {value : Json}
    {members : List (String × Json)} {steps : Nat} (hkey : readString text = .ok (key, after))
    (hvalue : readMemberValue item after = .ok (value, later))
    (hcomma : skipLayout later = ',' :: next) (hnext : skipLayout next = '"' :: more)
    (hgo : readMembers item steps more = .ok (members, rest)) :
    readMembers item (steps + 1) text = .ok ((key, value) :: members, rest) := by
  simp [readMembers, hkey, hvalue, hcomma, hnext, hgo]

/-- The induction is on the members after the first, as it is on the items of an array. -/
theorem readMembers_continued {depth : Nat} {gap space close : List Char} (hgap : IsGap gap)
    (hspace : IsGap space) (hclose : IsGap close) {spelling : Json → List Char}
    {result : Json → Json} {first : String × Json} {members : List (String × Json)}
    (hmembers : ∀ member ∈ first :: members,
      Spells depth (spelling member.2) (result member.2))
    {steps : Nat} (hsteps : members.length < steps) (rest : List Char) :
    readMembers (readValue depth) steps
        (memberRest space spelling first ++
          (continued gap (members.map (memberText space spelling)) ++ (close ++ '}' :: rest))) =
      .ok (Table.mapValues (first :: members) result, rest) := by
  induction members generalizing first steps with
  | nil =>
    obtain ⟨steps, rfl⟩ := Nat.exists_eq_add_of_lt hsteps
    have hbrace : skipLayout (close ++ '}' :: rest) = '}' :: rest := by
      rw [skipLayout_gap hclose, skipLayout_cons (by decide)]
    have hvalue := ((hmembers first List.mem_cons_self).after_gap hspace) _
      (afterNumber_gap hclose (c := '}') (by decide) (by decide) rest)
    have hkey := read_string_text first.1
      (':' :: (space ++ spelling first.2 ++ (close ++ '}' :: rest)))
    rw [← readMemberValue_colon (readValue depth)] at hvalue
    have hread := readMembers_last hkey hvalue hbrace (0 + steps)
    simpa [memberRest, continued, Table.mapValues] using hread
  | cons member members ih =>
    obtain ⟨steps, rfl⟩ : ∃ k, steps = k + 1 := ⟨steps - 1, by simp at hsteps; omega⟩
    have hothers : ∀ other ∈ member :: members, Spells depth (spelling other.2) (result other.2) :=
      fun other hother => hmembers other (List.mem_cons_of_mem first hother)
    have hfewer : members.length < steps := by simpa using hsteps
    have hgo := ih hothers hfewer
    let more := memberRest space spelling member ++
      (continued gap (members.map (memberText space spelling)) ++ (close ++ '}' :: rest))
    have hnext : skipLayout (gap ++ '"' :: more) = '"' :: more := by
      rw [skipLayout_gap hgap, skipLayout_cons (by decide)]
    have hvalue := ((hmembers first List.mem_cons_self).after_gap hspace)
      (',' :: (gap ++ '"' :: more)) (afterNumber_cons _ (by decide) (by decide))
    have hkey := read_string_text first.1
      (':' :: (space ++ spelling first.2 ++ ',' :: (gap ++ '"' :: more)))
    rw [← readMemberValue_colon (readValue depth)] at hvalue
    have hread := readMembers_more hkey hvalue (skipLayout_cons (by decide) _) hnext hgo
    simpa [memberRest, memberText, continued_cons, more, Table.mapValues] using hread

theorem spells_empty_object (depth : Nat) : Spells (depth + 1) ['{', '}'] (.object []) := by
  intro rest _
  rw [List.cons_append, readValue_object, readObject, List.cons_append, skipLayout_cons (by decide)]
  rfl

theorem readObject_members {item : List Char → Reading Json} {text rest more : List Char}
    {members : List (String × Json)} (hstart : skipLayout text = '"' :: more)
    (h : readMembers item (more.length + 1) more = .ok (members, rest)) :
    readObject item text = .ok (ofMembers members, rest) := by
  simp [readObject, hstart, h]

theorem spells_object {depth : Nat} {gap space close : List Char} (hgap : IsGap gap)
    (hspace : IsGap space) (hclose : IsGap close) {spelling : Json → List Char}
    {result : Json → Json} {first : String × Json} {members : List (String × Json)}
    (hmembers : ∀ member ∈ first :: members,
      Spells depth (spelling member.2) (result member.2)) :
    Spells (depth + 1)
      ('{' :: (gap ++ memberText space spelling first ++
        continued gap (members.map (memberText space spelling)) ++ close ++ ['}']))
      (ofMembers (Table.mapValues (first :: members) result)) := by
  intro rest _
  let more := memberRest space spelling first ++
    (continued gap (members.map (memberText space spelling)) ++ (close ++ '}' :: rest))
  have hlength : members.length < more.length + 1 := by
    have hpieces := length_le_continued gap (members.map (memberText space spelling))
    simp only [List.length_map] at hpieces
    simp only [more, List.length_append]
    omega
  have hread := readMembers_continued hgap hspace hclose hmembers hlength rest
  have hstart : skipLayout (gap ++ '"' :: more) = '"' :: more := by
    rw [skipLayout_gap hgap, skipLayout_cons (by decide)]
  have htext : '{' :: (gap ++ memberText space spelling first ++
      continued gap (members.map (memberText space spelling)) ++ close ++ ['}']) ++ rest =
      '{' :: (gap ++ '"' :: more) := by
    simp [memberText, more]
  rw [htext, readValue_object]
  exact readObject_members hstart hread

/-! ## Both forms of writing -/

theorem sortedItems_eq_map (items : List Json) : sortedItems items = items.map sorted := by
  induction items with
  | nil => rfl
  | cons item items ih => simp only [sortedItems, ih, List.map_cons]

theorem sortedMembers_eq_map (members : List (String × Json)) :
    sortedMembers members = Table.mapValues members sorted := by
  induction members with
  | nil => rfl
  | cons member members ih => simp only [sortedMembers, ih, Table.mapValues, List.map_cons]

theorem compactItems_cons (item : Json) (items : List Json) :
    compactItems (item :: items) = compactChars item ++ continued [] (items.map compactChars) := by
  induction items generalizing item with
  | nil => simp [compactItems, continued]
  | cons next items ih =>
    rw [compactItems, ih next, List.map_cons, continued_cons, List.nil_append]

theorem compactMembers_cons (member : String × Json) (members : List (String × Json)) :
    compactMembers (member :: members) =
      memberText [] compactChars member ++
        continued [] (members.map (memberText [] compactChars)) := by
  induction members generalizing member with
  | nil => simp [compactMembers, continued, memberText, memberRest, quoted]
  | cons next members ih =>
    rw [compactMembers, ih next, List.map_cons, continued_cons]
    simp [memberText, memberRest, quoted]

theorem prettyItems_cons (level : Nat) (item : Json) (items : List Json) :
    prettyItems level (item :: items) =
      newline level ++ prettyChars level item ++
        continued (newline level) (items.map (prettyChars level)) := by
  induction items generalizing item with
  | nil => simp [prettyItems, continued]
  | cons next items ih =>
    rw [prettyItems, ih next, List.map_cons, continued_cons]

theorem prettyMembers_cons (level : Nat) (member : String × Json)
    (members : List (String × Json)) :
    prettyMembers level (member :: members) =
      newline level ++ memberText [' '] (prettyChars level) member ++
        continued (newline level) (members.map (memberText [' '] (prettyChars level))) := by
  induction members generalizing member with
  | nil => simp [prettyMembers, continued, memberText, memberRest, quoted]
  | cons next members ih =>
    rw [prettyMembers, ih next, List.map_cons, continued_cons]
    simp [memberText, memberRest, quoted]

theorem spells_string (depth : Nat) (s : String) : Spells depth (quoted s) (.string s) := by
  intro rest _
  have hread := read_string_text s rest
  rw [quoted, List.cons_append, List.cons_append, List.append_assoc, List.singleton_append,
    readValue, skipLayout_cons (by decide)]
  simp only [hread]

theorem spells_null (depth : Nat) : Spells depth ['n', 'u', 'l', 'l'] .null := by
  intro rest _
  rw [List.cons_append, readValue, skipLayout_cons (by decide)]
  rfl

theorem spells_bool (depth : Nat) (b : Bool) : Spells depth (scalar (.bool b)) (.bool b) := by
  intro rest _
  cases b
  all_goals
    rw [scalar, List.cons_append, readValue, skipLayout_cons (by decide)]
    rfl

theorem spells_float (depth : Nat) (x : Binary64) :
    Spells depth (scalar (.float x)) (numberAsRead x) := by
  intro rest hrest
  rw [scalar, numberAsRead]
  cases hfinite : x.isFinite with
  | false => exact spells_null depth rest hrest
  | true => exact readValue_spelling hfinite depth hrest

theorem sorted_numberAsRead (x : Binary64) : (numberAsRead x).sorted = numberAsRead x := by
  unfold numberAsRead
  split
  · rfl
  · rfl

theorem sorted_asRead_array (items : List Json) :
    (asRead (.array items)).sorted = .array (items.map fun item => item.asRead.sorted) := by
  rw [asRead, itemsAsRead_eq_map, sorted, sortedItems_eq_map, List.map_map]
  rfl

theorem sorted_asRead_object (members : List (String × Json)) :
    (asRead (.object members)).sorted =
      ofMembers (Table.mapValues members fun value => value.asRead.sorted) := by
  rw [asRead, membersAsRead_eq_map, sorted, sortedMembers_eq_map, Table.mapValues, Table.mapValues,
    List.map_map]
  rfl

variable {admits : Binary64 → Prop} {depth : Nat} {value : Json}

theorem compact_spells (h : Fits admits depth value) :
    Spells depth (compactChars value) value.asRead.sorted := by
  induction h with
  | null depth => exact spells_null depth
  | bool depth b => exact spells_bool depth b
  | int depth hn => exact fun rest hrest => read_integer hn depth hrest
  | @float depth x _ =>
    rw [asRead, sorted_numberAsRead]
    exact spells_float depth x
  | string depth s => exact spells_string depth s
  | @array depth items _ ih =>
    cases items with
    | nil => exact spells_empty_array depth
    | cons first items =>
      rw [sorted_asRead_array, compactChars, compactItems_cons]
      simpa using spells_array isGap_nil isGap_nil ih
  | @object depth members _ ih =>
    cases members with
    | nil => exact spells_empty_object depth
    | cons first members =>
      rw [sorted_asRead_object, compactChars, compactMembers_cons]
      simpa using spells_object isGap_nil isGap_nil isGap_nil ih

theorem pretty_spells (h : Fits admits depth value) (level : Nat) :
    Spells depth (prettyChars level value) value.asRead.sorted := by
  induction h generalizing level with
  | null depth => exact spells_null depth
  | bool depth b => exact spells_bool depth b
  | int depth hn => exact fun rest hrest => read_integer hn depth hrest
  | @float depth x _ =>
    rw [asRead, sorted_numberAsRead]
    exact spells_float depth x
  | string depth s => exact spells_string depth s
  | @array depth items _ ih =>
    cases items with
    | nil => exact spells_empty_array depth
    | cons first items =>
      rw [sorted_asRead_array, prettyChars, prettyItems_cons]
      simpa using spells_array (isGap_newline (level + 1)) (isGap_newline level)
        fun item hitem => ih item hitem (level + 1)
  | @object depth members _ ih =>
    cases members with
    | nil => exact spells_empty_object depth
    | cons first members =>
      have hspace : IsGap [' '] := by simp [IsGap, isLayout]
      rw [sorted_asRead_object, prettyChars, prettyMembers_cons]
      simpa using spells_object (isGap_newline (level + 1)) hspace (isGap_newline level)
        fun member hmember => ih member hmember (level + 1)

theorem read_of_spells {text : List Char} (h : Spells deepest text value) :
    read (String.ofList text) = .ok value := by
  have hread := h [] afterNumber_nil
  rw [List.append_nil] at hread
  simp [read, readText, hread, skipLayout]

theorem read_compact_asRead (h : Fits admits deepest value) :
    read (compact value) = .ok value.asRead.sorted :=
  read_of_spells (compact_spells h)

theorem read_pretty_asRead (h : Fits admits deepest value) :
    read (pretty value) = .ok value.asRead.sorted :=
  read_of_spells (pretty_spells h 0)

theorem read_compact (h : Readable deepest value) : read (compact value) = .ok (sorted value) := by
  rw [read_compact_asRead h, h.asRead_eq]

theorem read_pretty (h : Readable deepest value) : read (pretty value) = .ok (sorted value) := by
  rw [read_pretty_asRead h, h.asRead_eq]

end VehicleMarket.Json
