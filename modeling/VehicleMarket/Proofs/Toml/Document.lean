import VehicleMarket.Proofs.Toml.Continuation

/-!
Documents line by line. Values of any depth, headers and the lines of keys are read of a longer text
as they are read of its whole lines, so a document is read up to the end of some line, and then from
there on with the tables and the header that are open.
-/
namespace VehicleMarket.Toml

/-! ## Layout -/

theorem Ended.noReturn {c : Char} {cs : List Char} (hcs : Ended (c :: cs)) (hfeed : c ≠ '\n')
    (hreturn : ∀ rest, c = '\r' → cs = '\n' :: rest → False) (more rest : List Char) :
    c = '\r' → cs ++ more = '\n' :: rest → False := by
  intro hc heq
  obtain ⟨later, hlater, -⟩ := (hcs.tail hfeed).head_of_append heq
  exact hreturn later hc hlater

theorem skipLayout_suffix {inComment : Bool} {cs rest : List Char}
    (h : skipLayout inComment cs = .ok rest) : rest <:+ cs := by
  fun_induction skipLayout inComment cs with
  | case1 =>
    cases h
    exact List.suffix_refl _
  | case2 _ _ ih => exact (ih h).trans (List.suffix_cons _ _)
  | case3 _ _ ih => exact (ih h).trans ⟨['\r', '\n'], rfl⟩
  | case4 => cases h
  | case5 _ _ _ _ _ ih | case6 _ _ _ _ _ _ _ ih | case7 _ _ _ _ _ _ ih =>
    exact (ih h).trans (List.suffix_cons _ _)
  | case8 =>
    cases h
    exact List.suffix_refl _

/-- Layout goes on in the longer text exactly if it goes on to the end of the text. -/
theorem skipLayout_append {inComment : Bool} {cs rest : List Char} (hcs : Ended cs)
    (h : skipLayout inComment cs = .ok rest) (more : List Char) :
    skipLayout inComment (cs ++ more) =
      if rest = [] then skipLayout false more else .ok (rest ++ more) := by
  fun_induction skipLayout inComment cs with
  | case1 => exact absurd rfl hcs.ne_nil
  | case2 inComment cs ih =>
    rw [List.cons_append, skipLayout]
    rcases hcs.nil_or_tail with rfl | hcs
    · cases h
      rw [List.nil_append, if_pos rfl]
    · exact ih hcs h
  | case3 inComment cs ih =>
    simp only [List.cons_append, skipLayout]
    rcases (hcs.tail (by decide)).nil_or_tail with rfl | hcs
    · cases h
      rw [List.nil_append, if_pos rfl]
    · exact ih hcs h
  | case4 => cases h
  | case5 c cs hfeed hreturn hplain ih =>
    rw [List.cons_append, skipLayout, if_pos rfl, if_neg hplain]
    · exact ih (hcs.tail hfeed) h
    · exact hfeed
    · exact hcs.noReturn hfeed hreturn more
  | case6 inComment c cs hfeed hreturn hopen hblank ih =>
    rw [List.cons_append, skipLayout, if_neg hopen, if_pos hblank]
    · exact ih (hcs.tail hfeed) h
    · exact hfeed
    · exact hcs.noReturn hfeed hreturn more
  | case7 inComment cs hopen hfeed hreturn hblank ih =>
    rw [List.cons_append, skipLayout, if_neg hopen, if_neg hblank, if_pos rfl]
    · exact ih (hcs.tail hfeed) h
    · exact hfeed
    · exact hcs.noReturn hfeed hreturn more
  | case8 inComment c cs hfeed hreturn hopen hblank hhash =>
    cases h
    rw [List.cons_append, skipLayout, if_neg hopen, if_neg hblank, if_neg hhash,
      if_neg (List.cons_ne_nil c cs)]
    · exact hfeed
    · exact hcs.noReturn hfeed hreturn more

theorem endLine_suffix {inComment : Bool} {cs rest : List Char}
    (h : endLine inComment cs = .ok rest) : rest <:+ cs := by
  fun_induction endLine inComment cs with
  | case1 =>
    cases h
    exact List.suffix_refl _
  | case2 =>
    cases h
    exact List.suffix_cons _ _
  | case3 =>
    cases h
    exact ⟨['\r', '\n'], rfl⟩
  | case4 => cases h
  | case5 _ _ _ _ _ ih | case6 _ _ _ _ _ _ _ ih | case7 _ _ _ _ _ _ ih =>
    exact (ih h).trans (List.suffix_cons _ _)
  | case8 => cases h

theorem endLine_append {inComment : Bool} {cs rest : List Char} (hcs : Ended cs)
    (h : endLine inComment cs = .ok rest) (more : List Char) :
    endLine inComment (cs ++ more) = .ok (rest ++ more) := by
  fun_induction endLine inComment cs with
  | case1 => exact absurd rfl hcs.ne_nil
  | case2 =>
    cases h
    rw [List.cons_append, endLine]
  | case3 =>
    cases h
    simp only [List.cons_append, endLine]
  | case4 => cases h
  | case5 c cs hfeed hreturn hplain ih =>
    rw [List.cons_append, endLine, if_pos rfl, if_neg hplain]
    · exact ih (hcs.tail hfeed) h
    · exact hfeed
    · exact hcs.noReturn hfeed hreturn more
  | case6 inComment c cs hfeed hreturn hopen hblank ih =>
    rw [List.cons_append, endLine, if_neg hopen, if_pos hblank]
    · exact ih (hcs.tail hfeed) h
    · exact hfeed
    · exact hcs.noReturn hfeed hreturn more
  | case7 inComment cs hopen hfeed hreturn hblank ih =>
    rw [List.cons_append, endLine, if_neg hopen, if_neg hblank, if_pos rfl]
    · exact ih (hcs.tail hfeed) h
    · exact hfeed
    · exact hcs.noReturn hfeed hreturn more
  | case8 => cases h

theorem skipLayout_cons {cs rest : List Char} {c : Char}
    (h : skipLayout false cs = .ok (c :: rest)) :
    (Ended cs → Ended (c :: rest)) ∧
      (Ended cs → ∀ more, skipLayout false (cs ++ more) = .ok (c :: (rest ++ more))) := by
  constructor
  · intro hcs
    exact hcs.of_suffix (skipLayout_suffix h) (List.cons_ne_nil c rest)
  · intro hcs more
    rw [skipLayout_append hcs h, if_neg (List.cons_ne_nil c rest)]
    rfl

section Mark

variable {α β : Type} {outer : List Char → Reading β} {cs mid after rest : List Char} {c : Char}
  {x : α} {y : β} (hc : c ≠ '\n') (h : skipLayout false mid = .ok (c :: after))
  (hsuffix : mid <:+ cs) (hmid : Ended cs → Ended mid)
include hc h hsuffix hmid

theorem Carried.afterMark {next : List Char → Reading α} (hnext : Carried next after x rest)
    (houter : Ended cs → ∀ more, skipLayout false (mid ++ more) = .ok (c :: (after ++ more)) →
      next (after ++ more) = .ok (x, rest ++ more) → outer (cs ++ more) = .ok (y, rest ++ more)) :
    Carried outer cs y rest := by
  obtain ⟨hended, hagain⟩ := skipLayout_cons h
  refine hnext.later ((List.suffix_cons c after).trans ((skipLayout_suffix h).trans hsuffix))
    (fun hcs => (hended (hmid hcs)).tail hc) ?_
  intro hcs more
  exact houter hcs more (hagain (hmid hcs) more)

theorem Carried.ofMark
    (houter : Ended cs → ∀ more, skipLayout false (mid ++ more) = .ok (c :: (after ++ more)) →
      outer (cs ++ more) = .ok (y, after ++ more)) : Carried outer cs y after := by
  have hdone : Carried (fun cs => .ok ((), cs)) after () after :=
    ⟨List.suffix_refl after, id, fun _ _ => rfl⟩
  exact Carried.afterMark hc h hsuffix hmid hdone fun hcs more hlonger _ => houter hcs more hlonger

end Mark

/-! ## Arrays and inline tables -/

section Nested

variable {value : List Char → Reading Toml} (hvalue : Carrying value)
include hvalue

theorem carried_readItems {n m : Nat} (hle : n ≤ m) {cs rest : List Char} {items : List Toml}
    (h : readItems value n cs = .ok (items, rest)) :
    Carried (readItems value m) cs items rest := by
  induction n generalizing m cs items with
  | zero => cases h
  | succ n ih =>
    obtain ⟨m, rfl⟩ : ∃ k, m = k + 1 := ⟨m - 1, by omega⟩
    rw [readItems] at h
    split at h
    · cases h
    · cases h
    · rename_i hclose
      cases h
      refine .ofMark (by decide) hclose (List.suffix_refl cs) id ?_
      intro _ more hlonger
      simp only [readItems, hlonger]
    · rename_i first hsome hopen hlayout
      obtain ⟨c, after, rfl⟩ := List.exists_cons_of_ne_nil hsome
      have hc : c ≠ ']' := fun heq => hopen after (heq ▸ rfl)
      obtain ⟨hended, hagain⟩ := skipLayout_cons hlayout
      split at h
      · cases h
      · rename_i item mid hitem
        have hread := hvalue hitem
        have hsuffix : mid <:+ cs := hread.suffix.trans (skipLayout_suffix hlayout)
        have hmid (hcs : Ended cs) : Ended mid := hread.ended (hended hcs)
        have hlonger (hcs : Ended cs) (more : List Char) :
            value (c :: (after ++ more)) = .ok (item, mid ++ more) :=
          hread.again (hended hcs) more
        split at h
        · cases h
        · rename_i hcomma
          split at h
          · cases h
          · rename_i hothers
            cases h
            refine .afterMark (by decide) hcomma hsuffix hmid
              (ih (Nat.le_of_succ_le_succ hle) hothers) ?_
            intro hcs more hnext hothers
            simp [readItems, hagain hcs more, hc, hlonger hcs more, hnext, hothers]
        · rename_i hclose
          cases h
          refine .ofMark (by decide) hclose hsuffix hmid ?_
          intro hcs more hnext
          simp [readItems, hagain hcs more, hc, hlonger hcs more, hnext]
        · cases h
        · cases h

/-- The equals sign is read as well, so that a character of the text is used up. -/
theorem carried_readPair {cs rest : List Char} {pair : List String × Toml}
    (h : readPair value cs = .ok (pair, rest)) :
    Carried (readPair value) cs pair rest ∧ rest.length < cs.length := by
  unfold readPair at h
  split at h
  · cases h
  · rename_i path mid hkey
    have hfirst := carrying_readKey hkey
    split at h
    · cases h
    · rename_i read after hread
      cases h
      have hsecond := hvalue hread
      have hsuffix : skipBlanks mid <:+ cs :=
        (skipBlanks_suffix mid).trans ((List.suffix_cons '=' mid).trans hfirst.suffix)
      constructor
      · refine hsecond.later hsuffix
          (fun hcs => ((hfirst.ended hcs).tail (by decide)).skipBlanks) ?_
        intro hcs more hlonger
        have hmid : Ended mid := (hfirst.ended hcs).tail (by decide)
        simp only [readPair, hfirst.again hcs more, List.cons_append, hmid.skipBlanks_append,
          hlonger]
      · have hlate := (hsecond.suffix.trans (skipBlanks_suffix mid)).length_le
        have hearly := hfirst.suffix.length_le
        rw [List.length_cons] at hearly
        omega
  · cases h

theorem carried_readMembers {n m : Nat} (hle : n ≤ m) {cs rest : List Char}
    {members result : Members} (h : readMembers value n members cs = .ok (result, rest)) :
    Carried (readMembers value m members) cs result rest := by
  induction n generalizing m cs members with
  | zero => cases h
  | succ n ih =>
    obtain ⟨m, rfl⟩ : ∃ k, m = k + 1 := ⟨m - 1, by omega⟩
    rw [readMembers] at h
    split at h
    · cases h
    · cases h
    · rename_i hclose
      cases h
      refine .ofMark (by decide) hclose (List.suffix_refl cs) id ?_
      intro _ more hlonger
      simp only [readMembers, hlonger]
    · rename_i first hsome hopen hlayout
      obtain ⟨c, after, rfl⟩ := List.exists_cons_of_ne_nil hsome
      have hc : c ≠ '}' := fun heq => hopen after (heq ▸ rfl)
      obtain ⟨hended, hagain⟩ := skipLayout_cons hlayout
      split at h
      · cases h
      · rename_i path read mid hpair
        obtain ⟨hread, -⟩ := carried_readPair hvalue hpair
        have hsuffix : mid <:+ cs := hread.suffix.trans (skipLayout_suffix hlayout)
        have hmid (hcs : Ended cs) : Ended mid := hread.ended (hended hcs)
        have hlonger (hcs : Ended cs) (more : List Char) :
            readPair value (c :: (after ++ more)) = .ok ((path, read), mid ++ more) :=
          hread.again (hended hcs) more
        split at h
        · cases h
        · rename_i added hassign
          split at h
          · cases h
          · rename_i hcomma
            refine .afterMark (by decide) hcomma hsuffix hmid
              (ih (Nat.le_of_succ_le_succ hle) h) ?_
            intro hcs more hnext hothers
            simp [readMembers, hagain hcs more, hc, hlonger hcs more, hassign, hnext, hothers]
          · rename_i hclose
            cases h
            refine .ofMark (by decide) hclose hsuffix hmid ?_
            intro hcs more hnext
            simp [readMembers, hagain hcs more, hc, hlonger hcs more, hassign, hnext]
          · cases h
          · cases h

end Nested

theorem readValue_scalar (depth : Nat) {c : Char} (cs : List Char) (hbracket : c ≠ '[')
    (hbrace : c ≠ '{') :
    readValue depth (c :: cs) =
      if c = '"' || c = literalQuote then readString (c :: cs) else readWord (c :: cs) := by
  rw [readValue]
  · exact hbracket
  · exact hbrace

theorem carried_scalar (depth : Nat) {c : Char} {cs rest : List Char} {value : Toml}
    (hbracket : c ≠ '[') (hbrace : c ≠ '{') (h : readValue depth (c :: cs) = .ok (value, rest)) :
    Carried (readValue depth) (c :: cs) value rest := by
  rw [readValue_scalar depth cs hbracket hbrace] at h
  split at h
  · rename_i hquoted
    refine (carried_readString (isQuote_iff.mp hquoted) h).map ?_
    intro more hlonger
    rw [List.cons_append, readValue_scalar depth _ hbracket hbrace, if_pos hquoted]
    exact hlonger
  · rename_i hword
    refine (carrying_readWord h).map ?_
    intro more hlonger
    rw [List.cons_append, readValue_scalar depth _ hbracket hbrace, if_neg hword]
    exact hlonger

/-- By induction on how deep values may nest. -/
theorem carrying_readValue (depth : Nat) : Carrying (readValue depth) := by
  induction depth with
  | zero =>
    intro cs value rest h
    cases cs with
    | nil => cases h
    | cons c cs =>
      by_cases hbracket : c = '['
      · subst hbracket
        cases h
      · by_cases hbrace : c = '{'
        · subst hbrace
          cases h
        · exact carried_scalar 0 hbracket hbrace h
  | succ depth ih =>
    intro cs value rest h
    cases cs with
    | nil => cases h
    | cons c cs =>
      by_cases hbracket : c = '['
      · subst hbracket
        obtain ⟨read, hread, heq⟩ := map_eq_ok h
        cases heq
        refine (Carried.ofSteps fun hle => carried_readItems ih hle hread).cons (by decide) ?_
        intro more hlonger
        simp only [readValue, hlonger]
        rfl
      · by_cases hbrace : c = '{'
        · subst hbrace
          obtain ⟨read, hread, heq⟩ := map_eq_ok h
          cases heq
          have hmembers : Carried (fun cs => readMembers (readValue depth) (cs.length + 1) [] cs) cs
              read.1 read.2 :=
            Carried.ofSteps fun hle => carried_readMembers ih hle hread
          refine hmembers.cons (by decide) ?_
          intro more hlonger
          simp only [readValue, hlonger]
          rfl
        · exact carried_scalar (depth + 1) hbracket hbrace h

/-! ## Documents -/

/-- What a line leaves unread of a longer text. Unlike the parts of a line, a line may be the whole
text. -/
structure Advanced (step : List Char → Draft → Reading Draft) (cs : List Char)
    (draft next : Draft) (rest : List Char) : Prop where
  suffix : rest <:+ cs
  again : Ended cs → ∀ more, step (cs ++ more) draft = .ok (next, rest ++ more)

theorem closeHeader_suffix {brackets cs rest : List Char} (h : closeHeader brackets cs = .ok rest) :
    rest <:+ cs := by
  unfold closeHeader at h
  split at h
  · exact (endLine_suffix h).trans (List.drop_suffix _ cs)
  · cases h

theorem closeHeader_append {brackets cs rest : List Char} (hbrackets : '\n' ∉ brackets)
    (hcs : Ended cs) (h : closeHeader brackets cs = .ok rest) (more : List Char) :
    closeHeader brackets (cs ++ more) = .ok (rest ++ more) := by
  unfold closeHeader at h ⊢
  split at h
  · rename_i hclosed
    obtain ⟨after, rfl⟩ := List.isPrefixOf_iff_prefix.mp hclosed
    have hafter : Ended after := by
      refine hcs.of_suffix (List.suffix_append brackets after) ?_
      rintro rfl
      rw [List.append_nil] at hcs
      exact hbrackets hcs.feed_mem
    rw [List.drop_left] at h
    rw [List.append_assoc, if_pos, List.drop_left]
    · exact endLine_append hafter h more
    · exact List.isPrefixOf_iff_prefix.mpr (List.prefix_append _ _)
  · cases h

theorem advanced_openHeader (change : String → Members → Option Members) {brackets : List Char}
    (hbrackets : '\n' ∉ brackets) {cs rest : List Char} {draft next : Draft}
    (h : openHeader change brackets cs draft = .ok (next, rest)) :
    Advanced (openHeader change brackets) cs draft next rest := by
  unfold openHeader at h
  split at h
  · cases h
  · rename_i path mid hkey
    have hread := carrying_readKey hkey
    split at h
    · cases h
    · rename_i members hchange
      obtain ⟨after, hclose, heq⟩ := map_eq_ok h
      cases heq
      refine ⟨(closeHeader_suffix hclose).trans hread.suffix, fun hcs more => ?_⟩
      simp only [openHeader, hread.again hcs more, hchange,
        closeHeader_append hbrackets (hread.ended hcs) hclose more]
      rfl

theorem advanced_addPair {cs rest : List Char} {draft next : Draft}
    (h : addPair cs draft = .ok (next, rest)) :
    Advanced addPair cs draft next rest ∧ rest.length < cs.length := by
  unfold addPair at h
  split at h
  · cases h
  · rename_i path value mid hpair
    obtain ⟨hread, hlength⟩ := carried_readPair (carrying_readValue deepest) hpair
    split at h
    · cases h
    · rename_i members hchange
      obtain ⟨after, hend, heq⟩ := map_eq_ok h
      cases heq
      have hmid := endLine_suffix hend
      refine ⟨⟨hmid.trans hread.suffix, fun hcs more => ?_⟩, ?_⟩
      · simp only [addPair, hread.again hcs more, hchange,
          endLine_append (hread.ended hcs) hend more]
        rfl
      · exact Nat.lt_of_le_of_lt hmid.length_le hlength

theorem readLine_header {cs : List Char} (h : ∀ rest, cs ≠ '[' :: rest) (draft : Draft) :
    readLine ('[' :: cs) draft = openHeader openHere [']'] cs draft := by
  unfold readLine
  split
  · rename_i heq
    exact absurd (List.cons.inj heq).2 (h _)
  · rename_i heq
    rw [(List.cons.inj heq).2]
  · rename_i hother
    exact absurd rfl (hother cs)

theorem readLine_pair {cs : List Char} (h : ∀ rest, cs ≠ '[' :: rest) (draft : Draft) :
    readLine cs draft = addPair cs draft := by
  unfold readLine
  split
  · exact absurd rfl (h _)
  · exact absurd rfl (h _)
  · rfl

/-- A line takes at least a character, and sees no more of the text than its lines. -/
theorem advanced_readLine {cs rest : List Char} {draft next : Draft}
    (h : readLine cs draft = .ok (next, rest)) :
    Advanced readLine cs draft next rest ∧ rest.length < cs.length := by
  by_cases hheader : ∃ tail, cs = '[' :: tail
  · obtain ⟨tail, rfl⟩ := hheader
    by_cases harray : ∃ inner, tail = '[' :: inner
    · obtain ⟨inner, rfl⟩ := harray
      have hread : openHeader addHere [']', ']'] inner draft = .ok (next, rest) := h
      obtain ⟨hsuffix, hagain⟩ := advanced_openHeader addHere (by decide) hread
      refine ⟨⟨hsuffix.trans ⟨['[', '['], rfl⟩, fun hcs more => ?_⟩, ?_⟩
      · exact hagain ((hcs.tail (by decide)).tail (by decide)) more
      · have hlength := hsuffix.length_le
        simp only [List.length_cons]
        omega
    · have hsingle := not_exists.mp harray
      rw [readLine_header hsingle] at h
      obtain ⟨hsuffix, hagain⟩ := advanced_openHeader openHere (by decide) h
      refine ⟨⟨hsuffix.trans (List.suffix_cons '[' tail), fun hcs more => ?_⟩, ?_⟩
      · have htail : Ended tail := hcs.tail (by decide)
        rw [List.cons_append, readLine_header (htail.not_head_of_append hsingle more)]
        exact hagain htail more
      · exact Nat.lt_succ_of_le hsuffix.length_le
  · have hpair := not_exists.mp hheader
    rw [readLine_pair hpair] at h
    obtain ⟨⟨hsuffix, hagain⟩, hlength⟩ := advanced_addPair h
    refine ⟨⟨hsuffix, fun hcs more => ?_⟩, hlength⟩
    rw [readLine_pair (hcs.not_head_of_append hpair more)]
    exact hagain hcs more

/-- Beyond the length of a text the number of steps does not matter, nor does the layout in front
of it. -/
theorem readDraft_congr {n m : Nat} {cs others : List Char}
    (h : skipLayout false cs = skipLayout false others) (hn : cs.length < n)
    (hm : others.length < m) (draft : Draft) : readDraft n draft cs = readDraft m draft others := by
  induction n generalizing m cs others draft with
  | zero => exact absurd hn (Nat.not_lt_zero _)
  | succ n ih =>
    obtain ⟨m, rfl⟩ : ∃ k, m = k + 1 := ⟨m - 1, by omega⟩
    rw [readDraft, readDraft, h]
    cases hlayout : skipLayout false others with
    | error fault => rfl
    | ok text =>
      have hothers := (skipLayout_suffix hlayout).length_le
      have hcs := (skipLayout_suffix (h.trans hlayout)).length_le
      cases text with
      | nil => rfl
      | cons c text =>
        simp only
        cases hline : readLine (c :: text) draft with
        | error fault => rfl
        | ok result =>
          have hlength := (advanced_readLine hline).2
          exact ih rfl (by omega) (by omega) result.1

theorem readDraft_line {cs : List Char} {c : Char}
    (hlayout : skipLayout false (c :: cs) = .ok (c :: cs)) {draft final : Draft} :
    readDraft ((c :: cs).length + 1) draft (c :: cs) = .ok final ↔
      ∃ next rest, readLine (c :: cs) draft = .ok (next, rest) ∧
        readDraft (rest.length + 1) next rest = .ok final := by
  rw [readDraft, hlayout]
  simp only
  cases hline : readLine (c :: cs) draft with
  | error fault => simp
  | ok result =>
    have hlength := (advanced_readLine hline).2
    have hrest := readDraft_congr (rfl : skipLayout false result.2 = _) hlength
      (Nat.lt_succ_self _) result.1
    simp only [hrest, Except.ok.injEq]
    constructor
    · intro h
      exact ⟨result.1, result.2, rfl, h⟩
    · rintro ⟨next, rest, rfl, h⟩
      exact h

theorem readDraft_append {n m : Nat} {cs more : List Char} (hcs : cs = [] ∨ Ended cs)
    (hn : cs.length < n) (hm : (cs ++ more).length < m) {draft next : Draft}
    (h : readDraft n draft cs = .ok next) :
    readDraft m draft (cs ++ more) = readDraft (more.length + 1) next more := by
  induction n generalizing m cs draft with
  | zero => exact absurd hn (Nat.not_lt_zero _)
  | succ n ih =>
    rcases hcs with rfl | hcs
    · cases h
      exact readDraft_congr rfl hm (Nat.lt_succ_self _) _
    · obtain ⟨m, rfl⟩ : ∃ k, m = k + 1 := ⟨m - 1, by omega⟩
      rw [readDraft] at h
      split at h
      · cases h
      · rename_i hlayout
        cases h
        have hlonger := skipLayout_append hcs hlayout more
        rw [if_pos rfl] at hlonger
        exact readDraft_congr hlonger hm (Nat.lt_succ_self _) _
      · rename_i text hsome hlayout
        split at h
        · cases h
        · rename_i later rest hline
          have hsuffix := skipLayout_suffix hlayout
          have htext : Ended text := hcs.of_suffix hsuffix hsome
          have hlonger := skipLayout_append hcs hlayout more
          rw [if_neg hsome] at hlonger
          obtain ⟨⟨hrest, hagain⟩, hlength⟩ := advanced_readLine hline
          have hended : rest = [] ∨ Ended rest := by
            by_cases hnil : rest = []
            · exact .inl hnil
            · exact .inr (htext.of_suffix hrest hnil)
          have hshorter := hsuffix.length_le
          rw [List.length_append] at hm
          rw [← ih hended (by omega) (m := m) (by rw [List.length_append]; omega) h, readDraft,
            hlonger]
          obtain ⟨c, tail, rfl⟩ := List.exists_cons_of_ne_nil hsome
          simp only [List.cons_append] at hagain ⊢
          rw [hagain htext more]

def draftOf (text : String) : Except Fault Draft :=
  let cs := withoutMark text.toList
  readDraft (cs.length + 1) ⟨[], []⟩ cs

theorem withoutMark_append {cs : List Char} (hcs : Ended cs) (more : List Char) :
    Ended (withoutMark cs) ∧ withoutMark (cs ++ more) = withoutMark cs ++ more := by
  cases cs with
  | nil => exact absurd rfl hcs.ne_nil
  | cons c cs =>
    simp only [List.cons_append, withoutMark]
    split
    · rename_i hmark
      have hc : c ≠ '\n' := by
        rintro rfl
        exact absurd hmark (by decide)
      exact ⟨hcs.tail hc, rfl⟩
    · exact ⟨hcs, rfl⟩

/-- A document is read up to the end of some line, and from there on. -/
theorem read_append {front : String} (hfront : Ended front.toList) {draft : Draft}
    (hdraft : draftOf front = .ok draft) (back : String) :
    read (front ++ back) =
      (readDraft (back.toList.length + 1) draft back.toList).map Draft.members := by
  obtain ⟨hended, hmark⟩ := withoutMark_append hfront back.toList
  rw [read, String.toList_append, hmark, readDraft_append (.inr hended) (Nat.lt_succ_self _)
    (Nat.lt_succ_self _) hdraft]

end VehicleMarket.Toml
