import VehicleMarket.Toml.Reader
import Mathlib.Data.List.TakeWhile

/-!
Reading on. What a reader takes from the front of a text of whole lines it takes from the front of
every longer text, and it leaves what it left before with the rest of the longer text behind it:
words, keys and runs of quotes all stop before the end of a line, so no reader sees where the text
ends. A document may therefore be read up to the end of some line, and from there on.
-/
namespace VehicleMarket.Toml

/-! ## Texts of whole lines -/

def Ended (cs : List Char) : Prop :=
  ['\n'] <:+ cs

instance (cs : List Char) : Decidable (Ended cs) :=
  inferInstanceAs (Decidable (['\n'] <:+ cs))

theorem Ended.of_suffix {cs rest : List Char} (h : Ended cs) (hsuffix : rest <:+ cs)
    (hne : rest ≠ []) : Ended rest :=
  List.suffix_of_suffix_length_le h hsuffix (List.length_pos_iff.mpr hne)

theorem Ended.feed_mem {cs : List Char} (h : Ended cs) : '\n' ∈ cs :=
  h.subset (List.mem_singleton_self '\n')

theorem Ended.ne_nil {cs : List Char} (h : Ended cs) : cs ≠ [] :=
  List.ne_nil_of_mem h.feed_mem

theorem Ended.tail {c : Char} {cs : List Char} (h : Ended (c :: cs)) (hc : c ≠ '\n') :
    Ended cs := by
  refine h.of_suffix (List.suffix_cons c cs) ?_
  rintro rfl
  exact hc (List.mem_singleton.mp h.feed_mem).symm

theorem Ended.nil_or_tail {c : Char} {cs : List Char} (h : Ended (c :: cs)) :
    cs = [] ∨ Ended cs := by
  by_cases hnil : cs = []
  · exact .inl hnil
  · exact .inr (h.of_suffix (List.suffix_cons c cs) hnil)

theorem Ended.head_of_append {cs more after : List Char} {c : Char} (h : Ended cs)
    (heq : cs ++ more = c :: after) : ∃ rest, cs = c :: rest ∧ after = rest ++ more := by
  cases cs with
  | nil => exact absurd rfl h.ne_nil
  | cons d rest =>
    obtain ⟨rfl, rfl⟩ := List.cons.inj heq
    exact ⟨rest, rfl, rfl⟩

theorem Ended.not_head_of_append {cs : List Char} {c : Char} (h : Ended cs)
    (hhead : ∀ rest, cs ≠ c :: rest) (more after : List Char) : cs ++ more ≠ c :: after := by
  intro heq
  obtain ⟨rest, hrest, -⟩ := h.head_of_append heq
  exact hhead rest hrest

section While

variable {p : Char → Bool} {cs : List Char}

theorem Ended.dropWhile_ne_nil (h : Ended cs) (hp : p '\n' = false) : cs.dropWhile p ≠ [] := by
  intro hnil
  have hfeed := List.dropWhile_eq_nil_iff.mp hnil '\n' h.feed_mem
  rw [hp] at hfeed
  exact Bool.false_ne_true hfeed

theorem Ended.dropWhile (h : Ended cs) (hp : p '\n' = false) : Ended (cs.dropWhile p) :=
  h.of_suffix (List.dropWhile_suffix p) (h.dropWhile_ne_nil hp)

theorem dropWhile_append_of_ne_nil (h : cs.dropWhile p ≠ []) (more : List Char) :
    (cs ++ more).dropWhile p = cs.dropWhile p ++ more := by
  rw [List.dropWhile_append, if_neg]
  rwa [List.isEmpty_iff]

theorem Ended.dropWhile_append (h : Ended cs) (hp : p '\n' = false) (more : List Char) :
    (cs ++ more).dropWhile p = cs.dropWhile p ++ more :=
  dropWhile_append_of_ne_nil (h.dropWhile_ne_nil hp) more

theorem Ended.length_takeWhile (h : Ended cs) (hp : p '\n' = false) :
    (cs.takeWhile p).length < cs.length := by
  have hlength := congrArg List.length (List.takeWhile_append_dropWhile (p := p) (l := cs))
  have hpos := List.length_pos_iff.mpr (h.dropWhile_ne_nil hp)
  rw [List.length_append] at hlength
  omega

theorem Ended.takeWhile_append (h : Ended cs) (hp : p '\n' = false) (more : List Char) :
    (cs ++ more).takeWhile p = cs.takeWhile p := by
  rw [List.takeWhile_append, if_neg (Nat.ne_of_lt (h.length_takeWhile hp))]

end While

/-! ## What is carried over to longer texts -/

/-- What is read of a text, a reader of longer texts reads of every longer one. -/
structure Carried {α : Type} (longer : List Char → Reading α) (cs : List Char) (x : α)
    (rest : List Char) : Prop where
  suffix : rest <:+ cs
  ended : Ended cs → Ended rest
  again : Ended cs → ∀ more, longer (cs ++ more) = .ok (x, rest ++ more)

/-- A reader that does not see where a text of whole lines ends. -/
def Carrying {α : Type} (read : List Char → Reading α) : Prop :=
  ∀ {cs x rest}, read cs = .ok (x, rest) → Carried read cs x rest

section Carried

variable {α β γ : Type} {longer : List Char → Reading α} {outer : List Char → Reading γ}
  {cs mid rest : List Char} {x : α} {y : β} {z : γ}

theorem Carried.later {next : List Char → Reading β} (hnext : Carried next mid y rest)
    (hsuffix : mid <:+ cs) (hmid : Ended cs → Ended mid)
    (houter : Ended cs → ∀ more, next (mid ++ more) = .ok (y, rest ++ more) →
      outer (cs ++ more) = .ok (z, rest ++ more)) : Carried outer cs z rest where
  suffix := hnext.suffix.trans hsuffix
  ended hcs := hnext.ended (hmid hcs)
  again hcs more := houter hcs more (hnext.again (hmid hcs) more)

theorem Carried.cons {c : Char} (hc : c ≠ '\n') (h : Carried longer cs x rest)
    (houter : ∀ more, longer (cs ++ more) = .ok (x, rest ++ more) →
      outer (c :: (cs ++ more)) = .ok (z, rest ++ more)) : Carried outer (c :: cs) z rest :=
  h.later (List.suffix_cons c cs) (fun hcs => hcs.tail hc) fun _ => houter

theorem Carried.map (h : Carried longer cs x rest)
    (houter : ∀ more, longer (cs ++ more) = .ok (x, rest ++ more) →
      outer (cs ++ more) = .ok (z, rest ++ more)) : Carried outer cs z rest :=
  h.later (List.suffix_refl cs) id fun _ => houter

theorem Carried.head {c : Char} (hc : c ≠ '\n')
    (houter : ∀ more, outer (c :: (rest ++ more)) = .ok (z, rest ++ more)) :
    Carried outer (c :: rest) z rest where
  suffix := List.suffix_cons c rest
  ended hcs := hcs.tail hc
  again _ more := houter more

theorem Carried.ofSteps {read : Nat → List Char → Reading α}
    (h : ∀ {m}, cs.length + 1 ≤ m → Carried (read m) cs x rest) :
    Carried (fun cs => read (cs.length + 1) cs) cs x rest where
  suffix := (h (Nat.le_refl _)).suffix
  ended := (h (Nat.le_refl _)).ended
  again hcs more := (h (by rw [List.length_append]; omega)).again hcs more

end Carried

theorem map_eq_ok {ε α β : Type} {f : α → β} {result : Except ε α} {y : β}
    (h : result.map f = .ok y) : ∃ x, result = .ok x ∧ f x = y := by
  cases result with
  | error e => cases h
  | ok x => exact ⟨x, rfl, Except.ok.inj h⟩

/-! ## Strings on one line -/

def IsQuote (c : Char) : Prop :=
  c = '"' ∨ c = literalQuote

theorem isQuote_iff {c : Char} : (c = '"' || c = literalQuote) = true ↔ IsQuote c := by
  simp [IsQuote]

theorem IsQuote.ne_feed {c : Char} (h : IsQuote c) : c ≠ '\n' := by
  rcases h with rfl | rfl <;> decide

theorem Reading.after_eq_ok {cs : List Char} {reading : Reading (List Char)}
    {text rest : List Char} (h : Reading.after cs reading = .ok (text, rest)) :
    ∃ read, reading = .ok (read, rest) ∧ text = cs ++ read := by
  unfold Reading.after at h
  split at h
  · rename_i read _
    cases h
    exact ⟨read, rfl, rfl⟩
  · cases h

theorem carrying_readCode (count : Nat) : Carrying (readCode count) := by
  intro cs d rest h
  simp only [readCode] at h
  split at h
  · rename_i hvalid
    have hlength : count ≤ cs.length ∧ (cs.take count).all (isDigitIn 16) = true := by
      simp only [Bool.and_eq_true, decide_eq_true_eq, List.length_take] at hvalid
      exact ⟨by omega, hvalid.1.2⟩
    obtain ⟨rfl, rfl⟩ := Prod.mk.inj (Except.ok.inj h)
    constructor
    · exact List.drop_suffix count cs
    · intro hcs
      refine hcs.of_suffix (List.drop_suffix count cs) ?_
      intro hnil
      -- otherwise the line feed would be a digit
      have hwhole : cs.take count = cs := List.take_of_length_le (List.drop_eq_nil_iff.mp hnil)
      have hfeed := List.all_eq_true.mp (hwhole ▸ hlength.2) '\n' hcs.feed_mem
      exact absurd hfeed (by decide)
    · intro _ more
      simp only [readCode]
      rw [List.take_append_of_le_length hlength.1, List.drop_append_of_le_length hlength.1,
        if_pos hvalid]
  · cases h

theorem carrying_readEscape : Carrying readEscape := by
  intro cs d rest h
  unfold readEscape at h
  split at h
  case h_9 | h_10 | h_11 =>
    exact (carrying_readCode _ h).cons (by decide) fun _ hlonger => hlonger
  case h_12 => cases h
  all_goals
    cases h
    exact .head (by decide) fun _ => rfl

theorem carried_readBasic {n m : Nat} (hle : n ≤ m) {cs text rest : List Char}
    (h : readBasic n cs = .ok (text, rest)) : Carried (readBasic m) cs text rest := by
  induction n generalizing m cs text with
  | zero => cases h
  | succ n ih =>
    obtain ⟨m, rfl⟩ : ∃ k, m = k + 1 := ⟨m - 1, by omega⟩
    cases cs with
    | nil => cases h
    | cons c cs =>
      rw [readBasic] at h
      by_cases hquote : c = '"'
      · rw [if_pos hquote] at h
        cases h
        exact .head (by rw [hquote]; decide) fun more => by rw [readBasic, if_pos hquote]
      · rw [if_neg hquote] at h
        by_cases hslash : c = '\\'
        · rw [if_pos hslash] at h
          have hc : c ≠ '\n' := by rw [hslash]; decide
          split at h
          · cases h
          · rename_i d mid hescape
            obtain ⟨read, hread, rfl⟩ := Reading.after_eq_ok h
            have hfirst := carrying_readEscape hescape
            refine (ih (Nat.le_of_succ_le_succ hle) hread).later
              (hfirst.suffix.trans (List.suffix_cons c cs))
              (fun hcs => hfirst.ended (hcs.tail hc)) ?_
            intro hcs more hread
            rw [List.cons_append, readBasic, if_neg hquote, if_pos hslash,
              hfirst.again (hcs.tail hc) more]
            simp only [hread, Reading.after]
        · rw [if_neg hslash] at h
          split at h
          · cases h
          · rename_i hplain
            obtain ⟨read, hread, rfl⟩ := Reading.after_eq_ok h
            have hc : c ≠ '\n' := by rintro rfl; exact hplain (by decide)
            refine (ih (Nat.le_of_succ_le_succ hle) hread).cons hc ?_
            intro more hread
            rw [readBasic, if_neg hquote, if_neg hslash, if_neg hplain, hread, Reading.after]

theorem carrying_readLiteral {quote : Char} (hquote : quote ≠ '\n') :
    Carrying (readLiteral quote) := by
  intro cs text rest h
  induction cs generalizing text with
  | nil => cases h
  | cons c cs ih =>
    rw [readLiteral] at h
    by_cases hend : c = quote
    · rw [if_pos hend] at h
      cases h
      exact .head (by rw [hend]; exact hquote) fun more => by rw [readLiteral, if_pos hend]
    · rw [if_neg hend] at h
      split at h
      · cases h
      · rename_i hplain
        obtain ⟨read, hread, rfl⟩ := Reading.after_eq_ok h
        have hc : c ≠ '\n' := by rintro rfl; exact hplain (by decide)
        refine (ih hread).cons hc ?_
        intro more hread
        rw [readLiteral, if_neg hend, if_neg hplain, hread, Reading.after]

/-- What is no quote but a line feed could not be carried over. -/
theorem carried_readOneLine {c : Char} (hc : c ≠ '\n') {cs text rest : List Char}
    (h : readOneLine (c :: cs) = .ok (text, rest)) :
    Carried readOneLine (c :: cs) text rest := by
  by_cases hquote : c = '"'
  · subst hquote
    have hread : readBasic (cs.length + 1) cs = .ok (text, rest) := h
    have hcarried : Carried (fun cs => readBasic (cs.length + 1) cs) cs text rest :=
      Carried.ofSteps fun hle => carried_readBasic hle hread
    exact hcarried.cons hc fun _ hlonger => hlonger
  · have hequation (cs : List Char) : readOneLine (c :: cs) = readLiteral c cs := by
      unfold readOneLine
      split
      · rename_i heq
        exact absurd (List.cons.inj heq).1 hquote
      · rename_i heq
        cases heq
        rfl
      · rename_i heq
        cases heq
    rw [hequation] at h
    refine (carrying_readLiteral hc h).cons hc ?_
    intro more hlonger
    rw [hequation, hlonger]

/-! ## Strings of several lines -/

section Lines

variable {quote : Char} (hquote : quote ≠ '\n')
include hquote

theorem closing?_append {cs : List Char} (hcs : Ended cs) (more : List Char) :
    closing? quote (cs ++ more) =
      (closing? quote cs).map fun found => (found.1, found.2 ++ more) := by
  have hfeed : ('\n' == quote) = false := beq_eq_false_iff_ne.mpr hquote.symm
  have hlength := hcs.length_takeWhile (p := (· == quote)) hfeed
  simp only [closing?, hcs.takeWhile_append (p := (· == quote)) hfeed]
  split
  · rfl
  · rw [List.drop_append_of_le_length (by omega)]
    rfl

theorem closing?_rest {cs extra rest : List Char} (h : closing? quote cs = some (extra, rest)) :
    rest <:+ cs ∧ (Ended cs → Ended rest) := by
  simp only [closing?] at h
  split at h
  · cases h
  · obtain ⟨-, rfl⟩ := Prod.mk.inj (Option.some.inj h)
    have hsuffix := List.drop_suffix
      (3 + min ((cs.takeWhile (· == quote)).length - 3) 2) cs
    refine ⟨hsuffix, fun hcs => hcs.of_suffix hsuffix ?_⟩
    have hlength := hcs.length_takeWhile (p := (· == quote))
      (beq_eq_false_iff_ne.mpr hquote.symm)
    rw [ne_eq, List.drop_eq_nil_iff]
    omega

end Lines

/-- Whether a text of whole lines begins with a line end does not change with what follows it. -/
theorem Ended.lineEnd_cases {cs : List Char} (h : Ended cs) :
    (∃ rest, cs = '\n' :: rest) ∨ (∃ rest, cs = '\r' :: '\n' :: rest) ∨
      ∀ more rest, cs ++ more ≠ '\n' :: rest ∧ cs ++ more ≠ '\r' :: '\n' :: rest := by
  by_cases hfeed : ∃ rest, cs = '\n' :: rest
  · exact .inl hfeed
  · by_cases hreturn : ∃ rest, cs = '\r' :: '\n' :: rest
    · exact .inr (.inl hreturn)
    · refine .inr (.inr fun more rest => ⟨?_, ?_⟩)
      · exact h.not_head_of_append (not_exists.mp hfeed) more rest
      · intro heq
        obtain ⟨later, rfl, hlater⟩ := h.head_of_append heq
        obtain ⟨last, rfl, -⟩ := (h.tail (by decide)).head_of_append hlater.symm
        exact hreturn ⟨last, rfl⟩

theorem joinsLines_append {cs : List Char} (hcs : Ended cs) (more : List Char) :
    joinsLines (cs ++ more) = joinsLines cs := by
  have hrest := hcs.dropWhile (p := fun c => c = ' ' || c = '\t') rfl
  simp only [joinsLines, hcs.dropWhile_append (p := fun c => c = ' ' || c = '\t') rfl]
  generalize cs.dropWhile (fun c => decide (c = ' ') || decide (c = '\t')) = rest at hrest
  rcases hrest.lineEnd_cases with ⟨after, rfl⟩ | ⟨after, rfl⟩ | hnone
  · rfl
  · rfl
  · have hshort := hnone []
    rw [List.append_nil] at hshort
    split
    · rename_i after heq
      exact absurd heq (hnone more after).1
    · rename_i after heq
      exact absurd heq (hnone more after).2
    · split
      · exact absurd rfl (hshort _).1
      · exact absurd rfl (hshort _).2
      · rfl

theorem readPlain_append {c : Char} {cs read rest : List Char}
    (h : readPlain c cs = .ok (read, rest)) :
    rest <:+ cs ∧ ∀ more, readPlain c (cs ++ more) = .ok (read, rest ++ more) := by
  unfold readPlain at h
  split at h
  · rename_i hfeed
    cases h
    exact ⟨List.suffix_refl cs, fun more => by unfold readPlain; rw [if_pos hfeed]⟩
  · rename_i hfeed
    split at h
    · rename_i hreturn
      split at h
      · cases h
        refine ⟨List.suffix_cons '\n' rest, fun more => ?_⟩
        unfold readPlain
        rw [if_neg hfeed, if_pos hreturn]
        rfl
      · cases h
    · rename_i hreturn
      split at h
      · cases h
      · rename_i hplain
        cases h
        refine ⟨List.suffix_refl cs, fun more => ?_⟩
        unfold readPlain
        rw [if_neg hfeed, if_neg hreturn, if_neg hplain]

theorem readLines_ne_nil {quote : Char} {escapes : Bool} {n : Nat} {cs text rest : List Char}
    (h : readLines quote escapes n cs = .ok (text, rest)) : cs ≠ [] := by
  rintro rfl
  cases n <;> cases h

/-- By induction on the steps. A string of several lines goes over line feeds, so that what is left
of the text is ended is known from the quotes that are still to come. -/
theorem carried_readLines {quote : Char} (hquote : quote ≠ '\n') (escapes : Bool) {n m : Nat}
    (hle : n ≤ m) {cs text rest : List Char}
    (h : readLines quote escapes n cs = .ok (text, rest)) :
    Carried (readLines quote escapes m) cs text rest := by
  induction n generalizing m cs text with
  | zero => cases h
  | succ n ih =>
    obtain ⟨m, rfl⟩ : ∃ k, m = k + 1 := ⟨m - 1, by omega⟩
    have ih := @ih m (Nat.le_of_succ_le_succ hle)
    cases cs with
    | nil => cases h
    | cons c cs =>
      rw [readLines] at h
      split at h
      · rename_i extra after hclosing
        cases h
        obtain ⟨hsuffix, hended⟩ := closing?_rest hquote hclosing
        refine ⟨hsuffix, hended, fun hcs more => ?_⟩
        have hlonger := closing?_append hquote hcs more
        rw [hclosing, List.cons_append] at hlonger
        rw [List.cons_append, readLines, hlonger]
        rfl
      · rename_i hclosing
        have hopen (hcs : Ended (c :: cs)) (more : List Char) :
            closing? quote (c :: (cs ++ more)) = none := by
          rw [← List.cons_append, closing?_append hquote hcs, hclosing]
          rfl
        split at h
        · rename_i hslash
          have hc : c ≠ '\n' := by
            rintro rfl
            exact absurd hslash (by simp)
          split at h
          · rename_i hjoins
            have hne := readLines_ne_nil h
            have hsuffix := (List.dropWhile_suffix isLayout).trans (List.suffix_cons c cs)
            refine (ih h).later hsuffix (fun hcs => hcs.of_suffix hsuffix hne) ?_
            intro hcs more hread
            rw [List.cons_append, readLines, hopen hcs]
            simp only [hslash, if_true, joinsLines_append (hcs.tail hc), hjoins,
              dropWhile_append_of_ne_nil hne, hread]
          · rename_i hjoins
            split at h
            · cases h
            · rename_i d mid hescape
              obtain ⟨read, hread, rfl⟩ := Reading.after_eq_ok h
              have hfirst := carrying_readEscape hescape
              refine (ih hread).later (hfirst.suffix.trans (List.suffix_cons c cs))
                (fun hcs => hfirst.ended (hcs.tail hc)) ?_
              intro hcs more hread
              rw [List.cons_append, readLines, hopen hcs]
              simp only [hslash, if_true, joinsLines_append (hcs.tail hc), hjoins,
                hfirst.again (hcs.tail hc) more, hread]
              rfl
        · rename_i hslash
          split at h
          · cases h
          · rename_i read mid hplain
            obtain ⟨later, hread, rfl⟩ := Reading.after_eq_ok h
            obtain ⟨hmid, hagain⟩ := readPlain_append hplain
            -- the character may be the last line feed, but then nothing closes the string
            have hsuffix := hmid.trans (List.suffix_cons c cs)
            refine (ih hread).later hsuffix
              (fun hcs => hcs.of_suffix hsuffix (readLines_ne_nil hread)) ?_
            intro hcs more hread
            rw [List.cons_append, readLines, hopen hcs]
            simp only [hslash, hagain more, hread]
            rfl

theorem dropFirstLineEnd_suffix (cs : List Char) : dropFirstLineEnd cs <:+ cs := by
  unfold dropFirstLineEnd
  split
  · exact List.suffix_cons _ _
  · exact ⟨['\r', '\n'], rfl⟩
  · exact List.suffix_refl _

theorem dropFirstLineEnd_append {cs : List Char} (hcs : Ended cs) (more : List Char) :
    dropFirstLineEnd (cs ++ more) = dropFirstLineEnd cs ++ more := by
  have hkept {text : List Char}
      (hnone : ∀ rest, text ≠ '\n' :: rest ∧ text ≠ '\r' :: '\n' :: rest) :
      dropFirstLineEnd text = text := by
    rw [dropFirstLineEnd]
    · exact fun rest => (hnone rest).1
    · exact fun rest => (hnone rest).2
  rcases hcs.lineEnd_cases with ⟨after, rfl⟩ | ⟨after, rfl⟩ | hnone
  · rfl
  · rfl
  · have hshort := hnone []
    rw [List.append_nil] at hshort
    rw [hkept hshort, hkept (hnone more)]

theorem carrying_readLinesFrom {quote : Char} (hquote : quote ≠ '\n') (escapes : Bool) :
    Carrying (readLinesFrom quote escapes) := by
  intro cs text rest h
  have hsuffix := dropFirstLineEnd_suffix cs
  have hcarried {m : Nat} (hle : cs.length + 1 ≤ m) :=
    carried_readLines hquote escapes hle h
  refine ⟨(hcarried (Nat.le_refl _)).suffix.trans hsuffix, fun hcs => ?_, fun hcs more => ?_⟩
  · exact (hcarried (Nat.le_refl _)).ended (hcs.of_suffix hsuffix (readLines_ne_nil h))
  · have hlength : cs.length + 1 ≤ (cs ++ more).length + 1 := by
      rw [List.length_append]
      omega
    rw [readLinesFrom, dropFirstLineEnd_append hcs]
    exact (hcarried hlength).again (hcs.of_suffix hsuffix (readLines_ne_nil h)) more

/-! ## Keys and words -/

theorem skipBlanks_suffix (cs : List Char) : skipBlanks cs <:+ cs :=
  List.dropWhile_suffix _

theorem Ended.skipBlanks {cs : List Char} (h : Ended cs) : Ended (skipBlanks cs) :=
  h.dropWhile rfl

theorem Ended.skipBlanks_append {cs : List Char} (h : Ended cs) (more : List Char) :
    Toml.skipBlanks (cs ++ more) = Toml.skipBlanks cs ++ more :=
  h.dropWhile_append rfl more

theorem carrying_readKeyPart : Carrying readKeyPart := by
  intro cs part rest h
  cases cs with
  | nil => cases h
  | cons c cs =>
    simp only [readKeyPart] at h
    by_cases hquote : IsQuote c
    · rw [if_pos (isQuote_iff.mpr hquote)] at h
      split at h
      · cases h
      · rename_i text after hread
        cases h
        refine (carried_readOneLine hquote.ne_feed hread).map ?_
        intro more hlonger
        simp only [List.cons_append, readKeyPart] at hlonger ⊢
        rw [if_pos (isQuote_iff.mpr hquote), hlonger]
    · have hbare := mt isQuote_iff.mp hquote
      rw [if_neg hbare] at h
      split at h
      · cases h
      · rename_i hsome
        cases h
        have hfeed : isBareKey '\n' = false := by decide
        refine ⟨List.dropWhile_suffix _, fun hcs => hcs.dropWhile hfeed, fun hcs more => ?_⟩
        simp only [List.cons_append, readKeyPart]
        rw [if_neg hbare, ← List.cons_append, hcs.takeWhile_append hfeed,
          hcs.dropWhile_append hfeed, if_neg hsome]

theorem carried_readKeyWithin {n m : Nat} (hle : n ≤ m) {cs rest : List Char}
    {path : List String} (h : readKeyWithin n cs = .ok (path, rest)) :
    Carried (readKeyWithin m) cs path rest := by
  induction n generalizing m cs path with
  | zero => cases h
  | succ n ih =>
    obtain ⟨m, rfl⟩ : ∃ k, m = k + 1 := ⟨m - 1, by omega⟩
    rw [readKeyWithin] at h
    split at h
    · cases h
    · rename_i part mid hpart
      have hfirst := carrying_readKeyPart hpart
      have hmid : skipBlanks mid <:+ cs :=
        (skipBlanks_suffix mid).trans (hfirst.suffix.trans (skipBlanks_suffix cs))
      have hended (hcs : Ended cs) : Ended (skipBlanks mid) :=
        (hfirst.ended hcs.skipBlanks).skipBlanks
      have hlonger (hcs : Ended cs) (more : List Char) :
          readKeyPart (skipBlanks (cs ++ more)) = .ok (part, mid ++ more) ∧
            skipBlanks (mid ++ more) = skipBlanks mid ++ more := by
        rw [hcs.skipBlanks_append]
        exact ⟨hfirst.again hcs.skipBlanks more,
          (hfirst.ended hcs.skipBlanks).skipBlanks_append more⟩
      split at h
      · rename_i after hpoint
        split at h
        · cases h
        · rename_i parts _ hparts
          cases h
          rw [hpoint] at hmid hended
          refine (ih (Nat.le_of_succ_le_succ hle) hparts).later
            ((List.suffix_cons '.' after).trans hmid)
            (fun hcs => (hended hcs).tail (by decide)) ?_
          intro hcs more hread
          obtain ⟨hpart, hblanks⟩ := hlonger hcs more
          simp only [readKeyWithin, hpart, hblanks, hpoint, List.cons_append, hread]
      · rename_i hlast
        cases h
        refine ⟨hmid, hended, fun hcs more => ?_⟩
        obtain ⟨hpart, hblanks⟩ := hlonger hcs more
        simp only [readKeyWithin, hpart, hblanks]
        split
        · rename_i after hpoint
          exact absurd hpoint ((hended hcs).not_head_of_append hlast more after)
        · rfl

theorem carrying_readKey : Carrying readKey := by
  intro cs path rest h
  exact Carried.ofSteps fun hle => carried_readKeyWithin hle h

theorem takeWord_rest (cs : List Char) :
    (takeWord cs).2 <:+ cs ∧ (Ended cs → Ended (takeWord cs).2) := by
  have hfeed : isWord '\n' = false := by decide
  have hword : cs.dropWhile isWord <:+ cs := List.dropWhile_suffix isWord
  simp only [takeWord]
  split
  · rename_i d after hrest
    have hafter : d :: after <:+ cs := by
      rw [hrest] at hword
      exact (List.suffix_cons ' ' _).trans hword
    split
    · refine ⟨(List.dropWhile_suffix isWord).trans hafter, fun hcs => ?_⟩
      exact (hcs.of_suffix hafter (List.cons_ne_nil d after)).dropWhile hfeed
    · exact ⟨hword, fun hcs => hcs.dropWhile hfeed⟩
  · exact ⟨hword, fun hcs => hcs.dropWhile hfeed⟩

theorem takeWord_append {cs : List Char} (hcs : Ended cs) (more : List Char) :
    takeWord (cs ++ more) = ((takeWord cs).1, (takeWord cs).2 ++ more) := by
  have hfeed : isWord '\n' = false := by decide
  have hrest := hcs.dropWhile hfeed
  simp only [takeWord, hcs.takeWhile_append hfeed, hcs.dropWhile_append hfeed]
  generalize cs.dropWhile isWord = rest at hrest
  split
  · rename_i d after heq
    obtain ⟨later, rfl, hlater⟩ := hrest.head_of_append heq
    have hended : Ended later := hrest.tail (by decide)
    obtain ⟨last, rfl, rfl⟩ := hended.head_of_append hlater.symm
    rw [← List.cons_append, hended.takeWhile_append hfeed, hended.dropWhile_append hfeed]
    simp only
    split <;> rfl
  · rename_i hlast
    split
    · rename_i d after
      exact absurd rfl (hlast d (after ++ more))
    · rfl

theorem carrying_readWord : Carrying readWord := by
  intro cs value rest h
  obtain ⟨hsuffix, hended⟩ := takeWord_rest cs
  simp only [readWord] at h
  split at h
  · cases h
  · rename_i hword
    obtain ⟨read, hvalue, heq⟩ := map_eq_ok h
    cases heq
    refine ⟨hsuffix, hended, fun hcs more => ?_⟩
    simp only [readWord, takeWord_append hcs]
    rw [if_neg hword, hvalue]
    rfl

/-! ## Values -/

theorem readString_lines {quote : Char} (hquote : IsQuote quote) (cs : List Char) :
    readString (quote :: quote :: quote :: cs) =
      (readLinesFrom quote (quote == '"') cs).map fun read =>
        (.string (String.ofList read.1), read.2) := by
  rcases hquote with rfl | rfl <;> rfl

theorem readString_oneLine {quote : Char} (hquote : IsQuote quote) {cs : List Char}
    (h : ∀ rest, cs ≠ quote :: quote :: rest) :
    readString (quote :: cs) =
      (readOneLine (quote :: cs)).map fun read => (.string (String.ofList read.1), read.2) := by
  unfold readString
  split
  · rename_i heq
    cases heq
    exact absurd rfl (h _)
  · rename_i a b c rest heq
    cases heq
    split
    · rename_i hall
      simp only [Bool.and_eq_true, decide_eq_true_eq] at hall
      obtain ⟨⟨rfl, rfl⟩, rfl⟩ := hall
      exact absurd rfl (h _)
    · rfl
  · rfl

theorem carried_readString {quote : Char} (hquote : IsQuote quote) {cs rest : List Char}
    {value : Toml} (h : readString (quote :: cs) = .ok (value, rest)) :
    Carried readString (quote :: cs) value rest := by
  have hc : quote ≠ '\n' := hquote.ne_feed
  by_cases hlines : ∃ inner, cs = quote :: quote :: inner
  · obtain ⟨inner, rfl⟩ := hlines
    rw [readString_lines hquote] at h
    obtain ⟨read, hread, heq⟩ := map_eq_ok h
    cases heq
    refine (carrying_readLinesFrom hc (quote == '"') hread).later ⟨[quote, quote, quote], rfl⟩
      (fun hcs => ((hcs.tail hc).tail hc).tail hc) ?_
    intro _ more hlonger
    simp only [List.cons_append]
    rw [readString_lines hquote, hlonger]
    rfl
  · have hone (rest : List Char) (heq : cs = quote :: quote :: rest) : False := hlines ⟨rest, heq⟩
    rw [readString_oneLine hquote hone] at h
    obtain ⟨read, hread, heq⟩ := map_eq_ok h
    cases heq
    refine (carried_readOneLine hc hread).later (List.suffix_refl _) id ?_
    intro hcs more hlonger
    have hlast (rest : List Char) : cs ++ more ≠ quote :: quote :: rest := by
      intro heq
      obtain ⟨first, rfl, hrest⟩ := (hcs.tail hc).head_of_append heq
      obtain ⟨second, rfl, -⟩ := ((hcs.tail hc).tail hc).head_of_append hrest.symm
      exact hone second rfl
    rw [List.cons_append, readString_oneLine hquote hlast, ← List.cons_append, hlonger]
    rfl

end VehicleMarket.Toml
