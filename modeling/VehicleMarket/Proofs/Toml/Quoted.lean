import VehicleMarket.Proofs.Toml.Continuation

/-!
Texts between quotes. A text of characters that stand for themselves is read back as it is. A string
never holds more characters than were read for it, and just as many only if all of them stand for
themselves; so no other text is read back as it is, unless the string goes on behind its quotes.
-/
namespace VehicleMarket.Toml

/-- A character that stands for itself between quotes. -/
structure Literal (c : Char) : Prop where
  noQuote : c ≠ '"'
  noSlash : c ≠ '\\'
  noControl : isControl c = false

def Verbatim (text : List Char) : Prop :=
  ∀ c ∈ text, Literal c

instance (c : Char) : Decidable (Literal c) :=
  decidable_of_iff (c ≠ '"' ∧ c ≠ '\\' ∧ isControl c = false)
    ⟨fun h => ⟨h.1, h.2.1, h.2.2⟩, fun h => ⟨h.noQuote, h.noSlash, h.noControl⟩⟩

instance (text : List Char) : Decidable (Verbatim text) :=
  List.decidableBAll Literal text

theorem readBasic_verbatim {text : List Char} (h : Verbatim text) {n : Nat}
    (hn : text.length < n) (rest : List Char) :
    readBasic n (text ++ '"' :: rest) = .ok (text, rest) := by
  induction text generalizing n with
  | nil =>
    obtain ⟨n, rfl⟩ : ∃ k, n = k + 1 := ⟨n - 1, by omega⟩
    rw [List.nil_append, readBasic, if_pos rfl]
  | cons c text ih =>
    obtain ⟨n, rfl⟩ : ∃ k, n = k + 1 := ⟨n - 1, by omega⟩
    obtain ⟨hc, htext⟩ := List.forall_mem_cons.mp h
    rw [List.length_cons] at hn
    rw [List.cons_append, readBasic, if_neg hc.noQuote, if_neg hc.noSlash, hc.noControl,
      ih htext (by omega)]
    rfl

/-- An empty string must not be taken for the beginning of three quotes. -/
theorem readString_verbatim {text rest : List Char} (h : Verbatim text)
    (hrest : text = [] → ∀ after, rest ≠ '"' :: after) :
    readString ('"' :: (text ++ '"' :: rest)) = .ok (.string (String.ofList text), rest) := by
  have hone (after : List Char) : text ++ '"' :: rest ≠ '"' :: '"' :: after := by
    intro heq
    cases text with
    | nil => exact hrest rfl after (List.cons.inj heq).2
    | cons c text => exact (h c List.mem_cons_self).noQuote (List.cons.inj heq).1
  have hread : readOneLine ('"' :: (text ++ '"' :: rest)) = .ok (text, rest) :=
    readBasic_verbatim h (by simp only [List.length_append, List.length_cons]; omega) rest
  rw [readString_oneLine (.inl rfl) hone, hread]
  rfl

theorem string_of_readString {cs rest : List Char} {value : Toml}
    (h : readString cs = .ok (value, rest)) : ∃ text, value = .string text := by
  obtain ⟨read, -, heq⟩ := map_eq_ok h
  cases heq
  exact ⟨_, rfl⟩

/-! ## What was read for a string -/

theorem readCode_length {count : Nat} (hcount : 0 < count) {cs rest : List Char} {d : Char}
    (h : readCode count cs = .ok (d, rest)) : rest.length < cs.length := by
  simp only [readCode] at h
  split at h
  · rename_i hvalid
    simp only [Bool.and_eq_true, decide_eq_true_eq, List.length_take] at hvalid
    obtain ⟨-, rfl⟩ := Prod.mk.inj (Except.ok.inj h)
    rw [List.length_drop]
    omega
  · cases h

theorem readEscape_length {cs rest : List Char} {d : Char} (h : readEscape cs = .ok (d, rest)) :
    rest.length < cs.length := by
  unfold readEscape at h
  split at h
  case h_9 | h_10 | h_11 =>
    exact Nat.lt_succ_of_lt (readCode_length (by decide) h)
  case h_12 => cases h
  all_goals
    cases h
    exact Nat.lt_succ_self _

/-- What was taken for a string: it ends right behind a quote, and beside the characters of the
string there was room for its closing quotes. -/
structure Closed (quote : Char) (quotes : Nat) (cs text rest : List Char) : Prop where
  closing : quote :: rest <:+ cs
  length : text.length + rest.length + quotes ≤ cs.length

theorem readBasic_closed {n : Nat} {cs text rest : List Char}
    (h : readBasic n cs = .ok (text, rest)) :
    Closed '"' 1 cs text rest ∧
      (text.length + rest.length + 1 = cs.length → Verbatim text) := by
  induction n generalizing cs text with
  | zero => cases h
  | succ n ih =>
    cases cs with
    | nil => cases h
    | cons c cs =>
      rw [readBasic] at h
      split at h
      · rename_i hquote
        cases h
        rw [hquote]
        exact ⟨⟨List.suffix_refl _, by simp⟩, fun _ c hc => absurd hc List.not_mem_nil⟩
      · rename_i hquote
        split at h
        · split at h
          · cases h
          · rename_i d mid hescape
            obtain ⟨read, hread, rfl⟩ := Reading.after_eq_ok h
            obtain ⟨⟨hclosing, hlength⟩, -⟩ := ih hread
            have hmid := readEscape_length hescape
            have hsuffix := (carrying_readEscape hescape).suffix.trans (List.suffix_cons c cs)
            refine ⟨⟨hclosing.trans hsuffix, ?_⟩, ?_⟩
            · simp only [List.length_append, List.length_cons, List.length_nil]
              omega
            · intro heq
              simp only [List.length_append, List.length_cons, List.length_nil] at heq
              omega
        · rename_i hslash
          split at h
          · cases h
          · rename_i hcontrol
            obtain ⟨read, hread, rfl⟩ := Reading.after_eq_ok h
            obtain ⟨⟨hclosing, hlength⟩, hverbatim⟩ := ih hread
            refine ⟨⟨hclosing.trans (List.suffix_cons c cs), ?_⟩, ?_⟩
            · simp only [List.length_append, List.length_cons, List.length_nil]
              omega
            · intro heq
              simp only [List.length_append, List.length_cons, List.length_nil] at heq
              exact List.forall_mem_cons.mpr
                ⟨⟨hquote, hslash, Bool.eq_false_iff.mpr hcontrol⟩, hverbatim (by omega)⟩

theorem drop_run {quote : Char} {cs : List Char} {k : Nat}
    (h : k < (cs.takeWhile (· == quote)).length) : cs.drop k = quote :: cs.drop (k + 1) := by
  induction cs generalizing k with
  | nil => exact absurd h (Nat.not_lt_zero k)
  | cons c cs ih =>
    by_cases hc : (c == quote) = true
    · rw [List.takeWhile_cons_of_pos (p := (· == quote)) hc, List.length_cons] at h
      cases k with
      | zero =>
        rw [eq_of_beq hc]
        rfl
      | succ k => exact ih (Nat.lt_of_succ_lt_succ h)
    · rw [List.takeWhile_cons_of_neg (p := (· == quote)) hc] at h
      exact absurd h (Nat.not_lt_zero k)

theorem closing?_closed {quote : Char} {cs extra rest : List Char}
    (h : closing? quote cs = some (extra, rest)) : Closed quote 3 cs extra rest := by
  simp only [closing?] at h
  split at h
  · cases h
  · obtain ⟨rfl, rfl⟩ := Prod.mk.inj (Option.some.inj h)
    have hrun := (List.takeWhile_prefix (p := (· == quote)) (l := cs)).length_le
    generalize hextra : min ((cs.takeWhile (· == quote)).length - 3) 2 = extra
    constructor
    · have hlast : cs.drop (2 + extra) = quote :: cs.drop (2 + extra + 1) := drop_run (by omega)
      rw [show 3 + extra = 2 + extra + 1 by omega, ← hlast]
      exact List.drop_suffix _ cs
    · rw [List.length_replicate, List.length_drop]
      omega

theorem readPlain_length {c : Char} {cs read rest : List Char}
    (h : readPlain c cs = .ok (read, rest)) : read.length + rest.length ≤ cs.length + 1 := by
  unfold readPlain at h
  split at h
  · cases h
    simp only [List.length_cons, List.length_nil]
    omega
  · split at h
    · split at h
      · cases h
        simp only [List.length_cons, List.length_nil]
        omega
      · cases h
    · split at h
      · cases h
      · cases h
        simp only [List.length_cons, List.length_nil]
        omega

theorem readLines_closed {quote : Char} {escapes : Bool} {n : Nat} {cs text rest : List Char}
    (h : readLines quote escapes n cs = .ok (text, rest)) : Closed quote 3 cs text rest := by
  induction n generalizing cs text with
  | zero => cases h
  | succ n ih =>
    cases cs with
    | nil => cases h
    | cons c cs =>
      rw [readLines] at h
      split at h
      · rename_i hclosing
        cases h
        exact closing?_closed hclosing
      · split at h
        · split at h
          · obtain ⟨hclosing, hlength⟩ := ih h
            have hsuffix := (List.dropWhile_suffix (l := cs) isLayout).trans (List.suffix_cons c cs)
            exact ⟨hclosing.trans hsuffix, hlength.trans hsuffix.length_le⟩
          · split at h
            · cases h
            · rename_i d mid hescape
              obtain ⟨read, hread, rfl⟩ := Reading.after_eq_ok h
              obtain ⟨hclosing, hlength⟩ := ih hread
              have hmid := readEscape_length hescape
              have hsuffix := (carrying_readEscape hescape).suffix.trans (List.suffix_cons c cs)
              refine ⟨hclosing.trans hsuffix, ?_⟩
              simp only [List.length_append, List.length_cons, List.length_nil]
              omega
        · split at h
          · cases h
          · rename_i read mid hplain
            obtain ⟨later, hread, rfl⟩ := Reading.after_eq_ok h
            obtain ⟨hclosing, hlength⟩ := ih hread
            have hmid := readPlain_length hplain
            refine ⟨hclosing.trans ((readPlain_append hplain).1.trans (List.suffix_cons c cs)), ?_⟩
            simp only [List.length_append, List.length_cons]
            omega

theorem readLinesFrom_closed {quote : Char} {escapes : Bool} {cs text rest : List Char}
    (h : readLinesFrom quote escapes cs = .ok (text, rest)) : Closed quote 3 cs text rest := by
  obtain ⟨hclosing, hlength⟩ := readLines_closed h
  have hsuffix := dropFirstLineEnd_suffix cs
  exact ⟨hclosing.trans hsuffix, hlength.trans hsuffix.length_le⟩

theorem Closed.quote_mem {quotes : Nat} {front after text rest : List Char}
    (h : Closed '"' quotes (front ++ '"' :: after) text rest)
    (hshort : rest.length < after.length) : '"' ∈ after := by
  have hafter : after <:+ front ++ '"' :: after :=
    (List.suffix_cons '"' after).trans (List.suffix_append front _)
  have hclosing : '"' :: rest <:+ after := by
    refine List.suffix_of_suffix_length_le h.closing hafter ?_
    rw [List.length_cons]
    exact hshort
  exact hclosing.subset List.mem_cons_self

/-- Where no quote follows, only a text of characters that stand for themselves is read back. -/
theorem verbatim_of_readString {text after rest : List Char} (hafter : '"' ∉ after)
    (h : readString ('"' :: (text ++ '"' :: after)) = .ok (.string (String.ofList text), rest)) :
    Verbatim text := by
  have hsame {read others : List Char} {mid : List Char}
      (heq : (Toml.string (String.ofList read), mid) = (.string (String.ofList others), rest)) :
      read = others ∧ mid = rest := by
    obtain ⟨hstring, hrest⟩ := Prod.mk.inj heq
    exact ⟨String.ofList_injective (Toml.string.inj hstring), hrest⟩
  by_cases hlines : ∃ inner, text ++ '"' :: after = '"' :: '"' :: inner
  · -- the three quotes that end the string would have to follow
    exfalso
    obtain ⟨inner, hinner⟩ := hlines
    rw [hinner, readString_lines (.inl rfl)] at h
    obtain ⟨read, hread, heq⟩ := map_eq_ok h
    obtain ⟨rfl, rfl⟩ := hsame heq
    have hclosed := readLinesFrom_closed hread
    rcases hlong : read.1 with _ | ⟨c, _ | ⟨d, text⟩⟩
    · rw [hlong] at hinner
      exact hafter ((List.cons.inj hinner).2 ▸ List.mem_cons_self)
    · rw [hlong] at hinner
      obtain rfl := (List.cons.inj (List.cons.inj hinner).2).2
      exact hafter (hclosed.closing.subset List.mem_cons_self)
    · have hlength := hclosed.length
      rw [hlong] at hinner hlength
      have heq : text ++ '"' :: after = inner := (List.cons.inj (List.cons.inj hinner).2).2
      rw [← heq] at hclosed hlength
      rw [List.length_append, List.length_cons, List.length_cons, List.length_cons] at hlength
      exact hafter (hclosed.quote_mem (by omega))
  · have hone (inner : List Char) (heq : text ++ '"' :: after = '"' :: '"' :: inner) : False :=
      hlines ⟨inner, heq⟩
    rw [readString_oneLine (.inl rfl) hone] at h
    obtain ⟨read, hread, heq⟩ := map_eq_ok h
    obtain ⟨rfl, rfl⟩ := hsame heq
    obtain ⟨hclosed, hverbatim⟩ := readBasic_closed hread
    apply hverbatim
    by_contra hne
    have hlength := hclosed.length
    rw [List.length_append, List.length_cons] at hne hlength
    exact hafter (hclosed.quote_mem (by omega))

end VehicleMarket.Toml
