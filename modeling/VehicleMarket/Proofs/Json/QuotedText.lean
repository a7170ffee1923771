import VehicleMarket.Json.Printer
import VehicleMarket.Json.Reader

/-!
Strings in JSON text. Whatever characters a string holds, the reader takes back what the printer
wrote and stops right after the closing quote.
-/
namespace VehicleMarket.Json

theorem hexValue_hexDigit : ∀ n < 16, hexValue? (hexDigit n) = some n := by decide

theorem hexDigit_one_byte : ∀ n < 16, (String.utf8EncodeChar (hexDigit n)).length = 1 := by decide

/-- Four hexadecimal digits are four bytes, so the reader does not take the text to be cut off. -/
theorem read_hex_digits {n : Nat} (h : n < 256) (rest : List Char) :
    readHex ('0' :: '0' :: hexDigit (n / 16) :: hexDigit (n % 16) :: rest) = .ok (n, rest) := by
  have hhigh : n / 16 < 16 := by omega
  have hlow : n % 16 < 16 := by omega
  have hbytes : (utf8Bytes ['0', '0', hexDigit (n / 16), hexDigit (n % 16)]).length = 4 := by
    have hzero : (String.utf8EncodeChar '0').length = 1 := by decide
    simp [utf8Bytes, hzero, hexDigit_one_byte _ hhigh, hexDigit_one_byte _ hlow]
  have hzero : hexValue? '0' = some 0 := by decide
  have hnumber : hexNumber? '0' '0' (hexDigit (n / 16)) (hexDigit (n % 16)) = some n := by
    simp only [hexNumber?, hzero, hexValue_hexDigit _ hhigh, hexValue_hexDigit _ hlow,
      Option.some.injEq]
    omega
  simp [readHex, hbytes, hnumber]

theorem read_control {c : Char} (h : c.toNat < 32) (rest : List Char) :
    readEscape ('u' :: '0' :: '0' :: hexDigit (c.toNat / 16) :: hexDigit (c.toNat % 16) :: rest) =
      .ok (c, rest) := by
  have hread := read_hex_digits (show c.toNat < 256 by omega) rest
  have hlead : ¬ (0xDC00 ≤ c.toNat ∧ c.toNat ≤ 0xDFFF) := by omega
  have htrail : ¬ (0xD800 ≤ c.toNat ∧ c.toNat ≤ 0xDBFF) := by omega
  simp [readEscape, readCodePoint, hread, hlead, htrail, Char.ofNat_toNat]

theorem read_escaped_char (c : Char) {steps : Nat} {text rest cs : List Char}
    (h : readStringWithin steps text = .ok (cs, rest)) :
    readStringWithin (steps + 1) (escapeChar c ++ text) = .ok (c :: cs, rest) := by
  have of_escape {escape : List Char} (hread : readEscape (escape ++ text) = .ok (c, text)) :
      readStringWithin (steps + 1) ('\\' :: escape ++ text) = .ok (c :: cs, rest) := by
    simp [readStringWithin, hread, h]
  by_cases hquote : c = '"'
  · subst c; exact of_escape rfl
  by_cases hslash : c = '\\'
  · subst c; exact of_escape rfl
  by_cases hplain : 32 ≤ c.toNat
  · have hcontrol : ¬ c.toNat < 32 := by omega
    simp [escapeChar, readStringWithin, hquote, hslash, hplain, hcontrol, h]
  by_cases hfeed : c = '\n'
  · subst c; exact of_escape rfl
  by_cases hreturn : c = '\r'
  · subst c; exact of_escape rfl
  by_cases htab : c = '\t'
  · subst c; exact of_escape rfl
  by_cases hback : c.toNat = 8
  · obtain rfl : c = Char.ofNat 8 := by rw [← hback, Char.ofNat_toNat]
    exact of_escape rfl
  by_cases hpage : c.toNat = 12
  · obtain rfl : c = Char.ofNat 12 := by rw [← hpage, Char.ofNat_toNat]
    exact of_escape rfl
  have hescape : escapeChar c =
      '\\' :: ['u', '0', '0', hexDigit (c.toNat / 16), hexDigit (c.toNat % 16)] := by
    simp only [escapeChar, if_neg hquote, if_neg hslash, if_neg hplain, if_neg hfeed,
      if_neg hreturn, if_neg htab, if_neg hback, if_neg hpage]
  rw [hescape]
  exact of_escape (read_control (by omega) text)

theorem read_escaped (cs : List Char) {steps : Nat} (h : cs.length < steps) (rest : List Char) :
    readStringWithin steps (cs.flatMap escapeChar ++ '"' :: rest) = .ok (cs, rest) := by
  induction cs generalizing steps with
  | nil =>
    obtain ⟨steps, rfl⟩ := Nat.exists_eq_add_of_lt h
    simp [readStringWithin]
  | cons c cs ih =>
    obtain ⟨steps, rfl⟩ : ∃ k, steps = k + 1 := ⟨steps - 1, by simp at h; omega⟩
    rw [List.flatMap_cons, List.append_assoc]
    exact read_escaped_char c (ih (by simpa using h))

theorem escapeChar_ne_nil (c : Char) : escapeChar c ≠ [] := by
  unfold escapeChar
  repeat' split
  all_goals simp

theorem length_le_escaped (cs : List Char) : cs.length ≤ (cs.flatMap escapeChar).length := by
  induction cs with
  | nil => simp
  | cons c cs ih =>
    have hchar := List.length_pos_iff.mpr (escapeChar_ne_nil c)
    rw [List.flatMap_cons, List.length_append, List.length_cons]
    omega

theorem read_string_text (s : String) (rest : List Char) :
    readString (s.toList.flatMap escapeChar ++ '"' :: rest) = .ok (s, rest) := by
  have hlength := length_le_escaped s.toList
  have hsteps : s.toList.length < (s.toList.flatMap escapeChar ++ '"' :: rest).length + 1 := by
    rw [List.length_append]
    omega
  simp only [readString, read_escaped s.toList hsteps rest, String.ofList_toList]

end VehicleMarket.Json
