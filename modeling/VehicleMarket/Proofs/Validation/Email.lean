import Mathlib.Data.List.Basic
import VehicleMarket.Proofs.Text.Pattern
import VehicleMarket.Record.User

/-!
E-mail addresses. The pattern repeats classes of characters that overlap: a point may stand in the
part before the point that it asks for as well as in the part after it. What it accepts is still
told without any matching: no white space, one at sign with something before it, and in what
follows a point with something on both sides.
-/
namespace VehicleMarket

namespace Email

open Text (isSpace)
open Text.Pattern (match?_isSome_iff takes_nil_iff takes_one_iff takes_many_iff)

/-- The shape of an e-mail address. -/
structure IsAddress (address : List Char) : Prop where
  noSpace : ∀ c ∈ address, isSpace c = false
  oneSign : address.count '@' = 1
  /-- Something stands before the sign, and in the domain a point that is neither first nor last. -/
  parts : ∃ name domain, address = name ++ '@' :: domain ∧ name ≠ [] ∧
    ∃ front back, domain = front ++ '.' :: back ∧ front ≠ [] ∧ back ≠ []

theorem isPlain_iff {c : Char} : isPlain c = true ↔ c ≠ '@' ∧ isSpace c = false := by
  simp [isPlain]

theorem plain_iff {cs : List Char} :
    (∀ c ∈ cs, isPlain c = true) ↔ '@' ∉ cs ∧ ∀ c ∈ cs, isSpace c = false := by
  constructor
  · intro h
    refine ⟨?_, fun c hc => (isPlain_iff.mp (h c hc)).2⟩
    intro hsign
    exact (isPlain_iff.mp (h '@' hsign)).1 rfl
  · rintro ⟨hsign, hspace⟩ c hc
    refine isPlain_iff.mpr ⟨?_, hspace c hc⟩
    rintro rfl
    exact hsign hc

/-- The three runs that the pattern takes out of an address. -/
structure Runs (address name front back : List Char) : Prop where
  text : address = name ++ '@' :: (front ++ '.' :: back)
  name_ne : name ≠ []
  front_ne : front ≠ []
  back_ne : back ≠ []
  name_plain : ∀ c ∈ name, isPlain c = true
  front_plain : ∀ c ∈ front, isPlain c = true
  back_plain : ∀ c ∈ back, isPlain c = true

theorem accepts_iff_runs {address : List Char} :
    accepts address = true ↔ ∃ name front back, Runs address name front back := by
  unfold accepts
  rw [match?_isSome_iff]
  simp only [pattern, takes_many_iff, takes_one_iff, takes_nil_iff, beq_iff_eq]
  constructor
  · rintro ⟨_, _, name, _, _, rfl, -, hname, hnamePlain, _, _, rfl, rfl, front, _, _, rfl, -,
      hfront, hfrontPlain, _, _, rfl, rfl, back, after, _, rfl, -, hback, hbackPlain, -, -, hend⟩
    obtain rfl : after = [] := hend trivial
    refine ⟨name, front, back, ?_, hname, hfront, hback, hnamePlain, hfrontPlain, hbackPlain⟩
    rw [List.append_nil]
  · rintro ⟨name, front, back, h⟩
    refine ⟨[name, front, back], [], name, _, _, h.text, rfl, h.name_ne, h.name_plain,
      _, _, rfl, rfl, front, _, _, rfl, rfl, h.front_ne, h.front_plain,
      _, _, rfl, rfl, back, [], _, ?_, rfl, h.back_ne, h.back_plain, rfl, rfl, fun _ => rfl⟩
    rw [List.append_nil]

theorem Runs.isAddress {address name front back : List Char} (h : Runs address name front back) :
    IsAddress address := by
  obtain ⟨hname, hnameSpace⟩ := plain_iff.mp h.name_plain
  obtain ⟨hfront, hfrontSpace⟩ := plain_iff.mp h.front_plain
  obtain ⟨hback, hbackSpace⟩ := plain_iff.mp h.back_plain
  refine ⟨?_, ?_, name, _, h.text, h.name_ne, front, back, rfl, h.front_ne, h.back_ne⟩
  · intro c hc
    rw [h.text] at hc
    simp only [List.mem_append, List.mem_cons] at hc
    rcases hc with hc | rfl | hc | rfl | hc
    · exact hnameSpace c hc
    · decide
    · exact hfrontSpace c hc
    · decide
    · exact hbackSpace c hc
  · rw [h.text]
    simp [List.count_append, List.count_eq_zero_of_not_mem, hname, hfront, hback]

/-- The only at sign of an address is the one between its parts, so that the parts are plain. -/
theorem IsAddress.exists_runs {address : List Char} (h : IsAddress address) :
    ∃ name front back, Runs address name front back := by
  obtain ⟨name, _, htext, hname, front, back, rfl, hfront, hback⟩ := h.parts
  have hspace : ∀ c ∈ name ++ '@' :: (front ++ '.' :: back), isSpace c = false :=
    htext ▸ h.noSpace
  have hcount : (name ++ '@' :: (front ++ '.' :: back)).count '@' = 1 := htext ▸ h.oneSign
  have hrest : name.count '@' + (front.count '@' + back.count '@') = 0 := by
    simp only [List.count_append, List.count_cons_self] at hcount
    rw [List.count_cons_of_ne (by decide)] at hcount
    omega
  have hplain (part : List Char) (hsub : ∀ c ∈ part, c ∈ name ++ '@' :: (front ++ '.' :: back))
      (hnone : part.count '@' = 0) : ∀ c ∈ part, isPlain c = true :=
    plain_iff.mpr ⟨List.count_eq_zero.mp hnone, fun c hc => hspace c (hsub c hc)⟩
  refine ⟨name, front, back, htext, hname, hfront, hback, hplain name ?_ (by omega),
    hplain front ?_ (by omega), hplain back ?_ (by omega)⟩
  · intro c hc
    exact List.mem_append_left _ hc
  · intro c hc
    exact List.mem_append_right _ (List.mem_cons_of_mem _ (List.mem_append_left _ hc))
  · intro c hc
    exact List.mem_append_right _
      (List.mem_cons_of_mem _ (List.mem_append_right _ (List.mem_cons_of_mem _ hc)))

theorem accepts_iff {address : List Char} : accepts address = true ↔ IsAddress address := by
  rw [accepts_iff_runs]
  constructor
  · rintro ⟨name, front, back, h⟩
    exact h.isAddress
  · exact IsAddress.exists_runs

theorem checkEmail_eq_ok {entity field value : String} :
    Validation.checkEmail entity field value = .ok () ↔ IsAddress value.toList := by
  rw [← accepts_iff]
  unfold Validation.checkEmail
  split
  · rename_i haccepts
    exact iff_of_true rfl haccepts
  · rename_i hrefuses
    exact iff_of_false (by simp) hrefuses

theorem checkEmail_eq_error {entity field value : String} :
    Validation.checkEmail entity field value = .error (.invalid entity field (.noEmail value)) ↔
      ¬ IsAddress value.toList := by
  rw [← accepts_iff]
  unfold Validation.checkEmail
  split
  · rename_i haccepts
    exact iff_of_false (by simp) (not_not_intro haccepts)
  · rename_i hrefuses
    exact iff_of_true rfl hrefuses

end Email

namespace User

open Email (IsAddress)

theorem validate_of_id {user : User} (hid : Text.isBlank user.id.text = false) :
    user.validate =
      (if user.email ≠ "" then Validation.checkEmail "user" "email" user.email else .ok ()) >>=
        fun _ => Validation.checkOptionalAddress "user" "profilePhotoUrl" user.profilePhotoUrl := by
  unfold validate Validation.checkNotBlank
  rw [hid]
  by_cases hemail : user.email = ""
  · simp only [hemail]
    rfl
  · simp only [if_pos hemail]
    rfl

theorem validate_of_blank_id {user : User} (hid : Text.isBlank user.id.text = true) :
    user.validate = .error (.invalid "user" "id" .blank) := by
  unfold validate Validation.checkNotBlank
  rw [hid]
  rfl

/-- The e-mail address of a user is missing or has the shape of one. -/
def EmailPasses (user : User) : Prop :=
  user.email = "" ∨ IsAddress user.email.toList

theorem validate_of_passes {user : User} (hid : Text.isBlank user.id.text = false)
    (h : user.EmailPasses) :
    user.validate =
      Validation.checkOptionalAddress "user" "profilePhotoUrl" user.profilePhotoUrl := by
  rw [validate_of_id hid]
  by_cases hemail : user.email = ""
  · rw [if_neg (not_not_intro hemail)]
    rfl
  · have haddress : IsAddress user.email.toList := h.resolve_left hemail
    rw [if_pos hemail, Email.checkEmail_eq_ok.mpr haddress]
    rfl

theorem validate_of_not_passes {user : User} (hid : Text.isBlank user.id.text = false)
    (h : ¬ user.EmailPasses) :
    user.validate = .error (.invalid "user" "email" (.noEmail user.email)) := by
  obtain ⟨hemail, haddress⟩ := not_or.mp h
  rw [validate_of_id hid, if_pos hemail, Email.checkEmail_eq_error.mpr haddress]
  rfl

theorem checkOptionalAddress_ne {entity field other address text : String} :
    Validation.checkOptionalAddress entity field address ≠
      .error (.invalid entity other (.noEmail text)) := by
  unfold Validation.checkOptionalAddress Validation.checkAddress
  split
  · simp
  · split
    · split <;> simp
    · simp

/-- An e-mail address is accepted just when it has its shape, and refused with its own text. A user
whose identifier is not blank is refused for the e-mail address just when there is one that has not
the shape; the user passes just when the e-mail address is missing or has the shape, the identifier
is not blank, and the address of the photo passes. -/
theorem email_accepted_exactly :
    (∀ entity field value,
      (Validation.checkEmail entity field value = .ok () ↔ IsAddress value.toList) ∧
      (Validation.checkEmail entity field value =
        .error (.invalid entity field (.noEmail value)) ↔ ¬ IsAddress value.toList)) ∧
    ∀ user : User,
      (user.validate = .ok () ↔
        Text.isBlank user.id.text = false ∧ (user.email = "" ∨ IsAddress user.email.toList) ∧
          Validation.checkOptionalAddress "user" "profilePhotoUrl" user.profilePhotoUrl =
            .ok ()) ∧
      (user.validate = .error (.invalid "user" "email" (.noEmail user.email)) ↔
        Text.isBlank user.id.text = false ∧
          ¬ (user.email = "" ∨ IsAddress user.email.toList)) := by
  refine ⟨fun entity field value => ⟨Email.checkEmail_eq_ok, Email.checkEmail_eq_error⟩, ?_⟩
  intro user
  cases hid : Text.isBlank user.id.text with
  | true =>
    rw [validate_of_blank_id hid]
    constructor
    · simp
    · simp
  | false =>
    by_cases hpasses : user.EmailPasses
    · rw [validate_of_passes hid hpasses]
      constructor
      · exact ⟨fun hphoto => ⟨rfl, hpasses, hphoto⟩, fun h => h.2.2⟩
      · exact iff_of_false checkOptionalAddress_ne fun h => h.2 hpasses
    · rw [validate_of_not_passes hid hpasses]
      constructor
      · exact iff_of_false (by simp) fun h => hpasses h.2.1
      · exact iff_of_true rfl ⟨rfl, hpasses⟩

/-- A point may be doubled or stand first, as long as another one is inside. -/
example : Email.accepts "a@..tn".toList = true ∧ Email.accepts "a@.tn.".toList = false := by decide

end User

end VehicleMarket
