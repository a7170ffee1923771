import VehicleMarket.Proofs.Json.RoundTrip
import VehicleMarket.Proofs.Table

/-!
What the reader gives. Whatever text it is given, its whole numbers are of 64 bits and its binary
numbers are finite, values nest no deeper than the reader was told to go, and the keys of every
object increase. Of each reader it is said what holds of anything that it gives; a property of
values holds of all that is read once it holds of what is made of numbers, items and members.
-/
namespace VehicleMarket.Json

open Binary64 (roundingLimit)

abbrev Finite : Nat → Json → Prop :=
  Fits fun x => x.isFinite = true

/-- Whatever is read, if anything is, has the property. -/
def Yields {α : Type} (property : α → Prop) (reading : Reading α) : Prop :=
  ∀ value rest, reading = .ok (value, rest) → property value

section Yields

variable {α : Type} {property : α → Prop} {value : α} {rest : List Char}

theorem yields_ok (h : property value) : Yields property (.ok (value, rest)) := by
  rintro _ _ ⟨⟩
  exact h

theorem yields_error (stop : Stop) : Yields property (.error stop) := by
  rintro _ _ ⟨⟩

end Yields

/-! ## Numbers -/

theorem wholeLimit : largestSignificand * twoTo 1074 < roundingLimit := by
  decide +kernel

theorem isFinite_ofNat {n : Nat} (h : n ≤ largestSignificand) :
    (Binary64.ofNat n).isFinite = true :=
  (Binary64.ofNat_rounded (Nat.lt_of_le_of_lt (Nat.mul_le_mul_right _ h) wholeLimit)).1

theorem isFinite_divideByPower {x : Binary64} (hx : x.isFinite = true) (n steps : Nat) :
    (divideByPower x n steps).isFinite = true := by
  have hdivide {k : Nat} (hk : k ≤ 308) {y : Binary64} (hy : y.isFinite = true) :
      (y.divFinite (powerOfTen k)).isFinite = true := by
    have hpower : tenTo 308 * twoTo 1074 < roundingLimit := by decide +kernel
    have hle := Nat.mul_le_mul_right (twoTo 1074) (tenTo_le_tenTo hk)
    exact Binary64.isFinite_divFinite_ofNat hy (tenTo_pos k) (Nat.lt_of_le_of_lt hle hpower)
  induction steps generalizing x n with
  | zero => exact hx
  | succ steps ih =>
    rw [divideByPower]
    split
    · rename_i hn
      exact hdivide hn hx
    · split
      · exact hx
      · exact ih (hdivide (Nat.le_refl 308) hx) (n - 308)

theorem isFinite_scaled? {significand : Nat} {exponent : Int} {x : Binary64}
    (hlimit : significand ≤ largestSignificand) (h : scaled? significand exponent = some x) :
    x.isFinite = true := by
  simp only [scaled?] at h
  split at h
  · rw [← Option.some.inj h]
    exact isFinite_divideByPower (isFinite_ofNat hlimit) _ 4
  · split at h
    · split at h
      · exact absurd h (by simp)
      · rename_i hrange
        rw [← Option.some.inj h]
        exact (Binary64.isFinite_ofUnits_or _ _ _).resolve_right hrange
    · split at h
      · rw [← Option.some.inj h]
        exact isFinite_ofNat hlimit
      · exact absurd h (by simp)

inductive Number : Json → Prop where
  | int {n : Int} : IsWhole n → Number (.int n)
  | float {x : Binary64} : x.isFinite = true → Number (.float x)

theorem isFinite_withSign {x : Binary64} (negative : Bool) (h : x.isFinite = true) :
    (withSign negative x).isFinite = true := by
  rw [withSign]
  split
  · exact Binary64.isFinite_neg h
  · exact h

theorem gather_le {limit n : Nat} (h : n ≤ limit) (count : Nat) (text : List Char) :
    (gather limit n count text).1 ≤ limit := by
  induction text generalizing n count with
  | nil => exact h
  | cons c text ih =>
    rw [gather]
    split
    · rename_i hfits
      simp only [Bool.and_eq_true, decide_eq_true_eq] at hfits
      exact ih hfits.2 (count + 1)
    · exact h

section Number

variable (negative : Bool) {significand : Nat} (exponent : Int)
  (h : significand ≤ largestSignificand) (text : List Char)
include h

theorem finishFloat_yields :
    Yields Number (finishFloat negative significand exponent text) := by
  unfold finishFloat
  split
  · rename_i x hx
    exact yields_ok (.float (isFinite_withSign negative (isFinite_scaled? h hx)))
  · exact yields_error _

theorem readExponentDigits_yields (negativeExponent : Bool) :
    Yields Number
      (readExponentDigits negative significand exponent negativeExponent text) := by
  simp only [readExponentDigits]
  split
  · split
    · exact yields_error _
    · exact yields_ok (.float (Binary64.isFinite_zero negative))
  · exact finishFloat_yields negative _ h _

theorem readExponent_yields :
    Yields Number (readExponent negative significand exponent text) := by
  simp only [readExponent]
  split
  · exact yields_error _
  · split
    · exact readExponentDigits_yields negative _ h _ _
    · exact yields_error _

theorem readScale_yields :
    Yields Number (readScale negative significand exponent text) := by
  unfold readScale
  split
  · exact readExponent_yields negative _ h _
  · exact readExponent_yields negative _ h _
  · exact finishFloat_yields negative _ h _

theorem readPlaces_yields :
    Yields Number (readPlaces negative significand exponent text) := by
  have hgathered := gather_le h 0 text
  simp only [readPlaces]
  split
  · exact readScale_yields negative _ hgathered _
  · split
    · split <;> exact yields_error _
    · exact readScale_yields negative _ hgathered _

theorem readFraction_yields :
    Yields Number (readFraction negative significand exponent text) := by
  unfold readFraction
  split
  · exact readPlaces_yields negative _ h _
  · exact readScale_yields negative _ h _

theorem wholeNumber_finite : Number (wholeNumber negative significand) := by
  unfold wholeNumber
  rw [largestSignificand] at h
  split
  · exact .int (by unfold IsWhole; omega)
  · split
    · rename_i hsigned
      simp only [Bool.and_eq_true, decide_eq_true_eq] at hsigned
      exact .int (by unfold IsWhole; omega)
    · exact .float (Binary64.isFinite_neg (isFinite_ofNat h))

omit h in
theorem readNumber_yields : Yields Number (readNumber negative text) := by
  have hzero : 0 ≤ largestSignificand := Nat.zero_le _
  unfold readNumber
  split
  · exact yields_error _
  · rename_i c rest
    have hgathered := gather_le hzero 0 (c :: rest)
    split
    · exact yields_error _
    · split
      · exact yields_error _
      · simp only
        split
        · exact readFraction_yields negative _ hgathered _
        · split
          · exact yields_ok (wholeNumber_finite negative hgathered)
          · exact readFraction_yields negative _ hgathered _

end Number

/-! ## Lists and objects -/

section Nested

variable {property : Json → Prop} {item : List Char → Reading Json}
  (hitem : ∀ text, Yields property (item text))
include hitem

theorem readItems_yields (steps : Nat) (text : List Char) :
    Yields (fun values => ∀ value ∈ values, property value) (readItems item steps text) := by
  induction steps generalizing text with
  | zero => exact yields_error _
  | succ steps ih =>
    unfold readItems
    split
    · exact yields_error _
    · rename_i value rest hvalue
      have hfirst := hitem text value rest hvalue
      have hone : ∀ other ∈ [value], property other := by
        simpa only [List.mem_singleton, forall_eq] using hfirst
      split
      · exact yields_error _
      · exact yields_ok hone
      · split
        · exact yields_error _
        · exact yields_error _
        · split
          · exact yields_error _
          · rename_i values after hvalues
            exact yields_ok (List.forall_mem_cons.mpr ⟨hfirst, ih _ values after hvalues⟩)
      · exact yields_error _

theorem readMemberValue_yields (text : List Char) :
    Yields property (readMemberValue item text) := by
  unfold readMemberValue
  split
  · exact yields_error _
  · exact hitem _
  · exact yields_error _

theorem readMembers_yields (steps : Nat) (text : List Char) :
    Yields (fun members => ∀ member ∈ members, property member.2)
      (readMembers item steps text) := by
  induction steps generalizing text with
  | zero => exact yields_error _
  | succ steps ih =>
    unfold readMembers
    split
    · exact yields_error _
    · rename_i key after _
      split
      · exact yields_error _
      · rename_i value rest hvalue
        have hfirst := readMemberValue_yields hitem after value rest hvalue
        have hone : ∀ member ∈ [(key, value)], property member.2 := by
          simpa only [List.mem_singleton, forall_eq] using hfirst
        split
        · exact yields_error _
        · exact yields_ok hone
        · split
          · exact yields_error _
          · split
            · exact yields_error _
            · rename_i members last hmembers
              exact yields_ok (List.forall_mem_cons.mpr ⟨hfirst, ih _ members last hmembers⟩)
          · exact yields_error _
          · exact yields_error _
        · exact yields_error _

end Nested

theorem readName_yields {property : Json → Prop} {value : Json} (h : property value)
    (name text : List Char) : Yields property (readName value name text) := by
  induction name generalizing text with
  | nil => exact yields_ok h
  | cons expected name ih =>
    cases text with
    | nil => exact yields_error _
    | cons c text =>
      rw [readName]
      split
      · exact ih text
      · exact yields_error _

/-! ## Values -/

/-- A property of values that nest to a depth, which holds of whatever the reader makes. -/
structure Kept (property : Nat → Json → Prop) : Prop where
  null : ∀ depth, property depth .null
  bool : ∀ depth b, property depth (.bool b)
  string : ∀ depth s, property depth (.string s)
  number : ∀ depth value, Number value → property depth value
  array : ∀ depth items, (∀ item ∈ items, property depth item) →
    property (depth + 1) (.array items)
  object : ∀ depth members, (∀ member ∈ members, property depth member.2) →
    property (depth + 1) (ofMembers members)

section Depth

variable {property : Nat → Json → Prop} (hkept : Kept property) {depth : Nat}
include hkept

theorem readArray_yields (hdepth : ∀ text, Yields (property depth) (readValue depth text))
    (text : List Char) : Yields (property (depth + 1)) (readArray (readValue depth) text) := by
  unfold readArray
  split
  · exact yields_error _
  · exact yields_ok (hkept.array depth [] fun _ hmem => absurd hmem List.not_mem_nil)
  · split
    · exact yields_error _
    · rename_i values rest hvalues
      exact yields_ok (hkept.array depth values (readItems_yields hdepth _ _ values rest hvalues))

theorem readObject_yields (hdepth : ∀ text, Yields (property depth) (readValue depth text))
    (text : List Char) : Yields (property (depth + 1)) (readObject (readValue depth) text) := by
  unfold readObject
  split
  · exact yields_error _
  · exact yields_ok (hkept.object depth [] fun _ hmem => absurd hmem List.not_mem_nil)
  · split
    · exact yields_error _
    · rename_i members rest hmembers
      exact yields_ok
        (hkept.object depth members (readMembers_yields hdepth _ _ members rest hmembers))
  · exact yields_error _

theorem readValue_step
    (hnested : ∀ inner, depth = inner + 1 →
      ∀ text, Yields (property inner) (readValue inner text)) (text : List Char) :
    Yields (property depth) (readValue depth text) := by
  have hnumber (negative : Bool) (text : List Char) :
      Yields (property depth) (readNumber negative text) := fun value rest hvalue =>
    hkept.number depth value (readNumber_yields negative text value rest hvalue)
  unfold readValue
  split
  · exact yields_error _
  · split
    · exact yields_error _
    · exact yields_ok (hkept.string depth _)
  · cases depth with
    | zero => exact yields_error _
    | succ inner => exact readArray_yields hkept (hnested inner rfl) _
  · cases depth with
    | zero => exact yields_error _
    | succ inner => exact readObject_yields hkept (hnested inner rfl) _
  · exact readName_yields (hkept.null depth) _ _
  · exact readName_yields (hkept.bool depth true) _ _
  · exact readName_yields (hkept.bool depth false) _ _
  · exact hnumber true _
  · split
    · exact hnumber false _
    · exact yields_error _

theorem readValue_yields (depth : Nat) (text : List Char) :
    Yields (property depth) (readValue depth text) := by
  induction depth generalizing text with
  | zero => exact readValue_step hkept (fun _ hdepth => absurd hdepth (by simp)) text
  | succ depth ih =>
    refine readValue_step hkept (fun inner hdepth => ?_) text
    cases hdepth
    exact ih

theorem read_yields {text : String} {value : Json} (h : read text = .ok value) :
    property deepest value := by
  unfold read at h
  split at h
  · rename_i found hfound
    cases h
    unfold readText at hfound
    split at hfound
    · exact absurd hfound (by simp)
    · rename_i rest hread
      split at hfound
      · cases hfound
        exact readValue_yields hkept deepest _ _ rest hread
      · exact absurd hfound (by simp)
  · exact absurd h (by simp)

end Depth

theorem kept_finite : Kept Finite where
  null := .null
  bool := .bool
  string := .string
  number := by
    rintro depth _ (hn | hx)
    · exact .int depth hn
    · exact .float depth hx
  array _ _ hitems := .array hitems
  object _ _ hmembers :=
    .object fun member hmem => hmembers member (Table.mem_of_mem_ofList hmem)

/-- Everything that is read holds finite numbers only, and can be written again. -/
theorem read_finite {text : String} {value : Json} (h : read text = .ok value) :
    Finite deepest value :=
  read_yields kept_finite h

/-- Values whose objects have their members in the order of the keys, at every depth. -/
inductive Ordered : Json → Prop where
  | null : Ordered .null
  | bool (b : Bool) : Ordered (.bool b)
  | int (n : Int) : Ordered (.int n)
  | float (x : Binary64) : Ordered (.float x)
  | string (s : String) : Ordered (.string s)
  | array {items : List Json} : (∀ item ∈ items, Ordered item) → Ordered (.array items)
  | object {members : List (String × Json)} : Table.Sorted members →
      (∀ member ∈ members, Ordered member.2) → Ordered (.object members)

theorem Ordered.sorted {members : List (String × Json)} (h : Ordered (.object members)) :
    Table.Sorted members := by
  cases h with
  | object hsorted _ => exact hsorted

theorem Ordered.find? {members : List (String × Json)} (h : Ordered (.object members))
    {key : String} {value : Json} (hfind : Table.find? members key = some value) :
    Ordered value := by
  cases h with
  | object _ hmembers => exact hmembers _ (Table.mem_of_find? hfind)

theorem kept_ordered : Kept fun _ => Ordered where
  null _ := .null
  bool _ := .bool
  string _ := .string
  number := by
    rintro _ _ (_ | _)
    · exact .int _
    · exact .float _
  array _ _ hitems := .array hitems
  object _ members hmembers :=
    .object (Table.sorted_ofList members) fun member hmem =>
      hmembers member (Table.mem_of_mem_ofList hmem)

theorem read_ordered {text : String} {value : Json} (h : read text = .ok value) : Ordered value :=
  read_yields kept_ordered h

end VehicleMarket.Json
