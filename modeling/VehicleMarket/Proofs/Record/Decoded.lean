import VehicleMarket.Proofs.Json.Reading
import VehicleMarket.Proofs.Record.Lookup
import VehicleMarket.Proofs.Record.RoundTrip

/-!
The numbers of records that were decoded. The rules of a schema make no number of their own but
times, so what they leave of members with finite numbers has finite numbers too; a price or a cost
is then one of these, a whole number that is rounded, or the zero of a field that is not there.
-/
namespace VehicleMarket

open Json

def FiniteMembers (depth : Nat) (members : Members) : Prop :=
  ∀ member ∈ members, Finite depth member.2

namespace Json

theorem Fits.deeper {admits : Binary64 → Prop} {depth : Nat} {value : Json}
    (h : Fits admits depth value) : Fits admits (depth + 1) value := by
  induction h with
  | null depth => exact .null _
  | bool depth b => exact .bool _ b
  | int depth hn => exact .int _ hn
  | float depth hx => exact .float _ hx
  | string depth s => exact .string _ s
  | array _ ih => exact .array ih
  | object _ ih => exact .object ih

end Json

/-! ## Normalizing -/

namespace FiniteMembers

variable {depth : Nat} {members : Members} (h : FiniteMembers depth members)
include h

theorem find? {key : String} {value : Json} (hfind : Table.find? members key = some value) :
    Finite depth value :=
  h _ (Table.mem_of_find? hfind)

theorem erase (key : String) : FiniteMembers depth (Table.erase members key) :=
  fun member hmem => h member (Table.mem_of_mem_erase hmem)

theorem insert (key : String) {value : Json} (hvalue : Finite depth value) :
    FiniteMembers depth (Table.insert members key value) := by
  intro member hmem
  rcases Table.mem_insert hmem with rfl | hmem
  · exact hvalue
  · exact h member hmem

theorem move {take : Json → Option Json}
    (htake : ∀ value taken, take value = some taken → Finite depth value → Finite depth taken)
    (rule : String × String) : FiniteMembers depth (KeyRules.move take members rule) := by
  unfold KeyRules.move
  split
  · exact h
  · rename_i value hfind
    simp only
    split
    · exact h.erase rule.1
    · split
      · rename_i taken htaken
        exact (h.erase rule.1).insert rule.2 (htake value taken htaken (h.find? hfind))
      · exact h.erase rule.1

theorem rename (rule : String × String) : FiniteMembers depth (KeyRules.rename members rule) :=
  h.move (fun _ _ htaken hvalue => Option.some.inj htaken ▸ hvalue) rule

omit h in
theorem embeddedId?_finite (value taken : Json) (htaken : KeyRules.embeddedId? value = some taken)
    (hvalue : Finite depth value) : Finite depth taken := by
  unfold KeyRules.embeddedId? at htaken
  split at htaken
  · cases hvalue with
    | object hinner => exact (hinner _ (Table.mem_of_find? htaken)).deeper
  · exact Option.some.inj htaken ▸ .string depth _
  · exact absurd htaken (by simp)

theorem resolve (rule : String × String) : FiniteMembers depth (KeyRules.resolve members rule) :=
  h.move embeddedId?_finite rule

theorem dropBlank (key : String) : FiniteMembers depth (KeyRules.dropBlank members key) := by
  unfold KeyRules.dropBlank
  split
  · exact h
  · split
    · exact h.erase key
    · exact h

theorem stamp (now : Instant) (key : String) :
    FiniteMembers depth (KeyRules.stamp now.millis members key) := by
  have hstamped := h.insert key (.int depth (isWhole_millis now))
  unfold KeyRules.stamp
  split
  · exact hstamped
  · split
    · exact hstamped
    · exact h

theorem settle (rules : KeyRules) : FiniteMembers depth (rules.settle members) := by
  have hrenamed : FiniteMembers depth (rules.renames.foldl KeyRules.rename members) :=
    List.foldlRecOn _ _ h fun _ hmembers rule _ => hmembers.rename rule
  have hresolved : FiniteMembers depth
      (rules.references.foldl KeyRules.resolve (rules.renames.foldl KeyRules.rename members)) :=
    List.foldlRecOn _ _ hrenamed fun _ hmembers rule _ => hmembers.resolve rule
  exact List.foldlRecOn _ _ hresolved fun _ hmembers key _ => hmembers.dropBlank key

theorem stampAll (rules : KeyRules) (now : Instant) :
    FiniteMembers depth (rules.stampAll now.millis members) :=
  List.foldlRecOn _ _ h fun _ hmembers key _ => hmembers.stamp now key

theorem normalizeNested (now : Instant) (rule : String × KeyRules) :
    FiniteMembers depth (Schema.normalizeNested now.millis members rule) := by
  unfold Schema.normalizeNested
  split
  · rename_i inner hfind
    refine h.insert rule.1 ?_
    cases h.find? hfind with
    | object hinner =>
      have hmembers : FiniteMembers _ inner := hinner
      exact .object ((hmembers.settle rule.2).stampAll rule.2 now)
  · exact h

theorem normalize (schema : Schema) (now : Instant) :
    FiniteMembers depth (schema.normalize now.millis members) := by
  have hnested : FiniteMembers depth
      (schema.nested.foldl (Schema.normalizeNested now.millis) (schema.keys.settle members)) :=
    List.foldlRecOn _ _ (h.settle schema.keys) fun _ hmembers rule _ =>
      hmembers.normalizeNested now rule
  exact hnested.stampAll schema.keys now

end FiniteMembers

/-! ## Decoding -/

/-- Whatever a computation gives, if it gives anything, has the property. -/
def Ensures {ε α : Type} (property : α → Prop) (result : Except ε α) : Prop :=
  ∀ data, result = .ok data → property data

section Ensures

variable {ε α β : Type} {property : β → Prop} {read : Except ε α} {next : α → Except ε β}

theorem ensures_bind (h : ∀ data, read = .ok data → Ensures property (next data)) :
    Ensures property (read >>= next) := by
  cases read with
  | error error => exact fun _ hresult => absurd hresult (by simp [bind, Except.bind])
  | ok data => exact h data rfl

theorem ensures_pure {data : β} (h : property data) :
    Ensures property (pure data : Except ε β) := by
  rintro _ ⟨⟩
  exact h

end Ensures

namespace Json

variable {depth : Nat}

theorem isFinite_ofInt {n : Int} (h : IsWhole n) : (Binary64.ofInt n).isFinite = true := by
  have hsize : n.natAbs ≤ largestSignificand := by
    unfold IsWhole at h
    rw [largestSignificand]
    omega
  have hlimit := Nat.lt_of_le_of_lt (Nat.mul_le_mul_right (twoTo 1074) hsize) wholeLimit
  rw [← Nat.mul_one Binary64.roundingLimit] at hlimit
  exact (Binary64.ofUnits_finite _ Nat.one_pos hlimit).1

theorem decodeAmount_finite {value : Json} (h : Finite depth value) :
    Ensures (fun x : Binary64 => x.isFinite = true) (decodeAmount value) := by
  unfold decodeAmount
  intro x hx
  split at hx
  · cases hx
    cases h with
    | int _ hn => exact isFinite_ofInt hn
  · cases hx
    cases h with
    | float _ hfinite => exact hfinite
  · exact absurd hx (by simp [wrongType])

section Field

variable {α : Type} {property : α → Prop} {decode : Decoder α}
  (hdecode : ∀ depth value, Finite depth value → Ensures property (decode value))
include hdecode

theorem ensures_field? {members : Members} (h : FiniteMembers depth members) (key : String) :
    Ensures (fun found : Option α => ∀ data ∈ found, property data)
      (field? members key decode) := by
  intro found hfound
  unfold field? at hfound
  split at hfound
  · cases hfound
    simp
  · rename_i value hfind
    split at hfound
    · rename_i data hdata
      cases hfound
      rintro _ ⟨⟩
      exact hdecode depth value (h.find? hfind) data hdata
    · exact absurd hfound (by simp)

theorem ensures_field {members : Members} (h : FiniteMembers depth members) (key : String)
    {absent : α} (habsent : property absent) :
    Ensures property (field members key decode absent) := by
  intro data hdata
  unfold field at hdata
  split at hdata
  · exact absurd hdata (by simp)
  · rename_i found hfound
    cases hdata
    cases found with
    | none => exact habsent
    | some data => exact ensures_field? hdecode h key _ hfound data rfl

theorem ensures_item {items : List Json} (h : ∀ item ∈ items, Finite depth item) (place : Nat)
    {absent : α} (habsent : property absent) :
    Ensures property (item items place decode absent) := by
  intro data hdata
  unfold item at hdata
  split at hdata
  · cases hdata
    exact habsent
  · rename_i value hvalue
    exact hdecode depth value (h value (List.mem_of_getElem? hvalue)) data hdata

theorem ensures_decodeList {value : Json} (h : Finite depth value) :
    Ensures (fun found : List α => ∀ data ∈ found, property data) (decodeList decode value) := by
  intro found hfound
  unfold decodeList at hfound
  split at hfound
  · rename_i items
    cases h with
    | array hitems =>
      induction items generalizing found with
      | nil =>
        cases hfound
        simp
      | cons item items ih =>
        rw [decodeAll] at hfound
        split at hfound
        · exact absurd hfound (by simp)
        · rename_i first hfirst
          split at hfound
          · exact absurd hfound (by simp)
          · rename_i others hothers
            cases hfound
            have hrest := fun other hmem => hitems other (List.mem_cons_of_mem item hmem)
            refine List.forall_mem_cons.mpr ⟨?_, ih others hothers hrest⟩
            exact hdecode _ item (hitems item List.mem_cons_self) first hfirst
  · exact absurd hfound (by simp [wrongType])

end Field

theorem ensures_decodeRecord {α : Type} {property : α → Prop} {expected : String}
    {ofMembers : Members → Except Mismatch α} {ofItems : List Json → Except Mismatch α}
    (hmembers : ∀ depth members, FiniteMembers depth members →
      Ensures property (ofMembers members))
    (hitems : ∀ depth items, (∀ item ∈ items, Finite depth item) →
      Ensures property (ofItems items))
    {value : Json} (h : Finite depth value) :
    Ensures property (decodeRecord expected ofMembers ofItems value) := by
  cases h with
  | object h => exact hmembers _ _ h
  | array h => exact hitems _ _ h
  | _ => exact fun _ hdata => absurd hdata (by simp [decodeRecord, wrongType])

variable {members : Members} {items : List Json}

theorem ensures_amount (h : FiniteMembers depth members) (key : String) :
    Ensures (fun x : Binary64 => x.isFinite = true)
      (field members key decodeAmount (.zero false)) :=
  ensures_field (fun _ _ => decodeAmount_finite) h key (Binary64.isFinite_zero false)

theorem ensures_amount_item (h : ∀ item ∈ items, Finite depth item) (place : Nat) :
    Ensures (fun x : Binary64 => x.isFinite = true)
      (item items place decodeAmount (.zero false)) :=
  ensures_item (fun _ _ => decodeAmount_finite) h place (Binary64.isFinite_zero false)

end Json

section Kinds

variable {depth : Nat} {members : Members} {items : List Json}

namespace Vehicle

theorem ofMembers_finite (h : FiniteMembers depth members) :
    Ensures (fun vehicle : Vehicle => vehicle.price.isFinite = true) (ofMembers members) := by
  unfold ofMembers
  iterate 8 refine ensures_bind fun _ _ => ?_
  refine ensures_bind fun price hprice => ?_
  iterate 6 refine ensures_bind fun _ _ => ?_
  exact ensures_pure (ensures_amount h "price" price hprice)

theorem ofItems_finite (h : ∀ item ∈ items, Finite depth item) :
    Ensures (fun vehicle : Vehicle => vehicle.price.isFinite = true) (ofItems items) := by
  unfold ofItems
  iterate 5 refine ensures_bind fun _ _ => ?_
  refine ensures_bind fun price hprice => ?_
  iterate 9 refine ensures_bind fun _ _ => ?_
  exact ensures_pure (ensures_amount_item h 5 price hprice)

theorem decode_finite {value : Json} (h : Finite depth value) :
    Ensures (fun vehicle : Vehicle => vehicle.price.isFinite = true) (decode value) :=
  ensures_decodeRecord (fun _ _ => ofMembers_finite) (fun _ _ => ofItems_finite) h

end Vehicle

theorem Listing.ofMembers_finite (h : FiniteMembers depth members) :
    Ensures (fun listing : Listing => listing.vehicle.price.isFinite = true)
      (ofMembers members) := by
  unfold ofMembers
  iterate 4 refine ensures_bind fun _ _ => ?_
  refine ensures_bind fun vehicle? hvehicle? => ?_
  refine ensures_bind fun _ _ => ?_
  refine ensures_bind fun vehicle hvehicle => ensures_pure ?_
  have hfound : vehicle ∈ vehicle? := by
    cases vehicle? with
    | none => exact absurd hvehicle (by simp [Json.required])
    | some found => exact congrArg some (Except.ok.inj hvehicle)
  exact ensures_field? (fun _ _ => Vehicle.decode_finite) h "vehicle" _ hvehicle? vehicle hfound

namespace MaintenanceEvent

theorem ofMembers_finite (h : FiniteMembers depth members) :
    Ensures (fun event : MaintenanceEvent => event.cost.isFinite = true) (ofMembers members) := by
  unfold ofMembers
  refine ensures_bind fun cost hcost => ?_
  iterate 6 refine ensures_bind fun _ _ => ?_
  exact ensures_pure (ensures_amount h "cost" cost hcost)

theorem ofItems_finite (h : ∀ item ∈ items, Finite depth item) :
    Ensures (fun event : MaintenanceEvent => event.cost.isFinite = true) (ofItems items) := by
  unfold ofItems
  iterate 4 refine ensures_bind fun _ _ => ?_
  refine ensures_bind fun cost hcost => ?_
  iterate 2 refine ensures_bind fun _ _ => ?_
  exact ensures_pure (ensures_amount_item h 4 cost hcost)

theorem decode_finite {value : Json} (h : Finite depth value) :
    Ensures (fun event : MaintenanceEvent => event.cost.isFinite = true) (decode value) :=
  ensures_decodeRecord (fun _ _ => ofMembers_finite) (fun _ _ => ofItems_finite) h

end MaintenanceEvent

namespace Repair

theorem ofMembers_finite (h : FiniteMembers depth members) :
    Ensures (fun repair : Repair => repair.cost.isFinite = true) (ofMembers members) := by
  unfold ofMembers
  refine ensures_bind fun cost hcost => ?_
  iterate 5 refine ensures_bind fun _ _ => ?_
  exact ensures_pure (ensures_amount h "cost" cost hcost)

theorem ofItems_finite (h : ∀ item ∈ items, Finite depth item) :
    Ensures (fun repair : Repair => repair.cost.isFinite = true) (ofItems items) := by
  unfold ofItems
  iterate 3 refine ensures_bind fun _ _ => ?_
  refine ensures_bind fun cost hcost => ?_
  iterate 2 refine ensures_bind fun _ _ => ?_
  exact ensures_pure (ensures_amount_item h 3 cost hcost)

theorem decode_finite {value : Json} (h : Finite depth value) :
    Ensures (fun repair : Repair => repair.cost.isFinite = true) (decode value) :=
  ensures_decodeRecord (fun _ _ => ofMembers_finite) (fun _ _ => ofItems_finite) h

end Repair

theorem VehicleHistory.ofMembers_finite (h : FiniteMembers depth members) :
    Ensures (fun history : VehicleHistory => ∀ cost ∈ history.costs, cost.isFinite = true)
      (ofMembers members) := by
  unfold ofMembers
  refine ensures_bind fun _ _ => ?_
  refine ensures_bind fun maintenance hmaintenance => ?_
  refine ensures_bind fun repairs hrepairs => ?_
  refine ensures_bind fun _ _ => ensures_pure ?_
  have hevents : ∀ event ∈ maintenance, event.cost.isFinite = true :=
    ensures_field (fun _ _ => ensures_decodeList fun _ _ => MaintenanceEvent.decode_finite) h
      "maintenance" (by simp) maintenance hmaintenance
  have hcosts : ∀ repair ∈ repairs, repair.cost.isFinite = true :=
    ensures_field (fun _ _ => ensures_decodeList fun _ _ => Repair.decode_finite) h "repairs"
      (by simp) repairs hrepairs
  intro cost hmem
  rcases List.mem_append.mp hmem with hmem | hmem
  · obtain ⟨event, hevent, rfl⟩ := List.mem_map.mp hmem
    exact hevents event hevent
  · obtain ⟨repair, hrepair, rfl⟩ := List.mem_map.mp hmem
    exact hcosts repair hrepair

end Kinds

/-! ## Records -/

/-- A kind of record that is given finite numbers by members with finite numbers. -/
class FiniteRecord (α : Type) [Record α] [LawfulRecord α] : Prop where
  ofMembers_finite : ∀ depth members, FiniteMembers depth members →
    Ensures (fun record : α => ∀ x ∈ LawfulRecord.amounts record, x.isFinite = true)
      (Record.ofMembers members)

instance : FiniteRecord User where
  ofMembers_finite _ _ _ _ _ _ hmem := absurd hmem List.not_mem_nil

instance : FiniteRecord Message where
  ofMembers_finite _ _ _ _ _ _ hmem := absurd hmem List.not_mem_nil

instance : FiniteRecord Vehicle where
  ofMembers_finite _ _ h vehicle hvehicle := by
    simpa [LawfulRecord.amounts] using Vehicle.ofMembers_finite h vehicle hvehicle

instance : FiniteRecord Listing where
  ofMembers_finite _ _ h listing hlisting := by
    simpa [LawfulRecord.amounts] using Listing.ofMembers_finite h listing hlisting

instance : FiniteRecord VehicleHistory where
  ofMembers_finite _ _ h := VehicleHistory.ofMembers_finite h

/-- The numbers of a record that was made of a value that was read are finite. -/
theorem Record.decodeValue_finite {α : Type} [Record α] [LawfulRecord α] [FiniteRecord α]
    {depth : Nat} {value : Json} (h : Finite depth value) {line : Option Nat} {clock : Clock}
    {record : α} (hrecord : (decodeValue line value clock).1 = .ok record) :
    ∀ x ∈ LawfulRecord.amounts record, x.isFinite = true := by
  unfold decodeValue at hrecord
  split at hrecord
  · cases h with
    | object hmembers =>
      split at hrecord
      · exact absurd hrecord (by simp)
      · rename_i now _ _
        split at hrecord
        · rename_i found hfound
          cases hrecord
          have hnormalized : FiniteMembers _ _ :=
            FiniteMembers.normalize hmembers (schema α) now
          exact FiniteRecord.ofMembers_finite _ _ hnormalized _ hfound
        · exact absurd hrecord (by simp)
  · exact absurd hrecord (by simp)

end VehicleMarket
