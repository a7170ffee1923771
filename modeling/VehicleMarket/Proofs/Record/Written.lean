import VehicleMarket.Proofs.Record.Canonical
import VehicleMarket.Proofs.Record.Field
import VehicleMarket.Record.Codec

/-!
Records as they are written. What each kind of record writes fits into a text, is in the canonical
shape of its own schema, so that no rule for older keys or for blank and absent fields touches it,
and is read back as the record. Which binary numbers are admitted in it is left open.
-/
namespace VehicleMarket

open Json

variable {admits : Binary64 → Prop}

theorem isWhole_count (n : UInt32) : IsWhole n.toNat := by
  have hlast := n.toNat_lt
  unfold IsWhole
  omega

theorem isWhole_year (n : Int32) : IsWhole n.toInt := by
  have hlow := n.le_toInt
  have hhigh := n.toInt_lt
  unfold IsWhole
  omega

theorem isWhole_millis (instant : Instant) : IsWhole instant.millis := by
  obtain ⟨hlow, hhigh⟩ := instant.inRange
  unfold earliestMillis at hlow
  unfold latestMillis at hhigh
  unfold IsWhole
  omega

theorem bind_ok {ε α β : Type} {read : Except ε α} {next : α → Except ε β} {data : α}
    {result : Except ε β} (hread : read = .ok data) (hnext : next data = result) :
    read >>= next = result := by
  rw [hread]
  exact hnext

namespace User

theorem isRecord (user : User) : IsRecord user.toJson where
  object := rfl
  keys := by simp [Table.keys, toJson, members]

theorem fits (user : User) (depth : Nat) : Fits admits (depth + 1) user.toJson := by
  refine .object ?_
  simp only [List.forall_mem_cons, Fits.string, Fits.int, isWhole_millis, true_and]
  exact fun _ hmem => absurd hmem List.not_mem_nil

theorem canonical (user : User) : schema.keys.Canonical user.toJson.members where
  no_older := by simp [schema, toJson, members, Table.find?]
  no_embedded := by simp [schema]
  not_blank := by
    simp [schema, toJson, members, Table.find?, KeyRules.isBlankValue,
      LawfulSpelled.name_not_blank]
  stamped := by simp [schema, toJson, members, Table.find?, KeyRules.isNull]

theorem ofMembers_readBack (user : User) : ofMembers user.toJson.readBack = .ok user := by
  have h := user.isRecord
  unfold ofMembers
  refine bind_ok (h.field rfl (decodeSpelled_name user.accountType)) ?_
  refine bind_ok (h.field rfl (decodeString_string user.city)) ?_
  refine bind_ok (h.field rfl (decodeString_string user.email)) ?_
  refine bind_ok (h.field rfl (decodeString_string user.firstName)) ?_
  refine bind_ok (h.field rfl (decodeString_string user.id.text)) ?_
  refine bind_ok (h.field rfl (decodeString_string user.lastName)) ?_
  refine bind_ok (h.field rfl (decodeString_string user.phone)) ?_
  refine bind_ok (h.field rfl (decodeString_string user.profilePhotoUrl)) ?_
  refine bind_ok (h.field? rfl (decodeInstant_millis user.registeredAt)) ?_
  rfl

end User

theorem fits_list {α : Type} {write : α → Json} {depth : Nat} {records : List α}
    (h : ∀ record ∈ records, Fits admits depth (write record)) :
    Fits admits (depth + 1) (.array (records.map write)) := by
  refine .array ?_
  intro item hmem
  obtain ⟨record, hrecord, heq⟩ := List.mem_map.mp hmem
  exact heq ▸ h record hrecord

namespace Vehicle

theorem isRecord (vehicle : Vehicle) : IsRecord vehicle.toJson where
  object := rfl
  keys := by simp [Table.keys, toJson, members]

theorem fits (vehicle : Vehicle) (hprice : admits vehicle.price) (depth : Nat) :
    Fits admits (depth + 2) vehicle.toJson := by
  have hphotos : Fits admits (depth + 1) (.array (vehicle.photoUrls.map .string)) :=
    fits_list fun url _ => .string depth url
  refine .object ?_
  simp only [List.forall_mem_cons, Fits.string, Fits.int, Fits.float _ hprice,
    isWhole_year, isWhole_count, isWhole_millis, hphotos, true_and]
  exact fun _ hmem => absurd hmem List.not_mem_nil

theorem canonical (vehicle : Vehicle) : keyRules.Canonical vehicle.toJson.members where
  no_older := by simp [keyRules, toJson, members, Table.find?]
  no_embedded := by simp [keyRules]
  not_blank := by
    simp [keyRules, toJson, members, Table.find?, KeyRules.isBlankValue,
      LawfulSpelled.name_not_blank]
  stamped := by simp [keyRules, toJson, members, Table.find?, KeyRules.isNull]

theorem ofMembers_readBack (vehicle : Vehicle) :
    ofMembers vehicle.toJson.readBack = .ok vehicle := by
  have h := vehicle.isRecord
  unfold ofMembers
  refine bind_ok (h.field rfl (decodeString_string vehicle.color)) ?_
  refine bind_ok (h.field rfl (decodeString_string vehicle.description)) ?_
  refine bind_ok (h.field rfl (decodeString_string vehicle.fuelType)) ?_
  refine bind_ok (h.field rfl (decodeString_string vehicle.id.text)) ?_
  refine bind_ok (h.field rfl (decodeString_string vehicle.make)) ?_
  refine bind_ok (h.field rfl (decodeCount_toNat vehicle.mileage)) ?_
  refine bind_ok (h.field rfl (decodeString_string vehicle.model)) ?_
  refine bind_ok (h.field rfl (decodeList_map decodeString_string vehicle.photoUrls)) ?_
  refine bind_ok (h.field rfl (decodeAmount_float vehicle.price)) ?_
  refine bind_ok (h.field? rfl (decodeInstant_millis vehicle.publishedAt)) ?_
  refine bind_ok (h.field rfl (decodeString_string vehicle.sellerId.text)) ?_
  refine bind_ok (h.field rfl (decodeSpelled_name vehicle.status)) ?_
  refine bind_ok (h.field rfl (decodeString_string vehicle.transmission)) ?_
  refine bind_ok (h.field rfl (decodeYear_toInt vehicle.year)) ?_
  rfl

theorem decode_sorted (vehicle : Vehicle) : decode vehicle.toJson.sorted = .ok vehicle := by
  rw [vehicle.isRecord.sorted]
  exact vehicle.ofMembers_readBack

end Vehicle

namespace Listing

theorem isRecord (listing : Listing) : IsRecord listing.toJson where
  object := rfl
  keys := by simp [Table.keys, toJson, members]

theorem fits (listing : Listing) (hprice : admits listing.vehicle.price) (depth : Nat) :
    Fits admits (depth + 3) listing.toJson := by
  refine .object ?_
  simp only [List.forall_mem_cons, Fits.string, Fits.int, isWhole_count,
    listing.vehicle.fits hprice depth, true_and]
  exact fun _ hmem => absurd hmem List.not_mem_nil

theorem canonical (listing : Listing) : schema.keys.Canonical listing.toJson.members where
  no_older := by simp [schema, toJson, members, Table.find?]
  no_embedded := by simp [schema, toJson, members, Table.find?]
  not_blank := by
    simp [schema, toJson, members, Table.find?, KeyRules.isBlankValue,
      LawfulSpelled.name_not_blank]
  stamped := by simp [schema]

theorem vehicle_canonical (listing : Listing) {inner : Members}
    (h : Table.find? listing.toJson.readBack "vehicle" = some (.object inner)) :
    Vehicle.keyRules.Canonical inner := by
  have hvehicle : Table.find? listing.toJson.members "vehicle" = some listing.vehicle.toJson := rfl
  rw [listing.isRecord.find?_readBack, hvehicle, Option.map_some,
    listing.vehicle.isRecord.sorted] at h
  obtain rfl : listing.vehicle.toJson.readBack = inner := Json.object.inj (Option.some.inj h)
  exact listing.vehicle.canonical.readBack listing.vehicle.isRecord

theorem ofMembers_readBack (listing : Listing) :
    ofMembers listing.toJson.readBack = .ok listing := by
  have h := listing.isRecord
  unfold ofMembers
  refine bind_ok (h.field rfl (decodeCount_toNat listing.favoriteCount)) ?_
  refine bind_ok (h.field rfl (decodeString_string listing.id.text)) ?_
  refine bind_ok (h.field rfl (decodeString_string listing.sellerId.text)) ?_
  refine bind_ok (h.field rfl (decodeSpelled_name listing.status)) ?_
  refine bind_ok (h.field? rfl listing.vehicle.decode_sorted) ?_
  refine bind_ok (h.field rfl (decodeCount_toNat listing.viewCount)) ?_
  rfl

end Listing

namespace Message

theorem isRecord (message : Message) : IsRecord message.toJson where
  object := rfl
  keys := by simp [Table.keys, toJson, members]

theorem fits (message : Message) (depth : Nat) : Fits admits (depth + 1) message.toJson := by
  refine .object ?_
  simp only [List.forall_mem_cons, Fits.string, Fits.int, Fits.bool, isWhole_millis,
    true_and]
  exact fun _ hmem => absurd hmem List.not_mem_nil

theorem canonical (message : Message) : schema.keys.Canonical message.toJson.members where
  no_older := by simp [schema, toJson, members, Table.find?]
  no_embedded := by simp [schema]
  not_blank := by simp [schema]
  stamped := by simp [schema, toJson, members, Table.find?, KeyRules.isNull]

theorem ofMembers_readBack (message : Message) :
    ofMembers message.toJson.readBack = .ok message := by
  have h := message.isRecord
  unfold ofMembers
  refine bind_ok (h.field rfl (decodeString_string message.content)) ?_
  refine bind_ok (h.field rfl (decodeString_string message.id.text)) ?_
  refine bind_ok (h.field rfl (decodeString_string message.listingId.text)) ?_
  refine bind_ok (h.field rfl (decodeBool_bool message.read)) ?_
  refine bind_ok (h.field rfl (decodeString_string message.recipientId.text)) ?_
  refine bind_ok (h.field rfl (decodeString_string message.senderId.text)) ?_
  refine bind_ok (h.field? rfl (decodeInstant_millis message.timestamp)) ?_
  rfl

end Message

namespace MaintenanceEvent

theorem isRecord (event : MaintenanceEvent) : IsRecord event.toJson where
  object := rfl
  keys := by simp [Table.keys, toJson, members]

theorem fits (event : MaintenanceEvent) (hcost : admits event.cost) (depth : Nat) :
    Fits admits (depth + 1) event.toJson := by
  refine .object ?_
  simp only [List.forall_mem_cons, Fits.string, Fits.int, Fits.float _ hcost,
    isWhole_count, isWhole_millis, true_and]
  exact fun _ hmem => absurd hmem List.not_mem_nil

theorem decode_sorted (event : MaintenanceEvent) : decode event.toJson.sorted = .ok event := by
  have h := event.isRecord
  have hmembers : ofMembers event.toJson.readBack = .ok event := by
    unfold ofMembers
    refine bind_ok (h.field rfl (decodeAmount_float event.cost)) ?_
    refine bind_ok (h.field? rfl (decodeInstant_millis event.date)) ?_
    refine bind_ok (h.field rfl (decodeString_string event.description)) ?_
    refine bind_ok (h.field rfl (decodeString_string event.garage)) ?_
    refine bind_ok (h.field rfl (decodeString_string event.kind)) ?_
    refine bind_ok (h.field rfl (decodeCount_toNat event.mileage)) ?_
    rfl
  rw [h.sorted]
  exact hmembers

end MaintenanceEvent

namespace Repair

theorem isRecord (repair : Repair) : IsRecord repair.toJson where
  object := rfl
  keys := by simp [Table.keys, toJson, members]

theorem fits (repair : Repair) (hcost : admits repair.cost) (depth : Nat) :
    Fits admits (depth + 1) repair.toJson := by
  refine .object ?_
  simp only [List.forall_mem_cons, Fits.string, Fits.int, Fits.float _ hcost,
    isWhole_count, isWhole_millis, true_and]
  exact fun _ hmem => absurd hmem List.not_mem_nil

theorem decode_sorted (repair : Repair) : decode repair.toJson.sorted = .ok repair := by
  have h := repair.isRecord
  have hmembers : ofMembers repair.toJson.readBack = .ok repair := by
    unfold ofMembers
    refine bind_ok (h.field rfl (decodeAmount_float repair.cost)) ?_
    refine bind_ok (h.field? rfl (decodeInstant_millis repair.date)) ?_
    refine bind_ok (h.field rfl (decodeString_string repair.description)) ?_
    refine bind_ok (h.field rfl (decodeString_string repair.garage)) ?_
    refine bind_ok (h.field rfl (decodeCount_toNat repair.mileage)) ?_
    rfl
  rw [h.sorted]
  exact hmembers

end Repair

namespace Accident

def repairedAtJson (accident : Accident) : Json :=
  match accident.repairedAt with
  | some instant => .int instant.millis
  | none => .null

theorem repairedAtJson_fits (accident : Accident) (depth : Nat) :
    Fits admits depth accident.repairedAtJson := by
  unfold repairedAtJson
  cases accident.repairedAt with
  | none => exact .null depth
  | some instant => exact .int depth (isWhole_millis instant)

theorem decodeInstant?_repairedAtJson (accident : Accident) :
    decodeInstant? accident.repairedAtJson.sorted = .ok accident.repairedAt := by
  unfold repairedAtJson
  cases accident.repairedAt with
  | none => simp [Json.sorted, decodeInstant?]
  | some instant => simp [Json.sorted, decodeInstant?]

theorem isRecord (accident : Accident) : IsRecord accident.toJson where
  object := rfl
  keys := by simp [Table.keys, toJson, members]

theorem fits (accident : Accident) (depth : Nat) : Fits admits (depth + 1) accident.toJson := by
  refine .object ?_
  simp only [List.forall_mem_cons, Fits.string, Fits.int, isWhole_millis, true_and]
  exact ⟨accident.repairedAtJson_fits depth, fun _ hmem => absurd hmem List.not_mem_nil⟩

theorem decode_sorted (accident : Accident) : decode accident.toJson.sorted = .ok accident := by
  have h := accident.isRecord
  have hmembers : ofMembers accident.toJson.readBack = .ok accident := by
    unfold ofMembers
    refine bind_ok (h.field? rfl (decodeInstant_millis accident.date)) ?_
    refine bind_ok (h.field rfl (decodeString_string accident.description)) ?_
    refine bind_ok (h.field rfl accident.decodeInstant?_repairedAtJson) ?_
    refine bind_ok (h.field rfl (decodeSpelled_name accident.severity)) ?_
    rfl
  rw [h.sorted]
  exact hmembers

end Accident

namespace VehicleHistory

theorem isRecord (history : VehicleHistory) : IsRecord history.toJson where
  object := rfl
  keys := by simp [Table.keys, toJson, members]

theorem fits (history : VehicleHistory) (hcosts : ∀ cost ∈ history.costs, admits cost)
    (depth : Nat) : Fits admits (depth + 3) history.toJson := by
  have hmaintenance : Fits admits (depth + 2)
      (.array (history.maintenance.map MaintenanceEvent.toJson)) := by
    refine fits_list fun event hmem => event.fits (hcosts _ ?_) depth
    exact List.mem_append_left _ (List.mem_map_of_mem hmem)
  have hrepairs : Fits admits (depth + 2) (.array (history.repairs.map Repair.toJson)) := by
    refine fits_list fun repair hmem => repair.fits (hcosts _ ?_) depth
    exact List.mem_append_right _ (List.mem_map_of_mem hmem)
  have haccidents : Fits admits (depth + 2) (.array (history.accidents.map Accident.toJson)) :=
    fits_list fun accident _ => accident.fits depth
  refine .object ?_
  simp only [List.forall_mem_cons, Fits.string, hmaintenance, hrepairs, haccidents, true_and]
  exact fun _ hmem => absurd hmem List.not_mem_nil

theorem canonical (history : VehicleHistory) :
    schema.keys.Canonical history.toJson.members where
  no_older := by simp [schema, toJson, members, Table.find?]
  no_embedded := by simp [schema]
  not_blank := by simp [schema]
  stamped := by simp [schema]

theorem ofMembers_readBack (history : VehicleHistory) :
    ofMembers history.toJson.readBack = .ok history := by
  have h := history.isRecord
  unfold ofMembers
  refine bind_ok (h.field rfl (decodeList_map Accident.decode_sorted history.accidents)) ?_
  refine bind_ok (h.field rfl (decodeList_map MaintenanceEvent.decode_sorted history.maintenance)) ?_
  refine bind_ok (h.field rfl (decodeList_map Repair.decode_sorted history.repairs)) ?_
  refine bind_ok (h.field rfl (decodeString_string history.vehicleId.text)) ?_
  rfl

end VehicleHistory

end VehicleMarket
