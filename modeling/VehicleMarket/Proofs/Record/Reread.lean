import VehicleMarket.Proofs.Record.RoundTrip

/-!
Records whose numbers come back as others. The text of a record with finite numbers is read as the
record in which each number is the one that the reader takes it for.
-/
namespace VehicleMarket

open Json

namespace Json

theorem numberAsRead_finite {x : Binary64} (h : x.isFinite = true) :
    numberAsRead x = .float (reread x) :=
  if_pos h

theorem itemsAsRead_map {α : Type} {write : α → Json} {again : α → α} {records : List α}
    (h : ∀ record ∈ records, (write record).asRead = write (again record)) :
    itemsAsRead (records.map write) = (records.map again).map write := by
  rw [itemsAsRead_eq_map, List.map_map, List.map_map]
  exact List.map_congr_left h

theorem itemsAsRead_same {α : Type} {write : α → Json} {records : List α}
    (h : ∀ record ∈ records, (write record).asRead = write record) :
    itemsAsRead (records.map write) = records.map write := by
  rw [itemsAsRead_eq_map, List.map_map]
  exact List.map_congr_left h

end Json

theorem User.asRead_toJson (user : User) : user.toJson.asRead = user.toJson :=
  (user.fits 0).asRead_eq

theorem Message.asRead_toJson (message : Message) : message.toJson.asRead = message.toJson :=
  (message.fits 0).asRead_eq

theorem Accident.asRead_toJson (accident : Accident) : accident.toJson.asRead = accident.toJson :=
  (accident.fits 0).asRead_eq

namespace Vehicle

def reread (vehicle : Vehicle) : Vehicle :=
  { vehicle with price := Json.reread vehicle.price }

theorem asRead_toJson {vehicle : Vehicle} (h : vehicle.price.isFinite = true) :
    vehicle.toJson.asRead = vehicle.reread.toJson := by
  have hphotos : itemsAsRead (vehicle.photoUrls.map .string) = vehicle.photoUrls.map .string :=
    itemsAsRead_same fun _ _ => by rw [asRead]
  simp only [toJson, asRead, membersAsRead, hphotos, numberAsRead_finite h, reread]

end Vehicle

namespace Listing

def reread (listing : Listing) : Listing :=
  { listing with vehicle := listing.vehicle.reread }

theorem asRead_toJson {listing : Listing} (h : listing.vehicle.price.isFinite = true) :
    listing.toJson.asRead = listing.reread.toJson := by
  simp only [toJson, asRead, membersAsRead, Vehicle.asRead_toJson h, reread]

end Listing

namespace MaintenanceEvent

def reread (event : MaintenanceEvent) : MaintenanceEvent :=
  { event with cost := Json.reread event.cost }

theorem asRead_toJson {event : MaintenanceEvent} (h : event.cost.isFinite = true) :
    event.toJson.asRead = event.reread.toJson := by
  simp only [toJson, asRead, membersAsRead, numberAsRead_finite h, reread]

end MaintenanceEvent

namespace Repair

def reread (repair : Repair) : Repair :=
  { repair with cost := Json.reread repair.cost }

theorem asRead_toJson {repair : Repair} (h : repair.cost.isFinite = true) :
    repair.toJson.asRead = repair.reread.toJson := by
  simp only [toJson, asRead, membersAsRead, numberAsRead_finite h, reread]

end Repair

namespace VehicleHistory

def reread (history : VehicleHistory) : VehicleHistory :=
  { history with
    maintenance := history.maintenance.map MaintenanceEvent.reread
    repairs := history.repairs.map Repair.reread }

theorem costs_reread (history : VehicleHistory) :
    history.reread.costs = history.costs.map Json.reread := by
  simp [costs, reread, Function.comp_def, MaintenanceEvent.reread, Repair.reread]

theorem asRead_toJson {history : VehicleHistory}
    (h : ∀ cost ∈ history.costs, cost.isFinite = true) :
    history.toJson.asRead = history.reread.toJson := by
  have hmaintenance : itemsAsRead (history.maintenance.map MaintenanceEvent.toJson) =
      (history.maintenance.map MaintenanceEvent.reread).map MaintenanceEvent.toJson :=
    itemsAsRead_map fun event hmem => MaintenanceEvent.asRead_toJson
      (h _ (List.mem_append_left _ (List.mem_map_of_mem hmem)))
  have hrepairs : itemsAsRead (history.repairs.map Repair.toJson) =
      (history.repairs.map Repair.reread).map Repair.toJson :=
    itemsAsRead_map fun repair hmem => Repair.asRead_toJson
      (h _ (List.mem_append_right _ (List.mem_map_of_mem hmem)))
  have haccidents : itemsAsRead (history.accidents.map Accident.toJson) =
      history.accidents.map Accident.toJson :=
    itemsAsRead_same fun accident _ => accident.asRead_toJson
  simp only [toJson, asRead, membersAsRead, hmaintenance, hrepairs, haccidents, reread]

end VehicleHistory

end VehicleMarket
