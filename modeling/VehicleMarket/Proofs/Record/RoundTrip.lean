import VehicleMarket.Proofs.Record.Written
import VehicleMarket.Proofs.Time.Clock

/-!
The round trip of records. A record is decoded from its own compact or pretty text, whatever the
clock shows, as long as the binary numbers in it are read back from their own spelling.
-/
namespace VehicleMarket

open Json

/-- A kind of record that is read back from what it writes. -/
class LawfulRecord (α : Type) [Record α] where
  amounts : α → List Binary64
  isRecord : ∀ record : α, IsRecord (Record.toJson record)
  fits : ∀ {admits : Binary64 → Prop} (record : α), (∀ x ∈ amounts record, admits x) →
    ∀ depth, Fits admits (depth + 3) (Record.toJson record)
  canonical : ∀ record : α, (Record.schema α).Canonical (Record.toJson record).readBack
  ofMembers_readBack : ∀ record : α,
    Record.ofMembers (Record.toJson record).readBack = .ok record

instance : LawfulRecord User where
  amounts _ := []
  isRecord := User.isRecord
  fits user _ depth := user.fits (depth + 2)
  canonical user := {
    sorted := Table.sorted_ofList _
    keys := user.canonical.readBack user.isRecord
    nested := fun _ hmem => absurd hmem List.not_mem_nil }
  ofMembers_readBack := User.ofMembers_readBack

instance : LawfulRecord Vehicle where
  amounts vehicle := [vehicle.price]
  isRecord := Vehicle.isRecord
  fits vehicle h depth := vehicle.fits (h _ List.mem_cons_self) (depth + 1)
  canonical vehicle := {
    sorted := Table.sorted_ofList _
    keys := vehicle.canonical.readBack vehicle.isRecord
    nested := fun _ hmem => absurd hmem List.not_mem_nil }
  ofMembers_readBack := Vehicle.ofMembers_readBack

instance : LawfulRecord Listing where
  amounts listing := [listing.vehicle.price]
  isRecord := Listing.isRecord
  fits listing h depth := listing.fits (h _ List.mem_cons_self) depth
  canonical listing := {
    sorted := Table.sorted_ofList _
    keys := listing.canonical.readBack listing.isRecord
    nested := by
      intro rule hmem inner hfind
      obtain rfl : rule = ("vehicle", Vehicle.keyRules) := List.mem_singleton.mp hmem
      exact listing.vehicle_canonical hfind }
  ofMembers_readBack := Listing.ofMembers_readBack

instance : LawfulRecord Message where
  amounts _ := []
  isRecord := Message.isRecord
  fits message _ depth := message.fits (depth + 2)
  canonical message := {
    sorted := Table.sorted_ofList _
    keys := message.canonical.readBack message.isRecord
    nested := fun _ hmem => absurd hmem List.not_mem_nil }
  ofMembers_readBack := Message.ofMembers_readBack

instance : LawfulRecord VehicleHistory where
  amounts := VehicleHistory.costs
  isRecord := VehicleHistory.isRecord
  fits := VehicleHistory.fits
  canonical history := {
    sorted := Table.sorted_ofList _
    keys := history.canonical.readBack history.isRecord
    nested := fun _ hmem => absurd hmem List.not_mem_nil }
  ofMembers_readBack := VehicleHistory.ofMembers_readBack

namespace Record

variable {α : Type} [Record α] [LawfulRecord α]

theorem ofObject_readBack (record : α) (now : Instant) :
    ofObject now (toJson record).readBack = .ok record := by
  rw [ofObject, (LawfulRecord.canonical record).normalize]
  exact LawfulRecord.ofMembers_readBack record

theorem decodeValue_sorted (record : α) (line : Option Nat) {clock later : Clock} {now : Instant}
    (hclock : clock.read? = some (now, later)) :
    decodeValue line (toJson record).sorted clock = (.ok record, later) := by
  rw [(LawfulRecord.isRecord record).sorted]
  simp only [decodeValue, hclock, ofObject_readBack]

/-- A record comes back from both of its texts, with one reading of the clock. -/
def RoundTrips (record : α) (clock later : Clock) : Prop :=
  decode (encode record) clock = (.ok record, later) ∧
    decode (encodePretty record) clock = (.ok record, later)

omit [LawfulRecord α] in
theorem decodeAt_of_read {line : Option Nat} {text : String} {value : Json} {record : α}
    {clock later : Clock} (hread : read text = .ok value)
    (hvalue : decodeValue line value clock = (.ok record, later)) :
    decodeAt line text clock = (.ok record, later) := by
  rw [decodeAt, hread]
  exact hvalue

theorem roundTrips {record : α} (hamounts : ∀ x ∈ LawfulRecord.amounts record, ReadsBack x)
    {clock later : Clock} {now : Instant} (hclock : clock.read? = some (now, later)) :
    RoundTrips record clock later := by
  have hreadable : Readable deepest (toJson record) := LawfulRecord.fits record hamounts 124
  have hvalue := decodeValue_sorted record none hclock
  exact ⟨decodeAt_of_read (read_compact hreadable) hvalue,
    decodeAt_of_read (read_pretty hreadable) hvalue⟩

/-- Every kind of record comes back: users and messages always, vehicles, listings and histories
when their amounts are read back from their own spelling. -/
theorem every_kind_round_trips {clock later : Clock} {now : Instant}
    (hclock : clock.read? = some (now, later)) :
    (∀ user : User, RoundTrips user clock later) ∧
    (∀ vehicle : Vehicle, ReadsBack vehicle.price → RoundTrips vehicle clock later) ∧
    (∀ listing : Listing, ReadsBack listing.vehicle.price → RoundTrips listing clock later) ∧
    (∀ message : Message, RoundTrips message clock later) ∧
    (∀ history : VehicleHistory, (∀ cost ∈ history.costs, ReadsBack cost) →
      RoundTrips history clock later) := by
  refine ⟨?_, ?_, ?_, ?_, ?_⟩
  · intro user
    exact roundTrips (fun _ hmem => absurd hmem List.not_mem_nil) hclock
  · intro vehicle hprice
    have hamounts : ∀ x ∈ LawfulRecord.amounts vehicle, ReadsBack x := by
      intro x hmem
      rw [List.mem_singleton.mp hmem]
      exact hprice
    exact roundTrips hamounts hclock
  · intro listing hprice
    have hamounts : ∀ x ∈ LawfulRecord.amounts listing, ReadsBack x := by
      intro x hmem
      rw [List.mem_singleton.mp hmem]
      exact hprice
    exact roundTrips hamounts hclock
  · intro message
    exact roundTrips (fun _ hmem => absurd hmem List.not_mem_nil) hclock
  · intro history hcosts
    exact roundTrips hcosts hclock

def sampleAmount : Binary64 :=
  ⟨4668097836879970304⟩

def sampleVehicle : Vehicle :=
  { Vehicle.blank .epoch with id := ⟨"v1"⟩, price := sampleAmount, photoUrls := ["b", "a"] }

def sampleListing : Listing :=
  Listing.create ⟨"l1"⟩ sampleVehicle ⟨"u1"⟩

def sampleHistory : VehicleHistory where
  vehicleId := ⟨"v1"⟩
  maintenance := []
  repairs := [⟨.epoch, 90000, "\"brakes\"", sampleAmount, "Béziers"⟩]
  accidents := [⟨.epoch, "bump", .minor, none⟩, ⟨.epoch, "crash", .severe, some .epoch⟩]

theorem samples_round_trip :
    RoundTrips sampleVehicle (.stepping .epoch 1000) (.stepping ⟨1000, by decide⟩ 1000) ∧
    RoundTrips sampleListing (.stepping .epoch 1000) (.stepping ⟨1000, by decide⟩ 1000) ∧
    RoundTrips sampleHistory (.stepping .epoch 1000) (.stepping ⟨1000, by decide⟩ 1000) := by
  have hamount : ReadsBack sampleAmount := by decide +kernel
  have hcosts : ∀ cost ∈ sampleHistory.costs, ReadsBack cost := by
    intro cost hmem
    rw [List.mem_singleton.mp hmem]
    exact hamount
  have hclock : (Clock.stepping .epoch 1000).read? =
      some (.epoch, .stepping ⟨1000, by decide⟩ 1000) := by
    rw [Clock.read?_stepping]
    rfl
  obtain ⟨_, hvehicle, hlisting, _, hhistory⟩ := every_kind_round_trips hclock
  exact ⟨hvehicle _ hamount, hlisting _ hamount, hhistory _ hcosts⟩

end Record

end VehicleMarket
