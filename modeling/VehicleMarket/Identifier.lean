import VehicleMarket.Text.Blank

/-!
Identifiers of records. The type of an identifier says what kind of record it names.
-/
namespace VehicleMarket

inductive RecordKind where
  | user
  | vehicle
  | listing
  | message
  | history
  deriving DecidableEq, Repr

namespace RecordKind

def name : RecordKind → String
  | .user => "user"
  | .vehicle => "vehicle"
  | .listing => "listing"
  | .message => "message"
  | .history => "history"

def all : List RecordKind :=
  [.user, .vehicle, .listing, .message, .history]

def ofName? (s : String) : Option RecordKind :=
  all.find? fun kind => kind.name = s

end RecordKind

structure Identifier (kind : RecordKind) where
  text : String
  deriving DecidableEq, Repr

abbrev UserId := Identifier .user
abbrev VehicleId := Identifier .vehicle
abbrev ListingId := Identifier .listing
abbrev MessageId := Identifier .message

namespace Identifier

variable {kind : RecordKind}

/-- Identifiers are ordered by code points, which is the order of their UTF-8 bytes. -/
instance : LT (Identifier kind) :=
  ⟨fun a b => a.text < b.text⟩

instance : DecidableLT (Identifier kind) :=
  fun a b => inferInstanceAs (Decidable (a.text < b.text))

def empty : Identifier kind :=
  ⟨""⟩

def isBlank (id : Identifier kind) : Bool :=
  Text.isBlank id.text

end Identifier

end VehicleMarket
