import VehicleMarket.Identifier
import VehicleMarket.Status

/-!
The commands of the program, and what every command can be given with it.
-/
namespace VehicleMarket

inductive ListingAction where
  | markSold
  | expire
  | reactivate
  deriving DecidableEq, Repr

namespace ListingAction

def all : List ListingAction :=
  [.markSold, .expire, .reactivate]

def name : ListingAction → String
  | .markSold => "mark-sold"
  | .expire => "expire"
  | .reactivate => "reactivate"

def ofName? (text : String) : Option ListingAction :=
  all.find? fun action => action.name = text

def target : ListingAction → ListingStatus
  | .markSold => .sold
  | .expire => .expired
  | .reactivate => .active

end ListingAction

inductive Command where
  | check (snapshot : Option String) (lenient : Bool)
  | bundle (snapshot out : Option String)
  | listing (action : ListingAction) (id : ListingId) (snapshot : Option String)
  | normalize (kind : RecordKind) (input : String) (out : Option String)
  deriving DecidableEq, Repr

/-- A command with the choices that belong to all of them. -/
structure Invocation where
  settingsFile : Option String
  verbose : Bool
  jsonLogs : Bool
  command : Command
  deriving DecidableEq, Repr

end VehicleMarket
