import VehicleMarket.Table
import VehicleMarket.Text.Blank
import VehicleMarket.Text.Lowercase

/-!
The enumerations of the record format. Every value has one name, which is written, and further
spellings, which are read as well. No spelling belongs to two values. What is typed for a value
outside of a record is looked up in a table of its own, in lower case and without the white space
around it.
-/
namespace VehicleMarket

inductive ListingStatus where
  | active
  | expired
  | sold
  deriving DecidableEq, Repr

inductive VehicleStatus where
  | available
  | reserved
  | sold
  | withdrawn
  deriving DecidableEq, Repr

inductive AccountType where
  | seller
  | buyer
  | both
  deriving DecidableEq, Repr

inductive AccidentSeverity where
  | minor
  | moderate
  | severe
  deriving DecidableEq, Repr

/-- An enumeration with the spellings of its values: in a record the name and its aliases, outside
of records the label and its synonyms. -/
class Spelled (α : Type) where
  title : String
  all : List α
  name : α → String
  aliases : α → List String
  label : α → String
  synonyms : α → List String

instance : Spelled ListingStatus where
  title := "ListingStatus"
  all := [.active, .expired, .sold]
  name
    | .active => "active"
    | .expired => "expired"
    | .sold => "sold"
  aliases
    | .active => []
    | .expired => ["expirée", "expiree"]
    | .sold => ["vendue"]
  label
    | .active => "active"
    | .expired => "expired"
    | .sold => "sold"
  synonyms
    | .active => []
    | .expired => ["expirée", "expiree"]
    | .sold => ["vendue"]

instance : Spelled VehicleStatus where
  title := "VehicleStatus"
  all := [.available, .reserved, .sold, .withdrawn]
  name
    | .available => "available"
    | .reserved => "reserved"
    | .sold => "sold"
    | .withdrawn => "withdrawn"
  aliases
    | .available => ["disponible"]
    | .reserved => ["réservé", "reserve"]
    | .sold => ["vendu"]
    | .withdrawn => ["retiré", "retire"]
  label
    | .available => "available"
    | .reserved => "reserved"
    | .sold => "sold"
    | .withdrawn => "withdrawn"
  synonyms
    | .available => ["disponible"]
    | .reserved => ["réservé", "reserve"]
    | .sold => ["vendu"]
    | .withdrawn => ["retiré", "retire"]

instance : Spelled AccountType where
  title := "AccountType"
  all := [.seller, .buyer, .both]
  name
    | .seller => "seller"
    | .buyer => "buyer"
    | .both => "both"
  aliases
    | .seller => ["vendeur"]
    | .buyer => ["acheteur"]
    | .both => ["les deux", "les_deux"]
  label
    | .seller => "seller"
    | .buyer => "buyer"
    | .both => "both"
  synonyms
    | .seller => ["vendeur"]
    | .buyer => ["acheteur"]
    | .both => ["les deux", "les_deux"]

instance : Spelled AccidentSeverity where
  title := "AccidentSeverity"
  all := [.minor, .moderate, .severe]
  name
    | .minor => "minor"
    | .moderate => "moderate"
    | .severe => "severe"
  aliases
    | .minor => ["léger", "leger"]
    | .moderate => ["moyen"]
    | .severe => ["grave"]
  label
    | .minor => "minor"
    | .moderate => "moderate"
    | .severe => "severe"
  synonyms
    | .minor => ["léger", "leger"]
    | .moderate => ["moyen"]
    | .severe => ["grave"]

namespace Spelled

variable {α : Type} [Spelled α]

def spellings (value : α) : List String :=
  name value :: aliases value

def ofSpelling? (s : String) : Option α :=
  (all (α := α)).find? fun value => (spellings value).contains s

/-- The spellings in the order of a message: value by value, those of one value sorted. -/
def known (α : Type) [Spelled α] : List String :=
  (all (α := α)).flatMap fun value =>
    Table.keys (Table.ofList ((spellings value).map fun s => (s, ())))

def labels (value : α) : List String :=
  label value :: synonyms value

/-- Reads what is typed for a value, with white space around it and in any case. -/
def parse? (s : String) : Option α :=
  let typed := Text.lower (Text.trim s)
  (all (α := α)).find? fun value => (labels value).contains typed

def unknownMessage (α : Type) [Spelled α] (s : String) : String :=
  "unknown " ++ title α ++ " '" ++ Text.lower (Text.trim s) ++ "', expected one of: " ++
    ", ".intercalate ((all (α := α)).map label)

end Spelled

def ListingStatus.isFinal : ListingStatus → Bool
  | .sold => true
  | _ => false

def AccountType.canSell : AccountType → Bool
  | .buyer => false
  | _ => true

def AccountType.canBuy : AccountType → Bool
  | .seller => false
  | _ => true

end VehicleMarket
