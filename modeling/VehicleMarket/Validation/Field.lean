import VehicleMarket.Problem
import VehicleMarket.Validation.Email
import VehicleMarket.WebAddress.Parse

/-!
Checks of single fields. Each either passes or names the record and field and what is wrong.
-/
namespace VehicleMarket.Validation

/-- A web address must be absolute, and either http or https. -/
def checkAddress (entity field address : String) : Except Problem Unit :=
  if address = "" then .error (.invalid entity field .emptyAddress)
  else
    match WebAddress.schemeOf address with
    | .ok scheme =>
      if scheme = "http" || scheme = "https" then .ok ()
      else .error (.invalid entity field (.unsupportedScheme scheme))
    | .error fault => .error (.invalid entity field (.invalidAddress fault))

def checkOptionalAddress (entity field address : String) : Except Problem Unit :=
  if address = "" then .ok () else checkAddress entity field address

def checkNotBlank (entity field value : String) : Except Problem Unit :=
  if Text.isBlank value then .error (.invalid entity field .blank) else .ok ()

def checkEmail (entity field value : String) : Except Problem Unit :=
  if Email.accepts value.toList then .ok () else .error (.invalid entity field (.noEmail value))

def checkIntRange (entity field : String) (value low high : Int) : Except Problem Unit :=
  if value < low || high < value then
    .error (.invalid entity field (.outOfRange (toString value) (toString low) (toString high)))
  else .ok ()

/-- NaN is outside no range. -/
def checkFloatRange (entity field : String) (value low high : Binary64) : Except Problem Unit :=
  let spell (x : Binary64) : String := String.ofList (Decimal.plainSpelling x)
  if value.lt low || high.lt value then
    .error (.invalid entity field (.outOfRange (spell value) (spell low) (spell high)))
  else .ok ()

/-- Amounts are finite and not negative; minus zero is not negative. -/
def isAmount (x : Binary64) : Bool :=
  x.isFinite && !x.lt (.zero false)

def checkPath (field path : String) : Except Problem Unit :=
  if path = "" then .error (.setting field path .emptyPath)
  else if path.toList.contains (Char.ofNat 0) then .error (.setting field path .nulInPath)
  else .ok ()

structure Rules where
  minYear : Int32
  maxYear : Int32
  maxMileage : UInt32
  deriving DecidableEq, Repr

/-- The rules that hold without a configuration: no year after the next one. -/
def Rules.standard (thisYear : Int32) : Rules :=
  ⟨1886, thisYear + 1, 2000000⟩

end VehicleMarket.Validation
