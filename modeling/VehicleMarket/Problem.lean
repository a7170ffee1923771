import VehicleMarket.Identifier
import VehicleMarket.Json.Fault
import VehicleMarket.Json.Mismatch
import VehicleMarket.Storage.Fault
import VehicleMarket.Text.Utf8
import VehicleMarket.WebAddress.Fault

/-!
What can go wrong, by cause: the wording of each problem, its category and severity, the advice
that goes with it, and the friendlier wording for a user.
-/
namespace VehicleMarket

inductive FieldFault where
  | blankIdentifier
  | blank
  | emptyAddress
  | invalidAddress (fault : WebAddress.Fault)
  | unsupportedScheme (scheme : String)
  | noEmail (text : String)
  | outOfRange (value low high : String)
  | invalidAmount (field : String) (amount : Binary64)
  | sameParties
  | absent (kind id : String)
  | described (text : String)
  deriving DecidableEq, Repr

def FieldFault.message : FieldFault → String
  | .blankIdentifier => "id cannot be empty"
  | .blank => "Value cannot be empty or whitespace-only"
  | .emptyAddress => "URL cannot be empty"
  | .invalidAddress fault => "Invalid URL format: " ++ fault.message
  | .unsupportedScheme scheme => "Unsupported URL scheme: " ++ scheme
  | .noEmail text => "'" ++ text ++ "' is not an email address"
  | .outOfRange value low high =>
    "Value " ++ value ++ " must be between " ++ low ++ " and " ++ high
  | .invalidAmount field amount =>
    field ++ " must be a non-negative amount, got " ++
      String.ofList (Decimal.plainSpelling amount)
  | .sameParties => "sender and recipient are the same user"
  | .absent kind id => kind ++ " '" ++ id ++ "' does not exist"
  | .described text => text

inductive SettingFault where
  | emptyPath
  | nulInPath
  | noZipName
  | yearsReversed (latest : Int)
  | noMileage
  | described (text : String)
  deriving DecidableEq, Repr

def SettingFault.message : SettingFault → String
  | .emptyPath => "Path cannot be empty"
  | .nulInPath => "Path contains null bytes"
  | .noZipName => "Bundle name must end with .zip"
  | .yearsReversed latest => "Must not be after max_year (" ++ toString latest ++ ")"
  | .noMileage => "Value must be at least 1"
  | .described text => text

inductive DecodeFault where
  | malformed (error : Json.TextError)
  | notObject
  | data (mismatch : Json.Mismatch)
  | sectionNotList (name : String)
  | notUtf8 (fault : Text.Utf8Fault)
  | archive
  | described (text : String)
  deriving DecidableEq, Repr

def DecodeFault.message : DecodeFault → String
  | .malformed error => error.message
  | .notObject => "expected a JSON object"
  | .data mismatch => mismatch.message
  | .sectionNotList name => "section '" ++ name ++ "' must be an array"
  | .notUtf8 fault => fault.message
  | .archive => "the file is an archive"
  | .described text => text

inductive JsonFault where
  | malformed (error : Json.TextError)
  | data (mismatch : Json.Mismatch)
  deriving DecidableEq, Repr

def JsonFault.message : JsonFault → String
  | .malformed error => error.message
  | .data mismatch => mismatch.message

inductive ArchiveFault where
  | io (fault : IoFault)
  | missingMember
  deriving DecidableEq, Repr

def ArchiveFault.message : ArchiveFault → String
  | .io _ => "i/o error"
  | .missingMember => "specified file not found in archive"

inductive Problem where
  | archive (fault : ArchiveFault)
  | csv (fault : IoFault)
  | io (fault : IoFault)
  | json (fault : JsonFault)
  | configuration (field text : String)
  | setting (field value : String) (fault : SettingFault)
  | invalid (entity field : String) (fault : FieldFault)
  | undecodable (subject : String) (line : Option Nat) (fault : DecodeFault)
  | duplicate (kind id : String)
  | transition (source target : String)
  deriving DecidableEq, Repr

namespace Problem

def lineSuffix : Option Nat → String
  | none => ""
  | some line => " (line " ++ toString line ++ ")"

def message : Problem → String
  | .archive fault => "Zip operation failed: " ++ fault.message
  | .csv fault => "CSV processing error: " ++ fault.message
  | .io fault => "IO error: " ++ fault.message
  | .json fault => "Serialization error: " ++ fault.message
  | .configuration field text => "Configuration error in '" ++ field ++ "': " ++ text
  | .setting field value fault =>
    "Invalid value '" ++ value ++ "' for '" ++ field ++ "': " ++ fault.message
  | .invalid entity field fault => "Invalid " ++ entity ++ "." ++ field ++ ": " ++ fault.message
  | .undecodable subject line fault =>
    "Failed to decode " ++ subject ++ lineSuffix line ++ ": " ++ fault.message
  | .duplicate kind id => "Duplicate " ++ kind ++ " id: " ++ id
  | .transition source target =>
    "Invalid status transition from " ++ source ++ " to " ++ target

inductive Category where
  | io
  | data
  | configuration
  | integrity
  deriving DecidableEq, Repr

def category : Problem → Category
  | .archive _ | .io _ => .io
  | .csv _ | .json _ | .undecodable .. | .invalid .. => .data
  | .configuration .. | .setting .. => .configuration
  | .duplicate .. | .transition .. => .integrity

inductive Severity where
  | medium
  | high
  | critical
  deriving DecidableEq, Repr

def severity (problem : Problem) : Severity :=
  match problem.category with
  | .integrity => .medium
  | .data | .configuration => .high
  | .io => .critical

def suggestion : Problem → String
  | .io _ => "Check that the file exists and that you have permission to read/write it"
  | .archive _ => "Make sure the output directory is writable and has free space"
  | .csv _ => "Check the exported fields for unsupported characters"
  | .json _ | .undecodable .. =>
    "Check that the input is valid JSON and that status values are spelled correctly"
  | .configuration .. | .setting .. => "Fix the value in the TOML configuration file"
  | .invalid .. => "Correct the record field and run the check again"
  | .duplicate .. => "Every record of the same kind needs a distinct id"
  | .transition .. => "Sold listings cannot change status any more"

def friendly : Problem → String
  | .io fault => "File access failed: " ++ fault.message
  | .undecodable subject (some line) _ =>
    "Could not read the " ++ subject ++ " on line " ++ toString line
  | .undecodable subject none _ => "Could not read the " ++ subject ++ " record"
  | .invalid entity field fault =>
    "The " ++ entity ++ " has an invalid " ++ field ++ ": " ++ fault.message
  | other => other.message

end Problem

/-- Why an operation that reads a clock has no result: a problem, or a clock that cannot be
read any more. -/
inductive Failure where
  | problem (problem : Problem)
  | clockPastRange
  deriving DecidableEq, Repr

end VehicleMarket
