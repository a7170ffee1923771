import VehicleMarket.Settings.Basic
import VehicleMarket.Settings.Environment
import VehicleMarket.Toml.Reader

/-!
Settings read from a TOML document, after the substitution of environment variables. Every setting
may be left out; settings that are not known are passed over. A section may give its settings as
an array, in their order.
-/
namespace VehicleMarket.Settings

inductive DocumentFault where
  | malformed (fault : Toml.Fault)
  | wrongType (setting : String)
  deriving DecidableEq, Repr

def DocumentFault.message : DocumentFault → String
  | .malformed fault => fault.message
  | .wrongType setting => "the value of " ++ setting ++ " is not of its type"

/-- Finds the setting of a section by its key or its place. -/
abbrev Section := String → Nat → Option Toml

/-- A section that is absent holds nothing, and neither does a date. -/
def openSection (document : Toml.Members) (name : String) : Except DocumentFault Section :=
  match Table.find? document name with
  | none | some (.datetime _) => .ok fun _ _ => none
  | some (.table _ members) => .ok fun key _ => Table.find? members key
  | some (.array items) | some (.tables items) => .ok fun _ place => items[place]?
  | some _ => .error (.wrongType name)

def readText (name : String) : Toml → Except DocumentFault String
  | .string text => .ok text
  | _ => .error (.wrongType name)

def readFlag (name : String) : Toml → Except DocumentFault Bool
  | .boolean b => .ok b
  | _ => .error (.wrongType name)

def readYear (name : String) : Toml → Except DocumentFault Int32
  | .integer n =>
    if -2147483648 ≤ n ∧ n ≤ 2147483647 then .ok (Int32.ofInt n) else .error (.wrongType name)
  | _ => .error (.wrongType name)

def readCount (name : String) : Toml → Except DocumentFault UInt32
  | .integer n =>
    if 0 ≤ n ∧ n < 4294967296 then .ok (UInt32.ofNat n.toNat) else .error (.wrongType name)
  | _ => .error (.wrongType name)

def setting? {α : Type} (read : String → Toml → Except DocumentFault α) (part : Section)
    (key : String) (place : Nat) : Except DocumentFault (Option α) :=
  match part key place with
  | none => .ok none
  | some value => (read key value).map some

def setting {α : Type} (read : String → Toml → Except DocumentFault α) (part : Section)
    (key : String) (place : Nat) (standard : α) : Except DocumentFault α :=
  (setting? read part key place).map fun given => given.getD standard

def ofMembers (document : Toml.Members) : Except DocumentFault Settings := do
  let storage ← openSection document "storage"
  let dataDir ← setting readText storage "data_dir" 0 standard.dataDir
  let snapshotFile ← setting readText storage "snapshot_file" 1 standard.snapshotFile
  let validation ← openSection document "validation"
  let minYear ← setting readYear validation "min_year" 0 standard.minYear
  let maxYear ← setting? readYear validation "max_year" 1
  let maxMileage ← setting readCount validation "max_mileage" 2 standard.maxMileage
  let strictReferences ←
    setting readFlag validation "strict_references" 3 standard.strictReferences
  let output ← openSection document "export"
  let outputPath ← setting? readText output "output_path" 0
  let bundleName ← setting readText output "bundle_name" 1 standard.bundleName
  return {
    dataDir, snapshotFile, minYear, maxYear, maxMileage, strictReferences, outputPath,
    bundleName }

def ofText (text : String) : Except DocumentFault Settings :=
  match Toml.read text with
  | .error fault => .error (.malformed fault)
  | .ok document => ofMembers document

def ofDocument (environment : Environment) (text : String) : Except Problem Settings :=
  match ofText (environment.substitute text) with
  | .ok settings => .ok settings
  | .error fault =>
    .error (.configuration "toml_parsing" ("TOML parsing error: " ++ fault.message))

def readFile (disk : Disk) (path : String) : Except Problem String :=
  match disk.read path with
  | .error fault => .error (.io fault)
  | .ok (.archive _) => .error (.io .notText)
  | .ok (.bytes data) =>
    match Text.decodeUtf8 data with
    | .ok text => .ok text
    | .error _ => .error (.io .notText)

def ofFile (environment : Environment) (disk : Disk) (path : String) : Except Problem Settings :=
  match readFile disk path with
  | .error problem => .error problem
  | .ok text => ofDocument environment text

def standardFile : String := "auto-market.toml"

/-- The settings of the file that is named, else of the standard file, else the standard ones. -/
def load (environment : Environment) (disk : Disk) (path : Option String) :
    Except Problem Settings :=
  match path with
  | some path => ofFile environment disk path
  | none =>
    if disk.exists? standardFile then ofFile environment disk standardFile else .ok standard

end VehicleMarket.Settings
