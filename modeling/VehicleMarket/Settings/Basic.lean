import VehicleMarket.Catalog.Integrity
import VehicleMarket.Market.Service
import VehicleMarket.Validation.Field

/-!
Settings: where the snapshot and the exports are kept, and what records are checked against.
-/
namespace VehicleMarket

structure Settings where
  dataDir : String
  snapshotFile : String
  minYear : Int32
  /-- Without one, no year after the next is allowed. -/
  maxYear : Option Int32
  maxMileage : UInt32
  strictReferences : Bool
  /-- Without one, exports go to where the data are. -/
  outputPath : Option String
  bundleName : String
  deriving DecidableEq, Repr

namespace Settings

def standard : Settings where
  dataDir := "./data"
  snapshotFile := "market.json"
  minYear := 1886
  maxYear := none
  maxMileage := 2000000
  strictReferences := true
  outputPath := none
  bundleName := defaultBundleName

def snapshotPath (settings : Settings) : String :=
  Path.join settings.dataDir settings.snapshotFile

def exportDir (settings : Settings) : String :=
  settings.outputPath.getD settings.dataDir

def rules (settings : Settings) (thisYear : Int32) : Validation.Rules where
  minYear := settings.minYear
  maxYear := settings.maxYear.getD (thisYear + 1)
  maxMileage := settings.maxMileage

def options (settings : Settings) (thisYear : Int32) : Integrity.Options where
  rules := settings.rules thisYear
  strictReferences := settings.strictReferences

def checkBundleName (name : String) : Except Problem Unit :=
  if ['.', 'z', 'i', 'p'].isSuffixOf name.toList then .ok ()
  else .error (.setting "export.bundle_name" name .noZipName)

def checkYears (rules : Validation.Rules) : Except Problem Unit :=
  if rules.maxYear < rules.minYear then
    .error (.setting "validation.min_year" (toString rules.minYear.toInt)
      (.yearsReversed rules.maxYear.toInt))
  else .ok ()

def checkMileage (rules : Validation.Rules) : Except Problem Unit :=
  if rules.maxMileage = 0 then .error (.setting "validation.max_mileage" "0" .noMileage)
  else .ok ()

def checkOutputPath : Option String → Except Problem Unit
  | some path => Validation.checkPath "export.output_path" path
  | none => .ok ()

/-- The first setting that makes no sense is named. -/
def validate (settings : Settings) (thisYear : Int32) : Except Problem Unit := do
  Validation.checkPath "storage.data_dir" settings.dataDir
  Validation.checkPath "storage.snapshot_file" settings.snapshotFile
  checkOutputPath settings.outputPath
  checkBundleName settings.bundleName
  checkYears (settings.rules thisYear)
  checkMileage (settings.rules thisYear)

end Settings

end VehicleMarket
