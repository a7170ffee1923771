import VehicleMarket.Command.Basic
import VehicleMarket.Settings.Document

/-!
What the commands do: what they print, how the program ends, and what they leave on the disk. What
is told of a run in log lines is not part of it, although by default those lines go to the standard
output as well.
-/
namespace VehicleMarket

/-- How a run of the program ends. -/
structure Outcome where
  exitCode : Nat
  /-- The standard output without the log lines. -/
  output : String
  errors : String
  disk : Disk
  deriving DecidableEq

structure Setting where
  environment : Environment
  thisYear : Int32
  clock : Clock
  disk : Disk

namespace Command

def exitCode : Problem.Severity → Nat
  | .medium => 2
  | .high => 1
  | .critical => 3

def failed (problem : Problem) (disk : Disk) : Outcome where
  exitCode := exitCode problem.severity
  output := ""
  errors := "❌ " ++ problem.friendly ++ "\n💡 " ++ problem.suggestion ++ "\n"
  disk := disk

def printed (exitCode : Nat) (lines : List String) (disk : Disk) : Outcome where
  exitCode := exitCode
  output := String.join (lines.map fun line => line ++ "\n")
  errors := ""
  disk := disk

/-- A run that has ended with a failure; a clock that cannot be read ends it without a word. -/
def stopped (failure : Failure) (disk : Disk) : Outcome :=
  match failure with
  | .problem problem => failed problem disk
  | .clockPastRange => ⟨101, "", "", disk⟩

/-- The snapshot that a path names. A path whose last part is no name stands for the file of the
settings in that directory. -/
def snapshotAt (settings : Settings) (named : Option String) : Snapshot :=
  let path := named.getD settings.snapshotPath
  let base := match Path.parent? path with
    | none | some "" => "."
    | some parent => parent
  ⟨⟨base⟩, (Path.fileName? path).getD settings.snapshotFile⟩

def marketFor (settings : Settings) (thisYear : Int32) (snapshot : Option String)
    (exportDir : String) (lenient : Bool) : Market :=
  let options := settings.options thisYear
  { snapshot := snapshotAt settings snapshot
    exports := ⟨exportDir⟩
    options :=
      { options with strictReferences := options.strictReferences && !lenient }
    bundleName := settings.bundleName }

def summaryLine (summary : Summary) : String :=
  "📋 " ++ toString summary.users ++ " users, " ++ toString summary.vehicles ++ " vehicles, " ++
    toString summary.listings ++ " listings, " ++ toString summary.messages ++ " messages, " ++
    toString summary.histories ++ " histories"

def verdictLine (report : Integrity.Report) : String :=
  if report.hasErrors then
    "❌ " ++ toString report.errorCount ++ " errors, " ++ toString report.warningCount ++
      " warnings"
  else "✅ No errors (" ++ toString report.warningCount ++ " warnings)"

def checkLines (summary : Summary) (report : Integrity.Report) : List String :=
  summaryLine summary :: (report.map fun issue => "  " ++ issue.display) ++ [verdictLine report]

def runCheck (settings : Settings) (setting : Setting) (snapshot : Option String)
    (lenient : Bool) : Outcome :=
  let market := marketFor settings setting.thisYear snapshot settings.exportDir lenient
  match market.check setting.thisYear ⟨setting.disk, setting.clock⟩ with
  | (.error failure, premises) => stopped failure premises.disk
  | (.ok (summary, report), premises) =>
    printed (if report.hasErrors then 1 else 0) (checkLines summary report) premises.disk

def runBundle (settings : Settings) (setting : Setting) (snapshot out : Option String) :
    Outcome :=
  let exportDir := out.getD settings.exportDir
  let market := marketFor settings setting.thisYear snapshot exportDir false
  match market.exportBundle ⟨setting.disk, setting.clock⟩ with
  | (.error failure, premises) => stopped failure premises.disk
  | (.ok name, premises) =>
    printed 0 ["📁 Output saved to: " ++ Path.join exportDir name] premises.disk

def runListing (settings : Settings) (setting : Setting) (action : ListingAction)
    (id : ListingId) (snapshot : Option String) : Outcome :=
  let market := marketFor settings setting.thisYear snapshot settings.exportDir false
  match market.setListingStatus id action.target ⟨setting.disk, setting.clock⟩ with
  | (.error failure, premises) => stopped failure premises.disk
  | (.ok changed, premises) =>
    printed 0
      ["✅ Listing " ++ changed.id.text ++ " (" ++ changed.vehicle.title ++ ") is now " ++
        Spelled.name changed.status]
      premises.disk

def normalizeText (kind : RecordKind) (text : String) (clock : Clock) :
    Except Failure String × Clock :=
  match kind with
  | .user => Record.normalizeLines User text clock
  | .vehicle => Record.normalizeLines Vehicle text clock
  | .listing => Record.normalizeLines Listing text clock
  | .message => Record.normalizeLines Message text clock
  | .history => Record.normalizeLines VehicleHistory text clock

/-- Records go to a file in a directory that is there, or to the output. -/
def deliver (text : String) (out : Option String) (disk : Disk) : Outcome :=
  match out with
  | none => ⟨0, text, "", disk⟩
  | some path =>
    match disk.write path (.ofText text) with
    | .error fault => failed (.io fault) disk
    | .ok disk => ⟨0, "", "", disk⟩

def runNormalize (setting : Setting) (kind : RecordKind) (input : String)
    (out : Option String) : Outcome :=
  match Settings.readFile setting.disk input with
  | .error problem => failed problem setting.disk
  | .ok text =>
    match normalizeText kind text setting.clock with
    | (.error failure, _) => stopped failure setting.disk
    | (.ok normalized, _) => deliver normalized out setting.disk

def run (settings : Settings) (setting : Setting) : Command → Outcome
  | .check snapshot lenient => runCheck settings setting snapshot lenient
  | .bundle snapshot out => runBundle settings setting snapshot out
  | .listing action id snapshot => runListing settings setting action id snapshot
  | .normalize kind input out => runNormalize setting kind input out

end Command

/-- Settings are loaded and checked before a command does anything. -/
def Invocation.run (invocation : Invocation) (setting : Setting) : Outcome :=
  match Settings.load setting.environment setting.disk invocation.settingsFile with
  | .error problem => Command.failed problem setting.disk
  | .ok settings =>
    match settings.validate setting.thisYear with
    | .error problem => Command.failed problem setting.disk
    | .ok () => invocation.command.run settings setting

end VehicleMarket
