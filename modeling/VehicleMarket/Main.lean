import Std.Time.DateTime.Timestamp
import VehicleMarket.Command.Arguments
import VehicleMarket.Command.Run
import VehicleMarket.Storage.Archive
import VehicleMarket.Time.Calendar

/-!
The program: reads what a command needs from the system, runs the command on it, and carries out
what the command did to the disk.
-/
namespace VehicleMarket.Program

def placesOnWay (place : Place) : List (List Char) → List Place
  | [] => []
  | piece :: rest =>
    let next :=
      if piece.isEmpty || piece = ['.'] then place
      else if piece = ['.', '.'] then place.dropLast
      else place ++ [String.ofList piece]
    next :: placesOnWay next rest

def placesOf (here : Place) (path : String) : List Place :=
  placesOnWay (if Path.isAbsolute path then [] else here) (Path.pieces path.toList)

def pathOf (place : Place) : String :=
  "/" ++ "/".intercalate place

def visit (disk : Disk) (place : Place) : IO Disk := do
  let path := pathOf place
  try
    let data ← IO.FS.readBinFile path
    return disk.put place (.file (.bytes data.data.toList))
  catch _ =>
    try
      let _ ← IO.FS.Handle.mk path .read
      return disk.put place .directory
    catch _ => return disk

def visitAll (disk : Disk) (path : String) : IO Disk :=
  (placesOf disk.here path).foldlM visit disk

def bytesOf : Content → List UInt8
  | .bytes data => data
  | .archive members =>
    Archive.encode (members.map fun member => Archive.Member.of member.1 member.2)

/-- Carries out what a command did to a disk, directories before what stands in them. -/
def carryOut (before after : Disk) : IO Unit :=
  after.entries.forM fun (place, entry) => do
    if before.entry? place ≠ some entry then
      match entry with
      | .directory => IO.FS.createDir (pathOf place)
      | .file content => IO.FS.writeBinFile (pathOf place) ⟨(bytesOf content).toArray⟩

def environmentFor (disk : Disk) (settingsFile : String) : IO Environment := do
  match Settings.readFile disk settingsFile with
  | .error _ => return []
  | .ok text =>
    (Environment.namesIn text).filterMapM fun name => do
      return (← IO.getEnv name).map fun value => (name, value)

def pathsOf (settings : Settings) : Command → List String
  | .check snapshot _ => snapshotPath settings snapshot
  | .bundle snapshot out =>
    snapshotPath settings snapshot ++
      [Path.join (out.getD settings.exportDir) settings.bundleName]
  | .listing _ _ snapshot => snapshotPath settings snapshot
  | .normalize _ input out => input :: out.toList
where
  snapshotPath (settings : Settings) (named : Option String) : List String :=
    let snapshot := Command.snapshotAt settings named
    [snapshot.folder.fullPath snapshot.fileName]

def usage : String :=
  "Usage: auto-market [-c FILE] [-v] [--json-logs] COMMAND\n\n" ++
  "Commands:\n" ++
  "  check [SNAPSHOT] [--lenient]\n" ++
  "  export [SNAPSHOT] [-o DIRECTORY]\n" ++
  "  listing mark-sold|expire|reactivate ID [-s SNAPSHOT]\n" ++
  "  normalize user|vehicle|listing|message|history INPUT [-o FILE]\n"

/-- The outcome once the system has taken over what was done to the disk, or has refused to. -/
def settle (before : Disk) (outcome : Outcome) : IO Outcome := do
  try
    carryOut before outcome.disk
    return outcome
  catch error =>
    return Command.failed (.io (.described (toString error))) before

def timeNow : IO Moment := do
  let nanos := (← Std.Time.Timestamp.now).toNanosecondsSinceUnixEpoch.val
  return (Moment.ofNanos? nanos).getD .epoch

/-- No more objects are in a file than it has opening braces. -/
def objectBound : Entry → Nat
  | .directory => 0
  | .file content => (bytesOf content).count 0x7b

/-- Reads the clock of the system for a run: once more for each object that a file may hold. -/
def readClock (disk : Disk) : IO Clock := do
  let bound := disk.entries.foldl (fun bound (_, entry) => bound + objectBound entry) 0
  let first ← timeNow
  let times ← (Array.replicate bound ()).mapM fun _ => timeNow
  return .system fun n => times.getD n first

def perform (invocation : Invocation) : IO UInt32 := do
  let here := (← IO.currentDir).toString
  let start := Disk.blank ((Path.pieces here.toList).filterMap fun piece =>
    if piece.isEmpty then none else some (String.ofList piece))
  let settingsFile := invocation.settingsFile.getD Settings.standardFile
  let known ← visitAll start settingsFile
  let environment ← environmentFor known settingsFile
  let settings :=
    match Settings.load environment known invocation.settingsFile with
    | .ok settings => settings
    | .error _ => Settings.standard
  let disk ← (pathsOf settings invocation.command).foldlM visitAll known
  let today := (← timeNow).millisecond.millis / Calendar.millisPerDay
  let thisYear := Int32.ofInt (Calendar.dateOfDay today).year
  let clock ← readClock disk
  let outcome ← settle disk (invocation.run ⟨environment, thisYear, clock, disk⟩)
  (← IO.getStdout).putStr outcome.output
  (← IO.getStderr).putStr outcome.errors
  return UInt32.ofNat outcome.exitCode

def answer (arguments : List String) : IO UInt32 := do
  match Arguments.parse arguments with
  | .ok invocation => perform invocation
  | .error .helpWanted =>
    (← IO.getStdout).putStr usage
    return 0
  | .error _ =>
    (← IO.getStderr).putStr usage
    return 2

end VehicleMarket.Program

def main (arguments : List String) : IO UInt32 :=
  VehicleMarket.Program.answer arguments
