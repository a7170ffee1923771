import VehicleMarket.Catalog.Document
import VehicleMarket.Storage.Folder

/-!
The snapshot: a whole catalog in one file of a folder. A file that is not there stands for the
empty catalog.
-/
namespace VehicleMarket

structure Snapshot where
  folder : Folder
  fileName : String
  deriving DecidableEq, Repr

namespace Snapshot

def decodeContent (content : Content) (clock : Clock) : Except Failure Catalog × Clock :=
  match content with
  | .archive _ => (.error (Catalog.unreadable .archive), clock)
  | .bytes data =>
    match Text.decodeUtf8 data with
    | .error fault => (.error (Catalog.unreadable (.notUtf8 fault)), clock)
    | .ok text => Catalog.ofDocument text clock

def load (snapshot : Snapshot) (disk : Disk) (clock : Clock) : Except Failure Catalog × Clock :=
  if snapshot.folder.contains snapshot.fileName disk then
    match snapshot.folder.read snapshot.fileName disk with
    | .error fault => (.error (.problem (.io fault)), clock)
    | .ok content => decodeContent content clock
  else (.ok Catalog.empty, clock)

def save (snapshot : Snapshot) (catalog : Catalog) (disk : Disk) : Except Problem Unit × Disk :=
  match snapshot.folder.write snapshot.fileName (.ofText catalog.toDocument) disk with
  | (.error fault, disk) => (.error (.io fault), disk)
  | (.ok (), disk) => (.ok (), disk)

end Snapshot

end VehicleMarket
