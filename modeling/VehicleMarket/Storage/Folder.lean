import VehicleMarket.Storage.Disk

/-!
Folders: files by their paths from a base. Writing makes the directories that are missing.
-/
namespace VehicleMarket

structure Folder where
  base : String
  deriving DecidableEq, Repr

namespace Folder

def fullPath (folder : Folder) (path : String) : String :=
  Path.join folder.base path

def contains (folder : Folder) (path : String) (disk : Disk) : Bool :=
  disk.exists? (folder.fullPath path)

def read (folder : Folder) (path : String) (disk : Disk) : Except IoFault Content :=
  disk.read (folder.fullPath path)

/-- Makes the directories above a path; a path without a parent needs none. -/
def makeParents (path : String) (disk : Disk) : Except IoFault Unit × Disk :=
  match Path.parent? path with
  | none => (.ok (), disk)
  | some parent => disk.makeDirectories parent

def write (folder : Folder) (path : String) (content : Content) (disk : Disk) :
    Except IoFault Unit × Disk :=
  match makeParents (folder.fullPath path) disk with
  | (.error fault, disk) => (.error fault, disk)
  | (.ok (), disk) =>
    match disk.write (folder.fullPath path) content with
    | .error fault => (.error fault, disk)
    | .ok disk => (.ok (), disk)

end Folder

end VehicleMarket
