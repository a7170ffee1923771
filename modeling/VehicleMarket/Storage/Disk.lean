import VehicleMarket.Storage.Fault
import VehicleMarket.Storage.Path
import VehicleMarket.Table

/-!
A disk: files and directories by their place under the root, and the working directory from which
relative paths are followed. An operation that fails may leave directories that it has made.
-/
namespace VehicleMarket

/-- What a file holds: bytes, or an archive with its members in order. -/
inductive Content where
  | bytes (data : List UInt8)
  | archive (members : List (String × String))
  deriving DecidableEq

def Content.ofText (text : String) : Content :=
  .bytes text.toUTF8.data.toList

inductive Entry where
  | file (content : Content)
  | directory
  deriving DecidableEq

abbrev Place := List String

structure Disk where
  here : Place
  entries : Table Place Entry
  deriving DecidableEq

namespace Disk

def entry? (disk : Disk) (place : Place) : Option Entry :=
  if place = [] then some .directory else Table.find? disk.entries place

def put (disk : Disk) (place : Place) (entry : Entry) : Disk :=
  { disk with entries := Table.insert disk.entries place entry }

/-- Where a path leads: to a directory that is there, or to a name in such a directory.
A slash after the name asks for a directory. -/
inductive Target where
  | directory (place : Place)
  | name (parent : Place) (text : String) (slash : Bool)
  deriving DecidableEq, Repr

def longestName : Nat := 255

def longestPath : Nat := 4095

def descend (disk : Disk) (place : Place) : List (List Char) → Except IoFault Place
  | [] => .ok place
  | piece :: rest =>
    if piece = ['.'] then descend disk place rest
    else if piece = ['.', '.'] then descend disk place.dropLast rest
    else
      let name := String.ofList piece
      if longestName < name.utf8ByteSize then .error .nameTooLong
      else
        match disk.entry? (place ++ [name]) with
        | none => .error .notFound
        | some (.file _) => .error .notDirectory
        | some .directory => descend disk (place ++ [name]) rest

def targetIn (place : Place) (piece : List Char) (slash : Bool) : Except IoFault Target :=
  if piece = ['.'] then .ok (.directory place)
  else if piece = ['.', '.'] then .ok (.directory place.dropLast)
  else
    let name := String.ofList piece
    if longestName < name.utf8ByteSize then .error .nameTooLong else .ok (.name place name slash)

def follow (disk : Disk) (path : String) : Except IoFault Target :=
  let chars := path.toList
  if chars.contains (Char.ofNat 0) then .error .nulInPath
  else if chars.isEmpty then .error .notFound
  else if longestPath < path.utf8ByteSize then .error .nameTooLong
  else
    let start := if Path.isAbsolute path then [] else disk.here
    let pieces := (Path.pieces chars).filter fun piece => !piece.isEmpty
    match pieces.getLast? with
    | none => .ok (.directory [])
    | some last =>
      match disk.descend start pieces.dropLast with
      | .error fault => .error fault
      | .ok place => targetIn place last (chars.getLast? == some '/')

def stat (disk : Disk) (path : String) : Except IoFault Entry :=
  match disk.follow path with
  | .error fault => .error fault
  | .ok (.directory _) => .ok .directory
  | .ok (.name parent name slash) =>
    match disk.entry? (parent ++ [name]) with
    | none => .error .notFound
    | some .directory => .ok .directory
    | some (.file content) => if slash then .error .notDirectory else .ok (.file content)

def exists? (disk : Disk) (path : String) : Bool :=
  match disk.stat path with
  | .ok _ => true
  | .error _ => false

def isDirectory (disk : Disk) (path : String) : Bool :=
  match disk.stat path with
  | .ok .directory => true
  | _ => false

def read (disk : Disk) (path : String) : Except IoFault Content :=
  match disk.stat path with
  | .error fault => .error fault
  | .ok .directory => .error .isDirectory
  | .ok (.file content) => .ok content

/-- Writes a whole file; the directory it stands in must be there. -/
def write (disk : Disk) (path : String) (content : Content) : Except IoFault Disk :=
  match disk.follow path with
  | .error fault => .error fault
  | .ok (.directory _) => .error .isDirectory
  | .ok (.name parent name slash) =>
    if slash || disk.entry? (parent ++ [name]) = some .directory then .error .isDirectory
    else .ok (disk.put (parent ++ [name]) (.file content))

def makeDirectory (disk : Disk) (path : String) : Except IoFault Disk :=
  match disk.follow path with
  | .error fault => .error fault
  | .ok (.directory _) => .error .alreadyExists
  | .ok (.name parent name _) =>
    match disk.entry? (parent ++ [name]) with
    | some _ => .error .alreadyExists
    | none => .ok (disk.put (parent ++ [name]) .directory)

/-- Makes a directory again or for the first time: one that is there already is no failure. -/
def ensureDirectory (disk : Disk) (path : String) : Except IoFault Unit × Disk :=
  match disk.makeDirectory path with
  | .ok disk => (.ok (), disk)
  | .error fault => (if disk.isDirectory path then .ok () else .error fault, disk)

/-- Makes a directory after those of its ancestors that are missing. The empty path stands for
the working directory, which is there. -/
def makeAll (disk : Disk) (path : String) (ancestors : List String) :
    Except IoFault Unit × Disk :=
  if path = "" then (.ok (), disk)
  else
    match disk.makeDirectory path, ancestors with
    | .error (.system 2), parent :: others =>
      match makeAll disk parent others with
      | (.error fault, disk) => (.error fault, disk)
      | (.ok (), disk) => disk.ensureDirectory path
    | _, _ => disk.ensureDirectory path

def makeDirectories (disk : Disk) (path : String) : Except IoFault Unit × Disk :=
  disk.makeAll path (Path.ancestors path)

def files (disk : Disk) : Table String Content :=
  Table.ofList <| disk.entries.filterMap fun entry =>
    match entry.2 with
    | .directory => none
    | .file content =>
      if disk.here.isPrefixOf entry.1 then
        some ("/".intercalate (entry.1.drop disk.here.length), content)
      else none

def blank (here : Place) : Disk where
  here := here
  entries := Table.ofList <|
    (List.range here.length).map fun depth => (here.take (depth + 1), Entry.directory)

end Disk

end VehicleMarket
