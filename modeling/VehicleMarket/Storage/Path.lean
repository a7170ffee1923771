/-!
Paths of files: pieces between slashes. Repeated slashes, a slash at the end and inner dots do
not count as parts; a dot at the front does.
-/
namespace VehicleMarket.Path

inductive Part where
  | root
  | here
  | up
  | name (text : String)
  deriving DecidableEq, Repr

def pieces : List Char → List (List Char)
  | [] => [[]]
  | c :: rest =>
    if c = '/' then [] :: pieces rest
    else match pieces rest with
      | [] => [[c]]
      | piece :: others => (c :: piece) :: others

def partOf? (piece : List Char) : Option Part :=
  if piece = [] || piece = ['.'] then none
  else if piece = ['.', '.'] then some .up
  else some (.name (String.ofList piece))

def parts (path : String) : List Part :=
  match pieces path.toList with
  | [] | [[]] => []
  | [] :: rest => .root :: rest.filterMap partOf?
  | ['.'] :: rest => .here :: rest.filterMap partOf?
  | all => all.filterMap partOf?

def Part.text : Part → String
  | .root => ""
  | .here => "."
  | .up => ".."
  | .name text => text

def ofParts : List Part → String
  | [.root] => "/"
  | ps => "/".intercalate (ps.map Part.text)

/-- The path without its last part; the root and the empty path have no parent. -/
def parent? (path : String) : Option String :=
  match parts path with
  | [] | [.root] => none
  | ps => some (ofParts ps.dropLast)

def fileName? (path : String) : Option String :=
  match (parts path).getLast? with
  | some (.name text) => some text
  | _ => none

def isAbsolute (path : String) : Bool :=
  path.toList.head? == some '/'

/-- A path as seen from a base; an absolute one stands for itself. -/
def join (base path : String) : String :=
  if isAbsolute path then path
  else
    match base.toList.getLast? with
    | none | some '/' => base ++ path
    | some _ => base ++ "/" ++ path

/-- What is left of a row of parts, given in reverse, as one after the other is taken away.
A root is never taken away. -/
def shortened : List Part → List (List Part)
  | [] | [.root] => []
  | _ :: rest => rest.reverse :: shortened rest

def ancestors (path : String) : List String :=
  (shortened (parts path).reverse).map ofParts

end VehicleMarket.Path
