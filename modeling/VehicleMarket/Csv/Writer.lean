/-!
Comma-separated values: rows that each end with a line feed. A field stands between quotes when
it holds a comma, a quote or a line end; a quote inside is written twice.
-/
namespace VehicleMarket.Csv

def isSpecial (c : Char) : Bool :=
  c = ',' || c = '"' || c = '\r' || c = '\n'

def doubled (c : Char) : List Char :=
  if c = '"' then ['"', '"'] else [c]

def field (text : List Char) : List Char :=
  if text.any isSpecial then '"' :: text.flatMap doubled ++ ['"'] else text

def row : List (List Char) → List Char
  | [] => ['\n']
  | cell :: rest =>
    match rest with
    | [] => field cell ++ ['\n']
    | _ :: _ => field cell ++ ',' :: row rest

def render (rows : List (List String)) : String :=
  String.ofList (rows.flatMap fun cells => row (cells.map String.toList))

end VehicleMarket.Csv
