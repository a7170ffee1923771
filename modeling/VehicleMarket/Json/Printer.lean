import VehicleMarket.Decimal.Notation
import VehicleMarket.Json.Value

/-!
JSON text. The compact form has no spaces; the pretty form puts each item on a line of its own,
indented by two spaces a level. A number that is not finite is written as null.
-/
namespace VehicleMarket.Json

def hexDigit (n : Nat) : Char :=
  if n < 10 then Char.ofNat (48 + n) else Char.ofNat (87 + n)

/-- Only quotes, backslashes and control characters are escaped. -/
def escapeChar (c : Char) : List Char :=
  if c = '"' then ['\\', '"']
  else if c = '\\' then ['\\', '\\']
  else if 32 ≤ c.toNat then [c]
  else if c = '\n' then ['\\', 'n']
  else if c = '\r' then ['\\', 'r']
  else if c = '\t' then ['\\', 't']
  else if c.toNat = 8 then ['\\', 'b']
  else if c.toNat = 12 then ['\\', 'f']
  else ['\\', 'u', '0', '0', hexDigit (c.toNat / 16), hexDigit (c.toNat % 16)]

def quoted (s : String) : List Char :=
  '"' :: s.toList.flatMap escapeChar ++ ['"']

def integer (n : Int) : List Char :=
  Decimal.signed (n < 0) (Decimal.digitChars n.natAbs)

def scalar : Json → List Char
  | .bool true => ['t', 'r', 'u', 'e']
  | .bool false => ['f', 'a', 'l', 's', 'e']
  | .int n => integer n
  | .float x => if x.isFinite then Decimal.jsonSpelling x else ['n', 'u', 'l', 'l']
  | .string s => quoted s
  | _ => ['n', 'u', 'l', 'l']

mutual

def compactChars : Json → List Char
  | .array items => '[' :: compactItems items ++ [']']
  | .object members => '{' :: compactMembers members ++ ['}']
  | value => scalar value

def compactItems : List Json → List Char
  | [] => []
  | item :: rest =>
    match rest with
    | [] => compactChars item
    | _ :: _ => compactChars item ++ ',' :: compactItems rest

def compactMembers : List (String × Json) → List Char
  | [] => []
  | (key, value) :: rest =>
    match rest with
    | [] => quoted key ++ ':' :: compactChars value
    | _ :: _ => quoted key ++ ':' :: compactChars value ++ ',' :: compactMembers rest

end

def newline (level : Nat) : List Char :=
  '\n' :: List.replicate (2 * level) ' '

mutual

def prettyChars (level : Nat) : Json → List Char
  | .array [] => ['[', ']']
  | .object [] => ['{', '}']
  | .array (item :: rest) => '[' :: prettyItems (level + 1) (item :: rest) ++ newline level ++ [']']
  | .object (member :: rest) =>
    '{' :: prettyMembers (level + 1) (member :: rest) ++ newline level ++ ['}']
  | value => scalar value

def prettyItems (level : Nat) : List Json → List Char
  | [] => []
  | item :: rest =>
    match rest with
    | [] => newline level ++ prettyChars level item
    | _ :: _ => newline level ++ prettyChars level item ++ ',' :: prettyItems level rest

def prettyMembers (level : Nat) : List (String × Json) → List Char
  | [] => []
  | (key, value) :: rest =>
    match rest with
    | [] => newline level ++ quoted key ++ ':' :: ' ' :: prettyChars level value
    | _ :: _ =>
      newline level ++ quoted key ++ ':' :: ' ' :: prettyChars level value ++
        ',' :: prettyMembers level rest

end

def compact (value : Json) : String :=
  String.ofList (compactChars value)

def pretty (value : Json) : String :=
  String.ofList (prettyChars 0 value)

end VehicleMarket.Json
