import VehicleMarket.Json.Number

/-!
The reader of JSON text. Values nest at most 127 deep, which is what its recursion follows;
the items of one list or object are bounded by the text that is left.
-/
namespace VehicleMarket.Json

def isLayout (c : Char) : Bool :=
  c = ' ' || c = '\n' || c = '\t' || c = '\r'

def skipLayout (cs : List Char) : List Char :=
  cs.dropWhile isLayout

def readName (value : Json) (name : List Char) (cs : List Char) : Reading Json :=
  match name, cs with
  | [], rest => .ok (value, rest)
  | _ :: _, [] => stopAt .endInValue []
  | expected :: name, c :: rest =>
    if c = expected then readName value name rest else stopOn .expectedName (c :: rest)

def hexValue? (c : Char) : Option Nat :=
  if '0' ≤ c && c ≤ '9' then some (c.toNat - 48)
  else if 'a' ≤ c && c ≤ 'f' then some (c.toNat - 87)
  else if 'A' ≤ c && c ≤ 'F' then some (c.toNat - 55)
  else none

def hexNumber? (a b c d : Char) : Option Nat :=
  match hexValue? a, hexValue? b, hexValue? c, hexValue? d with
  | some a, some b, some c, some d => some (a * 4096 + b * 256 + c * 16 + d)
  | _, _, _, _ => none

/-- Four hexadecimal digits; the text is cut after four bytes if they are something else. -/
def readHex (cs : List Char) : Reading Nat :=
  if (utf8Bytes (cs.take 4)).length < 4 then stopAt .endInString []
  else match cs with
    | a :: b :: c :: d :: rest =>
      match hexNumber? a b c d with
      | some n => .ok (n, rest)
      | none => .error ⟨.invalidEscape, cs, 4⟩
    | _ => .error ⟨.invalidEscape, cs, 4⟩

def readTrail (lead : Nat) (cs : List Char) : Reading Char :=
  match cs with
  | [] => stopAt .endInString []
  | '\\' :: [] => stopAt .endInString []
  | '\\' :: 'u' :: rest =>
    match readHex rest with
    | .error stop => .error stop
    | .ok (trail, rest) =>
      if 0xDC00 ≤ trail && trail ≤ 0xDFFF then
        .ok (Char.ofNat ((lead - 0xD800) * 1024 + (trail - 0xDC00) + 0x10000), rest)
      else stopAt .loneSurrogate rest
  | '\\' :: rest => stopOn .unfinishedPair rest
  | rest => stopOn .unfinishedPair rest

/-- A character by its number; two surrogates make one character. -/
def readCodePoint (cs : List Char) : Reading Char :=
  match readHex cs with
  | .error stop => .error stop
  | .ok (n, rest) =>
    if 0xDC00 ≤ n && n ≤ 0xDFFF then stopAt .loneSurrogate rest
    else if 0xD800 ≤ n && n ≤ 0xDBFF then readTrail n rest
    else .ok (Char.ofNat n, rest)

def readEscape (cs : List Char) : Reading Char :=
  match cs with
  | [] => stopAt .endInString []
  | '"' :: rest => .ok ('"', rest)
  | '\\' :: rest => .ok ('\\', rest)
  | '/' :: rest => .ok ('/', rest)
  | 'b' :: rest => .ok (Char.ofNat 8, rest)
  | 'f' :: rest => .ok (Char.ofNat 12, rest)
  | 'n' :: rest => .ok ('\n', rest)
  | 'r' :: rest => .ok ('\r', rest)
  | 't' :: rest => .ok ('\t', rest)
  | 'u' :: rest => readCodePoint rest
  | rest => stopOn .invalidEscape rest

/-- Reads a string after its opening quote, in at most the given number of steps. -/
def readStringWithin : Nat → List Char → Reading (List Char)
  | 0, _ => stopAt .endInString []
  | _ + 1, [] => stopAt .endInString []
  | steps + 1, c :: rest =>
    if c = '"' then .ok ([], rest)
    else if c = '\\' then
      match readEscape rest with
      | .error stop => .error stop
      | .ok (d, rest) =>
        match readStringWithin steps rest with
        | .error stop => .error stop
        | .ok (cs, rest) => .ok (d :: cs, rest)
    else if c.toNat < 32 then stopOn .controlCharacter (c :: rest)
    else
      match readStringWithin steps rest with
      | .error stop => .error stop
      | .ok (cs, rest) => .ok (c :: cs, rest)

def readString (cs : List Char) : Reading String :=
  match readStringWithin (cs.length + 1) cs with
  | .error stop => .error stop
  | .ok (read, rest) => .ok (String.ofList read, rest)

def readItems (item : List Char → Reading Json) : Nat → List Char → Reading (List Json)
  | 0, _ => stopAt .endInList []
  | steps + 1, cs =>
    match item cs with
    | .error stop => .error stop
    | .ok (value, rest) =>
      match skipLayout rest with
      | [] => stopAt .endInList []
      | ']' :: rest => .ok ([value], rest)
      | ',' :: rest =>
        match skipLayout rest with
        | [] => stopAt .endInValue []
        | ']' :: rest => stopOn .trailingComma (']' :: rest)
        | next =>
          match readItems item steps next with
          | .error stop => .error stop
          | .ok (values, rest) => .ok (value :: values, rest)
      | rest => stopOn .expectedItemEnd rest

def readMemberValue (item : List Char → Reading Json) (cs : List Char) : Reading Json :=
  match skipLayout cs with
  | [] => stopAt .endInObject []
  | ':' :: rest => item rest
  | rest => stopOn .expectedColon rest

def readMembers (item : List Char → Reading Json) :
    Nat → List Char → Reading (List (String × Json))
  | 0, _ => stopAt .endInObject []
  | steps + 1, cs =>
    match readString cs with
    | .error stop => .error stop
    | .ok (key, rest) =>
      match readMemberValue item rest with
      | .error stop => .error stop
      | .ok (value, rest) =>
        match skipLayout rest with
        | [] => stopAt .endInObject []
        | '}' :: rest => .ok ([(key, value)], rest)
        | ',' :: rest =>
          match skipLayout rest with
          | [] => stopAt .endInValue []
          | '"' :: rest =>
            match readMembers item steps rest with
            | .error stop => .error stop
            | .ok (members, rest) => .ok ((key, value) :: members, rest)
          | '}' :: rest => stopOn .trailingComma ('}' :: rest)
          | rest => stopOn .keyNotString rest
        | rest => stopOn .expectedMemberEnd rest

def readArray (item : List Char → Reading Json) (cs : List Char) : Reading Json :=
  match skipLayout cs with
  | [] => stopAt .endInList []
  | ']' :: rest => .ok (.array [], rest)
  | rest =>
    match readItems item (rest.length + 1) rest with
    | .error stop => .error stop
    | .ok (values, rest) => .ok (.array values, rest)

def readObject (item : List Char → Reading Json) (cs : List Char) : Reading Json :=
  match skipLayout cs with
  | [] => stopAt .endInObject []
  | '}' :: rest => .ok (.object [], rest)
  | '"' :: rest =>
    match readMembers item (rest.length + 1) rest with
    | .error stop => .error stop
    | .ok (members, rest) => .ok (ofMembers members, rest)
  | rest => stopOn .keyNotString rest

/-- Reads one value, which may nest to the given depth. -/
def readValue (depth : Nat) (cs : List Char) : Reading Json :=
  match skipLayout cs with
  | [] => stopAt .endInValue []
  | '"' :: rest =>
    match readString rest with
    | .error stop => .error stop
    | .ok (s, rest) => .ok (.string s, rest)
  | '[' :: rest =>
    match depth with
    | 0 => stopOn .tooDeep ('[' :: rest)
    | depth + 1 => readArray (readValue depth) rest
  | '{' :: rest =>
    match depth with
    | 0 => stopOn .tooDeep ('{' :: rest)
    | depth + 1 => readObject (readValue depth) rest
  | 'n' :: rest => readName .null ['u', 'l', 'l'] rest
  | 't' :: rest => readName (.bool true) ['r', 'u', 'e'] rest
  | 'f' :: rest => readName (.bool false) ['a', 'l', 's', 'e'] rest
  | '-' :: rest => readNumber true rest
  | c :: rest =>
    if Decimal.isDigit c then readNumber false (c :: rest) else stopOn .expectedValue (c :: rest)

def deepest : Nat := 127

def readText (cs : List Char) : Except Stop Json :=
  match readValue deepest cs with
  | .error stop => .error stop
  | .ok (value, rest) =>
    match skipLayout rest with
    | [] => .ok value
    | rest => .error ⟨.trailingCharacters, rest, 1⟩

def read (text : String) : Except TextError Json :=
  match readText text.toList with
  | .ok value => .ok value
  | .error stop => .error (stop.locate text.toList)

end VehicleMarket.Json
