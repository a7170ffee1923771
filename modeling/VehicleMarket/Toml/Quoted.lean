import VehicleMarket.Toml.Scalar

/-!
TOML strings: basic ones with escapes and literal ones without, on one line or on several.
A string of several lines may hold two of its quotes in a row, also right before its end.
-/
namespace VehicleMarket.Toml

def literalQuote : Char :=
  Char.ofNat 39

def isControl (c : Char) : Bool :=
  (c.toNat < 32 && c != '\t') || c.toNat = 127

def readCode (count : Nat) (cs : List Char) : Reading Char :=
  let digits := cs.take count
  let n := numberIn 16 digits
  if digits.length = count && digits.all (isDigitIn 16) && n.isValidChar then
    .ok (Char.ofNat n, cs.drop count)
  else .error .invalidEscape

def readEscape : List Char → Reading Char
  | 'b' :: rest => .ok (Char.ofNat 8, rest)
  | 't' :: rest => .ok ('\t', rest)
  | 'n' :: rest => .ok ('\n', rest)
  | 'f' :: rest => .ok (Char.ofNat 12, rest)
  | 'r' :: rest => .ok ('\r', rest)
  | 'e' :: rest => .ok (Char.ofNat 27, rest)
  | '"' :: rest => .ok ('"', rest)
  | '\\' :: rest => .ok ('\\', rest)
  | 'x' :: rest => readCode 2 rest
  | 'u' :: rest => readCode 4 rest
  | 'U' :: rest => readCode 8 rest
  | _ => .error .invalidEscape

def Reading.after (cs : List Char) : Reading (List Char) → Reading (List Char)
  | .ok (read, rest) => .ok (cs ++ read, rest)
  | .error fault => .error fault

/-- A basic string after its quote; every step takes a character. -/
def readBasic : Nat → List Char → Reading (List Char)
  | 0, _ | _, [] => .error .unclosedString
  | steps + 1, c :: rest =>
    if c = '"' then .ok ([], rest)
    else if c = '\\' then
      match readEscape rest with
      | .error fault => .error fault
      | .ok (d, rest) => .after [d] (readBasic steps rest)
    else if isControl c then .error .invalidCharacter
    else .after [c] (readBasic steps rest)

def readLiteral (quote : Char) : List Char → Reading (List Char)
  | [] => .error .unclosedString
  | c :: rest =>
    if c = quote then .ok ([], rest)
    else if isControl c then .error .invalidCharacter
    else .after [c] (readLiteral quote rest)

/-- A line end right after the opening quotes is no part of the string. -/
def dropFirstLineEnd : List Char → List Char
  | '\n' :: rest | '\r' :: '\n' :: rest => rest
  | cs => cs

/-- The end of a string of several lines: three quotes, and up to two more before them. -/
def closing? (quote : Char) (cs : List Char) : Option (List Char × List Char) :=
  let run := (cs.takeWhile (· == quote)).length
  if run < 3 then none
  else
    let extra := min (run - 3) 2
    some (List.replicate extra quote, cs.drop (3 + extra))

def isLayout (c : Char) : Bool :=
  c = ' ' || c = '\t' || c = '\n' || c = '\r'

/-- A backslash before the end of a line takes away all layout that follows. -/
def joinsLines (cs : List Char) : Bool :=
  match cs.dropWhile fun c => c = ' ' || c = '\t' with
  | '\n' :: _ | '\r' :: '\n' :: _ => true
  | _ => false

def readPlain (c : Char) (rest : List Char) : Reading (List Char) :=
  if c = '\n' then .ok ([c], rest)
  else if c = '\r' then
    match rest with
    | '\n' :: rest => .ok (['\r', '\n'], rest)
    | _ => .error .invalidCharacter
  else if isControl c then .error .invalidCharacter
  else .ok ([c], rest)

def readLines (quote : Char) (escapes : Bool) : Nat → List Char → Reading (List Char)
  | 0, _ | _, [] => .error .unclosedString
  | steps + 1, c :: rest =>
    match closing? quote (c :: rest) with
    | some (extra, rest) => .ok (extra, rest)
    | none =>
      if c = '\\' && escapes then
        if joinsLines rest then readLines quote escapes steps (rest.dropWhile isLayout)
        else
          match readEscape rest with
          | .error fault => .error fault
          | .ok (d, rest) => .after [d] (readLines quote escapes steps rest)
      else
        match readPlain c rest with
        | .error fault => .error fault
        | .ok (read, rest) => .after read (readLines quote escapes steps rest)

def readLinesFrom (quote : Char) (escapes : Bool) (cs : List Char) : Reading (List Char) :=
  readLines quote escapes (cs.length + 1) (dropFirstLineEnd cs)

def readOneLine (cs : List Char) : Reading (List Char) :=
  match cs with
  | '"' :: rest => readBasic (rest.length + 1) rest
  | c :: rest => readLiteral c rest
  | [] => .error .unclosedString

end VehicleMarket.Toml
