import VehicleMarket.Toml.Quoted

/-!
The reader of TOML documents: headers of tables, and keys with their values, each on a line of its
own. Arrays and inline tables may go over several lines and nest at most eighty deep.
-/
namespace VehicleMarket.Toml

def skipLayout (inComment : Bool) : List Char → Except Fault (List Char)
  | [] => .ok []
  | '\n' :: rest | '\r' :: '\n' :: rest => skipLayout false rest
  | c :: rest =>
    if inComment then
      if isControl c then .error .invalidCharacter else skipLayout true rest
    else if c = ' ' || c = '\t' then skipLayout false rest
    else if c = '#' then skipLayout true rest
    else .ok (c :: rest)

def endLine (inComment : Bool) : List Char → Except Fault (List Char)
  | [] => .ok []
  | '\n' :: rest | '\r' :: '\n' :: rest => .ok rest
  | c :: rest =>
    if inComment then
      if isControl c then .error .invalidCharacter else endLine true rest
    else if c = ' ' || c = '\t' then endLine false rest
    else if c = '#' then endLine true rest
    else .error .expectedEnd

def skipBlanks (cs : List Char) : List Char :=
  cs.dropWhile fun c => c = ' ' || c = '\t'

def isBareKey (c : Char) : Bool :=
  ('a' ≤ c && c ≤ 'z') || ('A' ≤ c && c ≤ 'Z') || Decimal.isDigit c || c = '_' || c = '-'

def readKeyPart (cs : List Char) : Reading String :=
  match cs with
  | [] => .error .expectedKey
  | c :: _ =>
    if c = '"' || c = literalQuote then
      match readOneLine cs with
      | .error fault => .error fault
      | .ok (text, rest) => .ok (String.ofList text, rest)
    else
      let bare := cs.takeWhile isBareKey
      if bare.isEmpty then .error .expectedKey
      else .ok (String.ofList bare, cs.dropWhile isBareKey)

def readKeyWithin : Nat → List Char → Reading (List String)
  | 0, _ => .error .expectedKey
  | steps + 1, cs =>
    match readKeyPart (skipBlanks cs) with
    | .error fault => .error fault
    | .ok (part, rest) =>
      match skipBlanks rest with
      | '.' :: rest =>
        match readKeyWithin steps rest with
        | .error fault => .error fault
        | .ok (parts, rest) => .ok (part :: parts, rest)
      | rest => .ok ([part], rest)

def readKey (cs : List Char) : Reading (List String) :=
  readKeyWithin (cs.length + 1) cs

/-- A word ends at layout, a comma, a closing bracket or a comment. -/
def isWord (c : Char) : Bool :=
  !isLayout c && c != ',' && c != ']' && c != '}' && c != '#'

/-- A word; a date may be followed by a blank and a time. -/
def takeWord (cs : List Char) : List Char × List Char :=
  let word := cs.takeWhile isWord
  let rest := cs.dropWhile isWord
  match rest with
  | ' ' :: d :: after =>
    if isDate word && Decimal.isDigit d then
      (word ++ ' ' :: (d :: after).takeWhile isWord, (d :: after).dropWhile isWord)
    else (word, rest)
  | _ => (word, rest)

def readWord (cs : List Char) : Reading Toml :=
  let (word, rest) := takeWord cs
  if word.isEmpty then .error .expectedValue
  else (ofWord word).map fun value => (value, rest)

def readString (cs : List Char) : Reading Toml :=
  let read := match cs with
    | '"' :: '"' :: '"' :: rest => readLinesFrom '"' true rest
    | a :: b :: c :: rest =>
      if a = literalQuote && b = literalQuote && c = literalQuote then readLinesFrom a false rest
      else readOneLine cs
    | _ => readOneLine cs
  read.map fun (text, rest) => (.string (String.ofList text), rest)

def readItems (value : List Char → Reading Toml) : Nat → List Char → Reading (List Toml)
  | 0, _ => .error .unclosedBracket
  | steps + 1, cs =>
    match skipLayout false cs with
    | .error fault => .error fault
    | .ok [] => .error .unclosedBracket
    | .ok (']' :: rest) => .ok ([], rest)
    | .ok cs =>
      match value cs with
      | .error fault => .error fault
      | .ok (item, rest) =>
        match skipLayout false rest with
        | .error fault => .error fault
        | .ok (',' :: rest) =>
          match readItems value steps rest with
          | .error fault => .error fault
          | .ok (items, rest) => .ok (item :: items, rest)
        | .ok (']' :: rest) => .ok ([item], rest)
        | .ok [] => .error .unclosedBracket
        | .ok _ => .error .expectedItemEnd

def readPair (value : List Char → Reading Toml) (cs : List Char) : Reading (List String × Toml) :=
  match readKey cs with
  | .error fault => .error fault
  | .ok (path, '=' :: rest) =>
    match value (skipBlanks rest) with
    | .error fault => .error fault
    | .ok (read, rest) => .ok ((path, read), rest)
  | .ok _ => .error .expectedEquals

def readMembers (value : List Char → Reading Toml) :
    Nat → Members → List Char → Reading Members
  | 0, _, _ => .error .unclosedBracket
  | steps + 1, members, cs =>
    match skipLayout false cs with
    | .error fault => .error fault
    | .ok [] => .error .unclosedBracket
    | .ok ('}' :: rest) => .ok (members, rest)
    | .ok cs =>
      match readPair value cs with
      | .error fault => .error fault
      | .ok ((path, read), rest) =>
        match assign read path members with
        | none => .error .redefined
        | some members =>
          match skipLayout false rest with
          | .error fault => .error fault
          | .ok (',' :: rest) => readMembers value steps members rest
          | .ok ('}' :: rest) => .ok (members, rest)
          | .ok [] => .error .unclosedBracket
          | .ok _ => .error .expectedItemEnd

/-- Reads a value, which may nest to the given depth. -/
def readValue (depth : Nat) (cs : List Char) : Reading Toml :=
  match cs with
  | [] => .error .expectedValue
  | '[' :: rest =>
    match depth with
    | 0 => .error .tooDeep
    | depth + 1 =>
      (readItems (readValue depth) (rest.length + 1) rest).map fun (items, rest) =>
        (.array items, rest)
  | '{' :: rest =>
    match depth with
    | 0 => .error .tooDeep
    | depth + 1 =>
      (readMembers (readValue depth) (rest.length + 1) [] rest).map fun (members, rest) =>
        (.table .inline members, rest)
  | c :: rest =>
    if c = '"' || c = literalQuote then readString (c :: rest) else readWord (c :: rest)

def deepest : Nat := 80

/-- The part of a document that has been read: its tables and the header that is open. -/
structure Draft where
  header : List String
  members : Members
  deriving Repr

def closeHeader (brackets : List Char) (cs : List Char) : Except Fault (List Char) :=
  if brackets.isPrefixOf cs then endLine false (cs.drop brackets.length)
  else .error .unclosedBracket

def openHeader (change : String → Members → Option Members) (brackets : List Char)
    (cs : List Char) (draft : Draft) : Reading Draft :=
  match readKey cs with
  | .error fault => .error fault
  | .ok (path, rest) =>
    match atLast change path draft.members with
    | none => .error .redefined
    | some members => (closeHeader brackets rest).map fun rest => (⟨path, members⟩, rest)

def addPair (cs : List Char) (draft : Draft) : Reading Draft :=
  match readPair (readValue deepest) cs with
  | .error fault => .error fault
  | .ok ((path, value), rest) =>
    match atHeader (assign value path) draft.header draft.members with
    | none => .error .redefined
    | some members => (endLine false rest).map fun rest => ({ draft with members }, rest)

def readLine (cs : List Char) (draft : Draft) : Reading Draft :=
  match cs with
  | '[' :: '[' :: rest => openHeader addHere [']', ']'] rest draft
  | '[' :: rest => openHeader openHere [']'] rest draft
  | cs => addPair cs draft

def readDraft : Nat → Draft → List Char → Except Fault Draft
  | 0, draft, _ => .ok draft
  | steps + 1, draft, cs =>
    match skipLayout false cs with
    | .error fault => .error fault
    | .ok [] => .ok draft
    | .ok cs =>
      match readLine cs draft with
      | .error fault => .error fault
      | .ok (draft, rest) => readDraft steps draft rest

def withoutMark : List Char → List Char
  | [] => []
  | c :: rest => if c.toNat = 0xFEFF then rest else c :: rest

def read (text : String) : Except Fault Members :=
  let cs := withoutMark text.toList
  (readDraft (cs.length + 1) ⟨[], []⟩ cs).map Draft.members

end VehicleMarket.Toml
