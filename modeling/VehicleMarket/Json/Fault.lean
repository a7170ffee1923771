/-!
What can be wrong with a JSON text, and where. A reader stops with the unread rest of the text;
the place that is reported is a line and the number of bytes of it read so far.
-/
namespace VehicleMarket.Json

inductive Fault where
  | endInValue
  | endInList
  | endInObject
  | endInString
  | expectedValue
  | expectedName
  | expectedColon
  | expectedMemberEnd
  | expectedItemEnd
  | keyNotString
  | trailingComma
  | trailingCharacters
  | invalidNumber
  | numberOutOfRange
  | invalidEscape
  | unfinishedPair
  | loneSurrogate
  | tooDeep
  | controlCharacter
  deriving DecidableEq, Repr

def Fault.message : Fault → String
  | .endInValue => "EOF while parsing a value"
  | .endInList => "EOF while parsing a list"
  | .endInObject => "EOF while parsing an object"
  | .endInString => "EOF while parsing a string"
  | .expectedValue => "expected value"
  | .expectedName => "expected ident"
  | .expectedColon => "expected `:`"
  | .expectedMemberEnd => "expected `,` or `\x7d`"
  | .expectedItemEnd => "expected `,` or `]`"
  | .keyNotString => "key must be a string"
  | .trailingComma => "trailing comma"
  | .trailingCharacters => "trailing characters"
  | .invalidNumber => "invalid number"
  | .numberOutOfRange => "number out of range"
  | .invalidEscape => "invalid escape"
  | .unfinishedPair => "unexpected end of hex escape"
  | .loneSurrogate => "lone leading surrogate in hex escape"
  | .tooDeep => "recursion limit exceeded"
  | .controlCharacter => "control character (\\u0000-\\u001F) found while parsing a string"

/-- A fault, the text that was not read, and how many bytes of it were looked at. -/
structure Stop where
  fault : Fault
  rest : List Char
  ahead : Nat
  deriving DecidableEq, Repr

abbrev Reading (α : Type) := Except Stop (α × List Char)

def stopAt {α : Type} (fault : Fault) (rest : List Char) : Reading α :=
  .error ⟨fault, rest, 0⟩

def stopOn {α : Type} (fault : Fault) (rest : List Char) : Reading α :=
  .error ⟨fault, rest, 1⟩

/-- A fault with its line, counted from one, and its column in bytes. -/
structure TextError where
  fault : Fault
  line : Nat
  column : Nat
  deriving DecidableEq, Repr

def TextError.message (e : TextError) : String :=
  e.fault.message ++ " at line " ++ toString e.line ++ " column " ++ toString e.column

def utf8Bytes (cs : List Char) : List UInt8 :=
  cs.flatMap String.utf8EncodeChar

def Stop.locate (stop : Stop) (text : List Char) : TextError :=
  let bytes := utf8Bytes text
  let offset := bytes.length - (utf8Bytes stop.rest).length + stop.ahead
  let seen := bytes.take offset
  ⟨stop.fault, seen.count 10 + 1, (seen.reverse.takeWhile (· != 10)).length⟩

end VehicleMarket.Json
