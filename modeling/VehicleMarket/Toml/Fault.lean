/-!
What can be wrong with a TOML text.
-/
namespace VehicleMarket.Toml

inductive Fault where
  | expectedKey
  | expectedEquals
  | expectedValue
  | expectedEnd
  | expectedItemEnd
  | unclosedString
  | unclosedBracket
  | invalidEscape
  | invalidCharacter
  | invalidScalar
  | outOfRange
  | redefined
  | tooDeep
  deriving DecidableEq, Repr

def Fault.message : Fault → String
  | .expectedKey => "a key is missing"
  | .expectedEquals => "a key has no equals sign after it"
  | .expectedValue => "a value is missing"
  | .expectedEnd => "a line goes on after its end"
  | .expectedItemEnd => "items are not separated by commas"
  | .unclosedString => "a string is not closed"
  | .unclosedBracket => "a bracket is not closed"
  | .invalidEscape => "a string holds an unknown escape"
  | .invalidCharacter => "a control character stands in the text"
  | .invalidScalar => "a value is neither a number, a boolean nor a date"
  | .outOfRange => "a number is out of range"
  | .redefined => "a key or table is defined twice"
  | .tooDeep => "values are nested too deeply"

abbrev Reading (α : Type) := Except Fault (α × List Char)

end VehicleMarket.Toml
