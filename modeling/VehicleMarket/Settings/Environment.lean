import VehicleMarket.Table
import VehicleMarket.Text.Pattern

/-!
Environment variables and their substitution in a text: a dollar sign and a name in braces stand
for the value of that variable. The text is cut into pieces once, from left to right; what is put
in is not looked at again, and a name that is not set stays as it is.
-/
namespace VehicleMarket

abbrev Environment := List (String × String)

namespace Environment

def value? (environment : Environment) (name : String) : Option String :=
  Table.find? environment name

inductive Piece where
  | plain (c : Char)
  | slot (name : List Char)
  deriving DecidableEq, Repr

/-- A dollar sign and a name in braces. -/
def slotPattern : Text.Pattern where
  items := [.one (· == '$'), .one (· == '{'), .many (· != '}'), .one (· == '}')]
  toEnd := false

def slot? (cs : List Char) : Option (List Char × List Char) :=
  match slotPattern.match? cs with
  | some ([name], rest) => some (name, rest)
  | _ => none

theorem length_of_slot? {cs name rest : List Char} (h : slot? cs = some (name, rest)) :
    rest.length < cs.length := by
  unfold slot? at h
  split at h
  · rename_i hmatch
    obtain ⟨-, rfl⟩ := Prod.mk.inj (Option.some.inj h)
    have := Text.Pattern.length_of_matchItems hmatch
    simp only [slotPattern, List.length_cons, List.length_nil] at this
    omega
  · simp at h

/-- The pieces of a text; what stands in no slot is plain. -/
def pieces : List Char → List Piece
  | [] => []
  | c :: rest =>
    match _h : slot? (c :: rest) with
    | some (name, rest) => .slot name :: pieces rest
    | none => .plain c :: pieces rest
termination_by cs => cs.length
decreasing_by
  · exact length_of_slot? _h
  · simp

def fill (environment : Environment) : Piece → List Char
  | .plain c => [c]
  | .slot name =>
    match environment.value? (String.ofList name) with
    | some value => value.toList
    | none => ['$', '{'] ++ name ++ ['}']

def substitute (environment : Environment) (text : String) : String :=
  String.ofList ((pieces text.toList).flatMap environment.fill)

def Piece.name? : Piece → Option String
  | .plain _ => none
  | .slot name => some (String.ofList name)

def namesIn (text : String) : List String :=
  (pieces text.toList).filterMap Piece.name?

end Environment

end VehicleMarket
