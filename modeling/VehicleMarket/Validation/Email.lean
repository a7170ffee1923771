import VehicleMarket.Text.Blank
import VehicleMarket.Text.Pattern

/-!
The pattern of an e-mail address: a name, an at sign, and a domain with a point in it. Neither holds
white space or another at sign.
-/
namespace VehicleMarket.Email

def isPlain (c : Char) : Bool :=
  c != '@' && !Text.isSpace c

/-- The domain is cut at a point; points may stand on both sides of it too. -/
def pattern : Text.Pattern where
  items := [.many isPlain, .one (· == '@'), .many isPlain, .one (· == '.'), .many isPlain]
  toEnd := true

def accepts (address : List Char) : Bool :=
  (pattern.match? address).isSome

end VehicleMarket.Email
