/-!
White space as the Unicode property `White_Space` has it, and the cuts that depend on it:
trimming, blank texts, and the division of a text into lines.
-/
namespace VehicleMarket.Text

/-- The code points with the property `White_Space`. -/
def isSpace (c : Char) : Bool :=
  let n := c.toNat
  (9 ≤ n && n ≤ 13) || n == 32 || n == 0x85 || n == 0xA0 || n == 0x1680 ||
  (0x2000 ≤ n && n ≤ 0x200A) || n == 0x2028 || n == 0x2029 || n == 0x202F ||
  n == 0x205F || n == 0x3000

def trimChars (cs : List Char) : List Char :=
  ((cs.dropWhile isSpace).reverse.dropWhile isSpace).reverse

def trim (s : String) : String :=
  String.ofList (trimChars s.toList)

/-- A blank text holds white space only; the empty text is blank. -/
def isBlank (s : String) : Bool :=
  s.toList.all isSpace

/-- Cuts at each line feed; what follows the last one is a piece too. -/
def splitLines : List Char → List (List Char)
  | [] => [[]]
  | c :: rest =>
    if c = '\n' then [] :: splitLines rest
    else match splitLines rest with
      | [] => [[c]]
      | line :: lines => (c :: line) :: lines

def dropReturn (line : List Char) : List Char :=
  match line.reverse with
  | '\r' :: rest => rest.reverse
  | _ => line

/-- The lines of a text, each ended by a line feed or by a carriage return and a line feed.
The last line may lack its end, and nothing after the last end is no line. -/
def lines (s : String) : List String :=
  let pieces := splitLines s.toList
  let ended := pieces.dropLast.map dropReturn
  match pieces.getLast? with
  | none | some [] => ended.map String.ofList
  | some rest => (ended ++ [rest]).map String.ofList

end VehicleMarket.Text
