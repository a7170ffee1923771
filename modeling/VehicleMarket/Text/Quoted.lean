import VehicleMarket.Text.CaseTable
import VehicleMarket.Text.HiddenTable

/-!
Quoted text in messages: between double quotes, with backslash escapes for quotes, backslashes
and the common controls, and hexadecimal numbers in braces for what has no glyph of its own.
-/
namespace VehicleMarket.Text

def isHidden (c : Char) : Bool :=
  if c.toNat < 0x80 then c.toNat < 0x20 || c.toNat = 0x7F else inRanges hiddenRanges c.toNat

def hexNumber (n : Nat) : List Char :=
  Nat.toDigits 16 n

def quoteChar (c : Char) : List Char :=
  if c.toNat = 0 then ['\\', '0']
  else if c = '\t' then ['\\', 't']
  else if c = '\r' then ['\\', 'r']
  else if c = '\n' then ['\\', 'n']
  else if c = '\\' then ['\\', '\\']
  else if c = '"' then ['\\', '"']
  else if isHidden c then ['\\', 'u', '{'] ++ hexNumber c.toNat ++ ['}']
  else [c]

def quote (s : String) : String :=
  String.ofList ('"' :: s.toList.flatMap quoteChar ++ ['"'])

end VehicleMarket.Text
