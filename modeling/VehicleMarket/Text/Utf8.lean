/-!
UTF-8 in bytes: where the first ill-formed sequence of a row of bytes begins, and how long it is
unless the bytes end within it.
-/
namespace VehicleMarket.Text

/-- An ill-formed sequence; one that is cut off by the end has no length. -/
structure Utf8Fault where
  start : Nat
  length : Option Nat
  deriving DecidableEq, Repr

def Utf8Fault.message (fault : Utf8Fault) : String :=
  match fault.length with
  | some n =>
    "invalid utf-8 sequence of " ++ toString n ++ " bytes from index " ++ toString fault.start
  | none => "incomplete utf-8 byte sequence from index " ++ toString fault.start

/-- How many bytes a sequence has, by its first byte; zero if none begins so. -/
def sequenceLength (first : UInt8) : Nat :=
  if first < 0x80 then 1
  else if first < 0xC2 then 0
  else if first < 0xE0 then 2
  else if first < 0xF0 then 3
  else if first < 0xF5 then 4
  else 0

def isContinuation (b : UInt8) : Bool :=
  0x80 ≤ b && b < 0xC0

/-- The second byte may not make the sequence overlong, a surrogate or too large. -/
def isSecond (first b : UInt8) : Bool :=
  isContinuation b &&
    (first != 0xE0 || 0xA0 ≤ b) && (first != 0xED || b < 0xA0) &&
    (first != 0xF0 || 0x90 ≤ b) && (first != 0xF4 || b < 0x90)

def tailFault (start seen : Nat) : Nat → List UInt8 → Option Utf8Fault
  | 0, _ => none
  | _ + 1, [] => some ⟨start, none⟩
  | left + 1, b :: rest =>
    if isContinuation b then tailFault start (seen + 1) left rest else some ⟨start, some seen⟩

def sequenceFault (start : Nat) (first : UInt8) (rest : List UInt8) : Option Utf8Fault :=
  match sequenceLength first with
  | 0 => some ⟨start, some 1⟩
  | 1 => none
  | n + 2 =>
    match rest with
    | [] => some ⟨start, none⟩
    | b :: rest => if isSecond first b then tailFault start 2 n rest else some ⟨start, some 1⟩

def firstFault (index skip : Nat) : List UInt8 → Option Utf8Fault
  | [] => none
  | b :: rest =>
    match skip with
    | n + 1 => firstFault (index + 1) n rest
    | 0 =>
      match sequenceFault index b rest with
      | some fault => some fault
      | none => firstFault (index + 1) (sequenceLength b - 1) rest

def decodeUtf8 (bytes : List UInt8) : Except Utf8Fault String :=
  match String.fromUTF8? ⟨bytes.toArray⟩ with
  | some text => .ok text
  | none => .error ((firstFault 0 0 bytes).getD ⟨0, some 1⟩)

end VehicleMarket.Text
