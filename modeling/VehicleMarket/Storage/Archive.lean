/-!
The bytes of an archive: its members one after the other, each stored as it is behind a header, and
a directory of them at the end.
-/
namespace VehicleMarket.Archive

def checksumBit (crc : UInt32) : UInt32 :=
  if crc % 2 = 1 then (crc / 2) ^^^ 0xEDB88320 else crc / 2

def checksumByte (crc : UInt32) (b : UInt8) : UInt32 :=
  (List.range 8).foldl (fun crc _ => checksumBit crc) (crc ^^^ b.toUInt32)

/-- The cyclic redundancy check of 32 bits. -/
def checksum (data : List UInt8) : UInt32 :=
  data.foldl checksumByte 0xFFFFFFFF ^^^ 0xFFFFFFFF

def littleEndian (count n : Nat) : List UInt8 :=
  match count with
  | 0 => []
  | count + 1 => UInt8.ofNat n :: littleEndian count (n / 256)

structure Member where
  name : List UInt8
  data : List UInt8
  deriving DecidableEq, Repr

def Member.of (name text : String) : Member :=
  ⟨name.toUTF8.toList, text.toUTF8.toList⟩

/-- What the header of a member and its entry in the directory have in common: version, flags,
method, time, date, checksum, sizes, and the lengths of its name and of nothing else. -/
def Member.description (member : Member) : List UInt8 :=
  littleEndian 2 20 ++ littleEndian 2 0 ++ littleEndian 2 0 ++ littleEndian 2 0 ++
    littleEndian 2 33 ++ littleEndian 4 (checksum member.data).toNat ++
    littleEndian 4 member.data.length ++ littleEndian 4 member.data.length ++
    littleEndian 2 member.name.length ++ littleEndian 2 0

def Member.stored (member : Member) : List UInt8 :=
  littleEndian 4 0x04034B50 ++ member.description ++ member.name ++ member.data

def Member.listed (member : Member) (offset : Nat) : List UInt8 :=
  littleEndian 4 0x02014B50 ++ littleEndian 2 20 ++ member.description ++
    littleEndian 2 0 ++ littleEndian 2 0 ++ littleEndian 2 0 ++ littleEndian 4 0 ++
    littleEndian 4 offset ++ member.name

def directory (offset : Nat) : List Member → List UInt8
  | [] => []
  | member :: rest =>
    member.listed offset ++ directory (offset + member.stored.length) rest

def ending (count size offset : Nat) : List UInt8 :=
  littleEndian 4 0x06054B50 ++ littleEndian 2 0 ++ littleEndian 2 0 ++ littleEndian 2 count ++
    littleEndian 2 count ++ littleEndian 4 size ++ littleEndian 4 offset ++ littleEndian 2 0

def encode (members : List Member) : List UInt8 :=
  let stored := members.flatMap Member.stored
  let listed := directory 0 members
  stored ++ listed ++ ending members.length listed.length stored.length

end VehicleMarket.Archive
