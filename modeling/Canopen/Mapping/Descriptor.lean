/-! # Mapping descriptors

A mapping parameter names a sub object and a length in bits, packed into a 32-bit word: the index
in the high half, then the sub index, then the length.  Low indices at sub index zero are dummy
entries; the index is then a basic data type, which limits the length. -/

namespace Canopen

/-- The largest number of entries in a mapping. -/
abbrev maxMappings : Nat := 8

/-- One entry of a PDO mapping. -/
structure MappingDescriptor where
  index : UInt16
  sub : UInt8
  /-- The length in bits. -/
  bits : UInt8
deriving DecidableEq, Repr

namespace MappingDescriptor

/-- Unpack a mapping parameter. -/
def ofWord (w : UInt32) : MappingDescriptor :=
  ⟨(w >>> 16).toUInt16, (w >>> 8).toUInt8, w.toUInt8⟩

/-- Pack a mapping parameter. -/
def toWord (d : MappingDescriptor) : UInt32 :=
  (d.index.toUInt32 <<< 16) ||| (d.sub.toUInt32 <<< 8) ||| d.bits.toUInt32

/-- The length in bytes, if it is a number of whole bytes. -/
def byteLength? (d : MappingDescriptor) : Option Nat :=
  if d.bits.toNat % 8 = 0 then some (d.bits.toNat / 8) else none

def isDummy (d : MappingDescriptor) : Bool := d.index ≤ 7 && d.sub == 0

end MappingDescriptor

/-- The number of bytes that a dummy entry for a basic data type may cover.  A boolean has no
whole number of bytes. -/
def dummySize (index : UInt16) : Nat :=
  if index = 0 ∨ index = 1 then 0
  else if index = 2 ∨ index = 5 then 1
  else if index = 3 ∨ index = 6 then 2
  else 4

theorem dummySize_le (index : UInt16) : dummySize index ≤ 4 := by
  unfold dummySize
  split
  · omega
  · split
    · omega
    · split <;> omega

end Canopen
