/-! # Identifiers of process data objects

The first four PDOs of each direction have a pre-defined identifier, to which the node identifier
is added.  Some 11-bit identifiers belong to other services and may not be used for a PDO. -/

namespace Canopen

/-- The number of PDOs in each direction that have a pre-defined identifier. -/
def predefinedPdoCount : Nat := 4

/-- The pre-defined identifier of receive PDO `n`, or zero if there is none. -/
def predefinedRpdoId (n : Nat) : UInt16 :=
  if n < predefinedPdoCount then 0x200 + 0x100 * UInt16.ofNat n else 0

/-- The pre-defined identifier of transmit PDO `n`, or zero if there is none. -/
def predefinedTpdoId (n : Nat) : UInt16 :=
  if n < predefinedPdoCount then 0x180 + 0x100 * UInt16.ofNat n else 0

/-- Is this identifier reserved for another service? -/
def isRestrictedId (id : UInt16) : Bool :=
  id ≤ 0x7F || (0x101 ≤ id && id ≤ 0x180) || (0x581 ≤ id && id ≤ 0x5FF) ||
    (0x601 ≤ id && id ≤ 0x67F) || (0x6E0 ≤ id && id ≤ 0x6FF) || 0x701 ≤ id

end Canopen
