/-! # Transmission types

The transmission type of a PDO is a byte.  From 0 to 240 the PDO is tied to the SYNC; 254 and 255
are event driven; the values between are reserved and cannot be configured. -/

namespace Canopen

/-- When a PDO is transferred. -/
abbrev TransmissionType := UInt8

namespace TransmissionType

/-- Is the PDO tied to the SYNC? -/
def isSynchronous (t : TransmissionType) : Bool := t ≤ 240

/-- Is this a value that may not be configured? -/
def isReserved (t : TransmissionType) : Bool := 240 < t && t < 254

/-- Is the PDO sent by its own events instead of by the SYNC?  The highest reserved value is
treated like the two event driven ones. -/
def isEventDriven (t : TransmissionType) : Bool := 253 ≤ t

/-- Does the PDO send once as soon as it can? -/
def sendsAtStart (t : TransmissionType) : Bool := 254 ≤ t

end TransmissionType

/-- The highest SYNC start value and the highest SYNC counter overflow value. -/
def syncStartMax : UInt8 := 240

end Canopen
