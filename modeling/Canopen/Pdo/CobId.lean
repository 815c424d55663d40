/-! # COB-ID words

The identifier of a PDO or of the SYNC message is configured by a 32-bit word: the identifier in
bits 0 to 10, a bit for 29-bit identifiers, a bit whose meaning depends on the object, and the bit
that disables the PDO. -/

namespace Canopen

/-- A word that configures an identifier. -/
abbrev CobIdWord := UInt32

namespace CobIdWord

/-- Bit 31: the PDO is disabled. -/
def invalidBit : CobIdWord := 0x80000000

/-- Bit 30: the node produces the SYNC; no meaning for PDOs. -/
def bit30 : CobIdWord := 0x40000000

/-- Bit 29: the identifier has 29 bits. -/
def extendedBit : CobIdWord := 0x20000000

/-- Bits 11 to 29, which are zero for an 11-bit identifier. -/
def reservedMask : CobIdWord := 0x3FFFF800

/-- Bits 0 to 29, which may not change while a PDO is valid. -/
def idFieldMask : CobIdWord := 0x3FFFFFFF

/-- Bits 0 to 10, the identifier. -/
def standardMask : CobIdWord := 0x7FF

/-- Is the PDO disabled? -/
def isInvalid (w : CobIdWord) : Bool := w &&& invalidBit != 0

def hasBit30 (w : CobIdWord) : Bool := w &&& bit30 != 0

/-- Is a 29-bit identifier asked for? -/
def isExtended (w : CobIdWord) : Bool := w &&& extendedBit != 0

/-- Is one of the bits 11 to 29 set? -/
def hasReservedBits (w : CobIdWord) : Bool := w &&& reservedMask != 0

def standardId (w : CobIdWord) : UInt16 := (w &&& standardMask).toUInt16

def lowWord (w : CobIdWord) : UInt16 := w.toUInt16

end CobIdWord

end Canopen
