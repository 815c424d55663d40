import Canopen.Device

/-! # A sample device

A device with two receive PDOs, two transmit PDOs and all parameter objects.  The application has

* at 0x2000 and 0x2001 a 32-bit number for both directions,
* at 0x2002 a 16-bit number for transmit PDOs, watched for changes,
* at 0x2003 four 8-bit numbers for both directions,
* at 0x2004 a read-only signed 16-bit number for transmit PDOs, with the value -1. -/

namespace Canopen

namespace Sample

/-- The objects of the application. -/
def applicationEntries : List Entry :=
  let word := AppObject.var (SubInfo.u32.readWrite.mappable .both) (.ofNumber .u32 0)
  let bytes := List.replicate 4 (Field.ofNumber .u8 0)
  [⟨0x2000, .application word⟩,
    ⟨0x2001, .application word⟩,
    ⟨0x2002, .application
      (.var (SubInfo.u16.readWrite.mappable .tpdo).detectingChange (.ofNumber .u16 0))⟩,
    ⟨0x2003, .application (.array (SubInfo.u8.readWrite.mappable .both) bytes)⟩,
    ⟨0x2004, .application (.var (SubInfo.i16.mappable .tpdo) (.ofNumber .i16 (-1)))⟩]

/-- The number of PDOs in each direction. -/
def pdoCount : Nat := 2

def dictionary : Dictionary :=
  .ofEntries (Dictionary.parameterEntries pdoCount pdoCount ++ applicationEntries)

/-- The device before a node is started on it. -/
def device : Device := .fresh pdoCount pdoCount dictionary

end Sample

end Canopen
