/-! # Attributes of sub objects

Each sub object declares its size, its data type, who may read and write it, and whether it may be
mapped into process data objects. -/

namespace Canopen

/-- The address of a sub object. -/
structure ObjectId where
  index : UInt16
  sub : UInt8
deriving DecidableEq, Repr

/-- The structure of an object. -/
inductive ObjectCode where
  /-- A single sub object. -/
  | var
  /-- Sub objects of one type. -/
  | array
  /-- Sub objects of several types. -/
  | record
deriving DecidableEq, Repr

/-- Who may access a sub object. -/
inductive AccessType where
  | readOnly
  | writeOnly
  | readWrite
  /-- Read-only, and never changed by the device either. -/
  | const
deriving DecidableEq, Repr

def AccessType.isReadable : AccessType → Bool
  | readOnly | readWrite | const => true
  | writeOnly => false

def AccessType.isWritable : AccessType → Bool
  | readWrite | writeOnly => true
  | readOnly | const => false

/-- Into which PDOs a sub object may be mapped. -/
inductive PdoMapping where
  | none
  | rpdo
  | tpdo
  | both
deriving DecidableEq, Repr

def PdoMapping.allowsRpdo : PdoMapping → Bool
  | rpdo | both => true
  | none | tpdo => false

def PdoMapping.allowsTpdo : PdoMapping → Bool
  | tpdo | both => true
  | none | rpdo => false

/-- The declared type of a value. -/
inductive DataType where
  | boolean
  | int8
  | int16
  | int32
  | uint8
  | uint16
  | uint32
  | real32
  | visibleString
  | octetString
  | unicodeString
  | domain
  | other (code : UInt16)
deriving DecidableEq, Repr

def DataType.isString : DataType → Bool
  | visibleString | octetString | unicodeString => true
  | _ => false

/-- Is this a number of more than one byte? -/
def DataType.isMultibyte : DataType → Bool
  | int16 | int32 | uint16 | uint32 | real32 => true
  | _ => false

/-- The attributes of a sub object. -/
structure SubInfo where
  /-- The declared size in bytes. -/
  size : Nat
  dataType : DataType
  access : AccessType
  pdoMapping : PdoMapping
  /-- Does a change of the value ask for a transmission? -/
  detectChange : Bool
deriving DecidableEq, Repr

namespace SubInfo

/-- A read-only sub object of the given size and type that cannot be mapped. -/
def plain (size : Nat) (dataType : DataType) : SubInfo :=
  ⟨size, dataType, .readOnly, .none, false⟩

def u8 : SubInfo := plain 1 .uint8

def u16 : SubInfo := plain 2 .uint16

def u32 : SubInfo := plain 4 .uint32

def i16 : SubInfo := plain 2 .int16

def i32 : SubInfo := plain 4 .int32

/-- A byte string. -/
def octetString (size : Nat) : SubInfo := plain size .octetString

/-- The highest sub index of an array or a record, at sub index zero. -/
def maxSubNumber : SubInfo := { u8 with access := .const }

/-- The attributes of a sub object that declares nothing. -/
def undeclared : SubInfo := plain 0 .int8

/-- The same with full access. -/
def readWrite (i : SubInfo) : SubInfo := { i with access := .readWrite }

/-- The same with a permission to map. -/
def mappable (i : SubInfo) (m : PdoMapping) : SubInfo := { i with pdoMapping := m }

/-- The same with detection of changes. -/
def detectingChange (i : SubInfo) : SubInfo := { i with detectChange := true }

/-- Does the sub object hold a number of more than one byte? -/
def isMultibyte (i : SubInfo) : Bool := 1 < i.size && i.dataType.isMultibyte

end SubInfo

end Canopen
