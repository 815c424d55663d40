import Canopen.Object.Application
import Canopen.Object.Parameter

/-! # The object dictionary

The dictionary lists objects by ascending index.  An object belongs to the application, or it shows
parameters of the device.  Only the contents of application objects are stored here.

`attributes` is all that the resolution of PDO mappings may look at: which objects exist, their
highest sub index, and what their sub objects declare. -/

namespace Canopen

/-- An object of the dictionary. -/
inductive Object where
  | application (o : AppObject)
  | parameter (p : Parameter)
deriving DecidableEq, Repr

/-- An object and its index. -/
structure Entry where
  index : UInt16
  object : Object
deriving DecidableEq, Repr

/-- The objects of a device. -/
structure Dictionary where
  entries : List Entry
deriving DecidableEq, Repr

/-- What is declared about an object. -/
structure ObjectAttributes where
  maxSub : UInt8
  info : UInt8 → Option SubInfo

/-- What is declared about all objects, by index. -/
abbrev Attributes := UInt16 → Option ObjectAttributes

/-- The attributes of an object, in a device with the given numbers of PDOs. -/
def Object.attributes (rpdos tpdos : Nat) : Object → ObjectAttributes
  | application o => ⟨o.maxSub, fun sub => (o.layout.sub? sub).map SubObject.info⟩
  | parameter p => ⟨p.maxSub rpdos tpdos, p.subInfo?⟩

namespace Dictionary

/-- The dictionary with the given objects. -/
def ofEntries (entries : List Entry) : Dictionary :=
  ⟨entries.mergeSort fun a b => a.index ≤ b.index⟩

/-- The entries for the parameters of a device. -/
def parameterEntries (rpdos tpdos : Nat) : List Entry :=
  (Parameter.all rpdos tpdos).map fun p => ⟨p.index, .parameter p⟩

def find? (d : Dictionary) (index : UInt16) : Option Object :=
  (d.entries.find? fun e => e.index == index).map Entry.object

def application? (d : Dictionary) (index : UInt16) : Option AppObject :=
  match d.find? index with
  | some (.application o) => some o
  | _ => none

/-- The dictionary with the application object at an index replaced. -/
def set (d : Dictionary) (index : UInt16) (o : AppObject) : Dictionary :=
  ⟨d.entries.map fun e => if e.index = index then ⟨e.index, .application o⟩ else e⟩

def read (d : Dictionary) (id : ObjectId) (offset len : Nat) : Except AbortCode Bytes :=
  match d.application? id.index with
  | some o => o.read id.sub offset len
  | none => .error .noSuchObject

def writeLeading (d : Dictionary) (id : ObjectId) (data : Bytes) : Except AbortCode Dictionary :=
  match d.application? id.index with
  | some o => (o.writeLeading id.sub data).map (d.set id.index)
  | none => .error .noSuchObject

/-- What the objects declare, in a device with the given numbers of PDOs. -/
def attributes (d : Dictionary) (rpdos tpdos : Nat) : Attributes := fun index =>
  (d.find? index).map (Object.attributes rpdos tpdos)

end Dictionary

end Canopen
