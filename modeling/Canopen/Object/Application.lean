import Canopen.Object.Field
import Canopen.Object.Info

/-! # Application objects

The values of the application are kept in variables, arrays and records.  Sub index zero of an
array is its length.  Access goes to the sub object, after a check of its access type.

Received process data may cover only the leading bytes of a value.  An object either leaves that
to the content of its sub object, or reads the value, replaces the leading bytes and writes the
whole back (`completeValue`); the second way is also that of every object that has no way of its
own. -/

namespace Canopen

/-- The largest value whose leading bytes can be replaced by reading it and writing it back. -/
abbrev maxCompletedSize : Nat := 8

/-- The value to write back when the leading bytes of a value of the declared size are replaced by
`data`; `read len` reads the first `len` bytes of the present value. -/
def completeValue (size : Nat) (read : Nat → Except AbortCode Bytes) (data : Bytes) :
    Except AbortCode Bytes :=
  if data.length = size then .ok data
  else if size < data.length then .error .lengthTooHigh
  else if maxCompletedSize < size then .error .unsupportedAccess
  else (read size).map fun present => data.overlay (present.overlay (Bytes.zeros size))

/-- A sub object: what it declares, and what it holds. -/
structure SubObject where
  info : SubInfo
  field : Field
deriving DecidableEq, Repr

namespace SubObject

def read (s : SubObject) (offset len : Nat) : Except AbortCode Bytes :=
  if s.info.access.isReadable then s.field.read offset len else .error .writeOnly

def write (s : SubObject) (data : Bytes) : Except AbortCode Field :=
  if s.info.access.isWritable then s.field.write data else .error .readOnly

def writeLeading (s : SubObject) (data : Bytes) : Except AbortCode Field :=
  if s.info.access.isWritable then s.field.writeLeading data else .error .readOnly

end SubObject

/-- How an object replaces the leading bytes of a value. -/
inductive LeadingWrite where
  /-- In place, by the content of the sub object. -/
  | inPlace
  /-- By reading the value and writing it back. -/
  | wholeValue
deriving DecidableEq, Repr

/-- The sub objects of an application object. -/
inductive Layout where
  /-- One value at sub index zero. -/
  | var (value : SubObject)
  /-- Values of one type at the sub indices from one on. -/
  | array (info : SubInfo) (elements : List Field)
  /-- A collection of sub objects, with the object code it declares. -/
  | record (code : ObjectCode) (subs : List (UInt8 × SubObject))
deriving DecidableEq, Repr

/-- An object of the application. -/
structure AppObject where
  layout : Layout
  leadingWrite : LeadingWrite
deriving DecidableEq, Repr

namespace Layout

/-- The sub object at a sub index. -/
def sub? (l : Layout) (sub : UInt8) : Option SubObject :=
  match l with
  | var value => if sub = 0 then some value else none
  | array info elements =>
    if sub = 0 then some ⟨.maxSubNumber, .constant [UInt8.ofNat elements.length]⟩
    else elements[sub.toNat - 1]?.map fun f => ⟨info, f⟩
  | record _ subs => subs.lookup sub

/-- The same layout with another content at a sub index. -/
def set (l : Layout) (sub : UInt8) (f : Field) : Layout :=
  match l with
  | var value => if sub = 0 then var { value with field := f } else l
  | array info elements => if sub = 0 then l else array info (elements.set (sub.toNat - 1) f)
  | record code subs =>
    record code (subs.map fun (s, o) => (s, if s = sub then { o with field := f } else o))

def code : Layout → ObjectCode
  | var _ => .var
  | array _ _ => .array
  | record code _ => code

/-- The contents of all sub objects, by ascending sub index. -/
def fields : Layout → List Field
  | var value => [value.field]
  | array _ elements => .constant [UInt8.ofNat elements.length] :: elements
  | record _ subs =>
    (List.range 256).filterMap fun sub => (subs.lookup (UInt8.ofNat sub)).map SubObject.field

end Layout

namespace AppObject

def var (info : SubInfo) (value : Field) : AppObject := ⟨.var ⟨info, value⟩, .inPlace⟩

def array (info : SubInfo) (elements : List Field) : AppObject :=
  ⟨.array info elements, .inPlace⟩

/-- The sub object at a sub index. -/
def sub (o : AppObject) (sub : UInt8) : Except AbortCode SubObject :=
  match o.layout.sub? sub with
  | some s => .ok s
  | none => .error .noSuchSubIndex

def subInfo (o : AppObject) (sub : UInt8) : Except AbortCode SubInfo :=
  (o.sub sub).map SubObject.info

def read (o : AppObject) (sub : UInt8) (offset len : Nat) : Except AbortCode Bytes := do
  (← o.sub sub).read offset len

/-- The number of bytes that can be read, whatever the access type. -/
def readSize (o : AppObject) (sub : UInt8) : Except AbortCode Nat :=
  (o.sub sub).map fun s => s.field.size

/-- The same object with another content at a sub index. -/
def set (o : AppObject) (sub : UInt8) (f : Field) : AppObject :=
  { o with layout := o.layout.set sub f }

def write (o : AppObject) (sub : UInt8) (data : Bytes) : Except AbortCode AppObject := do
  let f ← (← o.sub sub).write data
  return o.set sub f

def writeLeading (o : AppObject) (sub : UInt8) (data : Bytes) : Except AbortCode AppObject :=
  match o.leadingWrite with
  | .inPlace => do
    let f ← (← o.sub sub).writeLeading data
    return o.set sub f
  | .wholeValue => do
    let info ← o.subInfo sub
    let value ← completeValue info.size (o.read sub 0) data
    o.write sub value

/-- The highest sub index: zero for a variable, else the value of sub index zero. -/
def maxSub (o : AppObject) : UInt8 :=
  match o.layout.code with
  | .var => 0
  | .array | .record =>
    match o.read 0 0 1 with
    | .ok bytes => bytes.firstByte
    | .error _ => 0

/-- The value of a variable, or of the element of an array at a position from zero on. -/
def load (o : AppObject) (i : Nat) : Option ScalarValue :=
  match o.layout with
  | .var value => value.field.load
  | .array _ elements => elements[i]?.bind Field.load
  | .record _ _ => none

/-- Set the value of a variable, or of the element of an array.  A position outside the array is
ignored. -/
def store (o : AppObject) (i : Nat) (v : ScalarValue) : AppObject :=
  match o.layout with
  | .var value => { o with layout := .var { value with field := value.field.store v } }
  | .array info elements =>
    { o with layout := .array info (elements.modify i fun f => f.store v) }
  | .record _ _ => o

end AppObject

end Canopen
