import Canopen.Abort
import Canopen.Dictionary

/-! # Resolution of PDO mappings

A mapping is a list of descriptors.  Resolving it turns each descriptor into a target, in order,
and checks that the object exists, that it may be mapped in the direction of the PDO, that it is
large enough, and that all entries together fit into a frame.  The first descriptor that fails
decides the error.

Resolution looks at declared attributes only, never at the values of mapped objects. -/

namespace Canopen

/-- The direction of a PDO. -/
inductive Direction where
  /-- Bytes of frames are written into objects. -/
  | receive
  /-- Bytes of objects are written into frames. -/
  | transmit
deriving DecidableEq, Repr

def Direction.name : Direction → String
  | receive => "Receive"
  | transmit => "Transmit"

/-- What is wrong with a descriptor. -/
inductive MappingFault where
  /-- The length is not in whole bytes, the object may not be mapped, or it is too small. -/
  | notMappable
  /-- The entries are longer than a frame. -/
  | lengthExceeded
  /-- There is no such object or sub object. -/
  | objectNotFound
deriving DecidableEq, Repr

/-- A descriptor that cannot be resolved. -/
structure MappingError where
  fault : MappingFault
  object : ObjectId
deriving DecidableEq, Repr

/-- An index in hexadecimal digits. -/
def hexIndex (index : UInt16) : String := "0x" ++ String.ofList (Nat.toDigits 16 index.toNat)

namespace MappingError

def message (e : MappingError) : String :=
  let object := hexIndex e.object.index ++ "sub" ++ toString e.object.sub.toNat
  match e.fault with
  | .notMappable => "Object " ++ object ++ " can not be mapped"
  | .lengthExceeded => "Mapping " ++ object ++ " exceeds the PDO length"
  | .objectNotFound => "Object " ++ object ++ " does not exist"

/-- How the error is answered to a write of mapping parameters. -/
def abort (e : MappingError) : AbortCode :=
  match e.fault with
  | .notMappable => .unallowedPdo
  | .lengthExceeded => .pdoTooLong
  | .objectNotFound => .noSuchObject

end MappingError

/-- Where the bytes of an entry come from or go to. -/
inductive Target where
  | object (id : ObjectId) (len : Nat) (multibyte : Bool)
  /-- Received bytes are dropped, transmitted bytes are zero. -/
  | dummy (direction : Direction) (len : Nat)
deriving DecidableEq, Repr

namespace Target

def len : Target → Nat
  | object _ len _ | dummy _ len => len

/-- Is the mapped value a number of more than one byte? -/
def isMultibyte : Target → Bool
  | object _ _ multibyte => multibyte
  | dummy _ _ => false

/-- A target as it stands in messages. -/
def describe : Target → String
  | object id len multibyte =>
    "Object \x7b id: ObjectId \x7b index: " ++ toString id.index.toNat ++ ", sub: "
      ++ toString id.sub.toNat ++ " \x7d, len: " ++ toString len ++ ", multibyte: "
      ++ toString multibyte ++ " \x7d"
  | dummy direction len =>
    "Dummy \x7b direction: " ++ direction.name ++ ", len: " ++ toString len ++ " \x7d"

end Target

/-- A resolved descriptor. -/
structure ResolvedEntry where
  target : Target
  /-- The length of the PDO up to the end of this entry. -/
  totalLen : Nat
  /-- A bit for each byte of the entry whose changes ask for a transmission. -/
  changeFlags : Nat
deriving DecidableEq, Repr

/-- The largest number of bytes in a PDO. -/
abbrev maxPdoLength : Nat := 8

/-- The number whose bits from `start` on, `len` of them, are set. -/
def byteMask (start len : Nat) : Nat := (1 <<< len - 1) <<< start

theorem testBit_byteMask (start len i : Nat) :
    (byteMask start len).testBit i = decide (start ≤ i ∧ i < start + len) := by
  simp only [byteMask, Nat.one_shiftLeft, Nat.testBit_shiftLeft, Nat.testBit_two_pow_sub_one,
    ge_iff_le]
  by_cases h : start ≤ i
  · simp only [h, decide_true, Bool.true_and, true_and, decide_eq_decide]
    omega
  · simp [h]

/-- May a sub object with these attributes be mapped in this direction? -/
def Direction.permits (d : Direction) (info : SubInfo) : Bool :=
  match d with
  | receive => info.access.isWritable && info.pdoMapping.allowsRpdo
  | transmit => info.access.isReadable && info.pdoMapping.allowsTpdo

/-- Resolve a descriptor that follows `mapped` bytes of other entries. -/
def resolveEntry (attributes : Attributes) (direction : Direction) (d : MappingDescriptor)
    (mapped : Nat) : Except MappingError ResolvedEntry :=
  let fail (fault : MappingFault) : Except MappingError ResolvedEntry :=
    .error ⟨fault, ⟨d.index, d.sub⟩⟩
  match d.byteLength? with
  | none => fail .notMappable
  | some len =>
    if maxPdoLength < mapped + len then fail .lengthExceeded
    else if d.isDummy then
      if dummySize d.index < len then fail .notMappable
      else .ok ⟨.dummy direction len, mapped + len, 0⟩
    else
      match attributes d.index with
      | none => fail .objectNotFound
      | some object =>
        if object.maxSub < d.sub then fail .objectNotFound
        else
          match object.info d.sub with
          | none => fail .objectNotFound
          | some info =>
            if direction.permits info && len ≤ info.size then
              .ok {
                target := .object ⟨d.index, d.sub⟩ len info.isMultibyte
                totalLen := mapped + len
                changeFlags :=
                  if direction = .transmit ∧ info.detectChange then byteMask mapped len else 0 }
            else fail .notMappable

/-- A resolved mapping. -/
structure MappedPdo where
  targets : List Target
  /-- The number of mapped bytes. -/
  dataLen : Nat
  /-- A bit for each byte whose changes ask for a transmission. -/
  changeFlags : Nat
deriving DecidableEq, Repr

namespace MappedPdo

/-- The mapping without entries. -/
def empty : MappedPdo := ⟨[], 0, 0⟩

/-- Append the entry of one more descriptor. -/
def extend (attributes : Attributes) (direction : Direction) (m : MappedPdo)
    (d : MappingDescriptor) : Except MappingError MappedPdo := do
  let entry ← resolveEntry attributes direction d m.dataLen
  if m.targets.length < maxMappings then
    return {
      targets := m.targets ++ [entry.target]
      dataLen := entry.totalLen
      changeFlags := m.changeFlags ||| entry.changeFlags }
  else
    throw ⟨.lengthExceeded, ⟨d.index, d.sub⟩⟩

/-- Resolve a list of descriptors. -/
def resolve (attributes : Attributes) (direction : Direction) (ds : List MappingDescriptor) :
    Except MappingError MappedPdo :=
  ds.foldlM (extend attributes direction) empty

end MappedPdo

end Canopen
