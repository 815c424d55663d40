import Canopen.Mapping.Resolve
import Canopen.Errors
import Canopen.Nmt
import Canopen.Pdo.CobId
import Canopen.Pdo.Identifier
import Canopen.Pdo.TransmissionType

/-! # Stored parameters of a PDO

The parameters that receive and transmit PDOs have in common, as they stand in the object
dictionary.  They take effect when the PDO is configured.

A PDO with a pre-defined identifier follows the identifier of its node: an identifier word that
names the pre-defined identifier plus the node identifier is stored without the latter
(`stripNodeId`), and the node identifier is added again when the word is reported or used. -/

namespace Canopen

/-- Flags that protect the parameters of a PDO from being written. -/
structure PdoRestrictions where
  bits : UInt8
deriving DecidableEq, Repr

namespace PdoRestrictions

/-- Nothing is protected. -/
def none : PdoRestrictions := ⟨0⟩

/-- Communication parameters cannot be written while operational. -/
def commLocked : UInt8 := 0x01

/-- Mapping parameters cannot be written while operational. -/
def mapLocked : UInt8 := 0x02

/-- Communication parameters are read-only. -/
def commReadOnly : UInt8 := 0x04

/-- Mapping parameters are read-only. -/
def mapReadOnly : UInt8 := 0x08

def has (r : PdoRestrictions) (flag : UInt8) : Bool := r.bits &&& flag != 0

/-- Do the flags allow a write in this operating state? -/
def check (r : PdoRestrictions) (readOnly locked : UInt8) (nmt : NmtState) :
    Except AbortCode Unit :=
  if r.has readOnly then .error .readOnly
  else if r.has locked && nmt == .operational then .error .cantStoreDeviceState
  else .ok ()

def checkComm (r : PdoRestrictions) (nmt : NmtState) : Except AbortCode Unit :=
  r.check commReadOnly commLocked nmt

def checkMap (r : PdoRestrictions) (nmt : NmtState) : Except AbortCode Unit :=
  r.check mapReadOnly mapLocked nmt

end PdoRestrictions

/-- The eight mapping parameters of a PDO. -/
@[ext] structure MappingTable where
  words : List UInt32
  length_eq : words.length = maxMappings
deriving DecidableEq, Repr

namespace MappingTable

def zero : MappingTable := ⟨List.replicate maxMappings 0, by simp⟩

def get? (t : MappingTable) (i : Nat) : Option UInt32 := t.words[i]?

/-- Replace the parameter at a position; positions from eight on are ignored. -/
def set (t : MappingTable) (i : Nat) (w : UInt32) : MappingTable :=
  ⟨t.words.set i w, by simp [t.length_eq]⟩

/-- Replace the leading parameters; those beyond the eighth are ignored. -/
def load (t : MappingTable) (ws : List UInt32) : MappingTable where
  words := ws.take maxMappings ++ t.words.drop ws.length
  length_eq := by
    have h := t.length_eq
    simp only [List.length_append, List.length_take, List.length_drop]
    omega

/-- The descriptors of the first `count` parameters. -/
def descriptors (t : MappingTable) (count : Nat) : List MappingDescriptor :=
  (t.words.take count).map MappingDescriptor.ofWord

theorem descriptors_load {t : MappingTable} {ws : List UInt32} (h : ws.length ≤ maxMappings) :
    (t.load ws).descriptors ws.length = ws.map MappingDescriptor.ofWord := by
  simp only [descriptors, load]
  rw [List.take_of_length_le h, List.take_left' rfl]

end MappingTable

/-- The stored parameters of a PDO. -/
structure PdoParams where
  /-- The identifier word, without the node identifier where it is the pre-defined one. -/
  cobId : CobIdWord
  transmissionType : TransmissionType
  /-- The pre-defined identifier, or zero if there is none. -/
  predefinedId : UInt16
  /-- What is added to the pre-defined identifier. -/
  nodeOffset : UInt8
  restrictions : PdoRestrictions
  mappingCount : UInt8
  mappings : MappingTable
deriving DecidableEq, Repr

namespace PdoParams

/-- A disabled PDO without mapping. -/
def fresh : PdoParams := ⟨.invalidBit, 0, 0, 0, .none, 0, .zero⟩

/-- The identifier word with the node identifier taken off, where it is the pre-defined one. -/
def stripNodeId (p : PdoParams) (w : CobIdWord) : CobIdWord :=
  if p.predefinedId ≠ 0 ∧ w.lowWord = p.predefinedId + p.nodeOffset.toUInt16 then
    (w &&& (.invalidBit ||| .bit30)) ||| p.predefinedId.toUInt32
  else w

/-- Store an identifier word. -/
def setCobId (p : PdoParams) (w : CobIdWord) : PdoParams := { p with cobId := p.stripNodeId w }

/-- Give the PDO its pre-defined identifier and the node identifier.  A PDO that was never
configured takes the pre-defined identifier, and stays disabled. -/
def assignIdentity (p : PdoParams) (predefinedId : UInt16) (offset : UInt8) : PdoParams :=
  let p := { p with predefinedId := predefinedId, nodeOffset := offset }
  if p.cobId = .invalidBit then p.setCobId (.invalidBit ||| predefinedId.toUInt32) else p

/-- Store mapping parameters; those beyond the eighth are ignored. -/
def setMappings (p : PdoParams) (ws : List UInt32) : PdoParams :=
  { p with
    mappings := p.mappings.load ws
    mappingCount := UInt8.ofNat (min ws.length maxMappings) }

/-- Check an identifier word that is to be written, and give the word to store.  While the PDO is
valid its identifier cannot be changed. -/
def checkCobIdWrite (p : PdoParams) (w : CobIdWord) (valid : Bool) : Except AbortCode CobIdWord :=
  if w.hasReservedBits then .error .invalidValue
  else
    let stored := p.stripNodeId w
    if valid && (stored ^^^ p.cobId) &&& .idFieldMask != 0 then .error .invalidValue
    else .ok stored

/-- The identifier word as it is read. -/
def reportedCobId (p : PdoParams) (valid : Bool) : CobIdWord :=
  let w :=
    if p.predefinedId ≠ 0 ∧ p.cobId.lowWord = p.predefinedId then
      p.cobId + p.nodeOffset.toUInt32
    else p.cobId
  if valid then w else w ||| .invalidBit

/-- The identifier in use under an identifier word, for a PDO of the given length; none if the PDO
cannot be valid. -/
def effectiveId (p : PdoParams) (w : CobIdWord) (dataLen : Nat) : Option UInt16 :=
  let id := w.standardId
  if w.isInvalid || w.hasReservedBits || dataLen == 0 || id == 0 then none
  else
    let id := if id = p.predefinedId then id + p.nodeOffset.toUInt16 else id
    if isRestrictedId id then none else some id

/-- Resolve the first `count` mapping parameters. -/
def resolve (p : PdoParams) (attributes : Attributes) (direction : Direction) (count : UInt8) :
    Except MappingError MappedPdo :=
  MappedPdo.resolve attributes direction (p.mappings.descriptors count.toNat)

end PdoParams

/-- Report a mapping that could not be resolved. -/
def ErrorStatus.reportMapping (e : ErrorStatus) (fault : MappingError) : ErrorStatus :=
  e.raise .pdoWrongMapping
    ((fault.object.index.toUInt32 <<< 16) ||| (fault.object.sub.toUInt32 <<< 8))

end Canopen
