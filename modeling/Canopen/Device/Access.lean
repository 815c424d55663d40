import Canopen.Device

/-! # Access to the object dictionary

Reading and writing the objects of a device.  Application objects hold their values themselves;
parameter objects show parameters of the SYNC and of the PDOs.  A write of a parameter is checked
first and takes effect at once.

A refused write leaves the device as it is, with one exception: a mapping that cannot be resolved
when its number of entries is written is reported, and leaves the PDO without a mapping. -/

namespace Canopen

/-- Part of a value, for a reader that asks for `len` bytes from `offset` on.  A position beyond the
end is refused. -/
def readPart (value : Bytes) (offset len : Nat) : Except AbortCode Bytes :=
  if value.length < offset then .error .lengthTooHigh else .ok (value.window offset len)

def byteOfData (data : Bytes) : Except AbortCode UInt8 :=
  (checkLength data 1).map fun _ => data.toUInt8

def halfOfData (data : Bytes) : Except AbortCode UInt16 :=
  (checkLength data 2).map fun _ => data.toUInt16

def wordOfData (data : Bytes) : Except AbortCode UInt32 :=
  (checkLength data 4).map fun _ => data.toUInt32

namespace SyncState

/-- The bytes of a SYNC parameter. -/
def parameterBytes (s : SyncState) : Parameter → Bytes
  | .syncPeriod => .ofUInt32 s.period
  | .syncWindow => .ofUInt32 s.window
  | .syncOverflow => [s.counterOverflow]
  | _ => .ofUInt32 s.cobIdWord

def writeParameter (s : SyncState) (p : Parameter) (data : Bytes) :
    Except AbortCode SyncState := do
  match p with
  | .syncPeriod => return s.writePeriod (← wordOfData data)
  | .syncWindow => return { s with window := ← wordOfData data }
  | .syncOverflow => s.writeCounterOverflow (← byteOfData data)
  | _ => s.writeCobId (← wordOfData data)

end SyncState

/-- A permitted write of mapping parameters. -/
inductive MappingWrite where
  /-- Put so many entries into effect. -/
  | count (n : UInt8)
  /-- Store an entry at a position from zero on. -/
  | entry (i : Nat) (w : UInt32)
deriving DecidableEq, Repr

/-- The value of a sub object of a mapping object.  The number of entries is zero while nothing is
mapped. -/
def mappingBytes (params : PdoParams) (mapping : MappedPdo) (sub : UInt8) :
    Except AbortCode Bytes :=
  if sub = 0 then .ok [if mapping.dataLen = 0 then 0 else params.mappingCount]
  else
    match params.mappings.get? (sub.toNat - 1) with
    | some w => .ok (.ofUInt32 w)
    | none => .error .noSuchSubIndex

/-- Check a write to a mapping object.  Mapping parameters can be written only while the PDO is
disabled, and entries only while nothing is mapped. -/
def checkMappingWrite (params : PdoParams) (valid : Bool) (mapping : MappedPdo)
    (direction : Direction) (attributes : Attributes) (started : Bool) (nmt : NmtState)
    (sub : UInt8) (data : Bytes) : Except AbortCode MappingWrite := do
  let _ ← (Parameter.rpdoMap 0).subInfo sub
  params.restrictions.checkMap nmt
  if valid then throw .invalidValue
  if !started then throw .resourceNotAvailable
  if sub = 0 then
    let count ← byteOfData data
    if maxMappings < count.toNat then throw .valueTooHigh
    return .count count
  else
    let w ← wordOfData data
    if mapping.dataLen ≠ 0 then throw .invalidValue
    match resolveEntry attributes direction (.ofWord w) 0 with
    | .ok _ => return .entry (sub.toNat - 1) w
    | .error e => throw e.abort

namespace PdoParams

def setMapping (p : PdoParams) (i : Nat) (w : UInt32) : PdoParams :=
  { p with mappings := p.mappings.set i w }

end PdoParams

/-- A transmission type in written data. -/
def transmissionTypeOfData (data : Bytes) : Except AbortCode TransmissionType := do
  let t : TransmissionType ← byteOfData data
  if t.isReserved then throw .invalidValue
  return t

namespace Rpdo

/-- The value of a sub object of the communication object. -/
def commBytes (r : Rpdo) (sub : UInt8) : Except AbortCode Bytes :=
  if sub = 0 then .ok [Parameter.rpdoCommSubs]
  else if sub = 1 then .ok (.ofUInt32 (r.params.reportedCobId r.valid))
  else if sub = 2 then .ok [r.params.transmissionType]
  else .error .noSuchSubIndex

/-- Write a sub object of the communication object. -/
def writeComm (r : Rpdo) (nmt : NmtState) (sub : UInt8) (data : Bytes) :
    Except AbortCode Rpdo := do
  r.params.restrictions.checkComm nmt
  if sub = 1 then
    let w ← r.params.checkCobIdWrite (← wordOfData data) r.valid
    return r.applyCobId w
  else if sub = 2 then
    return r.applyTransmissionType (← transmissionTypeOfData data)
  else throw .noSuchSubIndex

/-- Carry out a write of mapping parameters. -/
def applyMapping (r : Rpdo) (attributes : Attributes) (errors : ErrorStatus) :
    MappingWrite → Remapped Rpdo
  | .count n =>
    let mapped := r.configureMapping attributes n errors
    match mapped.outcome with
    | .ok () =>
      { mapped with
        pdo := { mapped.pdo with params := { mapped.pdo.params with mappingCount := n } } }
    | .error _ => mapped
  | .entry i w => ⟨{ r with params := r.params.setMapping i w }, errors, .ok ()⟩

end Rpdo

namespace Tpdo

/-- The value of a sub object of the communication object. -/
def commBytes (t : Tpdo) (sub : UInt8) : Except AbortCode Bytes :=
  if sub = 0 then .ok [Parameter.tpdoCommSubs]
  else if sub = 1 then .ok (.ofUInt32 (t.params.reportedCobId t.valid))
  else if sub = 2 then .ok [t.params.transmissionType]
  else if sub = 3 then .ok (.ofUInt16 t.inhibitTime)
  else if sub = 5 then .ok (.ofUInt16 t.eventTime)
  else if sub = 6 then .ok [t.syncStart]
  else .error .noSuchSubIndex

/-- Write a sub object of the communication object. -/
def writeComm (t : Tpdo) (nmt : NmtState) (sub : UInt8) (data : Bytes) :
    Except AbortCode Tpdo := do
  t.params.restrictions.checkComm nmt
  if sub = 1 then
    let w ← t.params.checkCobIdWrite (← wordOfData data) t.valid
    return t.applyCobId w
  else if sub = 2 then
    return t.applyTransmissionType (← transmissionTypeOfData data)
  else if sub = 3 then
    let time ← halfOfData data
    if t.valid then throw .invalidValue
    return t.applyInhibitTime time
  else if sub = 5 then
    return t.applyEventTime (← halfOfData data)
  else if sub = 6 then
    let start ← byteOfData data
    if t.valid || syncStartMax < start then throw .invalidValue
    return { t with syncStart := start }
  else throw .noSuchSubIndex

/-- Carry out a write of mapping parameters. -/
def applyMapping (t : Tpdo) (attributes : Attributes) (errors : ErrorStatus) :
    MappingWrite → Remapped Tpdo
  | .count n =>
    let mapped := t.configureMapping attributes n errors
    match mapped.outcome with
    | .ok () =>
      { mapped with
        pdo := { mapped.pdo with params := { mapped.pdo.params with mappingCount := n } } }
    | .error _ => mapped
  | .entry i w => ⟨{ t with params := t.params.setMapping i w }, errors, .ok ()⟩

end Tpdo

/-- The answer to a write. -/
abbrev WriteOutcome := Except AbortCode Unit

/-- How a failed or successful mapping is answered to the writer. -/
def mappingOutcome : Except MappingError Unit → WriteOutcome
  | .ok () => .ok ()
  | .error e => .error e.abort

namespace Device

def rpdo (d : Device) (n : Nat) : Except AbortCode Rpdo :=
  match d.rpdos[n]? with
  | some r => .ok r
  | none => .error .resourceNotAvailable

def tpdo (d : Device) (n : Nat) : Except AbortCode Tpdo :=
  match d.tpdos[n]? with
  | some t => .ok t
  | none => .error .resourceNotAvailable

/-- The value of a sub object of a parameter object. -/
def parameterBytes (d : Device) (p : Parameter) (sub : UInt8) : Except AbortCode Bytes := do
  match p with
  | .rpdoComm n => (← d.rpdo n).commBytes sub
  | .tpdoComm n => (← d.tpdo n).commBytes sub
  | .rpdoMap n =>
    let r ← d.rpdo n
    mappingBytes r.params r.mapping sub
  | .tpdoMap n =>
    let t ← d.tpdo n
    mappingBytes t.params t.mapping sub
  | _ => if sub = 0 then .ok (d.sync.parameterBytes p) else .error .noSuchSubIndex

def object (d : Device) (index : UInt16) : Except AbortCode Object :=
  match d.dictionary.find? index with
  | some o => .ok o
  | none => .error .noSuchObject

def objectCode (d : Device) (index : UInt16) : Except AbortCode ObjectCode :=
  (d.object index).map fun
    | .application o => o.layout.code
    | .parameter p => p.code

def maxSub (d : Device) (index : UInt16) : Except AbortCode UInt8 :=
  (d.object index).map fun o => (o.attributes d.rpdos.length d.tpdos.length).maxSub

def subInfo (d : Device) (id : ObjectId) : Except AbortCode SubInfo := do
  match ← d.object id.index with
  | .application o => o.subInfo id.sub
  | .parameter p => p.subInfo id.sub

/-- Read at most `len` bytes of a value from `offset` on. -/
def read (d : Device) (id : ObjectId) (offset len : Nat) : Except AbortCode Bytes := do
  match ← d.object id.index with
  | .application o => o.read id.sub offset len
  | .parameter p => readPart (← d.parameterBytes p id.sub) offset len

/-- Read a value into a buffer: the number of bytes read, and the buffer with its leading bytes
replaced by them. -/
def readInto (d : Device) (id : ObjectId) (offset : Nat) (buffer : Bytes) :
    Except AbortCode (Nat × Bytes) :=
  (d.read id offset buffer.length).map fun data => (data.length, data.overlay buffer)

/-- Read the leading bytes of a value as a number, with zeros for the bytes it does not have. -/
def readNumber (d : Device) (id : ObjectId) (width : Nat) : Except AbortCode Nat :=
  (d.read id 0 width).map Bytes.toNat

/-- The number of bytes that can be read. -/
def readSize (d : Device) (id : ObjectId) : Except AbortCode Nat := do
  match ← d.object id.index with
  | .application o => o.readSize id.sub
  | .parameter p => (p.subInfo id.sub).map SubInfo.size

/-- The device with the answer to a write that was refused or gave new state. -/
def answer {α : Type} (d : Device) (result : Except AbortCode α) (put : α → Device) :
    WriteOutcome × Device :=
  match result with
  | .ok a => (.ok (), put a)
  | .error e => (.error e, d)

/-- A write to the communication object of a PDO addresses a sub object that can be written. -/
def checkCommSub (p : Parameter) (sub : UInt8) : Except AbortCode Unit := do
  if (← p.subInfo sub).access.isWritable then return else throw .readOnly

def writeRpdoMap (d : Device) (n : Nat) (sub : UInt8) (data : Bytes) : WriteOutcome × Device :=
  match d.rpdo n with
  | .error e => (.error e, d)
  | .ok r =>
    match checkMappingWrite r.params r.valid r.mapping .receive d.attributes d.started d.nmt sub
        data with
    | .error e => (.error e, d)
    | .ok write =>
      let mapped := r.applyMapping d.attributes d.errors write
      (mappingOutcome mapped.outcome,
        { d with rpdos := d.rpdos.set n mapped.pdo, errors := mapped.errors })

def writeTpdoMap (d : Device) (n : Nat) (sub : UInt8) (data : Bytes) : WriteOutcome × Device :=
  match d.tpdo n with
  | .error e => (.error e, d)
  | .ok t =>
    match checkMappingWrite t.params t.valid t.mapping .transmit d.attributes d.started d.nmt sub
        data with
    | .error e => (.error e, d)
    | .ok write =>
      let mapped := t.applyMapping d.attributes d.errors write
      (mappingOutcome mapped.outcome,
        { d with tpdos := d.tpdos.set n mapped.pdo, errors := mapped.errors })

def writeParameter (d : Device) (p : Parameter) (sub : UInt8) (data : Bytes) :
    WriteOutcome × Device :=
  match p with
  | .rpdoMap n => d.writeRpdoMap n sub data
  | .tpdoMap n => d.writeTpdoMap n sub data
  | .rpdoComm n =>
    d.answer
      (do
        checkCommSub p sub
        (← d.rpdo n).writeComm d.nmt sub data)
      fun r => { d with rpdos := d.rpdos.set n r }
  | .tpdoComm n =>
    d.answer
      (do
        checkCommSub p sub
        (← d.tpdo n).writeComm d.nmt sub data)
      fun t => { d with tpdos := d.tpdos.set n t }
  | _ =>
    d.answer
      (do
        let _ ← p.subInfo sub
        d.sync.writeParameter p data)
      fun s => { d with sync := s }

/-- The device with an application object replaced. -/
def setApplication (d : Device) (index : UInt16) (o : AppObject) : Device :=
  { d with dictionary := d.dictionary.set index o }

/-- Write a whole value. -/
def write (d : Device) (id : ObjectId) (data : Bytes) : WriteOutcome × Device :=
  match d.object id.index with
  | .error e => (.error e, d)
  | .ok (.application o) => d.answer (o.write id.sub data) (d.setApplication id.index)
  | .ok (.parameter p) => d.writeParameter p id.sub data

/-- Write the leading bytes of a value and keep the others. -/
def writeLeading (d : Device) (id : ObjectId) (data : Bytes) : WriteOutcome × Device :=
  match d.object id.index with
  | .error e => (.error e, d)
  | .ok (.application o) => d.answer (o.writeLeading id.sub data) (d.setApplication id.index)
  | .ok (.parameter p) =>
    let value : Except AbortCode Bytes := do
      completeValue (← p.subInfo id.sub).size (d.read id 0) data
    match value with
    | .error e => (.error e, d)
    | .ok value => d.writeParameter p id.sub value

/-- The value of a variable, or of an element of an array, as the application sees it. -/
def load (d : Device) (index : UInt16) (i : Nat) : Option ScalarValue :=
  (d.dictionary.application? index).bind fun o => o.load i

/-- Set the value of a variable, or of an element of an array. -/
def store (d : Device) (index : UInt16) (i : Nat) (v : ScalarValue) : Device :=
  match d.dictionary.application? index with
  | some o => d.setApplication index (o.store i v)
  | none => d

end Device

end Canopen
