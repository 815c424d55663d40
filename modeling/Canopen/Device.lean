import Canopen.Pdo.Receive
import Canopen.Pdo.Transmit
import Canopen.Sync.State

/-! # Devices

A device is the state that the receiving side, the ticks and the object dictionary share: the SYNC
object, the PDOs, the operating state, the error status, and the dictionary.  Until a node is
started on it, mapping parameters cannot be written. -/

namespace Canopen

/-- The state of a device. -/
structure Device where
  sync : SyncState
  rpdos : List Rpdo
  tpdos : List Tpdo
  nmt : NmtState
  errors : ErrorStatus
  dictionary : Dictionary
  /-- Has a node been started on the device? -/
  started : Bool
deriving DecidableEq, Repr

namespace Device

/-- A device with disabled PDOs. -/
def fresh (rpdos tpdos : Nat) (dictionary : Dictionary) : Device where
  sync := .fresh
  rpdos := List.replicate rpdos .fresh
  tpdos := List.replicate tpdos .fresh
  nmt := .bootup
  errors := .fresh
  dictionary := dictionary
  started := false

/-- What the objects of the device declare. -/
def attributes (d : Device) : Attributes := d.dictionary.attributes d.rpdos.length d.tpdos.length

def modifyRpdo (d : Device) (n : Nat) (f : Rpdo → Rpdo) : Device :=
  { d with rpdos := d.rpdos.modify n f }

def modifyTpdo (d : Device) (n : Nat) (f : Tpdo → Tpdo) : Device :=
  { d with tpdos := d.tpdos.modify n f }

/-- Ask a transmit PDO for a transmission. -/
def requestSend (d : Device) (n : Nat) : Device := d.modifyTpdo n Tpdo.requestSend

/-- Put some of the stored mapping parameters of a receive PDO into effect. -/
def configureRpdoMapping (d : Device) (n : Nat) (count : UInt8) :
    Except MappingError Unit × Device :=
  match d.rpdos[n]? with
  | none => (.ok (), d)
  | some r =>
    let mapped := r.configureMapping d.attributes count d.errors
    (mapped.outcome, { d with rpdos := d.rpdos.set n mapped.pdo, errors := mapped.errors })

/-- Put some of the stored mapping parameters of a transmit PDO into effect. -/
def configureTpdoMapping (d : Device) (n : Nat) (count : UInt8) :
    Except MappingError Unit × Device :=
  match d.tpdos[n]? with
  | none => (.ok (), d)
  | some t =>
    let mapped := t.configureMapping d.attributes count d.errors
    (mapped.outcome, { d with tpdos := d.tpdos.set n mapped.pdo, errors := mapped.errors })

/-- Put all stored parameters of receive PDOs into effect, in order. -/
def resetRpdos (attributes : Attributes) : List Rpdo → ErrorStatus → List Rpdo × ErrorStatus
  | [], errors => ([], errors)
  | r :: rs, errors =>
    let (r, errors) := r.reset attributes errors
    let (rs, errors) := resetRpdos attributes rs errors
    (r :: rs, errors)

/-- Put all stored parameters of transmit PDOs into effect, in order. -/
def resetTpdos (attributes : Attributes) : List Tpdo → ErrorStatus → List Tpdo × ErrorStatus
  | [], errors => ([], errors)
  | t :: ts, errors =>
    let (t, errors) := t.reset attributes errors
    let (ts, errors) := resetTpdos attributes ts errors
    (t :: ts, errors)

/-- Bring the SYNC object and all PDOs into running state from their stored parameters. -/
def resetCommunication (d : Device) : Device :=
  let (rpdos, errors) := resetRpdos d.attributes d.rpdos d.errors
  let (tpdos, errors) := resetTpdos d.attributes d.tpdos errors
  { d with sync := d.sync.reset, rpdos := rpdos, tpdos := tpdos, errors := errors }

/-- Put all stored parameters of one receive PDO into effect. -/
def resetRpdo (d : Device) (n : Nat) : Device :=
  match d.rpdos[n]? with
  | none => d
  | some r =>
    let (r, errors) := r.reset d.attributes d.errors
    { d with rpdos := d.rpdos.set n r, errors := errors }

/-- Put all stored parameters of one transmit PDO into effect. -/
def resetTpdo (d : Device) (n : Nat) : Device :=
  match d.tpdos[n]? with
  | none => d
  | some t =>
    let (t, errors) := t.reset d.attributes d.errors
    { d with tpdos := d.tpdos.set n t, errors := errors }

/-- Give all PDOs their pre-defined identifiers and the node identifier. -/
def assignIdentity (d : Device) (offset : UInt8) : Device :=
  { d with
    rpdos := d.rpdos.mapIdx fun n r =>
      { r with params := r.params.assignIdentity (predefinedRpdoId n) offset }
    tpdos := d.tpdos.mapIdx fun n t =>
      { t with params := t.params.assignIdentity (predefinedTpdoId n) offset } }

end Device

end Canopen
