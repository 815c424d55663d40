import Canopen.Mapping.Descriptor
import Canopen.Mapping.Resolve
import Canopen.Pdo.TransmissionType
import Canopen.Sync.Message

/-! # Device configurations

The values that the SYNC and PDO parameters of a device start with.  `validate` names the first rule
that a configuration violates, in the order of its parts. -/

namespace Canopen

/-- The parameters of the SYNC. -/
structure SyncConfig where
  cobId : UInt32
  periodUs : UInt32
  windowUs : UInt32
  counterOverflow : UInt8
deriving DecidableEq, Repr

/-- A consumer of the default identifier. -/
def SyncConfig.initial : SyncConfig := ⟨defaultSyncId.toUInt32, 0, 0, 0⟩

/-- The parameters of a receive PDO. -/
structure RpdoConfig where
  /-- The identifier word; the pre-defined identifier if there is none. -/
  cobId : Option UInt32
  transmissionType : UInt8
  mappings : List UInt32
  restrictions : UInt8
deriving DecidableEq, Repr

/-- An event driven PDO without mapping. -/
def RpdoConfig.initial : RpdoConfig := ⟨none, 254, [], 0⟩

/-- The parameters of a transmit PDO. -/
structure TpdoConfig where
  /-- The identifier word; the pre-defined identifier if there is none. -/
  cobId : Option UInt32
  transmissionType : UInt8
  inhibitTime : UInt16
  eventTimer : UInt16
  syncStart : UInt8
  mappings : List UInt32
  restrictions : UInt8
deriving DecidableEq, Repr

/-- An event driven PDO without mapping. -/
def TpdoConfig.initial : TpdoConfig := ⟨none, 254, 0, 0, 0, [], 0⟩

/-- The configuration of a device. -/
structure DeviceConfig where
  nodeId : UInt8
  sync : SyncConfig
  rpdos : List RpdoConfig
  tpdos : List TpdoConfig
deriving DecidableEq, Repr

/-- A device without node identifier and without PDO parameters. -/
def DeviceConfig.initial : DeviceConfig := ⟨255, .initial, [], []⟩

/-- The name of a PDO: its direction and its position. -/
structure PdoName where
  direction : Direction
  n : Nat
deriving DecidableEq, Repr

def PdoName.describe (p : PdoName) : String :=
  (match p.direction with
    | .receive => "RPDO"
    | .transmit => "TPDO") ++ toString p.n

/-- A violated rule. -/
inductive ConfigError where
  | invalidNodeId (value : UInt8)
  | invalidCounterOverflow (value : UInt8)
  | tooManyMappings (pdo : PdoName) (count : Nat)
  | invalidTransmissionType (pdo : PdoName) (value : UInt8)
  | invalidSyncStart (pdo : PdoName) (value : UInt8)
deriving DecidableEq, Repr

def ConfigError.message : ConfigError → String
  | .invalidNodeId value =>
    s!"Invalid node ID {value.toNat}. Must be 1-127, or 255 for unconfigured"
  | .invalidCounterOverflow value =>
    s!"Invalid SYNC counter overflow {value.toNat}. Must be 0 or 2-240"
  | .tooManyMappings pdo count =>
    pdo.describe ++ s!" has {count} mappings, but at most {maxMappings} are allowed"
  | .invalidTransmissionType pdo value =>
    pdo.describe ++ s!" has invalid transmission type {value.toNat}"
  | .invalidSyncStart pdo value =>
    pdo.describe ++ s!" has invalid SYNC start value {value.toNat}"

/-- The rules for every PDO. -/
def checkPdoConfig (pdo : PdoName) (mappings : List UInt32) (type : TransmissionType) :
    Except ConfigError Unit :=
  if maxMappings < mappings.length then .error (.tooManyMappings pdo mappings.length)
  else if type.isReserved then .error (.invalidTransmissionType pdo type)
  else .ok ()

def RpdoConfig.validate (c : RpdoConfig) (n : Nat) : Except ConfigError Unit :=
  checkPdoConfig ⟨.receive, n⟩ c.mappings c.transmissionType

def TpdoConfig.validate (c : TpdoConfig) (n : Nat) : Except ConfigError Unit := do
  checkPdoConfig ⟨.transmit, n⟩ c.mappings c.transmissionType
  if syncStartMax < c.syncStart then throw (.invalidSyncStart ⟨.transmit, n⟩ c.syncStart)

/-- The first error of a list of entries, each checked with its position. -/
def validateEntries {α : Type} (check : α → Nat → Except ConfigError Unit) :
    List α → Nat → Except ConfigError Unit
  | [], _ => .ok ()
  | c :: cs, n => do
    check c n
    validateEntries check cs (n + 1)

def DeviceConfig.validate (c : DeviceConfig) : Except ConfigError Unit := do
  if ¬(1 ≤ c.nodeId ∧ c.nodeId ≤ 127) ∧ c.nodeId ≠ 255 then throw (.invalidNodeId c.nodeId)
  let overflow := c.sync.counterOverflow
  if overflow = 1 ∨ syncStartMax < overflow then throw (.invalidCounterOverflow overflow)
  validateEntries RpdoConfig.validate c.rpdos 0
  validateEntries TpdoConfig.validate c.tpdos 0

end Canopen
