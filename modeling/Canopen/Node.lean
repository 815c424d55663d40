import Canopen.Config
import Canopen.Device.Access
import Canopen.Device.Reception
import Canopen.Device.Tick
import Canopen.NodeId

/-! # Nodes

A node is a device with a node identifier and a clock.  Starting a node, changing its identifier and
loading a configuration all end with a communication reset, which brings the stored parameters into
effect. -/

namespace Canopen

/-- A node. -/
structure Node where
  id : NodeId
  /-- When the last tick was run. -/
  lastTick : Option UInt64
  device : Device
deriving DecidableEq, Repr

namespace RpdoConfig

/-- Store the parameters of a configuration. -/
def apply (c : RpdoConfig) (r : Rpdo) : Rpdo :=
  let params := r.params.setCobId (c.cobId.getD r.params.predefinedId.toUInt32)
  let params := { params with transmissionType := c.transmissionType }.setMappings c.mappings
  { r with params := { params with restrictions := ⟨c.restrictions⟩ } }

end RpdoConfig

namespace TpdoConfig

/-- Store the parameters of a configuration. -/
def apply (c : TpdoConfig) (t : Tpdo) : Tpdo :=
  let params := t.params.setCobId (c.cobId.getD t.params.predefinedId.toUInt32)
  let params := { params with transmissionType := c.transmissionType }.setMappings c.mappings
  { t with
    params := { params with restrictions := ⟨c.restrictions⟩ }
    inhibitTime := c.inhibitTime
    eventTime := c.eventTimer
    syncStart := c.syncStart }

end TpdoConfig

/-- Apply the entries of a configuration to the items at the same positions.  Entries beyond the
last item are ignored, items beyond the last entry stay as they are. -/
def applyEach {α β : Type} (apply : α → β → β) : List α → List β → List β
  | c :: cs, x :: xs => apply c x :: applyEach apply cs xs
  | _, xs => xs

@[simp] theorem length_applyEach {α β : Type} (apply : α → β → β) (cs : List α) (xs : List β) :
    (applyEach apply cs xs).length = xs.length := by
  induction cs generalizing xs with
  | nil => simp [applyEach]
  | cons c cs ih =>
    cases xs with
    | nil => simp [applyEach]
    | cons x xs => simp [applyEach, ih]

/-- Store the parameters of a configuration. -/
def SyncConfig.apply (c : SyncConfig) (s : SyncState) : SyncState :=
  { s with
    cobIdWord := c.cobId
    period := c.periodUs
    window := c.windowUs
    counterOverflow := c.counterOverflow }

namespace Node

def assignIdentity (n : Node) : Node :=
  { n with device := n.device.assignIdentity n.id.offset }

/-- Bring the stored parameters into effect. -/
def resetCommunication (n : Node) : Node := { n with device := n.device.resetCommunication }

/-- Start a node on a device. -/
def start (id : NodeId) (d : Device) : Node :=
  Node.resetCommunication (Node.assignIdentity ⟨id, none, { d with started := true }⟩)

def setNodeId (n : Node) (id : NodeId) : Node :=
  resetCommunication (assignIdentity { n with id := id })

def setNmtState (n : Node) (nmt : NmtState) : Node :=
  { n with device := { n.device with nmt := nmt } }

/-- Run a tick at the given reading of the clock. -/
def tick {σ : Type} [Transport σ] (n : Node) (now : UInt64) (link : σ) : TickReport × Node × σ :=
  let (report, device, link) := n.device.tick (Micros.elapsed n.lastTick now) link
  (report, { n with lastTick := some now, device := device }, link)

/-- Take a frame from the bus. -/
def receive (n : Node) (f : Frame) : Reception × Node :=
  let (reception, device) := n.device.receive f
  (reception, { n with device := device })

/-- Write a whole value of the object dictionary. -/
def write (n : Node) (id : ObjectId) (data : Bytes) : WriteOutcome × Node :=
  let (outcome, device) := n.device.write id data
  (outcome, { n with device := device })

def requestSend (n : Node) (pdo : Nat) : Node := { n with device := n.device.requestSend pdo }

/-- Apply a configuration.  A node identifier that is none, and entries for PDOs that the node does
not have, are ignored. -/
def loadConfig (n : Node) (c : DeviceConfig) : Node :=
  let n :=
    match NodeId.ofRaw c.nodeId with
    | .ok id => { n with id := id }
    | .error _ => n
  let n := n.assignIdentity
  let d := n.device
  resetCommunication
    { n with
      device :=
        { d with
          sync := c.sync.apply d.sync
          rpdos := applyEach RpdoConfig.apply c.rpdos d.rpdos
          tpdos := applyEach TpdoConfig.apply c.tpdos d.tpdos } }

end Node

end Canopen
