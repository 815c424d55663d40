import Canopen.Device

/-! # Reception

A frame from the bus belongs to the SYNC object, if it carries its identifier, or else to the first
valid receive PDO with that identifier.  Every other frame is not consumed.  `filters` lists the
identifiers of consumed frames. -/

namespace Canopen

/-- What became of a received frame. -/
inductive Reception where
  /-- The frame is not for this device. -/
  | unclaimed
  /-- The frame went to the SYNC object. -/
  | sync (accepted : Bool)
  /-- The frame went to a receive PDO. -/
  | rpdo (n : Nat) (accepted : Bool)
deriving DecidableEq, Repr

namespace Reception

def isConsumed : Reception → Bool
  | unclaimed => false
  | sync _ | rpdo _ _ => true

/-- Is the application to be told that a tick is needed? -/
def notifies : Reception → Bool
  | sync accepted => accepted
  | unclaimed | rpdo _ _ => false

end Reception

namespace Device

/-- Take a frame from the bus. -/
def receive (d : Device) (f : Frame) : Reception × Device :=
  if f.id = d.sync.cobId then
    let (accepted, sync) := d.sync.receive f d.nmt
    (.sync accepted, { d with sync := sync })
  else
    match d.rpdos.findIdx? fun r => r.cobId == some f.id with
    | none => (.unclaimed, d)
    | some n =>
      match d.rpdos[n]? with
      | none => (.unclaimed, d)
      | some r =>
        let (accepted, r) := r.receive f d.nmt d.sync.toggle
        (.rpdo n accepted, { d with rpdos := d.rpdos.set n r })

/-- The identifiers of the frames that the device consumes. -/
def filters (d : Device) : List CanId := d.sync.cobId :: d.rpdos.filterMap Rpdo.cobId

end Device

end Canopen
