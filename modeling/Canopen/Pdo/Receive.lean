import Canopen.Can.Frame
import Canopen.Mapping.Transfer
import Canopen.Pdo.Params

/-! # Receive PDOs

A received frame is staged first and committed to the mapped objects by a later tick.  An
asynchronous PDO stages into the first slot, and every tick commits it.  A synchronous PDO uses both
slots in turn, told apart by the SYNC toggle: frames go into one slot while the other holds those of
the cycle before, and the tick after a SYNC commits the slot that was filled before that SYNC. -/

namespace Canopen

/-- One of the two places for a staged frame. -/
inductive Slot where
  | first
  | second
deriving DecidableEq, Repr

namespace Slot

/-- The slot that frames are staged into. -/
def forWriting (synchronous toggle : Bool) : Slot :=
  if synchronous && !toggle then second else first

/-- The slot that a tick commits.  The toggle has flipped since it was filled. -/
def forCommit (synchronous toggle : Bool) : Slot := forWriting synchronous !toggle

end Slot

/-- The staged frames. -/
structure Slots where
  first : Option Payload
  second : Option Payload
deriving DecidableEq, Repr

namespace Slots

/-- Nothing is staged. -/
def none : Slots := ⟨.none, .none⟩

def get (s : Slots) : Slot → Option Payload
  | .first => s.first
  | .second => s.second

/-- The slots with the content of one replaced. -/
def set (s : Slots) (slot : Slot) (p : Option Payload) : Slots :=
  match slot with
  | .first => { s with first := p }
  | .second => { s with second := p }

@[simp] theorem get_none (slot : Slot) : none.get slot = .none := by cases slot <;> rfl

@[simp] theorem get_set (s : Slots) (slot other : Slot) (p : Option Payload) :
    (s.set slot p).get other = if other = slot then p else s.get other := by
  cases slot <;> cases other <;> rfl

def isPending (s : Slots) : Bool := s.first.isSome || s.second.isSome

end Slots

/-- A receive PDO. -/
structure Rpdo where
  params : PdoParams
  valid : Bool
  /-- Is received data committed at the SYNC? -/
  synchronous : Bool
  /-- The identifier that is received, if the PDO is valid. -/
  cobId : Option CanId
  mapping : MappedPdo
  slots : Slots
deriving DecidableEq, Repr

/-- A PDO after a change of its mapping. -/
structure Remapped (α : Type) where
  pdo : α
  errors : ErrorStatus
  outcome : Except MappingError Unit

namespace Rpdo

/-- A disabled PDO. -/
def fresh : Rpdo := ⟨.fresh, false, false, none, .empty, .none⟩

/-- Does received data wait to be committed? -/
def hasPendingData (r : Rpdo) : Bool := r.slots.isPending

/-- Put the first `count` mapping parameters into effect.  If they cannot be resolved, that is
reported and nothing is mapped any more. -/
def configureMapping (r : Rpdo) (attributes : Attributes) (count : UInt8) (errors : ErrorStatus) :
    Remapped Rpdo :=
  match r.params.resolve attributes .receive count with
  | .ok mapping => ⟨{ r with mapping := mapping }, errors, .ok ()⟩
  | .error e => ⟨{ r with mapping := .empty }, errors.reportMapping e, .error e⟩

/-- Put an identifier word into effect.  The PDO becomes valid if it is enabled, its identifier is
allowed, and something is mapped; otherwise staged frames are dropped. -/
def configureCommunication (r : Rpdo) (w : CobIdWord) : Rpdo :=
  let id := r.params.effectiveId w r.mapping.dataLen
  { r with
    valid := id.isSome
    cobId := id.map .std
    synchronous := r.params.transmissionType.isSynchronous
    slots := if id.isSome then r.slots else .none }

/-- Store an identifier word and put it into effect. -/
def applyCobId (r : Rpdo) (w : CobIdWord) : Rpdo :=
  { r with params := r.params.setCobId w }.configureCommunication w

/-- Store a transmission type and put it into effect.  When the PDO becomes synchronous or
asynchronous, the slot that only synchronous PDOs use is emptied. -/
def applyTransmissionType (r : Rpdo) (t : TransmissionType) : Rpdo :=
  { r with
    params := { r.params with transmissionType := t }
    synchronous := t.isSynchronous
    slots := if r.synchronous = t.isSynchronous then r.slots else r.slots.set .second none }

/-- Put all stored parameters into effect. -/
def reset (r : Rpdo) (attributes : Attributes) (errors : ErrorStatus) : Rpdo × ErrorStatus :=
  let mapped := r.configureMapping attributes r.params.mappingCount errors
  (mapped.pdo.configureCommunication mapped.pdo.params.cobId, mapped.errors)

/-- Does the PDO take frames of this length in this operating state? -/
def isReceptive (r : Rpdo) (dlc : UInt8) (nmt : NmtState) : Bool :=
  r.valid && nmt == .operational && r.mapping.dataLen ≤ dlc.toNat

/-- Stage a received frame, and say whether it was accepted; `toggle` is the SYNC toggle. -/
def receive (r : Rpdo) (f : Frame) (nmt : NmtState) (toggle : Bool) : Bool × Rpdo :=
  if r.isReceptive f.dlc nmt then
    (true, { r with slots := r.slots.set (.forWriting r.synchronous toggle) (some f.data) })
  else (false, r)

/-- The payload that a tick commits, and the PDO without it. -/
def take (r : Rpdo) (syncOccurred toggle : Bool) (nmt : NmtState) : Option Payload × Rpdo :=
  if r.valid && nmt == .operational then
    if r.synchronous && !syncOccurred then (none, r)
    else
      let slot := Slot.forCommit r.synchronous toggle
      (r.slots.get slot, { r with slots := r.slots.set slot none })
  else (none, { r with slots := .none })

/-- Commit a payload to the mapped objects. -/
def commit (r : Rpdo) (d : Dictionary) (payload : Option Payload) : Dictionary :=
  match payload with
  | some p => r.mapping.scatter d p.bytes
  | none => d

/-- Run a tick: the payload that was committed, the PDO, and the objects. -/
def process (r : Rpdo) (d : Dictionary) (syncOccurred toggle : Bool) (nmt : NmtState) :
    Option Payload × Rpdo × Dictionary :=
  let (payload, r) := r.take syncOccurred toggle nmt
  (payload, r, r.commit d payload)

end Rpdo

end Canopen
