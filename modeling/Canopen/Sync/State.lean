import Canopen.Micros
import Canopen.Nmt
import Canopen.Pdo.CobId
import Canopen.Pdo.TransmissionType
import Canopen.Sync.Message
import Canopen.Abort

/-! # The SYNC object

The SYNC is the common time base of synchronous PDOs.  One node of the network produces it, the
others consume it.  A received SYNC is noted when it arrives (`receive`) and takes effect at the
next tick (`advance`); a produced one is decided by the tick itself.  Every SYNC flips a toggle,
which synchronous receive PDOs use to keep the frames of one cycle apart from those of the next.

`advance` decides everything about a tick that does not depend on the transport: the new state, the
event, the frame to send, and what is to be said about the supervision of the SYNC. -/

namespace Canopen

/-- What a tick found out about the SYNC. -/
inductive SyncEvent where
  | none
  /-- A SYNC was received or produced. -/
  | sync
  /-- The synchronous window has passed since the last SYNC. -/
  | windowViolated
deriving DecidableEq, Repr

/-- The time after which a SYNC is missing: one and a half periods, or the longest time there is
where that is no 32-bit number. -/
def syncTimeout (period : Micros) : Micros :=
  let timeout := period / 2 * 3
  if timeout < period then .longest else timeout

/-- The parameters and the running state of the SYNC object. -/
structure SyncState where
  /-- The identifier word; bit 30 makes the node the producer. -/
  cobIdWord : CobIdWord
  period : Micros
  window : Micros
  /-- The highest value of the counter, or zero for a SYNC without counter. -/
  counterOverflow : UInt8
  producer : Bool
  timeout : Micros
  counter : UInt8
  /-- The time since the last SYNC. -/
  timer : Micros
  /-- Has a SYNC been received since the last tick? -/
  received : Bool
  /-- Flips at every SYNC. -/
  toggle : Bool
  insideWindow : Bool
  /-- The length of a malformed SYNC received since the last tick, marked with what was expected;
  zero if there was none. -/
  receiveError : UInt16
deriving DecidableEq, Repr

/-- What a tick says about the supervision of the SYNC. -/
inductive Supervision where
  /-- The SYNC is missing. -/
  | missing
  /-- The SYNC is there, or is not supervised. -/
  | present
  | unchanged
deriving DecidableEq, Repr

/-- The decisions of a tick. -/
structure SyncTick where
  next : SyncState
  event : SyncEvent
  /-- The SYNC message to send. -/
  frame : Option Frame
  supervision : Supervision
  /-- The malformed SYNC to report. -/
  lengthError : Option UInt16
deriving DecidableEq, Repr

namespace SyncState

/-- A consumer of the default identifier. -/
def fresh : SyncState where
  cobIdWord := defaultSyncId.toUInt32
  period := 0
  window := 0
  counterOverflow := 0
  producer := false
  timeout := 0
  counter := 0
  timer := 0
  received := false
  toggle := false
  insideWindow := true
  receiveError := 0

/-- The identifier of the SYNC message. -/
def cobId (s : SyncState) : CanId := .std s.cobIdWord.standardId

/-- Bring the stored parameters into effect and start anew. -/
def reset (s : SyncState) : SyncState :=
  { s with
    producer := s.cobIdWord.hasBit30
    timeout := syncTimeout s.period
    counter := 0
    timer := 0
    received := false
    toggle := false
    insideWindow := true
    receiveError := 0 }

/-- How a malformed SYNC of the given length is noted. -/
def markLength (overflow : UInt8) (dlc : UInt8) : UInt16 :=
  dlc.toUInt16 ||| (if overflow = 0 then 0x100 else 0x200)

/-- Take a SYNC frame from the bus, and say whether it was accepted. -/
def receive (s : SyncState) (f : Frame) (nmt : NmtState) : Bool × SyncState :=
  if nmt.syncActive then
    match SyncMessage.ofFrame s.counterOverflow f with
    | .ok message =>
      (true, { s with
        counter := message.counter.getD s.counter
        received := true
        toggle := !s.toggle })
    | .error _ => (false, { s with receiveError := markLength s.counterOverflow f.dlc })
  else (false, s)

/-- The counter of the next produced SYNC. -/
def nextCounter (s : SyncState) : UInt8 :=
  let counter := s.counter + 1
  if s.counterOverflow < counter then 1 else counter

/-- The SYNC message with the present counter. -/
def message (s : SyncState) : Frame :=
  SyncMessage.toFrame ⟨if s.counterOverflow = 0 then none else some s.counter⟩ s.cobId

/-- Let time pass; a received SYNC restarts the timer. -/
def elapse (s : SyncState) (elapsed : Micros) : SyncState :=
  if s.received then { s with timer := 0, received := false }
  else { s with timer := s.timer.advance elapsed }

/-- Is the node to produce a SYNC now? -/
def isDue (s : SyncState) : Bool := s.producer && s.period != 0 && s.period ≤ s.timer

def produce (s : SyncState) : SyncState :=
  { s with counter := s.nextCounter, timer := 0, toggle := !s.toggle }

/-- Is the timer beyond the synchronous window? -/
def isOutsideWindow (s : SyncState) : Bool := s.window != 0 && s.window < s.timer

def isOverdue (s : SyncState) : Bool := s.period != 0 && s.timeout < s.timer

/-- Run a tick, `elapsed` after the one before. -/
def advance (s : SyncState) (elapsed : Micros) (nmt : NmtState) : SyncTick :=
  if nmt.syncActive then
    let timed := s.elapse elapsed
    let produced := timed.isDue
    let s' := if produced then timed.produce else timed
    let synced := s.received || produced
    let violated := s'.isOutsideWindow && s'.insideWindow
    let event : SyncEvent :=
      if violated then .windowViolated else if synced then .sync else .none
    { next := { s' with insideWindow := !s'.isOutsideWindow, receiveError := 0 }
      event := event
      frame := if produced then some s'.message else none
      supervision :=
        if s'.isOverdue && nmt == .operational then .missing
        else if event = .sync ∨ s'.period = 0 then .present
        else .unchanged
      lengthError := if s'.receiveError = 0 then none else some s'.receiveError }
  else
    { next := { s with received := false, receiveError := 0 }
      event := .none
      frame := none
      supervision := .unchanged
      lengthError := none }

/-- Configure the identifier and the role.  A node that is the producer already cannot be made the
producer again; one that becomes the producer starts to count anew. -/
def writeCobId (s : SyncState) (w : CobIdWord) : Except AbortCode SyncState :=
  if w.isExtended then .error .invalidValue
  else if w.hasBit30 then
    if s.producer then .error .cantStoreDeviceState
    else if s.counterOverflow = 0 then .ok { s with producer := true, cobIdWord := w }
    else .ok { s with producer := true, cobIdWord := w, counter := 0, timer := 0 }
  else .ok { s with producer := false, cobIdWord := w }

/-- Configure the communication cycle period. -/
def writePeriod (s : SyncState) (period : Micros) : SyncState :=
  { s with
    counter := if s.period = 0 ∧ period ≠ 0 then 0 else s.counter
    period := period
    timeout := syncTimeout period
    timer := 0 }

/-- Configure the counter, which is possible only while there is no period. -/
def writeCounterOverflow (s : SyncState) (overflow : UInt8) : Except AbortCode SyncState :=
  if s.period = 0 then .ok { s with counterOverflow := overflow }
  else .error .cantStoreDeviceState

end SyncState

end Canopen
