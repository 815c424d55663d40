import Canopen.Mapping.Transfer
import Canopen.Pdo.Params
import Canopen.Pdo.Receive
import Canopen.Sync.State
import Canopen.Transport

/-! # Transmit PDOs

The transmission type decides when the PDO is sent: at the SYNC if a transmission was requested, at
every n-th SYNC, or whenever one is requested, but not before the inhibit time has passed since the
last one.  The end of the event time is a request too.

A tick runs in three steps.  `schedule` decides whether to send; `load` fills the frame; `settle`
restarts the timers if the frame was accepted, and lets the time of the tick pass. -/

namespace Canopen

/-- A transmit PDO. -/
structure Tpdo where
  params : PdoParams
  /-- In units of 100 µs. -/
  inhibitTime : UInt16
  /-- In milliseconds. -/
  eventTime : UInt16
  /-- The SYNC counter of the first cyclic transmission, or zero. -/
  syncStart : UInt8
  valid : Bool
  mapping : MappedPdo
  /-- The frame that was sent last, under the identifier and length in use. -/
  frame : Frame
  /-- The SYNCs left until the next cyclic transmission, or one of the two marks below. -/
  syncCounter : UInt8
  inhibitTimer : Micros
  eventTimer : Micros
  sendRequested : Bool
deriving DecidableEq, Repr

/-- What became of a PDO at a tick. -/
inductive Transmission where
  /-- Nothing was sent. -/
  | idle
  | sent (f : Frame)
  /-- The transport refused the frame. -/
  | refused (f : Frame)
deriving DecidableEq, Repr

/-- Was a frame accepted by the transport? -/
def Transmission.isSent : Transmission → Bool
  | sent _ => true
  | idle | refused _ => false

namespace Tpdo

/-- The SYNC counter before the first SYNC. -/
def counterUnset : UInt8 := 255

/-- The SYNC counter while the start value is waited for. -/
def counterWaiting : UInt8 := 254

/-- A disabled PDO. -/
def fresh : Tpdo where
  params := .fresh
  inhibitTime := 0
  eventTime := 0
  syncStart := 0
  valid := false
  mapping := .empty
  frame := .empty
  syncCounter := counterUnset
  inhibitTimer := 0
  eventTimer := 0
  sendRequested := false

/-- The identifier in use. -/
def cobId (t : Tpdo) : Option CanId := if t.valid then some t.frame.id else none

def requestSend (t : Tpdo) : Tpdo := { t with sendRequested := true }

/-- Put the first `count` mapping parameters into effect.  If they cannot be resolved, that is
reported and nothing is mapped any more. -/
def configureMapping (t : Tpdo) (attributes : Attributes) (count : UInt8) (errors : ErrorStatus) :
    Remapped Tpdo :=
  let put (mapping : MappedPdo) : Tpdo :=
    { t with mapping := mapping, frame := { t.frame with dlc := UInt8.ofNat mapping.dataLen } }
  match t.params.resolve attributes .transmit count with
  | .ok mapping => ⟨put mapping, errors, .ok ()⟩
  | .error e => ⟨put .empty, errors.reportMapping e, .error e⟩

/-- Put an identifier word into effect.  The PDO becomes valid if it is enabled, its identifier is
allowed, and something is mapped. -/
def configureCommunication (t : Tpdo) (w : CobIdWord) : Tpdo :=
  let id := t.params.effectiveId w t.mapping.dataLen
  { t with
    valid := id.isSome
    frame := { t.frame with id := .std (id.getD 0), dlc := UInt8.ofNat t.mapping.dataLen } }

/-- Store a transmission type and put it into effect. -/
def applyTransmissionType (t : Tpdo) (type : TransmissionType) : Tpdo :=
  { t with params := { t.params with transmissionType := type }, syncCounter := counterUnset }

/-- Store an identifier word and put it into effect. -/
def applyCobId (t : Tpdo) (w : CobIdWord) : Tpdo :=
  let t := { t with params := t.params.setCobId w }.configureCommunication w
  { t with syncCounter := counterUnset }

/-- Store an inhibit time and put it into effect. -/
def applyInhibitTime (t : Tpdo) (time : UInt16) : Tpdo :=
  { t with inhibitTime := time, inhibitTimer := 0 }

/-- Store an event time and put it into effect. -/
def applyEventTime (t : Tpdo) (time : UInt16) : Tpdo :=
  { t with eventTime := time, eventTimer := .ofEventTime time }

/-- Are the transmission type and the SYNC start value ones that may be used? -/
def isSchedulable (t : Tpdo) : Bool :=
  !t.params.transmissionType.isReserved && t.syncStart ≤ syncStartMax

/-- Put all stored parameters into effect. -/
def reset (t : Tpdo) (attributes : Attributes) (errors : ErrorStatus) : Tpdo × ErrorStatus :=
  let mapped := t.configureMapping attributes t.params.mappingCount errors
  let word := t.params.cobId
  let t := mapped.pdo.configureCommunication
    (if t.isSchedulable then word else word ||| .invalidBit)
  ({ t with
      syncCounter := counterUnset
      inhibitTimer := 0
      eventTimer := .ofEventTime t.eventTime
      sendRequested := t.params.transmissionType.sendsAtStart },
    mapped.errors)

/-- The values of the mapped objects. -/
def live (t : Tpdo) (d : Dictionary) : Payload :=
  .padded (t.mapping.gather d (Bytes.zeros maxDataLength))

/-- Does a byte that is watched for changes differ from the frame that was sent last? -/
def isChangeOfState (t : Tpdo) (d : Dictionary) : Bool :=
  let live := (t.live d).bytes
  (List.range t.mapping.dataLen).any fun i =>
    live[i]? != t.frame.data.bytes[i]? && t.mapping.changeFlags.testBit i

/-- Fill the frame with the values of the mapped objects.  This answers any request. -/
def load (t : Tpdo) (d : Dictionary) : Tpdo :=
  { t with frame := { t.frame with data := t.live d }, sendRequested := false }

/-- Hand the frame to the transport, as a synchronous PDO if it is one. -/
def transmit {σ : Type} [Transport σ] (t : Tpdo) (link : σ) : Bool × σ :=
  if t.params.transmissionType.isSynchronous then Transport.sendSync t.frame link
  else Transport.send t.frame link

/-- Fill the frame and send it. -/
def send {σ : Type} [Transport σ] (t : Tpdo) (d : Dictionary) (link : σ) :
    Transmission × Tpdo × σ :=
  let t := t.load d
  let (accepted, link) := t.transmit link
  (if accepted then .sent t.frame else .refused t.frame, t, link)

/-- The SYNC counter of a cyclic PDO at a SYNC: what to count from if nothing was counted yet. -/
def startingCounter (t : Tpdo) (sync : SyncState) : UInt8 :=
  if t.syncCounter = counterUnset then
    if sync.counterOverflow ≠ 0 ∧ t.syncStart ≠ 0 then counterWaiting
    else t.params.transmissionType
  else t.syncCounter

/-- Count a SYNC for a cyclic PDO: whether it is to be sent, and the new counter. -/
def countSync (t : Tpdo) (sync : SyncState) : Bool × UInt8 :=
  let counter := t.startingCounter sync
  if counter = counterWaiting then
    if sync.counter = t.syncStart then (true, t.params.transmissionType) else (false, counter)
  else
    let counter := if counter = 0 then 0 else counter - 1
    if counter = 0 then (true, t.params.transmissionType) else (false, counter)

/-- Decide whether to send at this tick. -/
def schedule (t : Tpdo) (sync : SyncState) (syncOccurred : Bool) (nmt : NmtState) : Bool × Tpdo :=
  let type := t.params.transmissionType
  if t.valid && nmt == .operational then
    if type.isEventDriven then
      let expired := t.eventTime != 0 && t.eventTimer == 0
      let t := if expired then t.requestSend else t
      (t.sendRequested && t.inhibitTimer == 0, t)
    else if syncOccurred then
      if type = 0 then (t.sendRequested, t)
      else
        let (due, counter) := t.countSync sync
        (due, { t with syncCounter := counter })
    else (false, t)
  else (false, { t with sendRequested := type.sendsAtStart })

/-- Restart the timers of an event driven PDO after a transmission. -/
def restartTimers (t : Tpdo) : Tpdo :=
  if t.params.transmissionType.isEventDriven then
    { t with
      inhibitTimer := .ofInhibitTime t.inhibitTime
      eventTimer := .ofEventTime t.eventTime }
  else t

def elapse (t : Tpdo) (elapsed : Micros) : Tpdo :=
  { t with
    inhibitTimer := t.inhibitTimer.countdown elapsed
    eventTimer := t.eventTimer.countdown elapsed }

/-- Close a tick: restart the timers if a frame was sent, and let time pass. -/
def settle (t : Tpdo) (outcome : Transmission) (elapsed : Micros) : Tpdo :=
  (if outcome.isSent then t.restartTimers else t).elapse elapsed

/-- Run a tick. -/
def process {σ : Type} [Transport σ] (t : Tpdo) (d : Dictionary) (sync : SyncState)
    (syncOccurred : Bool) (elapsed : Micros) (nmt : NmtState) (link : σ) :
    Transmission × Tpdo × σ :=
  let (due, t) := t.schedule sync syncOccurred nmt
  let (outcome, t, link) := if due then t.send d link else (.idle, t, link)
  (outcome, t.settle outcome elapsed, link)

end Tpdo

end Canopen
