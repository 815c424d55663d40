import Canopen.Device

/-! # Ticks

A tick advances the SYNC object, commits received process data, and sends the transmit PDOs that
are due, in this order and in the order of their numbers.  A frame that the transport refuses is
reported and does not keep the others from being handled.

Besides the new state, a tick gives an account of itself: the event, the payloads that were
committed, and what became of each frame. -/

namespace Canopen

/-- The account of a tick. -/
structure TickReport where
  event : SyncEvent
  /-- The SYNC message, if one was produced, and whether it was accepted. -/
  sync : Transmission
  /-- The payload committed by each receive PDO. -/
  commits : List (Option Payload)
  /-- What became of each transmit PDO. -/
  transmissions : List Transmission
deriving DecidableEq, Repr

namespace ErrorStatus

/-- Take note of what became of a SYNC message. -/
def noteSync (e : ErrorStatus) : Transmission → ErrorStatus
  | .refused f => e.raise .canTxOverflow f.id.raw
  | .idle | .sent _ => e

/-- Take note of what became of a transmit PDO. -/
def notePdo (e : ErrorStatus) : Transmission → ErrorStatus
  | .refused f => e.raise .canTxOverflow f.id.raw
  | .sent _ => e.reset .canTxOverflow
  | .idle => e

/-- Take note of what a tick says about the SYNC. -/
def noteSupervision (e : ErrorStatus) (t : SyncTick) : ErrorStatus :=
  let e :=
    match t.supervision with
    | .missing => e.raise .syncTimeout t.next.timer
    | .present => e.reset .syncTimeout
    | .unchanged => e
  match t.lengthError with
  | some length => e.raise .syncLength length.toUInt32
  | none => e

end ErrorStatus

/-- Send a frame, if there is one. -/
def sendFrame {σ : Type} [Transport σ] (f : Option Frame) (link : σ) : Transmission × σ :=
  match f with
  | none => (.idle, link)
  | some f =>
    let (accepted, link) := Transport.send f link
    (if accepted then .sent f else .refused f, link)

namespace Device

/-- Advance the SYNC object in a given operating state, and send the SYNC message if it is due. -/
def processSync {σ : Type} [Transport σ] (d : Device) (elapsed : Micros) (nmt : NmtState)
    (link : σ) : SyncEvent × Transmission × Device × σ :=
  let tick := d.sync.advance elapsed nmt
  let (sent, link) := sendFrame tick.frame link
  (tick.event, sent,
    { d with sync := tick.next, errors := (d.errors.noteSync sent).noteSupervision tick }, link)

/-- Run receive PDOs for a tick, in order. -/
def tickRpdos (syncOccurred toggle : Bool) (nmt : NmtState) :
    List Rpdo → Dictionary → List (Option Payload) × List Rpdo × Dictionary
  | [], objects => ([], [], objects)
  | r :: rs, objects =>
    let (payload, r, objects) := r.process objects syncOccurred toggle nmt
    let (payloads, rs, objects) := tickRpdos syncOccurred toggle nmt rs objects
    (payload :: payloads, r :: rs, objects)

/-- Ask for a transmission if a watched byte has changed. -/
def noticeChange (t : Tpdo) (objects : Dictionary) : Tpdo :=
  if !t.sendRequested && t.isChangeOfState objects then t.requestSend else t

/-- Run transmit PDOs for a tick, in order. -/
def tickTpdos {σ : Type} [Transport σ] (objects : Dictionary) (sync : SyncState)
    (syncOccurred : Bool) (elapsed : Micros) (nmt : NmtState) :
    List Tpdo → ErrorStatus → σ → List Transmission × List Tpdo × ErrorStatus × σ
  | [], errors, link => ([], [], errors, link)
  | t :: ts, errors, link =>
    let (sent, t, link) :=
      (noticeChange t objects).process objects sync syncOccurred elapsed nmt link
    let (sents, ts, errors, link) :=
      tickTpdos objects sync syncOccurred elapsed nmt ts (errors.notePdo sent) link
    (sent :: sents, t :: ts, errors, link)

/-- Run a tick, `elapsed` after the one before. -/
def tick {σ : Type} [Transport σ] (d : Device) (elapsed : Micros) (link : σ) :
    TickReport × Device × σ :=
  let (event, syncSent, d, link) := d.processSync elapsed d.nmt link
  let link := if event = .windowViolated then Transport.clearPendingSync link else link
  let syncOccurred := event == .sync
  let (commits, rpdos, objects) := tickRpdos syncOccurred d.sync.toggle d.nmt d.rpdos d.dictionary
  let (transmissions, tpdos, errors, link) :=
    tickTpdos objects d.sync syncOccurred elapsed d.nmt d.tpdos d.errors link
  (⟨event, syncSent, commits, transmissions⟩,
    { d with rpdos := rpdos, tpdos := tpdos, errors := errors, dictionary := objects }, link)

end Device

end Canopen
