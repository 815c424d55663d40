import Canopen.Can.Frame

/-! # Transports

A transport takes frames and may refuse them.  A synchronous PDO and the end of the synchronous
window are made known to it, so that it can drop synchronous PDOs that come too late; a transport
that does not care treats all frames alike.

`Bus` is a transport with a transmit queue of bounded length. -/

namespace Canopen

/-- Something that frames can be sent through. -/
class Transport (σ : Type) where
  /-- Send a frame, and say whether it was accepted. -/
  send : Frame → σ → Bool × σ
  /-- Send a synchronous PDO. -/
  sendSync : Frame → σ → Bool × σ := send
  /-- Drop the synchronous PDOs that still wait. -/
  clearPendingSync : σ → σ := id

/-- A transmit queue of bounded length, with counts of what it was told about the SYNC. -/
structure Bus where
  capacity : Nat
  queue : List Frame
  /-- The number of synchronous PDOs accepted. -/
  syncPdosSent : Nat
  /-- How often waiting synchronous PDOs were to be dropped. -/
  syncClears : Nat
deriving DecidableEq, Repr

namespace Bus

/-- An empty queue. -/
def ofCapacity (capacity : Nat) : Bus := ⟨capacity, [], 0, 0⟩

/-- Queue a frame if there is room for it. -/
def offer (b : Bus) (f : Frame) : Bool × Bus :=
  if b.queue.length < b.capacity then (true, { b with queue := b.queue ++ [f] }) else (false, b)

/-- Queue a synchronous PDO if there is room for it, and count it. -/
def offerSync (b : Bus) (f : Frame) : Bool × Bus :=
  let (accepted, b) := b.offer f
  (accepted, if accepted then { b with syncPdosSent := b.syncPdosSent + 1 } else b)

/-- Take all queued frames. -/
def drain (b : Bus) : List Frame × Bus := (b.queue, { b with queue := [] })

instance : Transport Bus where
  send f b := b.offer f
  sendSync f b := b.offerSync f
  clearPendingSync b := { b with syncClears := b.syncClears + 1 }

end Bus

/-- A bus that treats all frames alike. -/
structure PlainBus where
  bus : Bus
deriving DecidableEq, Repr

instance : Transport PlainBus where
  send f b :=
    let (accepted, bus) := b.bus.offer f
    (accepted, ⟨bus⟩)

end Canopen
