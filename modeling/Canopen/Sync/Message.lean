import Canopen.Can.Frame

/-! # The SYNC message

The SYNC message is an empty frame or, where a counter overflow value is configured, a frame with
one byte of counter.  Reading a message back gives what was written, provided that the reader
expects a counter exactly when there is one (`ofFrame_toFrame`). -/

namespace Canopen

/-- Why a frame is not the expected message. -/
inductive MessageError where
  | unexpectedId (received expected : CanId)
  | unexpectedLength (dlc : UInt8)
deriving DecidableEq, Repr

def MessageError.message : MessageError → String
  | .unexpectedId received expected =>
    "Unexpected message ID " ++ received.describe ++ ", expected " ++ expected.describe
  | .unexpectedLength dlc => s!"Unexpected message length {dlc.toNat}"

/-- The identifier of the SYNC message before it is configured. -/
def defaultSyncId : UInt16 := 0x80

/-- The content of a SYNC message. -/
structure SyncMessage where
  counter : Option UInt8
deriving DecidableEq, Repr

namespace SyncMessage

def toFrame (m : SyncMessage) (id : CanId) : Frame := .carrying id m.counter.toList

/-- Read a SYNC message; `overflow` is the configured counter overflow value, and a counter is
expected exactly when it is not zero. -/
def ofFrame (overflow : UInt8) (f : Frame) : Except MessageError SyncMessage :=
  if overflow = 0 then
    if f.dlc = 0 then .ok ⟨none⟩ else .error (.unexpectedLength f.dlc)
  else
    if f.dlc = 1 then .ok ⟨some f.data.bytes.firstByte⟩ else .error (.unexpectedLength f.dlc)

theorem ofFrame_toFrame (m : SyncMessage) (id : CanId) (overflow : UInt8)
    (h : m.counter.isSome = true ↔ overflow ≠ 0) : ofFrame overflow (m.toFrame id) = .ok m := by
  obtain ⟨counter⟩ := m
  cases counter with
  | none =>
    have h0 : overflow = 0 := Classical.byContradiction fun hne => by simp [hne] at h
    simp [ofFrame, toFrame, Frame.carrying, h0]
  | some c =>
    have h0 : overflow ≠ 0 := h.mp rfl
    simp [ofFrame, toFrame, Frame.carrying, h0, Payload.padded, Bytes.firstByte]

end SyncMessage

end Canopen
