import Canopen.Bytes

/-! # CAN frames

A classic CAN frame carries a buffer of eight bytes, a data length code and an identifier.  The
first `dlc` bytes of the buffer are the data of the frame; a length code above eight means all
eight bytes. -/

namespace Canopen

/-- An identifier on the bus. -/
inductive CanId where
  /-- An 11-bit identifier. -/
  | std (id : UInt16)
  /-- A 29-bit identifier. -/
  | extended (id : UInt32)
deriving DecidableEq, Repr

namespace CanId

def raw : CanId → UInt32
  | std id => id.toUInt32
  | extended id => id

/-- Is this a 29-bit identifier? -/
def isExtended : CanId → Bool
  | std _ => false
  | extended _ => true

/-- The kind and the number of an identifier, as they stand in messages. -/
def describe : CanId → String
  | std id => s!"Std({id.toNat})"
  | extended id => s!"Extended({id.toNat})"

end CanId

/-- The largest number of data bytes in a frame. -/
abbrev maxDataLength : Nat := 8

/-- The buffer of a frame. -/
@[ext] structure Payload where
  bytes : Bytes
  length_eq : bytes.length = maxDataLength
deriving DecidableEq, Repr

namespace Payload

/-- The first eight of the given bytes, filled up with zeros. -/
def padded (bytes : Bytes) : Payload where
  bytes := (bytes ++ Bytes.zeros maxDataLength).take maxDataLength
  length_eq := by simp

def zero : Payload := padded []

theorem bytes_padded_of_length {bytes : Bytes} (h : bytes.length = maxDataLength) :
    (padded bytes).bytes = bytes := by
  simp [padded, ← h]

@[simp] theorem padded_bytes (p : Payload) : padded p.bytes = p :=
  Payload.ext (bytes_padded_of_length p.length_eq)

end Payload

/-- A classic CAN data frame. -/
structure Frame where
  data : Payload
  dlc : UInt8
  id : CanId
deriving DecidableEq, Repr

/-- The data do not fit into a frame. -/
inductive FrameError where
  | dataTooLong
deriving DecidableEq, Repr

def FrameError.message : FrameError → String
  | .dataTooLong => s!"Data length exceeds maximum size of {maxDataLength} bytes"

namespace Frame

/-- The frame with no data and identifier zero. -/
def empty : Frame := ⟨.zero, 0, .std 0⟩

/-- The frame that carries the given data. -/
def carrying (id : CanId) (data : Bytes) : Frame :=
  ⟨.padded data, UInt8.ofNat data.length, id⟩

/-- The frame that carries the given data, provided that they fit. -/
def ofData (id : CanId) (data : Bytes) : Except FrameError Frame :=
  if data.length ≤ maxDataLength then .ok (carrying id data) else .error .dataTooLong

def dataLength (f : Frame) : Nat := min f.dlc.toNat maxDataLength

def content (f : Frame) : Bytes := f.data.bytes.take f.dataLength

theorem length_content (f : Frame) : f.content.length = f.dataLength := by
  have h := f.data.length_eq
  simp only [content, List.length_take, h, dataLength]
  omega

theorem content_carrying (id : CanId) {data : Bytes} (h : data.length ≤ maxDataLength) :
    (carrying id data).content = data := by
  have hlt : data.length < 256 := Nat.lt_of_le_of_lt h (by decide)
  have hdlc : (UInt8.ofNat data.length).toNat = data.length := by
    rw [UInt8.toNat_ofNat', Nat.mod_eq_of_lt hlt]
  simp only [content, carrying, dataLength, Payload.padded, hdlc, List.take_take]
  rw [Nat.min_eq_left h, Nat.min_eq_left h, List.take_left' rfl]

/-- A frame as it stands in messages, with its whole buffer. -/
def describe (f : Frame) : String :=
  let numbers := ", ".intercalate (f.data.bytes.map fun b => toString b.toNat)
  "CanMessage \x7b data: [" ++ numbers ++ "], dlc: " ++ toString f.dlc.toNat ++ ", id: " ++
    f.id.describe ++ " \x7d"

/-- What is said about a frame that the transport refused. -/
def refusalMessage (f : Frame) : String := "Failed to send CAN message: " ++ f.describe

end Frame

end Canopen
