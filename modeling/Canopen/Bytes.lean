/-! # Byte strings

Every value in the object dictionary and every frame on the bus is a string of bytes, the least
significant byte first.  `ofNat` and `toNat` are the two readings of a number
(`toNat_ofNat`, `ofNat_toNat`), `window` is a partial read of a value, and `overlay` replaces the
leading bytes of a string and keeps the rest. -/

namespace Canopen

/-- A string of bytes. -/
abbrev Bytes := List UInt8

namespace Bytes

def zeros (n : Nat) : Bytes := List.replicate n 0

@[simp] theorem length_zeros (n : Nat) : (zeros n).length = n := by simp [zeros]

/-- The lowest `width` bytes of a number, least significant first. -/
def ofNat : (width : Nat) → Nat → Bytes
  | 0, _ => []
  | width + 1, v => UInt8.ofNat v :: ofNat width (v / 256)

/-- The number written by a byte string, least significant byte first. -/
def toNat : Bytes → Nat
  | [] => 0
  | b :: bs => b.toNat + 256 * toNat bs

@[simp] theorem length_ofNat (width v : Nat) : (ofNat width v).length = width := by
  induction width generalizing v with
  | zero => rfl
  | succ width ih => simp [ofNat, ih]

/-- The number of byte strings of a given length. -/
def valueCount : (width : Nat) → Nat
  | 0 => 1
  | width + 1 => 256 * valueCount width

theorem toNat_lt (bs : Bytes) : bs.toNat < valueCount bs.length := by
  induction bs with
  | nil => decide
  | cons b bs ih =>
    have hb := b.toNat_lt
    simp only [toNat, List.length_cons, valueCount]
    omega

theorem toNat_ofNat (width v : Nat) : toNat (ofNat width v) = v % valueCount width := by
  induction width generalizing v with
  | zero => simp [ofNat, toNat, valueCount, Nat.mod_one]
  | succ width ih =>
    have byte : (UInt8.ofNat v).toNat = v % 256 := UInt8.toNat_ofNat'
    rw [ofNat, toNat, ih, byte, valueCount, Nat.mod_mul]

theorem ofNat_toNat (bs : Bytes) : ofNat bs.length bs.toNat = bs := by
  induction bs with
  | nil => rfl
  | cons b bs ih =>
    have hb := b.toNat_lt
    have hdiv : (b.toNat + 256 * toNat bs) / 256 = toNat bs := by omega
    have hmod : UInt8.ofNat (b.toNat + 256 * toNat bs) = b := by
      apply UInt8.toNat_inj.mp
      simp only [UInt8.toNat_ofNat']
      omega
    simp [ofNat, toNat, hdiv, hmod, ih]

/-- At most `len` bytes from position `offset` on; nothing beyond the end. -/
def window (bytes : Bytes) (offset len : Nat) : Bytes := (bytes.drop offset).take len

@[simp] theorem length_window (bytes : Bytes) (offset len : Nat) :
    (bytes.window offset len).length = min len (bytes.length - offset) := by
  simp [window]

/-- The string `bytes` with its leading bytes replaced by `patch`. -/
def overlay (patch bytes : Bytes) : Bytes := patch ++ bytes.drop patch.length

@[simp] theorem length_overlay (patch bytes : Bytes) :
    (overlay patch bytes).length = max patch.length bytes.length := by
  simp only [overlay, List.length_append, List.length_drop]
  omega

@[simp] theorem overlay_nil (bytes : Bytes) : overlay [] bytes = bytes := by simp [overlay]

theorem overlay_of_length_le {patch bytes : Bytes} (h : bytes.length ≤ patch.length) :
    overlay patch bytes = patch := by
  simp [overlay, List.drop_eq_nil_of_le h]

/-- The first byte, or zero for the empty string. -/
def firstByte (bytes : Bytes) : UInt8 := bytes.headD 0

def toUInt8 (bytes : Bytes) : UInt8 := UInt8.ofNat bytes.toNat

def toUInt16 (bytes : Bytes) : UInt16 := UInt16.ofNat bytes.toNat

def toUInt32 (bytes : Bytes) : UInt32 := UInt32.ofNat bytes.toNat

def ofUInt16 (v : UInt16) : Bytes := ofNat 2 v.toNat

def ofUInt32 (v : UInt32) : Bytes := ofNat 4 v.toNat

@[simp] theorem length_ofUInt16 (v : UInt16) : (ofUInt16 v).length = 2 := length_ofNat 2 _

@[simp] theorem length_ofUInt32 (v : UInt32) : (ofUInt32 v).length = 4 := length_ofNat 4 _

@[simp] theorem toUInt32_ofUInt32 (v : UInt32) : toUInt32 (ofUInt32 v) = v := by
  have h := v.toNat_lt
  have count : valueCount 4 = 4294967296 := rfl
  apply UInt32.toNat_inj.mp
  simp only [toUInt32, ofUInt32, toNat_ofNat, UInt32.toNat_ofNat', count]
  omega

@[simp] theorem toUInt16_ofUInt16 (v : UInt16) : toUInt16 (ofUInt16 v) = v := by
  have h := v.toNat_lt
  have count : valueCount 2 = 65536 := rfl
  apply UInt16.toNat_inj.mp
  simp only [toUInt16, ofUInt16, toNat_ofNat, UInt16.toNat_ofNat', count]
  omega

end Bytes

end Canopen
