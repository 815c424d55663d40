import Canopen.Bytes
import Canopen.Abort

/-! # Contents of sub objects

What a sub object holds: a number, a flag, a constant, or a block of bytes.  A number is held as its
bytes, so that its width is their count and the low end of it can be replaced alone.  Reads are
partial: any number of bytes from any position on.  A full write needs exactly as many bytes as the
value has; a write of leading bytes keeps the others. -/

namespace Canopen

/-- The types of number a sub object can hold. -/
inductive NumberType where
  | u8
  | u16
  | u32
  | i8
  | i16
  | i32
  | f32
deriving DecidableEq, Repr

namespace NumberType

/-- The number of bytes of a number. -/
def width : NumberType → Nat
  | u8 | i8 => 1
  | u16 | i16 => 2
  | u32 | i32 | f32 => 4

/-- Is the highest bit a sign? -/
def isSigned : NumberType → Bool
  | i8 | i16 | i32 => true
  | u8 | u16 | u32 | f32 => false

/-- The bytes of a number in two's complement. -/
def encode (t : NumberType) (v : Int) : Bytes :=
  Bytes.ofNat t.width (v % Bytes.valueCount t.width).toNat

/-- The number held in the given bytes; of a floating point number the bit pattern. -/
def decode (t : NumberType) (bytes : Bytes) : Int :=
  if t.isSigned then Int.bmod bytes.toNat (Bytes.valueCount t.width) else bytes.toNat

@[simp] theorem length_encode (t : NumberType) (v : Int) : (t.encode v).length = t.width := by
  simp [encode]

end NumberType

/-- A value as the application sees it. -/
inductive ScalarValue where
  | number (v : Int)
  | flag (v : Bool)
deriving DecidableEq, Repr

/-- The content of a sub object. -/
inductive Field where
  | number (type : NumberType) (bytes : Bytes)
  | flag (value : Bool)
  /-- Bytes that are never changed. -/
  | constant (bytes : Bytes)
  /-- Bytes that are only written as a whole. -/
  | block (bytes : Bytes)
deriving DecidableEq, Repr

namespace Field

def bytes : Field → Bytes
  | number _ bytes | constant bytes | block bytes => bytes
  | flag value => [if value then 1 else 0]

/-- The number of bytes that can be read. -/
def size (f : Field) : Nat := f.bytes.length

/-- At most `len` bytes from `offset` on.  A flag is read alone and from its start. -/
def read (f : Field) (offset len : Nat) : Except AbortCode Bytes :=
  match f with
  | flag _ =>
    if offset ≠ 0 ∨ 1 < len then .error .lengthTooHigh else .ok (f.bytes.window offset len)
  | _ => .ok (f.bytes.window offset len)

/-- Replace the whole content. -/
def write (f : Field) (data : Bytes) : Except AbortCode Field :=
  match f with
  | number type bytes => (checkLength data bytes.length).map fun _ => number type data
  | flag _ => (checkLength data 1).map fun _ => flag (data.firstByte != 0)
  | constant _ => .error .readOnly
  | block bytes => (checkLength data bytes.length).map fun _ => block data

/-- Replace the leading bytes of the content. -/
def writeLeading (f : Field) (data : Bytes) : Except AbortCode Field :=
  match f with
  | number type bytes =>
    if bytes.length < data.length then .error .lengthTooHigh
    else .ok (number type (data.overlay bytes))
  | flag _ => if data = [] then .ok f else f.write data
  | constant _ => .error .readOnly
  | block bytes => if data.length = bytes.length then f.write data else .error .unsupportedAccess

/-- The value of a number or a flag. -/
def load : Field → Option ScalarValue
  | number type bytes => some (.number (type.decode bytes))
  | flag value => some (.flag value)
  | constant _ | block _ => none

/-- Set the value of a number or a flag. -/
def store (f : Field) (v : ScalarValue) : Field :=
  match f, v with
  | number type _, .number v => number type (type.encode v)
  | flag _, .flag v => flag v
  | f, _ => f

/-- A number of the given type. -/
def ofNumber (type : NumberType) (v : Int) : Field := number type (type.encode v)

@[simp] theorem bytes_ofNumber (type : NumberType) (v : Int) :
    (ofNumber type v).bytes = type.encode v := rfl

theorem size_write {f g : Field} {data : Bytes} (h : f.write data = .ok g) : g.size = f.size := by
  cases f with
  | constant bytes => simp [write] at h
  | flag value =>
    simp only [write] at h
    cases hc : checkLength data 1 with
    | error e => simp [hc, Except.map] at h
    | ok u =>
      simp only [hc, Except.map, Except.ok.injEq] at h
      subst h
      rfl
  | number type bytes =>
    simp only [write] at h
    cases hc : checkLength data bytes.length with
    | error e => simp [hc, Except.map] at h
    | ok u =>
      simp only [hc, Except.map, Except.ok.injEq] at h
      subst h
      exact checkLength_eq_ok_iff.mp hc
  | block bytes =>
    simp only [write] at h
    cases hc : checkLength data bytes.length with
    | error e => simp [hc, Except.map] at h
    | ok u =>
      simp only [hc, Except.map, Except.ok.injEq] at h
      subst h
      exact checkLength_eq_ok_iff.mp hc

end Field

end Canopen
