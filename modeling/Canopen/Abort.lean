import Canopen.Bytes

/-! # Abort codes

A refused access to the object dictionary is answered with a service data object abort code. -/

namespace Canopen

/-- Why an access to the object dictionary was refused. -/
inductive AbortCode where
  | unsupportedAccess
  | writeOnly
  | readOnly
  | noSuchObject
  /-- The object cannot be mapped to the PDO. -/
  | unallowedPdo
  /-- The mapped objects would exceed the length of a PDO. -/
  | pdoTooLong
  | incompatibleParameter
  | dataTypeMismatch
  | lengthTooHigh
  | lengthTooLow
  | noSuchSubIndex
  | invalidValue
  | valueTooHigh
  | valueTooLow
  | resourceNotAvailable
  | generalError
  /-- The state of the device does not allow the value to be stored. -/
  | cantStoreDeviceState
deriving DecidableEq, Repr

namespace AbortCode

/-- The 32-bit code sent to the client. -/
def code : AbortCode → UInt32
  | unsupportedAccess => 0x06010000
  | writeOnly => 0x06010001
  | readOnly => 0x06010002
  | noSuchObject => 0x06020000
  | unallowedPdo => 0x06040041
  | pdoTooLong => 0x06040042
  | incompatibleParameter => 0x06040043
  | dataTypeMismatch => 0x06070010
  | lengthTooHigh => 0x06070012
  | lengthTooLow => 0x06070013
  | noSuchSubIndex => 0x06090011
  | invalidValue => 0x06090030
  | valueTooHigh => 0x06090031
  | valueTooLow => 0x06090032
  | resourceNotAvailable => 0x060A0023
  | generalError => 0x08000000
  | cantStoreDeviceState => 0x08000022

/-- All codes, in ascending order. -/
def all : List AbortCode :=
  [unsupportedAccess, writeOnly, readOnly, noSuchObject, unallowedPdo, pdoTooLong,
    incompatibleParameter, dataTypeMismatch, lengthTooHigh, lengthTooLow, noSuchSubIndex,
    invalidValue, valueTooHigh, valueTooLow, resourceNotAvailable, generalError,
    cantStoreDeviceState]

end AbortCode

/-- Written data has the length of the value it is written to. -/
def checkLength (data : Bytes) (size : Nat) : Except AbortCode Unit :=
  if data.length < size then .error .lengthTooLow
  else if size < data.length then .error .lengthTooHigh
  else .ok ()

theorem checkLength_eq_ok_iff {data : Bytes} {size : Nat} :
    checkLength data size = .ok () ↔ data.length = size := by
  unfold checkLength
  split
  · simp; omega
  · split
    · simp; omega
    · simp; omega

end Canopen
