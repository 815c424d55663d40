import Canopen.Abort
import Canopen.Object.Info
import Canopen.Mapping.Descriptor

/-! # Parameter objects

The parameters of the SYNC and of the PDOs stand in the object dictionary too.  What such an object
declares depends on its role alone; its values are those of the running device.  Each PDO has a
communication object and a mapping object. -/

namespace Canopen

/-- The role of a parameter object. -/
inductive Parameter where
  | syncCobId
  | syncPeriod
  | syncWindow
  | syncOverflow
  | rpdoComm (n : Nat)
  | rpdoMap (n : Nat)
  | tpdoComm (n : Nat)
  | tpdoMap (n : Nat)
deriving DecidableEq, Repr

namespace Parameter

/-- The index of the object with the SYNC identifier. -/
def syncCobIdIndex : UInt16 := 0x1005

/-- The index of the object with the communication cycle period. -/
def syncPeriodIndex : UInt16 := 0x1006

/-- The index of the object with the synchronous window length. -/
def syncWindowIndex : UInt16 := 0x1007

/-- The index of the object with the SYNC counter overflow value. -/
def syncOverflowIndex : UInt16 := 0x1019

/-- The index of the first communication object of a receive PDO. -/
def rpdoCommBase : UInt16 := 0x1400

/-- The index of the first mapping object of a receive PDO. -/
def rpdoMapBase : UInt16 := 0x1600

/-- The index of the first communication object of a transmit PDO. -/
def tpdoCommBase : UInt16 := 0x1800

/-- The index of the first mapping object of a transmit PDO. -/
def tpdoMapBase : UInt16 := 0x1A00

/-- Where a parameter object stands in the dictionary. -/
def index : Parameter → UInt16
  | syncCobId => syncCobIdIndex
  | syncPeriod => syncPeriodIndex
  | syncWindow => syncWindowIndex
  | syncOverflow => syncOverflowIndex
  | rpdoComm n => rpdoCommBase + UInt16.ofNat n
  | rpdoMap n => rpdoMapBase + UInt16.ofNat n
  | tpdoComm n => tpdoCommBase + UInt16.ofNat n
  | tpdoMap n => tpdoMapBase + UInt16.ofNat n

/-- The parameter objects of a device, by ascending index. -/
def all (rpdos tpdos : Nat) : List Parameter :=
  [syncCobId, syncPeriod, syncWindow, syncOverflow]
    ++ (List.range rpdos).map rpdoComm ++ (List.range rpdos).map rpdoMap
    ++ (List.range tpdos).map tpdoComm ++ (List.range tpdos).map tpdoMap

/-- The highest sub index of the communication object of a receive PDO. -/
def rpdoCommSubs : UInt8 := 2

/-- The highest sub index of the communication object of a transmit PDO. -/
def tpdoCommSubs : UInt8 := 6

def code : Parameter → ObjectCode
  | syncCobId | syncPeriod | syncWindow | syncOverflow => .var
  | rpdoComm _ | rpdoMap _ | tpdoComm _ | tpdoMap _ => .record

/-- The attributes of the sub objects, where they exist. -/
def subInfo? (p : Parameter) (sub : UInt8) : Option SubInfo :=
  match p with
  | syncCobId | syncPeriod | syncWindow => if sub = 0 then some SubInfo.u32.readWrite else none
  | syncOverflow => if sub = 0 then some SubInfo.u8.readWrite else none
  | rpdoComm _ =>
    if sub = 0 then some .maxSubNumber
    else if sub = 1 then some SubInfo.u32.readWrite
    else if sub = 2 then some SubInfo.u8.readWrite
    else none
  | tpdoComm _ =>
    if sub = 0 then some .maxSubNumber
    else if sub = 1 then some SubInfo.u32.readWrite
    else if sub = 2 ∨ sub = 6 then some SubInfo.u8.readWrite
    else if sub = 3 ∨ sub = 5 then some SubInfo.u16.readWrite
    else none
  | rpdoMap _ | tpdoMap _ =>
    if sub = 0 then some SubInfo.u8.readWrite
    else if sub ≤ 8 then some SubInfo.u32.readWrite
    else none

/-- The attributes of a sub object. -/
def subInfo (p : Parameter) (sub : UInt8) : Except AbortCode SubInfo :=
  match p.subInfo? sub with
  | some info => .ok info
  | none => .error .noSuchSubIndex

/-- The highest sub index, in a device with the given numbers of PDOs.  The communication object of
a PDO that the device does not have counts no sub objects. -/
def maxSub (p : Parameter) (rpdos tpdos : Nat) : UInt8 :=
  match p with
  | syncCobId | syncPeriod | syncWindow | syncOverflow => 0
  | rpdoComm n => if n < rpdos then rpdoCommSubs else 0
  | tpdoComm n => if n < tpdos then tpdoCommSubs else 0
  | rpdoMap _ | tpdoMap _ => UInt8.ofNat maxMappings

end Parameter

end Canopen
