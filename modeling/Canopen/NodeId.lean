/-! # Node identifiers

A configured node has an identifier from 1 to 127.  The raw value 255 stands for a node that has
not been given one yet; no other raw value is a node identifier. -/

namespace Canopen

/-- An identifier from 1 to 127. -/
structure ConfiguredId where
  raw : UInt8
  pos : 0 < raw
  lt : raw < 128
deriving DecidableEq, Repr

/-- The identifier of a node. -/
inductive NodeId where
  /-- No identifier has been assigned. -/
  | unconfigured
  | configured (id : ConfiguredId)
deriving DecidableEq, Repr

/-- The raw value is no node identifier. -/
structure InvalidNodeId where
  value : UInt8
deriving DecidableEq, Repr

def InvalidNodeId.message (e : InvalidNodeId) : String := s!"Invalid node ID {e.value.toNat}"

def ConfiguredId.ofRaw (raw : UInt8) : Except InvalidNodeId ConfiguredId :=
  if h : 0 < raw ∧ raw < 128 then .ok ⟨raw, h.1, h.2⟩ else .error ⟨raw⟩

namespace NodeId

def ofRaw (raw : UInt8) : Except InvalidNodeId NodeId :=
  if raw = 255 then .ok .unconfigured else (ConfiguredId.ofRaw raw).map .configured

def raw : NodeId → UInt8
  | unconfigured => 255
  | configured id => id.raw

/-- What is added to the pre-defined identifiers of the node's PDOs. -/
def offset : NodeId → UInt8
  | unconfigured => 0
  | configured id => id.raw

/-- Is this an assigned identifier? -/
def isConfigured : NodeId → Bool
  | unconfigured => false
  | configured _ => true

theorem offset_le (id : NodeId) : id.offset.toNat ≤ 127 := by
  cases id with
  | unconfigured => decide
  | configured id =>
    have := UInt8.lt_iff_toNat_lt.mp id.lt
    simp only [offset]
    have h : (128 : UInt8).toNat = 128 := rfl
    omega

theorem ofRaw_raw (id : NodeId) : ofRaw id.raw = .ok id := by
  cases id with
  | unconfigured => rfl
  | configured id =>
    obtain ⟨r, hp, hl⟩ := id
    have hne : r ≠ 255 := by
      intro h
      subst h
      exact absurd hl (by decide)
    simp [ofRaw, raw, hne, ConfiguredId.ofRaw, hp, hl, Except.map]

end NodeId

end Canopen
