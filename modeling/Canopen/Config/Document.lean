import Canopen.Config
import Canopen.Toml.Document

/-! # Configuration files

A configuration is written as a TOML document.  Each part of it is a table of optional fields, or an
array with the fields in their order; an array may end early, and what it has beyond the last field
is ignored.  A table has no other fields.  Numbers are integers that fit their field. -/

namespace Canopen

/-- Why a configuration cannot be loaded. -/
inductive LoadError where
  /-- The file cannot be read, or is not text. -/
  | io
  /-- The text is no configuration. -/
  | malformed
  /-- The configuration violates a rule. -/
  | invalid (e : ConfigError)
deriving DecidableEq, Repr

namespace Toml

namespace Value

/-- The fields of a part of a configuration, in the order of their names. -/
def fields (names : List String) : Value → Option (List (Option Value))
  | table entries =>
    if entries.all fun e => names.contains e.1 then some (names.map fun n => entries.lookup n)
    else none
  | array items => some ((List.range names.length).map fun i => items[i]?)
  | _ => none

/-- An integer below a bound. -/
def natBelow (bound : Nat) : Value → Option Nat
  | integer v => if 0 ≤ v ∧ v < bound then some v.toNat else none
  | _ => none

def u8 (v : Value) : Option UInt8 := (v.natBelow UInt8.size).map UInt8.ofNat

def u16 (v : Value) : Option UInt16 := (v.natBelow UInt16.size).map UInt16.ofNat

def u32 (v : Value) : Option UInt32 := (v.natBelow UInt32.size).map UInt32.ofNat

/-- An array of values of one kind. -/
def listOf {α : Type} (item : Value → Option α) : Value → Option (List α)
  | array items => items.mapM item
  | _ => none

end Value

end Toml

open Toml (Value)

/-- The value of a field, or the initial one if the field is absent. -/
def fieldOr {α : Type} (initial : α) (read : Value → Option α) : Option Value → Option α
  | some v => read v
  | none => some initial

def SyncConfig.ofValue (v : Value) : Option SyncConfig := do
  let fields ← v.fields ["cob_id", "period_us", "window_us", "counter_overflow"]
  match fields with
  | [cobId, periodUs, windowUs, counterOverflow] =>
    return {
      cobId := ← fieldOr initial.cobId Value.u32 cobId
      periodUs := ← fieldOr initial.periodUs Value.u32 periodUs
      windowUs := ← fieldOr initial.windowUs Value.u32 windowUs
      counterOverflow := ← fieldOr initial.counterOverflow Value.u8 counterOverflow }
  | _ => none

def RpdoConfig.ofValue (v : Value) : Option RpdoConfig := do
  let fields ← v.fields ["cob_id", "transmission_type", "mappings", "restrictions"]
  match fields with
  | [cobId, transmissionType, mappings, restrictions] =>
    return {
      cobId := ← fieldOr initial.cobId (fun v => some <$> v.u32) cobId
      transmissionType := ← fieldOr initial.transmissionType Value.u8 transmissionType
      mappings := ← fieldOr initial.mappings (Value.listOf Value.u32) mappings
      restrictions := ← fieldOr initial.restrictions Value.u8 restrictions }
  | _ => none

def TpdoConfig.ofValue (v : Value) : Option TpdoConfig := do
  let fields ← v.fields
    ["cob_id", "transmission_type", "inhibit_time", "event_timer", "sync_start", "mappings",
      "restrictions"]
  match fields with
  | [cobId, transmissionType, inhibitTime, eventTimer, syncStart, mappings, restrictions] =>
    return {
      cobId := ← fieldOr initial.cobId (fun v => some <$> v.u32) cobId
      transmissionType := ← fieldOr initial.transmissionType Value.u8 transmissionType
      inhibitTime := ← fieldOr initial.inhibitTime Value.u16 inhibitTime
      eventTimer := ← fieldOr initial.eventTimer Value.u16 eventTimer
      syncStart := ← fieldOr initial.syncStart Value.u8 syncStart
      mappings := ← fieldOr initial.mappings (Value.listOf Value.u32) mappings
      restrictions := ← fieldOr initial.restrictions Value.u8 restrictions }
  | _ => none

namespace DeviceConfig

/-- The configuration in a document. -/
def ofValue (v : Value) : Option DeviceConfig := do
  let fields ← v.fields ["node_id", "sync", "rpdos", "tpdos"]
  match fields with
  | [nodeId, sync, rpdos, tpdos] =>
    return {
      nodeId := ← fieldOr initial.nodeId Value.u8 nodeId
      sync := ← fieldOr initial.sync SyncConfig.ofValue sync
      rpdos := ← fieldOr initial.rpdos (Value.listOf RpdoConfig.ofValue) rpdos
      tpdos := ← fieldOr initial.tpdos (Value.listOf TpdoConfig.ofValue) tpdos }
  | _ => none

/-- Read a configuration from the text of a document, and check its rules. -/
def ofText (text : String) : Except LoadError DeviceConfig :=
  match (Toml.parse text).bind fun entries => ofValue (.table entries) with
  | none => .error .malformed
  | some c =>
    match c.validate with
    | .ok () => .ok c
    | .error e => .error (.invalid e)

/-- Read a configuration from the content of a file; none if there is no such file. -/
def ofFile (content : Option ByteArray) : Except LoadError DeviceConfig :=
  match content.bind String.fromUTF8? with
  | none => .error .io
  | some text => ofText text

end DeviceConfig

end Canopen
