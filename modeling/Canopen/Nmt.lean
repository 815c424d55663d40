/-! # Operating states

The network management state decides what a node communicates: process data is exchanged only
while operational, the SYNC object is handled while operational or pre-operational. -/

namespace Canopen

/-- The operating state of a node. -/
inductive NmtState where
  /-- Initializing after power-on or reset. -/
  | bootup
  /-- Neither process data nor SYNC. -/
  | stopped
  /-- Process data and SYNC. -/
  | operational
  /-- SYNC, but no process data. -/
  | preOperational
deriving DecidableEq, Repr

/-- The code stands for no operating state. -/
structure InvalidNmtState where
  value : UInt8
deriving DecidableEq, Repr

def InvalidNmtState.message (e : InvalidNmtState) : String :=
  s!"Invalid NMT state {e.value.toNat}"

namespace NmtState

def code : NmtState → UInt8
  | bootup => 0
  | stopped => 4
  | operational => 5
  | preOperational => 127

def ofCode (code : UInt8) : Except InvalidNmtState NmtState :=
  if code = 0 then .ok bootup
  else if code = 4 then .ok stopped
  else if code = 5 then .ok operational
  else if code = 127 then .ok preOperational
  else .error ⟨code⟩

/-- Is the SYNC object handled in this state? -/
def syncActive : NmtState → Bool
  | operational | preOperational => true
  | bootup | stopped => false

theorem ofCode_code (s : NmtState) : ofCode s.code = .ok s := by cases s <;> rfl

end NmtState

end Canopen
