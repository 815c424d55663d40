/-! # Communication errors

Problems found while process data and SYNC are handled are reported to an error status.  It keeps
the set of active kinds of error.  A report of a kind that is not active makes it active and is
forwarded to the application; a report of an active kind changes nothing, so that each episode is
forwarded once. -/

namespace Canopen

/-- The kinds of communication error. -/
inductive ErrorKind where
  /-- A frame was refused by the transport. -/
  | canTxOverflow
  /-- The SYNC did not come in time. -/
  | syncTimeout
  /-- A SYNC message had the wrong length. -/
  | syncLength
  /-- A PDO mapping could not be resolved. -/
  | pdoWrongMapping
deriving DecidableEq, Repr

namespace ErrorKind

/-- All kinds, by ascending status bit. -/
def all : List ErrorKind := [canTxOverflow, syncTimeout, syncLength, pdoWrongMapping]

def statusBit : ErrorKind → UInt8
  | canTxOverflow => 0x14
  | syncTimeout => 0x18
  | syncLength => 0x19
  | pdoWrongMapping => 0x1A

/-- The emergency error code that goes with the kind. -/
def emergencyCode : ErrorKind → UInt16
  | canTxOverflow => 0x8110
  | syncTimeout => 0x8100
  | syncLength => 0x8240
  | pdoWrongMapping => 0x8200

end ErrorKind

/-- A report of an error. -/
structure ErrorReport where
  kind : ErrorKind
  code : UInt16
  /-- For instance the identifier of a lost frame, or the mapping that failed. -/
  info : UInt32
deriving DecidableEq, Repr

/-- A set of kinds of error. -/
structure ErrorSet where
  canTxOverflow : Bool
  syncTimeout : Bool
  syncLength : Bool
  pdoWrongMapping : Bool
deriving DecidableEq, Repr

namespace ErrorSet

/-- No kind at all. -/
def empty : ErrorSet := ⟨false, false, false, false⟩

def contains (s : ErrorSet) : ErrorKind → Bool
  | .canTxOverflow => s.canTxOverflow
  | .syncTimeout => s.syncTimeout
  | .syncLength => s.syncLength
  | .pdoWrongMapping => s.pdoWrongMapping

/-- The set with a kind put in or taken out. -/
def assign (s : ErrorSet) (kind : ErrorKind) (present : Bool) : ErrorSet :=
  match kind with
  | .canTxOverflow => { s with canTxOverflow := present }
  | .syncTimeout => { s with syncTimeout := present }
  | .syncLength => { s with syncLength := present }
  | .pdoWrongMapping => { s with pdoWrongMapping := present }

@[simp] theorem contains_empty (kind : ErrorKind) : empty.contains kind = false := by
  cases kind <;> rfl

@[simp] theorem contains_assign (s : ErrorSet) (kind other : ErrorKind) (present : Bool) :
    (s.assign kind present).contains other =
      if other = kind then present else s.contains other := by
  cases kind <;> cases other <;> rfl

theorem assign_of_contains {s : ErrorSet} {kind : ErrorKind} {present : Bool}
    (h : s.contains kind = present) : s.assign kind present = s := by
  subst h
  cases kind <;> rfl

/-- The kinds in the set, by ascending status bit. -/
def toList (s : ErrorSet) : List ErrorKind := ErrorKind.all.filter s.contains

end ErrorSet

/-- The active errors, and what has been forwarded about them. -/
structure ErrorStatus where
  active : ErrorSet
  lastReport : Option ErrorReport
  /-- The forwarded reports, in order, since the application last collected them. -/
  forwarded : List ErrorReport
deriving DecidableEq, Repr

namespace ErrorStatus

/-- No error is active. -/
def fresh : ErrorStatus := ⟨.empty, none, []⟩

def isActive (e : ErrorStatus) (kind : ErrorKind) : Bool := e.active.contains kind

/-- An error is present. -/
def report (e : ErrorStatus) (kind : ErrorKind) (code : UInt16) (info : UInt32) : ErrorStatus :=
  if e.isActive kind then e
  else {
    active := e.active.assign kind true
    lastReport := some ⟨kind, code, info⟩
    forwarded := e.forwarded ++ [⟨kind, code, info⟩] }

/-- An error is present; it is reported with the emergency code of its kind. -/
def raise (e : ErrorStatus) (kind : ErrorKind) (info : UInt32) : ErrorStatus :=
  e.report kind kind.emergencyCode info

/-- An error is no longer present. -/
def reset (e : ErrorStatus) (kind : ErrorKind) : ErrorStatus :=
  { e with active := e.active.assign kind false }

/-- Forget all errors and the last report. -/
def clear (e : ErrorStatus) : ErrorStatus := { e with active := .empty, lastReport := none }

/-- Hand the forwarded reports to the application. -/
def collect (e : ErrorStatus) : List ErrorReport × ErrorStatus :=
  (e.forwarded, { e with forwarded := [] })

theorem isActive_report (e : ErrorStatus) (kind other : ErrorKind) (code : UInt16)
    (info : UInt32) :
    (e.report kind code info).isActive other = (decide (other = kind) || e.isActive other) := by
  unfold report
  split
  · rename_i h
    by_cases hk : other = kind
    · subst hk
      simpa using h
    · simp [hk]
  · simp only [isActive, ErrorSet.contains_assign]
    by_cases hk : other = kind <;> simp [hk]

theorem isActive_reset (e : ErrorStatus) (kind other : ErrorKind) :
    (e.reset kind).isActive other = (!decide (other = kind) && e.isActive other) := by
  simp only [reset, isActive, ErrorSet.contains_assign]
  by_cases hk : other = kind <;> simp [hk]

end ErrorStatus

end Canopen
