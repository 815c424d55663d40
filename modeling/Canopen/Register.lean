/-! # Registers

A register holds one value.  Every operation that replaces the value also says what was there, and
a conditional update either stores a new value or leaves the register as it is. -/

namespace Canopen

/-- A storage place for one value. -/
structure Register (α : Type) where
  value : α
deriving DecidableEq, Repr

namespace Register

variable {α : Type}

/-- Put a new value in place of the present one. -/
def store (_ : Register α) (v : α) : Register α := ⟨v⟩

/-- Put a new value in place of the present one, which is handed out. -/
def swap (r : Register α) (v : α) : α × Register α := (r.value, ⟨v⟩)

/-- Hand out the value and leave the default in its place. -/
def take [Inhabited α] (r : Register α) : α × Register α := r.swap default

/-- Replace the value by what `f` makes of it.  The old value is answered as `ok`; where `f` has
no answer the register stays as it is and its value is answered as `error`. -/
def update? (r : Register α) (f : α → Option α) : Except α α × Register α :=
  match f r.value with
  | some v => (.ok r.value, ⟨v⟩)
  | none => (.error r.value, r)

theorem update?_of_none {r : Register α} {f : α → Option α} (h : f r.value = none) :
    r.update? f = (.error r.value, r) := by
  simp [update?, h]

/-- Add `v`, unless the sum is no 32-bit word or is above `bound`. -/
def addWithin (r : Register UInt32) (v bound : UInt32) : Except UInt32 UInt32 × Register UInt32 :=
  r.update? fun x => if x.toNat + v.toNat ≤ bound.toNat then some (x + v) else none

end Register

end Canopen
