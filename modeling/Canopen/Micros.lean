/-! # Microsecond timers

Timers are 32-bit words of microseconds that stop at their ends instead of wrapping: `advance`
stays at the largest word, `countdown` stays at zero.  The lemmas `toNat_advance` and
`toNat_countdown` give both in unbounded arithmetic.  The clock itself has 64 bits, and
`elapsed` is the time between two readings of it. -/

namespace Canopen

/-- A duration in microseconds. -/
abbrev Micros := UInt32

namespace Micros

/-- The longest duration a timer can hold. -/
def longest : Micros := 0xFFFFFFFF

/-- A timer after `elapsed` more microseconds, at most `longest`. -/
def advance (timer elapsed : Micros) : Micros :=
  if timer.toNat + elapsed.toNat ≤ longest.toNat then timer + elapsed else longest

/-- What is left of a timer after `elapsed` microseconds, at least zero. -/
def countdown (timer elapsed : Micros) : Micros :=
  if elapsed ≤ timer then timer - elapsed else 0

theorem toNat_longest : longest.toNat = 4294967295 := rfl

theorem toNat_advance (timer elapsed : Micros) :
    (advance timer elapsed).toNat = min (timer.toNat + elapsed.toNat) longest.toNat := by
  have hl := toNat_longest
  unfold advance
  split
  · rename_i h
    rw [UInt32.toNat_add]
    omega
  · rename_i h
    omega

theorem toNat_countdown (timer elapsed : Micros) :
    (countdown timer elapsed).toNat = timer.toNat - elapsed.toNat := by
  unfold countdown
  split
  · rename_i h
    rw [UInt32.toNat_sub_of_le _ _ h]
  · rename_i h
    have : timer.toNat < elapsed.toNat := by
      rw [UInt32.le_iff_toNat_le] at h
      omega
    simp
    omega

/-- The time from clock reading `last` to clock reading `now`, at most `longest`.  A clock that
went back, and a first reading, count as no time at all. -/
def elapsed (last : Option UInt64) (now : UInt64) : Micros :=
  match last with
  | none => 0
  | some last => UInt32.ofNat (min (now.toNat - last.toNat) longest.toNat)

theorem toNat_elapsed_some (last now : UInt64) :
    (elapsed (some last) now).toNat = min (now.toNat - last.toNat) longest.toNat := by
  have hl := toNat_longest
  simp only [elapsed, UInt32.toNat_ofNat']
  omega

/-- The microseconds of an inhibit time, which counts in units of 100 µs. -/
def ofInhibitTime (time : UInt16) : Micros := time.toUInt32 * 100

/-- The microseconds of an event time, which counts in milliseconds. -/
def ofEventTime (time : UInt16) : Micros := time.toUInt32 * 1000

theorem toNat_ofInhibitTime (time : UInt16) : (ofInhibitTime time).toNat = time.toNat * 100 := by
  have h := time.toNat_lt
  have unit : (100 : UInt32).toNat = 100 := rfl
  rw [ofInhibitTime, UInt32.toNat_mul, UInt16.toNat_toUInt32, unit]
  omega

theorem toNat_ofEventTime (time : UInt16) : (ofEventTime time).toNat = time.toNat * 1000 := by
  have h := time.toNat_lt
  have unit : (1000 : UInt32).toNat = 1000 := rfl
  rw [ofEventTime, UInt32.toNat_mul, UInt16.toNat_toUInt32, unit]
  omega

end Micros

end Canopen
