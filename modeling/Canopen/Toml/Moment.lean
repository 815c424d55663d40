import Canopen.Toml.Scanner
import Canopen.Toml.Value

/-! # Dates and times

Dates are those of the calendar, leap years included.  A minute may have a leap second. -/

namespace Canopen

namespace Toml

open Scanner

def isLeapYear (year : Nat) : Bool := year % 4 == 0 && (year % 100 != 0 || year % 400 == 0)

def daysInMonth (year month : Nat) : Nat :=
  if month = 2 then if isLeapYear year then 29 else 28
  else if month = 4 ∨ month = 6 ∨ month = 9 ∨ month = 11 then 30
  else 31

/-- A number of exactly `count` digits between two bounds. -/
def boundedNumber (count least most : Nat) : Scanner Nat := do
  let v := ofDigits 10 (← exactly count (·.isDigit))
  require (least ≤ v && v ≤ most)
  return v

def date : Scanner Date := do
  let year ← boundedNumber 4 0 9999
  char '-'
  let month ← boundedNumber 2 1 12
  char '-'
  let day ← boundedNumber 2 1 31
  require (day ≤ daysInMonth year month)
  return ⟨year, month, day⟩

/-- The decimal places of the seconds. -/
def secondFraction : Scanner (List Nat) := do
  char '.'
  let ds ← run (·.isDigit)
  require !ds.isEmpty
  return ds.map digitValue

def time : Scanner Time := do
  let hour ← boundedNumber 2 0 23
  char ':'
  let minute ← boundedNumber 2 0 59
  char ':'
  let second ← boundedNumber 2 0 60
  let fraction ← optional? secondFraction
  return ⟨hour, minute, second, fraction.getD []⟩

/-- An offset from universal time, in minutes. -/
def offset : Scanner Int :=
  (do
    let _ ← satisfy fun c => c == 'Z' || c == 'z'
    return 0)
  <|> (do
    let s ← satisfy fun c => c == '+' || c == '-'
    let hour ← boundedNumber 2 0 23
    char ':'
    let minute ← boundedNumber 2 0 59
    let minutes : Int := 60 * hour + minute
    return if s = '-' then -minutes else minutes)

/-- The time of day after a date, with its offset if there is one. -/
def timeAfterDate : Scanner (Time × Option Int) := do
  let _ ← satisfy fun c => c == 'T' || c == 't' || c == ' '
  let t ← time
  let o ← optional? offset
  return (t, o)

def moment : Scanner Moment :=
  (do
    let d ← date
    let t ← optional? timeAfterDate
    return ⟨some d, t.map Prod.fst, t.bind Prod.snd⟩)
  <|> (do
    let t ← time
    return ⟨none, some t, none⟩)

end Toml

end Canopen
