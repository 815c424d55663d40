import Canopen.Toml.Scanner
import Canopen.Toml.Value

/-! # Numbers

Integers are decimal, hexadecimal, octal or binary and fit into 64 bits with sign.  Underscores may
stand between digits.  A decimal integer has no leading zeros.  A floating point number is a decimal
integer with a fraction, an exponent, or both; one that is too large for the 64-bit format is
refused. -/

namespace Canopen

namespace Toml

open Scanner

/-- Digits of a class, with single underscores between them; at least one. -/
def digits (p : Char → Bool) : Scanner (List Char) := do
  let first ← satisfy p
  let rest ← many (satisfy p <|> (do
    char '_'
    satisfy p))
  return first :: rest

/-- A sign, if there is one: is it a minus? -/
def sign : Scanner Bool := do
  let s ← optional? (satisfy fun c => c == '+' || c == '-')
  return s == some '-'

/-- The digits of a decimal integer without leading zeros. -/
def decimalDigits : Scanner (List Char) := do
  let ds ← digits (·.isDigit)
  require (ds.head? != some '0' || ds.length == 1)
  return ds

/-- An integer that must be a signed 64-bit number. -/
def fitting (v : Int) : Scanner Int := do
  require (Int64.minValue.toInt ≤ v && v ≤ Int64.maxValue.toInt)
  return v

def decimalInteger : Scanner Int := do
  let negative ← sign
  let v : Int := ofDigits 10 (← decimalDigits)
  fitting (if negative then -v else v)

/-- An integer whose base is named by a leading text. -/
def basedInteger (lead : String) (base : Nat) (p : Char → Bool) : Scanner Int := do
  text lead
  fitting (ofDigits base (← digits p))

def integer : Scanner Int :=
  basedInteger "0x" 16 isHexDigit
  <|> basedInteger "0o" 8 (isDigitBelow 8)
  <|> basedInteger "0b" 2 (isDigitBelow 2)
  <|> decimalInteger

/-- The least number that rounds to no finite 64-bit floating point number. -/
def floatBound : Nat := 1 <<< 1024 - 1 <<< 970

/-- Is `mantissa` times ten to the power of `exponent` below the bound?  The order of magnitude
decides where it can. -/
def isBelowFloatBound (mantissa : Nat) (exponent : Int) : Bool :=
  let magnitude : Int := (Nat.toDigits 10 mantissa).length + exponent
  if mantissa = 0 then true
  else if 320 < magnitude then false
  else if magnitude < 300 then true
  else if 0 ≤ exponent then mantissa * Nat.pow 10 exponent.toNat < floatBound
  else mantissa < floatBound * Nat.pow 10 (-exponent).toNat

def fraction : Scanner (List Char) := do
  char '.'
  digits (·.isDigit)

def exponent : Scanner Int := do
  let _ ← satisfy fun c => c == 'e' || c == 'E'
  let negative ← sign
  let v : Int := ofDigits 10 (← digits (·.isDigit))
  return if negative then -v else v

/-- A floating point number with digits. -/
def decimalFloat : Scanner FloatLiteral := do
  let negative ← sign
  let whole ← decimalDigits
  let fractional ← optional? fraction
  let power ← optional? exponent
  require (fractional.isSome || power.isSome)
  let places := fractional.getD []
  let mantissa := ofDigits 10 (whole ++ places)
  let scale := power.getD 0 - places.length
  require (negative || isBelowFloatBound mantissa scale)
  return .decimal negative mantissa scale

/-- A floating point number without digits. -/
def specialFloat : Scanner FloatLiteral := do
  let negative ← sign
  (do
    text "inf"
    return .infinity negative)
  <|> (do
    text "nan"
    return .notANumber negative)

def float : Scanner FloatLiteral := decimalFloat <|> specialFloat

end Toml

end Canopen
