/-! # TOML values

The values of a TOML document.  Tables keep their entries in the order in which they were defined.
-/

namespace Canopen

namespace Toml

/-- A calendar date. -/
structure Date where
  year : Nat
  month : Nat
  day : Nat
deriving DecidableEq, Repr

/-- A time of day; `fraction` holds the decimal digits after the seconds. -/
structure Time where
  hour : Nat
  minute : Nat
  second : Nat
  fraction : List Nat
deriving DecidableEq, Repr

/-- A point in time, as far as it is given: a date, a time of day, both, or both with the offset
from universal time in minutes. -/
structure Moment where
  date : Option Date
  time : Option Time
  offset : Option Int
deriving DecidableEq, Repr

/-- A floating point literal. -/
inductive FloatLiteral where
  /-- A decimal number, `mantissa` times ten to the power of `exponent`. -/
  | decimal (negative : Bool) (mantissa : Nat) (exponent : Int)
  | infinity (negative : Bool)
  | notANumber (negative : Bool)
deriving DecidableEq, Repr

/-- A value of a document. -/
inductive Value where
  | string (s : String)
  | integer (v : Int)
  | float (v : FloatLiteral)
  | boolean (v : Bool)
  | moment (v : Moment)
  | array (items : List Value)
  | table (entries : List (String × Value))
deriving Repr

end Toml

end Canopen
