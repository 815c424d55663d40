/-! # Scanners

A scanner reads a value from the front of a list of characters and leaves the rest, or fails.  An
alternative that fails gives the characters back to the next one. -/

namespace Canopen

namespace Toml

/-- A reader of values from the front of a list of characters. -/
abbrev Scanner (α : Type) := StateT (List Char) Option α

/-- The character that delimits basic strings. -/
def quotationMark : Char := '\x22'

/-- The character that delimits literal strings. -/
def apostrophe : Char := '\x27'

/-- The character that starts an escape sequence. -/
def backslash : Char := '\x5c'

def isBlank (c : Char) : Bool := c == ' ' || c == '\t'

/-- May the character stand in comments and literal strings?  Control characters may not, apart
from the tab. -/
def isPrintable (c : Char) : Bool := c == '\t' || (' ' ≤ c && c ≠ '\x7f')

/-- May the character stand in a bare key? -/
def isBareKeyChar (c : Char) : Bool := c.isAlphanum || c == '-' || c == '_'

namespace Scanner

variable {α : Type}

/-- One character of a class. -/
def satisfy (p : Char → Bool) : Scanner Char := fun cs =>
  match cs with
  | c :: rest => if p c then some (c, rest) else none
  | [] => none

/-- One given character. -/
def char (c : Char) : Scanner Unit := do
  let _ ← satisfy (· == c)

/-- The given characters in turn. -/
def text (s : String) : Scanner Unit := s.toList.forM char

/-- The longest run of characters of a class. -/
def run (p : Char → Bool) : Scanner (List Char) := fun cs =>
  some (cs.takeWhile p, cs.dropWhile p)

/-- Exactly `n` characters of a class. -/
def exactly (n : Nat) (p : Char → Bool) : Scanner (List Char) :=
  (List.replicate n ()).mapM fun _ => satisfy p

/-- A value, or nothing where there is none. -/
def optional? (s : Scanner α) : Scanner (Option α) := some <$> s <|> pure none

/-- Did the scanner find something? -/
def found (s : Scanner α) : Scanner Bool := Option.isSome <$> optional? s

/-- At most `n` values in a row. -/
def atMost : Nat → Scanner α → Scanner (List α)
  | 0, _ => pure []
  | n + 1, s => (do
      let a ← s
      let rest ← atMost n s
      return a :: rest) <|> pure []

/-- As many values in a row as there are.  The scanner of one value takes at least a character. -/
def many (s : Scanner α) : Scanner (List α) := fun cs => atMost cs.length s cs

/-- Values separated by a separator; at least one. -/
def separated (s : Scanner α) (separator : Scanner Unit) : Scanner (List α) := do
  let first ← s
  let rest ← many (do separator; s)
  return first :: rest

def atEnd : Scanner Unit := fun cs => if cs.isEmpty then some ((), []) else none

/-- Go on only if a condition holds. -/
def require (condition : Bool) : Scanner Unit := if condition then pure () else failure

end Scanner

/-- Spaces and tabs. -/
def blanks : Scanner Unit := do
  let _ ← Scanner.run isBlank

/-- A line feed, or a carriage return with a line feed. -/
def newline : Scanner Unit := Scanner.char '\n' <|> Scanner.text "\r\n"

/-- A comment, up to the end of its line. -/
def comment : Scanner Unit := do
  Scanner.char '#'
  let _ ← Scanner.run isPrintable

/-- The rest of a line after its content. -/
def lineEnd : Scanner Unit := do
  blanks
  let _ ← Scanner.optional? comment
  newline <|> Scanner.atEnd

/-- Blanks, comments and line ends between the items of an array.  A comment lasts until the end of
its line. -/
def separation : Scanner Unit := do
  let piece : Scanner Unit :=
    (do
      let _ ← Scanner.satisfy isBlank)
    <|> newline
    <|> (do
      comment
      newline)
  let _ ← Scanner.many piece

/-- The value of a digit in bases up to sixteen. -/
def digitValue (c : Char) : Nat :=
  if c.isDigit then c.toNat - '0'.toNat
  else if 'a' ≤ c && c ≤ 'f' then c.toNat - 'a'.toNat + 10
  else c.toNat - 'A'.toNat + 10

/-- The number written by digits of a base, highest first. -/
def ofDigits (base : Nat) (digits : List Char) : Nat :=
  digits.foldl (fun v c => base * v + digitValue c) 0

/-- Is the character a digit of a base up to ten? -/
def isDigitBelow (base : Nat) (c : Char) : Bool := c.isDigit && digitValue c < base

def isHexDigit (c : Char) : Bool :=
  c.isDigit || ('a' ≤ c && c ≤ 'f') || ('A' ≤ c && c ≤ 'F')

end Toml

end Canopen
