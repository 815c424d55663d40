import Canopen.Toml.Scanner

/-! # Strings and keys

Basic strings have escape sequences, literal strings have none.  Both come in a form for one line
and in a form for several lines, which is delimited by three quotes; up to two quotes may stand
anywhere in the text of the latter, its end included. -/

namespace Canopen

namespace Toml

open Scanner

/-- May the character stand for itself in a basic string? -/
def isBasicChar (c : Char) : Bool := isPrintable c && c ≠ quotationMark && c ≠ backslash

/-- May the character stand in a literal string? -/
def isLiteralChar (c : Char) : Bool := isPrintable c && c ≠ apostrophe

/-- The character with a given code point, which must be a Unicode scalar value. -/
def codePoint (v : Nat) : Scanner Char :=
  if v < 0xD800 || (0xDFFF < v && v < 0x110000) then pure (Char.ofNat v) else failure

def escaped : Scanner Char := do
  let c ← satisfy fun _ => true
  if c = 'b' then return '\x08'
  else if c = 't' then return '\t'
  else if c = 'n' then return '\n'
  else if c = 'f' then return '\x0c'
  else if c = 'r' then return '\r'
  else if c = quotationMark then return c
  else if c = backslash then return c
  else if c = 'u' then codePoint (ofDigits 16 (← exactly 4 isHexDigit))
  else if c = 'U' then codePoint (ofDigits 16 (← exactly 8 isHexDigit))
  else failure

def basicChar : Scanner Char :=
  satisfy isBasicChar <|> (do
    char backslash
    escaped)

/-- A basic string on one line. -/
def basicString : Scanner String := do
  char quotationMark
  let content ← many basicChar
  char quotationMark
  return String.ofList content

/-- A literal string on one line. -/
def literalString : Scanner String := do
  char apostrophe
  let content ← run isLiteralChar
  char apostrophe
  return String.ofList content

/-- A backslash at the end of a line, which swallows all blanks and line ends that follow. -/
def continuation : Scanner (List Char) := do
  char backslash
  blanks
  newline
  let _ ← many ((do
    let _ ← satisfy isBlank) <|> newline)
  return []

/-- A piece of a basic string that is not a quote. -/
def multilineBasicPiece : Scanner (List Char) :=
  List.singleton <$> satisfy isBasicChar
  <|> continuation
  <|> (do
    char backslash
    List.singleton <$> escaped)
  <|> (do
    newline
    return ['\n'])

/-- A piece of a literal string that is not a quote. -/
def multilineLiteralPiece : Scanner (List Char) :=
  List.singleton <$> satisfy isLiteralChar
  <|> (do
    newline
    return ['\n'])

/-- A run of quotes whose number lies between two bounds. -/
def quotes (quote : Char) (least most : Nat) : Scanner (List Char) := do
  let found ← run (· == quote)
  require (least ≤ found.length && found.length ≤ most)
  return found

/-- A string on several lines.  A line end right after the opening quotes is dropped. -/
def multilineString (quote : Char) (piece : Scanner (List Char)) : Scanner String := do
  for _ in List.range 3 do
    char quote
  let _ ← optional? newline
  let content ← many (quotes quote 1 2 <|> piece)
  let closing ← quotes quote 3 5
  return String.ofList (content.flatten ++ closing.drop 3)

/-- A string of any form. -/
def string : Scanner String :=
  multilineString quotationMark multilineBasicPiece
  <|> basicString
  <|> multilineString apostrophe multilineLiteralPiece
  <|> literalString

/-- A part of a key: bare characters or a string on one line. -/
def keyPart : Scanner String :=
  basicString <|> literalString <|> (do
    let bare ← run isBareKeyChar
    require !bare.isEmpty
    return String.ofList bare)

/-- The nesting that a document may reach, of dotted keys and of values. -/
def maxNesting : Nat := 79

/-- A key: parts separated by dots, with blanks around them. -/
def key : Scanner (List String) := do
  let part : Scanner String := do
    blanks
    let part ← keyPart
    blanks
    return part
  let parts ← separated part (char '.')
  require (parts.length ≤ maxNesting)
  return parts

end Toml

end Canopen
