import Canopen.Toml.Moment
import Canopen.Toml.Number
import Canopen.Toml.Text
import Canopen.Toml.Tree

/-! # TOML documents

A document is a list of lines: definitions of values and headers of tables.  Reading it first splits
it into these statements, and then carries them out one after the other. -/

namespace Canopen

namespace Toml

open Scanner

/-- A value that is neither an array nor an inline table. -/
def scalar : Scanner Value :=
  .string <$> string
  <|> .moment <$> moment
  <|> .float <$> float
  <|> .integer <$> integer
  <|> (do
    text "true"
    return .boolean true)
  <|> (do
    text "false"
    return .boolean false)

/-- A key with its value: the path to the table, the last part of the key, and the value. -/
structure Definition where
  path : List String
  key : String
  value : Value

/-- The path and the last part of a key. -/
def splitKey (parts : List String) : List String × String :=
  (parts.dropLast, parts.getLastD "")

/-- A key and its value. -/
def definition (value : Scanner Value) : Scanner Definition := do
  let (path, last) := splitKey (← key)
  char '='
  blanks
  return ⟨path, last, ← value⟩

/-- An array of values, over several lines if need be. -/
def array (value : Scanner Value) : Scanner Value := do
  char '['
  let item : Scanner Value := do
    separation
    let v ← value
    separation
    return v
  let items ← optional? (do
    let items ← separated item (char ',')
    let _ ← optional? (char ',')
    return items)
  separation
  char ']'
  return .array (items.getD [])

/-- Define values in a table, one after the other. -/
def defineAll (entries : Entries) : List Definition → Option Entries
  | [] => some entries
  | d :: ds => do defineAll (← entries.define d.path d.key d.value) ds

/-- A table on one line. -/
def inlineTable (value : Scanner Value) : Scanner Value := do
  char '\x7b'
  let item : Scanner Definition := do
    let d ← definition value
    blanks
    return d
  let definitions ← optional? (separated item (char ','))
  blanks
  char '\x7d'
  let entries ← (defineAll [] (definitions.getD []) : Option Entries)
  return .table (entriesToValues entries)

/-- A value with at most so many arrays and inline tables inside each other. -/
def value : (nesting : Nat) → Scanner Value
  | 0 => scalar
  | nesting + 1 =>
    scalar <|> array (value nesting) <|> inlineTable (value nesting)

/-- A statement of a document. -/
inductive Statement where
  | define (d : Definition)
  /-- The header of a table. -/
  | table (path : List String) (key : String)
  /-- The header of a table in an array of tables. -/
  | arrayTable (path : List String) (key : String)
  /-- An empty line or a comment. -/
  | blank

def arrayTableHeader : Scanner Statement := do
  text "[["
  let (path, last) := splitKey (← key)
  text "]]"
  return .arrayTable path last

def tableHeader : Scanner Statement := do
  char '['
  let (path, last) := splitKey (← key)
  char ']'
  return .table path last

/-- A line of a document. -/
def statement : Scanner Statement := do
  blanks
  let content ← optional? <|
    arrayTableHeader <|> tableHeader <|> .define <$> definition (value maxNesting)
  lineEnd
  return content.getD .blank

/-- All lines of a document, with at most `count` lines. -/
def statements : (count : Nat) → List Char → Option (List Statement)
  | _, [] => some []
  | 0, _ => none
  | count + 1, cs => do
    let (s, rest) ← statement cs
    return s :: (← statements count rest)

/-- Where the values of a document go to that is being read. -/
structure Assembly where
  /-- The finished part of the document. -/
  root : Entries
  /-- The table that was opened last, which is not yet in its place. -/
  current : Entries
  /-- The place of that table; none for the document itself. -/
  place : Option (List String × String)
  /-- Does that table belong to an array of tables? -/
  isArrayItem : Bool

namespace Assembly

/-- Nothing has been read. -/
def start : Assembly := ⟨[], [], none, false⟩

/-- Put the current table into its place. -/
def close (a : Assembly) : Option Entries :=
  match a.place with
  | none => some a.current
  | some (path, key) =>
    if a.isArrayItem then a.root.appendTable path key a.current
    else a.root.closeTable path key a.current

/-- Carry out a statement. -/
def step (a : Assembly) : Statement → Option Assembly
  | .blank => some a
  | .define d => do return { a with current := ← a.current.define d.path d.key d.value }
  | .table path key => do
    let root ← a.close
    let (held, root) ← root.openTable path key
    return ⟨root, held, some (path, key), false⟩
  | .arrayTable path key => do
    return ⟨← a.close, [], some (path, key), true⟩

end Assembly

/-- The byte order mark, which may stand in front of a document. -/
def byteOrderMark : Char := '\ufeff'

/-- The entries of a document, if it is well formed. -/
def parse (text : String) : Option (List (String × Value)) := do
  let cs := text.toList
  let cs := if cs.head? = some byteOrderMark then cs.drop 1 else cs
  let lines ← statements cs.length cs
  let assembly ← lines.foldlM Assembly.step Assembly.start
  return entriesToValues (← assembly.close)

end Toml

end Canopen
