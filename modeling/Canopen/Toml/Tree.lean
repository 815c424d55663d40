import Canopen.Toml.Value

/-! # Tables under construction

A document defines its tables piece by piece: by headers, by dotted keys, and in passing, as parents
of others.  Each table remembers how it came about, because that decides what may still be added to
it.  A table defined by a header cannot be defined again, nor be extended by dotted keys from
outside; a table made by dotted keys cannot be defined by a header; a table made in passing can be
defined by one header later. -/

namespace Canopen

namespace Toml

/-- How a table came about. -/
inductive Origin where
  /-- By a header of its own. -/
  | header
  /-- As the parent in the header of another table. -/
  | implied
  /-- By a dotted key. -/
  | dotted
deriving DecidableEq, Repr

/-- A value, a table, or an array of tables, in a document that is being read. -/
inductive Tree where
  | value (v : Value)
  | table (origin : Origin) (entries : List (String × Tree))
  | tables (items : List (List (String × Tree)))

/-- The entries of a table. -/
abbrev Entries := List (String × Tree)

namespace Entries

def replace (entries : Entries) (key : String) (t : Tree) : Entries :=
  entries.map fun (k, old) => if k = key then (k, t) else (k, old)

def remove (entries : Entries) (key : String) : Entries := entries.filter fun e => e.1 ≠ key

/-- Change the table that a path leads to.  Tables that are missing on the way are made; of an array
of tables the last one is meant.  A dotted path does not lead through tables defined by headers. -/
def editAt {α : Type} (dotted : Bool) (edit : Origin → Entries → Option (α × Entries)) :
    List String → Origin → Entries → Option (α × Entries)
  | [], origin, entries => edit origin entries
  | key :: path, _, entries =>
    match entries.lookup key with
    | none => do
      let origin := if dotted then Origin.dotted else .implied
      let (a, inner) ← editAt dotted edit path origin []
      return (a, entries ++ [(key, .table origin inner)])
    | some (.table origin inner) =>
      if dotted && origin == .header then none
      else do
        let (a, inner) ← editAt dotted edit path origin inner
        return (a, replace entries key (.table origin inner))
    | some (.tables items) => do
      let last ← items.getLast?
      let (a, last) ← editAt dotted edit path .header last
      return (a, replace entries key (.tables (items.dropLast ++ [last])))
    | some (.value _) => none

/-- Define a value under a dotted key: `path` leads to its table.  Only tables made by dotted keys
are extended from outside. -/
def define (entries : Entries) (path : List String) (key : String) (v : Value) : Option Entries :=
  let edit (origin : Origin) (inner : Entries) : Option (Unit × Entries) :=
    if (origin == .dotted) == path.isEmpty then none
    else if (inner.lookup key).isSome then none
    else some ((), inner ++ [(key, .value v)])
  (editAt true edit path .header entries).map Prod.snd

/-- Take out the table that a header defines, with what it holds already. -/
def openTable (entries : Entries) (path : List String) (key : String) :
    Option (Entries × Entries) :=
  let edit (_ : Origin) (inner : Entries) : Option (Entries × Entries) :=
    match inner.lookup key with
    | none => some ([], inner)
    | some (.table .implied held) => some (held, remove inner key)
    | some _ => none
  editAt false edit path .header entries

/-- Put a table that a header defines into its place. -/
def closeTable (entries : Entries) (path : List String) (key : String) (table : Entries) :
    Option Entries :=
  let edit (_ : Origin) (inner : Entries) : Option (Unit × Entries) :=
    match inner.lookup key with
    | none => some ((), inner ++ [(key, .table .header table)])
    | some _ => none
  (editAt false edit path .header entries).map Prod.snd

/-- Append a table to an array of tables. -/
def appendTable (entries : Entries) (path : List String) (key : String) (table : Entries) :
    Option Entries :=
  let edit (_ : Origin) (inner : Entries) : Option (Unit × Entries) :=
    match inner.lookup key with
    | none => some ((), inner ++ [(key, .tables [table])])
    | some (.tables items) => some ((), replace inner key (.tables (items ++ [table])))
    | some _ => none
  (editAt false edit path .header entries).map Prod.snd

end Entries

mutual

/-- The finished value of a tree. -/
def Tree.toValue : Tree → Value
  | .value v => v
  | .table _ entries => .table (entriesToValues entries)
  | .tables items => .array (tablesToValues items)

/-- The finished entries of a table. -/
def entriesToValues : List (String × Tree) → List (String × Value)
  | [] => []
  | (key, t) :: rest => (key, t.toValue) :: entriesToValues rest

/-- The finished tables of an array. -/
def tablesToValues : List (List (String × Tree)) → List Value
  | [] => []
  | entries :: rest => .table (entriesToValues entries) :: tablesToValues rest

end

end Toml

end Canopen
