import WaveCache.Toml.Moment

/-!
# TOML values

The values of TOML documents: numbers, booleans, moments, strings, lists and tables.  A table grows
while a document is read, and how it came to be decides how.  A table between braces is complete, a
table with a header of its own gets entries from the lines below the header, and a table made by
dotted keys gets entries from dotted keys only.

`Entries.alter` changes a table deep inside others and makes the tables that are missing on the way.
-/

namespace WaveCache.Toml

/-- How a table came to be. -/
inductive Origin where
  /-- It has a header of its own, or it is the whole document. -/
  | header
  /-- It was named on the way to the table of another header. -/
  | passing
  /-- It was named by a dotted key. -/
  | dotted
  /-- It stands between braces. -/
  | braces
deriving DecidableEq

/-- A value. -/
inductive Value where
  | integer (n : Int)
  | real (x : Binary64)
  | boolean (b : Bool)
  /-- A date, a time, or both. -/
  | moment (m : Moment)
  | string (s : String)
  /-- A list between brackets. -/
  | list (items : List Value)
  /-- The tables of a header that may be repeated, in order. -/
  | tables (items : List (List (String × Value)))
  | table (origin : Origin) (entries : List (String × Value))

/-- The entries of a table. -/
abbrev Entries := List (String × Value)

namespace Entries

/-- Gives a key another value. -/
def put (key : String) (value : Value) (entries : Entries) : Entries :=
  entries.map fun entry => if entry.1 = key then (key, value) else entry

/-- Adds a key, which must not be there. -/
def add (key : String) (value : Value) (entries : Entries) : Option Entries :=
  if (entries.lookup key).isSome then none else some (entries ++ [(key, value)])

/-- Changes the table at the end of a path.  A dotted path does not lead into tables that have a
header, and no path leads into a table between braces. -/
def alter (isDotted : Bool) (change : Origin → Entries → Option Entries) :
    (path : List String) → Origin → Entries → Option Entries
  | [], origin, entries => change origin entries
  | key :: path, _, entries =>
    match entries.lookup key with
    | none =>
      let made := if isDotted then Origin.dotted else .passing
      (alter isDotted change path made []).map fun sub => entries ++ [(key, .table made sub)]
    | some (.table origin sub) =>
      if origin = .braces || isDotted && origin = .header then none
      else
        (alter isDotted change path origin sub).map fun sub => entries.put key (.table origin sub)
    | some (.tables items) =>
      items.getLast?.bind fun last =>
        (alter isDotted change path .header last).map fun last =>
          entries.put key (.tables (items.dropLast ++ [last]))
    | some _ => none

/-- Adds a value under a dotted key. -/
def addDotted (path : List String) (key : String) (value : Value) (entries : Entries) :
    Option Entries :=
  alter true (fun origin entries =>
    if path ≠ [] ∧ origin ≠ .dotted then none else entries.add key value) path .header entries

/-- Opens the table of a header.  It may be there only if it was named in passing. -/
def openTable (path : List String) (key : String) (entries : Entries) : Option Entries :=
  alter false (fun _ entries =>
    match entries.lookup key with
    | none => some (entries ++ [(key, .table .header [])])
    | some (.table .passing sub) => some (entries.put key (.table .header sub))
    | some _ => none) path .header entries

/-- Opens another table of a header that may be repeated. -/
def openNext (path : List String) (key : String) (entries : Entries) : Option Entries :=
  alter false (fun _ entries =>
    match entries.lookup key with
    | none => some (entries ++ [(key, .tables [[]])])
    | some (.tables items) => some (entries.put key (.tables (items ++ [[]])))
    | some _ => none) path .header entries

/-- Adds a value under a dotted key to the table that was opened last. -/
def addBelow (table : List String) (path : List String) (key : String) (value : Value)
    (entries : Entries) : Option Entries :=
  alter false (fun _ entries => entries.addDotted path key value) table .header entries

end Entries

end WaveCache.Toml
