import WaveCache.Toml.Lexis
import WaveCache.Toml.Value

/-!
# TOML documents

A document is a sequence of lines: headers, which open tables, and entries, which go to the table
that was opened last.  Lists may go over several lines and tables between braces may not.  A value
may not hold lists and tables in one another without end.

This is what the `toml` library reads.
-/

namespace WaveCache.Toml

/-! ## Values -/

/-- The greatest number of lists and tables between braces that stand in one another. -/
def deepest : Nat := 79

/-- Reads a number or a moment. -/
def readScalar (cs : List Char) : Option (Value × List Char) :=
  match readMoment cs, readReal cs with
  | some (m, rest), _ => some (.moment m, rest)
  | none, some (x, rest) => some (.real x, rest)
  | none, none => (readInteger cs).map fun (n, rest) => (.integer n, rest)

mutual

/-- Reads a value that may hold as many lists and tables in one another as `depth` says.  Every step
goes into a value or on to the next one. -/
def readNested : (steps depth : Nat) → List Char → Option (Value × List Char)
  | 0, _, _ => none
  | steps + 1, depth, cs =>
    match cs, depth with
    | '"' :: cs, _ => (readString .quote cs).map fun (s, rest) => (.string s, rest)
    | '\'' :: cs, _ => (readString .apostrophe cs).map fun (s, rest) => (.string s, rest)
    | '[' :: cs, depth + 1 =>
      (readItems steps depth cs).map fun (items, rest) => (.list items, rest)
    | '{' :: cs, depth + 1 =>
      (readBraces steps depth cs).map fun (es, rest) => (.table .braces es, rest)
    | 't' :: 'r' :: 'u' :: 'e' :: cs, _ => some (.boolean true, cs)
    | 'f' :: 'a' :: 'l' :: 's' :: 'e' :: cs, _ => some (.boolean false, cs)
    | cs, _ => readScalar cs

/-- Reads the items of a list up to its closing bracket.  A comma may stand behind the last. -/
def readItems : (steps depth : Nat) → List Char → Option (List Value × List Char)
  | 0, _, _ => none
  | steps + 1, depth, cs =>
    match skipLines cs.length cs with
    | ']' :: cs => some ([], cs)
    | cs => do
      let (item, cs) ← readNested steps depth cs
      match skipLines cs.length cs with
      | ',' :: cs =>
        let (items, rest) ← readItems steps depth cs
        return (item :: items, rest)
      | ']' :: cs => return ([item], cs)
      | _ => none

/-- Reads a table behind its opening brace. -/
def readBraces : (steps depth : Nat) → List Char → Option (Entries × List Char)
  | 0, _, _ => none
  | steps + 1, depth, cs =>
    match skipSpace cs with
    | '}' :: cs => some ([], cs)
    | cs => readEntries steps depth [] cs

/-- Reads the entries of a table up to its closing brace.  No comma stands behind the last. -/
def readEntries : (steps depth : Nat) → Entries → List Char → Option (Entries × List Char)
  | 0, _, _, _ => none
  | steps + 1, depth, entries, cs => do
    let (key, cs) ← readKey cs
    match cs with
    | '=' :: cs =>
      let (value, cs) ← readNested steps depth (skipSpace cs)
      let entries ← entries.addDotted key.path key.last value
      match skipSpace cs with
      | ',' :: cs => readEntries steps depth entries cs
      | '}' :: cs => return (entries, cs)
      | _ => none
    | _ => none

end

/-- Reads a value. -/
def readValue (cs : List Char) : Option (Value × List Char) :=
  readNested cs.length deepest cs

/-! ## Lines -/

/-- A line that says something. -/
inductive Line where
  /-- Opens a table. -/
  | header (key : Key)
  /-- Opens another table of that name. -/
  | nextHeader (key : Key)
  /-- Adds an entry. -/
  | entry (key : Key) (value : Value)

/-- Reads a line that says something, up to its comment. -/
def readStatement : List Char → Option (Line × List Char)
  | '[' :: '[' :: cs => do
    match ← readKey cs with
    | (key, ']' :: ']' :: cs) => return (.nextHeader key, cs)
    | _ => none
  | '[' :: cs => do
    match ← readKey cs with
    | (key, ']' :: cs) => return (.header key, cs)
    | _ => none
  | cs => do
    match ← readKey cs with
    | (key, '=' :: cs) =>
      let (value, cs) ← readValue (skipSpace cs)
      return (.entry key value, cs)
    | _ => none

/-- Reads the lines of a document.  Every step takes a line. -/
def readLines : (steps : Nat) → List Char → Option (List Line)
  | 0, cs => if cs.isEmpty then some [] else none
  | steps + 1, cs =>
    match skipLines cs.length cs with
    | [] => some []
    | cs =>
      match endLine? cs with
      | some rest => readLines steps rest
      | none => do
        let (line, cs) ← readStatement cs
        return line :: (← readLines steps (← endLine? cs))

/-! ## Documents -/

/-- A document that is being read, and the table that was opened last. -/
structure Draft where
  entries : Entries
  current : List String

/-- Adds a line. -/
def Draft.add (draft : Draft) : Line → Option Draft
  | .header key =>
    (draft.entries.openTable key.path key.last).map (⟨·, key.path ++ [key.last]⟩)
  | .nextHeader key =>
    (draft.entries.openNext key.path key.last).map (⟨·, key.path ++ [key.last]⟩)
  | .entry key value =>
    (draft.entries.addBelow draft.current key.path key.last value).map (⟨·, draft.current⟩)

/-- Leaves out a byte order mark in front. -/
def withoutMark : List Char → List Char
  | '\ufeff' :: cs => cs
  | cs => cs

/-- Reads a document. -/
def read (text : String) : Option Entries := do
  let cs := withoutMark text.toList
  let draft ← (← readLines (cs.length + 1) cs).foldlM Draft.add ⟨[], []⟩
  return draft.entries

end WaveCache.Toml
