import WaveCache.Toml.Number

/-!
# The words of TOML

Blanks, comments, strings and keys of TOML documents.  Every reader takes what it reads off the
front of a text and gives the rest; nothing means that the text is no TOML.

Strings stand between quotes or apostrophes.  Between quotes a backslash begins an escape.  Three
quotes or apostrophes begin a string that may go over several lines; the first line break in it is
left out, and all others count as plain line feeds.
-/

namespace WaveCache.Toml

/-! ## Blanks and lines -/

/-- Space and tab. -/
def isSpace (c : Char) : Bool :=
  c = ' ' || c = '\t'

/-- Goes on to the next character that is no space. -/
def skipSpace (cs : List Char) : List Char :=
  cs.dropWhile isSpace

/-- Whether a character may stand in a comment.  Controls other than the tab may not. -/
def isVisible (c : Char) : Bool :=
  c = '\t' || ' ' ≤ c && c ≠ '\x7f'

/-- Takes a line break off the front. -/
def lineBreak? : List Char → Option (List Char)
  | '\n' :: cs => some cs
  | '\r' :: '\n' :: cs => some cs
  | _ => none

/-- Skips spaces and a comment. -/
def skipComment (cs : List Char) : List Char :=
  match skipSpace cs with
  | '#' :: cs => cs.dropWhile isVisible
  | cs => cs

/-- Ends a line, which may have a comment. -/
def endLine? (cs : List Char) : Option (List Char) :=
  match skipComment cs with
  | [] => some []
  | cs => lineBreak? cs

/-- Skips spaces, comments and line breaks.  Every step takes a line break. -/
def skipLines : (steps : Nat) → List Char → List Char
  | 0, cs => cs
  | steps + 1, cs =>
    match lineBreak? (skipComment cs) with
    | some cs => skipLines steps cs
    | none => skipSpace cs

/-! ## Strings -/

/-- The character with a code point given by digits in base 16. -/
def character? (cs : List Char) : Option Char := do
  let code := digitsValue 16 (← cs.mapM (digit? 16))
  if code.isValidChar then some (Char.ofNat code) else none

/-- What a letter behind a backslash stands for. -/
def escape? : Char → Option Char
  | 'b' => some '\x08'
  | 't' => some '\t'
  | 'n' => some '\n'
  | 'f' => some '\x0c'
  | 'r' => some '\r'
  | '"' => some '"'
  | '\\' => some '\\'
  | _ => none

/-- Reads what stands behind a backslash. -/
def readEscape : List Char → Option (Char × List Char)
  | [] => none
  | c :: cs =>
    if c = 'u' || c = 'U' then
      let length := if c = 'u' then 4 else 8
      if length ≤ cs.length then (character? (cs.take length)).map (·, cs.drop length) else none
    else (escape? c).map (·, cs)

/-- The two characters that strings stand between. -/
inductive Mark where
  | quote
  | apostrophe
deriving DecidableEq

/-- A mark as a character. -/
def Mark.char : Mark → Char
  | quote => '"'
  | apostrophe => '\''

/-- Reads a string of one line up to its end, in as many steps as there are characters. -/
def readLine (mark : Mark) : (steps : Nat) → List Char → Option (List Char × List Char)
  | 0, _ => none
  | _ + 1, [] => none
  | steps + 1, c :: cs =>
    if c = mark.char then some ([], cs)
    else if c = '\\' && mark = .quote then do
      let (c, cs) ← readEscape cs
      let (s, rest) ← readLine mark steps cs
      return (c :: s, rest)
    else if isVisible c then (readLine mark steps cs).map fun (s, rest) => (c :: s, rest)
    else none

/-- The spaces and line breaks behind a backslash at the end of a line. -/
def skipFold (cs : List Char) : Option (List Char) := do
  let cs ← lineBreak? (skipSpace cs)
  return skip cs.length cs
where
  skip : (steps : Nat) → List Char → List Char
    | 0, cs => cs
    | steps + 1, cs =>
      match lineBreak? (skipSpace cs) with
      | some cs => skip steps cs
      | none => skipSpace cs

/-- How many of the marks in front belong to a string over several lines, and whether it ends behind
them.  Three marks end it, and up to two more may stand before these. -/
def closing (marks : Nat) : Nat × Bool :=
  if marks < 3 then (marks, false) else (min (marks - 3) 2, true)

/-- Reads a string over several lines up to its end, in as many steps as there are characters. -/
def readLong (mark : Mark) : (steps : Nat) → List Char → Option (List Char × List Char)
  | 0, _ => none
  | _ + 1, [] => none
  | steps + 1, c :: cs =>
    let put (c : Char) (cs : List Char) : Option (List Char × List Char) :=
      (readLong mark steps cs).map fun (s, rest) => (c :: s, rest)
    if c = mark.char then
      match closing (((c :: cs).takeWhile (· = mark.char)).length) with
      | (kept, true) => some (List.replicate kept c, (c :: cs).drop (kept + 3))
      | (_, false) => put c cs
    else if c = '\\' && mark = .quote then
      match skipFold cs with
      | some cs => readLong mark steps cs
      | none => (readEscape cs).bind fun (c, cs) => put c cs
    else
      match lineBreak? (c :: cs) with
      | some cs => put '\n' cs
      | none => if isVisible c then put c cs else none

/-- Reads a string of any kind whose first mark has been read. -/
def readString (mark : Mark) (cs : List Char) : Option (String × List Char) :=
  let read :=
    if cs.take 2 = [mark.char, mark.char] then
      let cs := cs.drop 2
      let cs := (lineBreak? cs).getD cs
      readLong mark cs.length cs
    else readLine mark cs.length cs
  read.map fun (s, rest) => (String.ofList s, rest)

/-! ## Keys -/

/-- Whether a character may stand in a key without quotes. -/
def isBare (c : Char) : Bool :=
  c.isAlphanum || c = '-' || c = '_'

/-- Reads a key without points, or a key between marks. -/
def readSimpleKey : List Char → Option (String × List Char)
  | '"' :: cs => (readLine .quote cs.length cs).map fun (s, rest) => (String.ofList s, rest)
  | '\'' :: cs => (readLine .apostrophe cs.length cs).map fun (s, rest) => (String.ofList s, rest)
  | cs =>
    let bare := cs.takeWhile isBare
    if bare.isEmpty then none else some (String.ofList bare, cs.dropWhile isBare)

/-- A key with points: the path to a table, and the key in that table. -/
structure Key where
  path : List String
  last : String

/-- Reads the parts of a key and the spaces around them.  Every step takes a point. -/
def readParts : (steps : Nat) → List Char → Option (Key × List Char)
  | 0, _ => none
  | steps + 1, cs => do
    let (name, cs) ← readSimpleKey (skipSpace cs)
    match skipSpace cs with
    | '.' :: cs =>
      let (key, rest) ← readParts steps cs
      return (⟨name :: key.path, key.last⟩, rest)
    | cs => return (⟨[], name⟩, cs)

/-- The greatest number of parts in a key. -/
def mostParts : Nat := 79

/-- Reads a key and the spaces around it. -/
def readKey (cs : List Char) : Option (Key × List Char) :=
  (readParts cs.length cs).filter fun (key, _) => key.path.length < mostParts

end WaveCache.Toml
