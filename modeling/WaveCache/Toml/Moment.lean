import WaveCache.Toml.Number

/-!
# Dates and times in TOML

A moment is a date, a time of day, or both with a `T` or a space between them, and then perhaps with
the distance to the time of Greenwich.  Months, days and hours are those of the calendar, and a
minute may have a sixty-first second.  Of a fraction of a second nine digits count.
-/

namespace WaveCache.Toml

/-- A day of the calendar. -/
structure Date where
  year : Nat
  month : Nat
  day : Nat
deriving DecidableEq

/-- A time of day. -/
structure Clock where
  hour : Nat
  minute : Nat
  second : Nat
  nanosecond : Nat
deriving DecidableEq

/-- A date, a time, or both. -/
inductive Moment where
  | date (date : Date)
  | time (time : Clock)
  /-- Both, with the minutes by which the clock is ahead of Greenwich, if they are known. -/
  | both (date : Date) (time : Clock) (ahead : Option Int)
deriving DecidableEq

/-! ## Dates -/

/-- Whether a year has a 29 February. -/
def isLeap (year : Nat) : Bool :=
  year % 4 = 0 && (year % 100 ≠ 0 || year % 400 = 0)

/-- The number of days in a month. -/
def daysIn (year month : Nat) : Nat :=
  if month = 2 then (if isLeap year then 29 else 28)
  else if [4, 6, 9, 11].contains month then 30
  else 31

/-- Reads a number of so many digits between two bounds. -/
def readField (length least greatest : Nat) (cs : List Char) : Option (Nat × List Char) := do
  let ds ← (cs.take length).mapM (digit? 10)
  let n := digitsValue 10 ds
  if ds.length = length ∧ least ≤ n ∧ n ≤ greatest then some (n, cs.drop length) else none

/-- Reads a sign that is due. -/
def readDue (due : Char) : List Char → Option (List Char)
  | [] => none
  | c :: cs => if c = due then some cs else none

/-- Reads a date. -/
def readDate (cs : List Char) : Option (Date × List Char) := do
  let (year, cs) ← readField 4 0 9999 cs
  let (month, cs) ← readField 2 1 12 (← readDue '-' cs)
  let (day, rest) ← readField 2 1 (daysIn year month) (← readDue '-' cs)
  return (⟨year, month, day⟩, rest)

/-! ## Times -/

/-- Reads a fraction of a second as nanoseconds; zero if there is none. -/
def readNanoseconds : List Char → Option (Nat × List Char)
  | '.' :: cs =>
    let ds := cs.takeWhile Char.isDigit
    if ds.isEmpty then none
    else do
      let digits ← ds.mapM (digit? 10)
      return (digitsValue 10 ((digits ++ List.replicate 9 0).take 9), cs.dropWhile Char.isDigit)
  | cs => some (0, cs)

/-- Reads an hour and a minute. -/
def readHourAndMinute (cs : List Char) : Option ((Nat × Nat) × List Char) := do
  let (hour, cs) ← readField 2 0 23 cs
  let (minute, rest) ← readField 2 0 59 (← readDue ':' cs)
  return ((hour, minute), rest)

/-- Reads a time of day. -/
def readClock (cs : List Char) : Option (Clock × List Char) := do
  let ((hour, minute), cs) ← readHourAndMinute cs
  let (second, cs) ← readField 2 0 60 (← readDue ':' cs)
  let (nanosecond, rest) ← readNanoseconds cs
  return (⟨hour, minute, second, nanosecond⟩, rest)

/-- Reads the distance to the time of Greenwich in minutes; none if it is missing. -/
def readAhead (cs : List Char) : Option (Option Int × List Char) :=
  match cs with
  | 'Z' :: cs | 'z' :: cs => some (some 0, cs)
  | '+' :: _ | '-' :: _ => do
    let (negative, cs) := readSign cs
    let ((hour, minute), rest) ← readHourAndMinute cs
    return (some (signed negative (60 * hour + minute)), rest)
  | cs => some (none, cs)

/-! ## Moments -/

/-- Reads the time behind a date and what divides them. -/
def readClockBehind : List Char → Option (Clock × List Char)
  | 'T' :: cs | 't' :: cs | ' ' :: cs => readClock cs
  | _ => none

/-- Reads a moment.  A space behind a date may have another meaning than to divide it from a time.
-/
def readMoment (cs : List Char) : Option (Moment × List Char) :=
  match readDate cs with
  | none => (readClock cs).map fun (time, rest) => (.time time, rest)
  | some (date, cs) =>
    match readClockBehind cs with
    | none => some (.date date, cs)
    | some (time, cs) => (readAhead cs).map fun (ahead, rest) => (.both date time ahead, rest)

end WaveCache.Toml
