import PointSum.Number.Basic

/-!
# Dates and times

`isMoment` knows the four kinds of date and time: a date, a time, both with a separator between them, and both with
an offset behind them. Months, days and hours are those of the calendar and the clock; seconds may be left out, may be
sixty, and may have a fraction.
-/

namespace PointSum.Toml

set_option autoImplicit false

open Number (isDigit ofDigits)

/-- Reads a run of exactly `n` digits. -/
def readDigits (n : Nat) (cs : List Char) : Option (Nat × List Char) :=
  let ds := cs.takeWhile isDigit
  if ds.length = n then some (ofDigits ds, cs.dropWhile isDigit) else none

def readChar (c : Char) : List Char → Option (List Char)
  | [] => none
  | d :: cs => if d = c then some cs else none

def daysInMonth (year month : Nat) : Nat :=
  if month = 2 then if year % 4 = 0 ∧ (year % 100 ≠ 0 ∨ year % 400 = 0) then 29 else 28
  else if month = 4 ∨ month = 6 ∨ month = 9 ∨ month = 11 then 30
  else 31

def readDate (cs : List Char) : Option (List Char) := do
  let (year, cs) ← readDigits 4 cs
  let cs ← readChar '-' cs
  let (month, cs) ← readDigits 2 cs
  let cs ← readChar '-' cs
  let (day, cs) ← readDigits 2 cs
  if 1 ≤ month ∧ month ≤ 12 ∧ 1 ≤ day ∧ day ≤ daysInMonth year month then some cs else none

/-- Reads the fraction of a second behind a point. -/
def readFraction (cs : List Char) : Option (List Char) :=
  match readChar '.' cs with
  | none => some cs
  | some cs => if cs.takeWhile isDigit = [] then none else some (cs.dropWhile isDigit)

def readSeconds (cs : List Char) : Option (List Char) :=
  match readChar ':' cs with
  | none => some cs
  | some cs => do
    let (second, cs) ← readDigits 2 cs
    if second ≤ 60 then readFraction cs else none

def readHourMinute (cs : List Char) : Option (List Char) := do
  let (hour, cs) ← readDigits 2 cs
  let cs ← readChar ':' cs
  let (minute, cs) ← readDigits 2 cs
  if hour ≤ 23 ∧ minute ≤ 59 then some cs else none

def readTime (cs : List Char) : Option (List Char) := do
  readSeconds (← readHourMinute cs)

/-- Whether the text is an offset from universal time, or nothing. -/
def isOffset : List Char → Bool
  | [] => true
  | c :: cs =>
    if c = 'Z' ∨ c = 'z' then cs = []
    else if c = '+' ∨ c = '-' then readHourMinute cs = some []
    else false

/-- Whether the text is a date, a time, or both. -/
def isMoment (cs : List Char) : Bool :=
  match readDate cs with
  | some [] => true
  | some (c :: rest) =>
    (c = 'T' || c = 't' || c = ' ') &&
      match readTime rest with
      | some rest => isOffset rest
      | none => false
  | none => readTime cs = some []

end PointSum.Toml
