import TickStream.Text.Blank
import TickStream.Timestamp
/-
Reading moments as people write them: date, time and distance from UTC, as in
`2024-01-02T14:30:00Z` or `-0044-03-15 12:00:00.5 +01:00`.

Blanks may stand before numbers and around the signs between them.  A year with a sign has
any number of digits, one without has at most four.  A minute may have a second 60.
-/
namespace TickStream
namespace Moment

/-- Reads the front of a text. -/
abbrev Scan := StateT (List Char) Option

def skipBlanks : Scan Unit := modify (·.dropWhile Text.isBlank)

/-- A run of digits: at least one, and `most` of them at most. -/
def digits (most : Nat) : Scan (List Char) := fun cs =>
  let ds := (cs.take most).takeWhile Char.isDigit
  if ds.isEmpty then none else some (ds, cs.drop ds.length)

/-- A number of at most two digits that is not above `last`, after blanks. -/
def number (last : Nat) : Scan Nat := do
  skipBlanks
  let n := Text.digitsValue (← digits 2)
  guard (n ≤ last)
  return n

/-- A sign between numbers, after blanks. -/
def sign (c : Char) : Scan Unit := do
  skipBlanks
  match ← get with
  | d :: cs =>
    guard (d = c)
    set cs
  | [] => failure

def year : Scan Int := do
  skipBlanks
  match ← get with
  | '-' :: cs =>
    set cs
    return -(Text.digitsValue (← digits cs.length) : Int)
  | '+' :: cs =>
    set cs
    return (Text.digitsValue (← digits cs.length) : Int)
  | _ => return (Text.digitsValue (← digits 4) : Int)

def firstYear : Int := -262143

def lastYear : Int := 262142

/-- The days from 1 January 1970 to a day, if it exists.  The calendar repeats after 400
years, so years before 0 are counted from a later year of their kind. -/
def days? (year : Int) (month day : Nat) : Option Int :=
  let cycles := 656
  let shifted := (year + 400 * cycles).toNat
  if firstYear ≤ year ∧ year ≤ lastYear ∧ 1 ≤ day ∧ day ≤ Date.daysInMonth shifted month then
    some (Date.dayNumber ⟨shifted, month, day⟩ - 146097 * cycles - Date.epochDay)
  else none

def date : Scan Int := do
  let y ← year
  sign '-'
  let m ← number 12
  sign '-'
  let d ← number 31
  liftM (days? y m d)

/-- What separates the time from the date: one blank or the letter T. -/
def separator : Scan Unit := do
  match ← get with
  | c :: cs =>
    guard (c = 'T' ∨ c = 't' ∨ c = ' ')
    set cs
  | [] => failure

/-- The part of a second, in nanoseconds; digits after the ninth do not count. -/
def fraction : Scan Nat := do
  match ← get with
  | '.' :: cs =>
    set cs
    let ds ← digits 9
    modify (·.dropWhile Char.isDigit)
    return Text.digitsValue ds * Nat.pow 10 (9 - ds.length)
  | _ => return 0

/-- A time, as seconds of the day and nanoseconds.  Second 60 is second 59 with more
nanoseconds than it has otherwise. -/
def time : Scan (Nat × Nat) := do
  let h ← number 23
  sign ':'
  let m ← number 59
  sign ':'
  let s ← number 60
  let nanos ← fraction
  let minutes := 60 * (60 * h + m)
  return if s = 60 then (minutes + 59, nanosPerSecond + nanos) else (minutes + s, nanos)

def twoDigits : Scan Nat := do
  let ds ← digits 2
  guard (ds.length = 2)
  return Text.digitsValue ds

/-- A distance in seconds, below a day: hours and minutes, with blanks or colons between
them or nothing. -/
def distance : Scan Int := do
  let h ← twoDigits
  modify (·.dropWhile fun c => c = ':' || Text.isBlank c)
  let m ← twoDigits
  guard (h ≤ 23 ∧ m ≤ 59)
  return (60 * (60 * h + m) : Nat)

def distanceFromUtc : Scan Int := do
  skipBlanks
  let cs ← get
  if (cs.take 3).map Char.toLower = ['u', 't', 'c'] then
    set (cs.drop 3)
    return 0
  match cs with
  | c :: cs =>
    set cs
    if c = 'Z' ∨ c = 'z' then return 0
    else if c = '+' then distance
    else if c = '-' ∨ c = '\u2212' then return -(← distance)
    else failure
  | [] => failure

def whole : Scan Moment := do
  let day ← date
  separator
  let (second, nanos) ← time
  let distance ← distanceFromUtc
  skipBlanks
  guard (← get).isEmpty
  liftM (ofParts? (86400 * day + second - distance) nanos)

def parse? (text : String) : Option Moment := (whole text.toList).map (·.1)

example : parse? "2024-01-02T14:30:00Z" = some ⟨1704205800, 0⟩ := by decide +kernel

example : parse? "+1970 - 1 - 01t 0: 0 :60.25 +00:01" = some ⟨-1, 1250000000⟩ := by decide +kernel

example : parse? "2024-02-30T00:00:00Z" = none := by decide +kernel

end Moment
end TickStream
