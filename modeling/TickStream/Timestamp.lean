import TickStream.Calendar
/-
Timestamps: unsigned nanoseconds since 1 January 1970, and the moments they name.
-/
namespace TickStream

/-- A moment in UTC: whole seconds since 1 January 1970, which may be negative, and
nanoseconds.  A leap second has a thousand million nanoseconds or more. -/
structure Moment where
  seconds : Int
  nanos : Nat
  deriving DecidableEq, Repr

namespace Moment

def nanosPerSecond : Nat := 1000000000

/-- The first second of the calendar, in the year -262143. -/
def firstSecond : Int := -8334601228800

def lastSecond : Int := 8210266876799

/-- The moment of the given parts.  A leap second can only be the last one of a minute. -/
def ofParts? (seconds : Int) (nanos : Nat) : Option Moment :=
  if seconds < firstSecond || lastSecond < seconds then none
  else if nanos < nanosPerSecond then some ⟨seconds, nanos⟩
  else if nanos < 2 * nanosPerSecond && seconds.emod 60 == 59 then some ⟨seconds, nanos⟩
  else none

def total (m : Moment) : Int := m.seconds * nanosPerSecond + m.nanos

end Moment

namespace Timestamp

def undefined : UInt64 := 0xffffffffffffffff

/-- Whole seconds and the nanoseconds left over. -/
def split (ts : UInt64) : Nat × Nat :=
  (ts.toNat / Moment.nanosPerSecond, ts.toNat % Moment.nanosPerSecond)

/-- The moment a timestamp names; none for the undefined one. -/
def toMoment? (ts : UInt64) : Option Moment :=
  if ts = undefined then none
  else Moment.ofParts? (split ts).1 (split ts).2

/-- The timestamp of a moment.  Moments shortly before 1970 become 0.  A moment whose
nanoseconds do not fit a signed word of 64 bits has no timestamp. -/
def ofMoment (m : Moment) : UInt64 :=
  let n := m.total
  if -0x8000000000000000 ≤ n && n < 0x8000000000000000 then UInt64.ofNat n.toNat else undefined

def date (ts : UInt64) : Date := Date.ofDayNumber (Date.epochDay + (split ts).1 / 86400)

/-- The UTC date of a timestamp as `YYYYMMDD`; 0 for the undefined one. -/
def ymd (ts : UInt64) : Nat := if ts = undefined then 0 else (date ts).ymd

/-- The fraction of a second: nothing, or as few groups of three digits as it needs. -/
def fractionText (nanos : Nat) : String :=
  if nanos = 0 then ""
  else if nanos % 1000000 = 0 then "." ++ Text.padded 3 (nanos / 1000000)
  else if nanos % 1000 = 0 then "." ++ Text.padded 6 (nanos / 1000)
  else "." ++ Text.padded 9 nanos

def text (ts : UInt64) : String :=
  let d := date ts
  let second := (split ts).1 % 86400
  Text.padded 4 d.year ++ "-" ++ Text.padded 2 d.month ++ "-" ++ Text.padded 2 d.day ++ "T" ++
    Text.padded 2 (second / 3600) ++ ":" ++ Text.padded 2 (second / 60 % 60) ++ ":" ++
    Text.padded 2 (second % 60) ++ fractionText (split ts).2 ++ "+00:00"

end Timestamp
end TickStream
