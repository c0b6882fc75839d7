import TickStream.Error
import TickStream.Text.Numeral
/-
Fixed-point prices.  Nothing is ever rounded: a text denotes a price only when the
price is an integer number of units.
-/
namespace TickStream

/-- A price as a count of units of `10 ^ (-9)`. -/
structure Price where
  raw : Int64
  deriving DecidableEq, Repr

namespace Price

def places : Nat := 9

def scale : Nat := Nat.pow 10 places

def undefined : Price := ⟨Int64.maxValue⟩

def isUndefined (p : Price) : Bool := p = undefined

/-- The price as a double.  The quotient is rounded, so large prices lose digits. -/
def toFloat (p : Price) : Float := p.raw.toFloat / 1000000000.0

def ofInt? (v : Int) : Option Price :=
  if -0x8000000000000000 ≤ v && v < 0x8000000000000000 then some ⟨Int64.ofInt v⟩ else none

/-- The text with all nine places; an undefined price has a text of its own. -/
def text (p : Price) : String :=
  if p.isUndefined then "UNDEF_PRICE"
  else
    let units := p.raw.toInt.natAbs
    let sign := if p.raw.toInt < 0 then "-" else ""
    sign ++ Text.padded 1 (units / scale) ++ "." ++ Text.padded places (units % scale)

/-- The units denoted by the digits before and after a point.  They have no bound here; in 128
bits with a sign they overflow if the whole part is above `(2 ^ 127 - 1) / 10 ^ 9`. -/
def units (whole fraction : List Char) : Nat :=
  Text.digitsValue whole * scale + Text.digitsValue fraction * Nat.pow 10 (places - fraction.length)

/-- Reads a price in decimal places from what stands before and after its point.  Only
one side may be empty, and a plus sign is not allowed.  A whole part whose units overflow 128 bits
is outside of what this says: here it is no price. -/
def decimal? (whole fraction : List Char) : Option Price :=
  let (negative, whole) := match whole with
    | '-' :: ds => (true, ds)
    | ds => (false, ds)
  if places < fraction.length || (whole.isEmpty && fraction.isEmpty) ||
      !(whole ++ fraction).all Char.isDigit then none
  else
    let n : Int := units whole fraction
    ofInt? (if negative then -n else n)

/-- Reads a price: a text with a point is in decimal places, one without is a count of
units. -/
def parse? (s : String) : Option Price :=
  let cs := s.toList
  if cs.contains '.' then
    decimal? (cs.takeWhile (· != '.')) ((cs.dropWhile (· != '.')).drop 1)
  else (Text.int64? s).map Price.mk

def read (s : String) : Except Error Price :=
  match parse? s with
  | some p => .ok p
  | none => .error (.badPrice s)

end Price
end TickStream
