/-
The fewest decimal digits that determine a binary floating-point number.

A finite positive double is `m * 2 ^ q`.  The reals that round to it form an
interval around it whose ends belong to it exactly when `m` is even.  The digits
wanted are those of the first decimal grid, from coarse to fine, that has a point
in the interval; of two such points the nearer one counts.  Everything is computed
on natural numbers.
-/
namespace TickStream
namespace Decimal

/-- A positive binary number `mantissa * 2 ^ exponent`. -/
structure Binary where
  mantissa : Nat
  exponent : Int
  deriving DecidableEq, Repr

/-- Decimal digits `digits` whose first one stands for `10 ^ scale`. -/
structure Digits where
  digits : List Char
  scale : Int
  deriving DecidableEq, Repr

namespace Binary

/-- `2 ^ 52`: the least mantissa of a double that is not very small. -/
def leastMantissa : Nat := 4503599627370496

/-- The parts of the double with the given bits, sign aside. -/
def ofBits (bits : UInt64) : Binary :=
  let fraction : Nat := bits.toNat % leastMantissa
  let biased : Nat := bits.toNat / leastMantissa % 2048
  if biased = 0 then ⟨fraction, -1074⟩ else ⟨leastMantissa + fraction, (biased : Int) - 1075⟩

/-- `v = num / den` and the interval's ends `low / den` and `high / den`. -/
structure Scaled where
  num : Nat
  low : Nat
  high : Nat
  den : Nat

/-- The number and its interval over one denominator.  Just above a power of two
the gap below is half the gap above. -/
def scaled (b : Binary) : Scaled :=
  let up : Nat := Nat.pow 2 b.exponent.toNat
  let below : Nat := if b.mantissa = leastMantissa && -1074 < b.exponent then 1 else 2
  { num := 4 * b.mantissa * up
    low := (4 * b.mantissa - below) * up
    high := (4 * b.mantissa + 2) * up
    den := 4 * Nat.pow 2 (-b.exponent).toNat }

/-- The exponent of the first decimal digit of `num / den`, for a quotient that is
not below `10 ^ (-400)`. -/
def leading (num den : Nat) : Int :=
  ((Nat.toDigits 10 (num * Nat.pow 10 400 / den)).length : Int) - 401

/-- The grid point nearest to the number among the multiples of `10 ^ step` that
lie in the interval, as a multiple. -/
def onGrid (s : Scaled) (ends : Bool) (step : Int) : Option Nat :=
  -- over the common denominator `den * up`, one grid unit is `unit`
  let up : Nat := Nat.pow 10 (-step).toNat
  let unit : Nat := s.den * Nat.pow 10 step.toNat
  let floor : Nat := s.num * up / unit
  let inside (n : Nat) : Bool :=
    (s.low * up < n * unit && n * unit < s.high * up) ||
      (ends && (n * unit == s.low * up || n * unit == s.high * up))
  let gapDown := s.num * up - floor * unit
  let gapUp := (floor + 1) * unit - s.num * up
  match inside floor, inside (floor + 1) with
  | false, false => none
  | true, false => some floor
  | false, true => some (floor + 1)
  | true, true =>
    if gapDown < gapUp || (gapDown == gapUp && floor % 2 == 0) then some floor
    else some (floor + 1)

def digitsOf (n : Nat) (step : Int) : Digits :=
  let all := Nat.toDigits 10 n
  { digits := (all.reverse.dropWhile (· == '0')).reverse
    scale := step + (all.length : Int) - 1 }

/-- Tries the grids of `count`, `count + 1`, … digits, at most `tries` of them. -/
def search (s : Scaled) (ends : Bool) (first : Int) (count : Nat) : (tries : Nat) → Digits
  | 0 => digitsOf (s.num * Nat.pow 10 (-first).toNat / s.den) first
  | tries + 1 =>
    let step := first - (count : Int) + 1
    match onGrid s ends step with
    | some n => digitsOf n step
    | none => search s ends first (count + 1) tries

def shortest (b : Binary) : Digits :=
  let s := b.scaled
  search s (b.mantissa % 2 == 0) (leading s.num s.den) 1 17

end Binary
end Decimal
end TickStream
