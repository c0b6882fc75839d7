import TickStream.Decimal.Shortest
/-
Doubles held by their bits, and their text.
-/
namespace TickStream
namespace Decimal

/-- A floating-point number of 64 bits.  Bits rather than `Float`, so that two
numbers are equal exactly when they are written alike. -/
structure Double where
  bits : UInt64
  deriving DecidableEq, Repr

/-- How a double is written: where positional notation gives way to an exponent. -/
structure Layout where
  leastPositional : Int
  mostPositional : Int

/-- Positional from `10 ^ (-5)` up to, but not including, `10 ^ 16`. -/
def plain : Layout := ⟨-5, 15⟩

namespace Double

def ofFloat (f : Float) : Double := ⟨f.toBits⟩

def isNegative (d : Double) : Bool := d.bits.toNat / 0x8000000000000000 == 1

def magnitude (d : Double) : UInt64 := UInt64.ofNat (d.bits.toNat % 0x8000000000000000)

/-- The text of digits `ds`: a positional text always has a point, an exponent
always a sign and never a leading zero. -/
def layOut (l : Layout) (ds : Digits) : List Char :=
  let count : Int := ds.digits.length
  if l.leastPositional ≤ ds.scale && ds.scale ≤ l.mostPositional then
    if count - 1 ≤ ds.scale then
      ds.digits ++ List.replicate (ds.scale - count + 1).toNat '0' ++ ['.', '0']
    else if 0 ≤ ds.scale then
      let whole := (ds.scale + 1).toNat
      ds.digits.take whole ++ '.' :: ds.digits.drop whole
    else
      ['0', '.'] ++ List.replicate (-ds.scale - 1).toNat '0' ++ ds.digits
  else
    let fraction := if ds.digits.length ≤ 1 then [] else '.' :: ds.digits.drop 1
    let sign := if ds.scale < 0 then '-' else '+'
    ds.digits.take 1 ++ fraction ++ 'e' :: sign :: Nat.toDigits 10 ds.scale.natAbs

/-- The text of a finite double: its shortest digits, `-` for a set sign bit. -/
def text (d : Double) : String :=
  let sign := if d.isNegative then ['-'] else []
  let body :=
    if d.magnitude = 0 then ['0', '.', '0']
    else layOut plain (Binary.ofBits d.magnitude).shortest
  String.ofList (sign ++ body)

end Double
end Decimal
end TickStream
