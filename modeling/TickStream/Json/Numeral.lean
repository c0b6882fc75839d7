import TickStream.Json.Fault
import TickStream.Text.Numeral
/-
JSON numbers.  A numeral that fits 64 bits is exact.  Any other is read into a
significand of 64 bits and a power of ten, and the double is the significand
scaled once by that power; digits that do not fit the significand only count
towards the power.
-/
namespace TickStream
namespace Json

/-- What is left of a text after something was read off its front. -/
abbrev Rest (cs : List Char) := { rest : List Char // rest.length < cs.length }

namespace Numeral

/-- The greatest power of ten that scales a significand in one step. -/
def greatestPower : Nat := 308

def power (n : Nat) : Float := Float.ofScientific 1 false n

/-- Scales down by `10 ^ n`, at most `greatestPower` powers at a time. -/
def scaleDown (f : Float) (n : Nat) : Float :=
  if n ≤ greatestPower then f / power n
  else if f == 0.0 then f
  else scaleDown (f / power greatestPower) (n - greatestPower)
termination_by n
decreasing_by simp only [greatestPower] at *; omega

/-- The double `significand * 10 ^ exponent`.  There is none when it is too large. -/
def real (negative : Bool) (significand : Nat) (exponent : Int) : Except Fault Number :=
  let f := (UInt64.ofNat significand).toFloat
  let sign (g : Float) : Number := .real (.ofFloat (if negative then -g else g))
  if exponent < 0 then .ok (sign (scaleDown f exponent.natAbs))
  else if exponent ≤ greatestPower then
    let g := f * power exponent.toNat
    if g.isInf then .error .malformed else .ok (sign g)
  else if significand = 0 then .ok (sign f)
  else .error .malformed

/-- Appends digits to a significand while it fits 64 bits.  Gives the
significand and the number of digits that were left over. -/
def accumulate (significand : Nat) : List Char → Nat × Nat
  | [] => (significand, 0)
  | c :: cs =>
    let next := 10 * significand + Text.digitValue c
    if next < 0x10000000000000000 then accumulate next cs else (significand, (c :: cs).length)

/-- An exponent's digits and sign: `none` when it does not fit 31 bits. -/
def exponentValue (down : Bool) (ds : List Char) : Option Int :=
  let n := Text.digitsValue ds
  if n < 0x80000000 then some (if down then -(n : Int) else n) else none

def exponentDigits (negative : Bool) (significand : Nat) (start : Int) (down : Bool) :
    List Char → Except Fault (Number × List Char)
  | [] => .error .truncated
  | c :: cs =>
    if !c.isDigit then .error .malformed
    else
      let rest := (c :: cs).dropWhile Char.isDigit
      match exponentValue down ((c :: cs).takeWhile Char.isDigit) with
      | some e => (real negative significand (start + e)).map (·, rest)
      | none =>
        if significand ≠ 0 && !down then .error .malformed
        else (real negative 0 0).map (·, rest)

def exponent (negative : Bool) (significand : Nat) (start : Int) :
    List Char → Except Fault (Number × List Char)
  | '+' :: cs => exponentDigits negative significand start false cs
  | '-' :: cs => exponentDigits negative significand start true cs
  | cs => exponentDigits negative significand start false cs

def scaled (negative : Bool) (significand : Nat) (start : Int) : List Char →
    Except Fault (Number × List Char)
  | 'e' :: cs => exponent negative significand start cs
  | 'E' :: cs => exponent negative significand start cs
  | cs => (real negative significand start).map (·, cs)

def fraction (negative : Bool) (significand : Nat) (start : Int) (cs : List Char) :
    Except Fault (Number × List Char) :=
  let ds := cs.takeWhile Char.isDigit
  let rest := cs.dropWhile Char.isDigit
  if ds.isEmpty then .error (if rest.isEmpty then .truncated else .malformed)
  else
    let (significand, left) := accumulate significand ds
    scaled negative significand (start - ((ds.length - left : Nat) : Int)) rest

/-- An integer numeral that fits 64 bits.  There is no negative zero among the
integers, so `-0` is a double. -/
def integer (negative : Bool) (n : Nat) : Number :=
  if !negative then .natural (UInt64.ofNat n)
  else if n = 0 || 0x8000000000000000 < n then .real (.ofFloat (-(UInt64.ofNat n).toFloat))
  else .negative (Int64.ofInt (-(n : Int)))

def unsigned (negative : Bool) (cs : List Char) : Except Fault (Number × List Char) :=
  let ds := cs.takeWhile Char.isDigit
  let rest := cs.dropWhile Char.isDigit
  match ds with
  | [] => .error (if rest.isEmpty then .truncated else .malformed)
  | '0' :: _ :: _ => .error .malformed
  | _ =>
    let (significand, left) := accumulate 0 ds
    match rest with
    | '.' :: rest => fraction negative significand left rest
    | 'e' :: _ => scaled negative significand left rest
    | 'E' :: _ => scaled negative significand left rest
    | _ =>
      if left = 0 then .ok (integer negative significand, rest)
      else scaled negative significand left rest

def read : List Char → Except Fault (Number × List Char)
  | '-' :: cs => unsigned true cs
  | cs => unsigned false cs

/-! ## A numeral takes at least one character -/

theorem length_dropWhile_le (p : Char → Bool) (cs : List Char) :
    (cs.dropWhile p).length ≤ cs.length := by
  induction cs with
  | nil => simp
  | cons c cs ih =>
    simp only [List.dropWhile_cons]
    split
    · exact Nat.le_succ_of_le ih
    · exact Nat.le_refl _

theorem rest_of_map {e : Except Fault Number} {rest rest' : List Char} {n : Number}
    (h : e.map (·, rest') = .ok (n, rest)) : rest = rest' := by
  cases e <;> simp_all [Except.map]

theorem exponentDigits_length {negative significand start down cs n rest}
    (h : exponentDigits negative significand start down cs = .ok (n, rest)) :
    rest.length ≤ cs.length := by
  unfold exponentDigits at h
  split at h
  · simp at h
  · rename_i c cs
    have hd := length_dropWhile_le Char.isDigit (c :: cs)
    simp only at h
    split at h
    · simp at h
    · split at h
      · rw [rest_of_map h]; exact hd
      · split at h
        · simp at h
        · rw [rest_of_map h]; exact hd

theorem exponent_length {negative significand start cs n rest}
    (h : exponent negative significand start cs = .ok (n, rest)) : rest.length ≤ cs.length := by
  unfold exponent at h
  split at h
  · exact Nat.le_trans (exponentDigits_length h) (by simp)
  · exact Nat.le_trans (exponentDigits_length h) (by simp)
  · exact exponentDigits_length h

theorem scaled_length {negative significand start cs n rest}
    (h : scaled negative significand start cs = .ok (n, rest)) : rest.length ≤ cs.length := by
  unfold scaled at h
  split at h
  · exact Nat.le_trans (exponent_length h) (by simp)
  · exact Nat.le_trans (exponent_length h) (by simp)
  · exact Nat.le_of_eq (congrArg List.length (rest_of_map h))

theorem fraction_length {negative significand start cs n rest}
    (h : fraction negative significand start cs = .ok (n, rest)) : rest.length ≤ cs.length := by
  unfold fraction at h
  simp only at h
  split at h
  · simp at h
  · exact Nat.le_trans (scaled_length h) (length_dropWhile_le _ _)

theorem length_takeWhile_add (p : Char → Bool) (cs : List Char) :
    (cs.takeWhile p).length + (cs.dropWhile p).length = cs.length := by
  induction cs with
  | nil => rfl
  | cons c cs ih =>
    simp only [List.takeWhile_cons, List.dropWhile_cons]
    split
    · simp only [List.length_cons]
      omega
    · simp

theorem unsigned_length {negative cs n rest}
    (h : unsigned negative cs = .ok (n, rest)) : rest.length < cs.length := by
  have hsum := length_takeWhile_add Char.isDigit cs
  unfold unsigned at h
  simp only at h
  split at h
  · simp at h
  · simp at h
  · rename_i hne _
    have hpos : 0 < (cs.takeWhile Char.isDigit).length := List.length_pos_iff.2 hne
    split at h
    · rename_i heq
      have hl := congrArg List.length heq
      simp only [List.length_cons] at hl
      have := fraction_length h
      omega
    · have := scaled_length h; omega
    · have := scaled_length h; omega
    · split at h
      · simp only [Except.ok.injEq, Prod.mk.injEq] at h
        have := congrArg List.length h.2
        omega
      · have := scaled_length h; omega

theorem read_length {cs n rest} (h : read cs = .ok (n, rest)) : rest.length < cs.length := by
  unfold read at h
  split at h
  · have := unsigned_length h; simp; omega
  · exact unsigned_length h

end Numeral
end Json
end TickStream
