/-
Decimal numerals: an optional sign, then one or more ASCII digits.  Main statement: the
digits of a number, with zeros in front or without, denote it.
-/
namespace TickStream
namespace Text

def digitValue (c : Char) : Nat := c.toNat - 48

/-- The number a digit run denotes, most significant digit first. -/
def digitsValue (cs : List Char) : Nat := cs.foldl (fun n c => 10 * n + digitValue c) 0

def digits? (cs : List Char) : Option Nat :=
  if cs.isEmpty || !cs.all Char.isDigit then none else some (digitsValue cs)

/-- Reads an unsigned numeral: a plus sign is allowed, a minus sign is not. -/
def natural? (s : String) : Option Nat :=
  match s.toList with
  | '+' :: cs => digits? cs
  | cs => digits? cs

def integer? (s : String) : Option Int :=
  match s.toList with
  | '-' :: cs => (digits? cs).map fun n => -(n : Int)
  | '+' :: cs => (digits? cs).map fun n => (n : Int)
  | cs => (digits? cs).map fun n => (n : Int)

def uint64? (s : String) : Option UInt64 :=
  (natural? s).bind fun n => if n < 0x10000000000000000 then some (UInt64.ofNat n) else none

def uint32? (s : String) : Option UInt32 :=
  (natural? s).bind fun n => if n < 0x100000000 then some (UInt32.ofNat n) else none

def int64? (s : String) : Option Int64 :=
  (integer? s).bind fun v =>
    if -0x8000000000000000 ≤ v && v < 0x8000000000000000 then some (Int64.ofInt v) else none

/-- The decimal digits of `n`, filled up with zeros on the left to `width` places. -/
def padded (width n : Nat) : String :=
  let ds := Nat.toDigits 10 n
  String.ofList (List.replicate (width - ds.length) '0' ++ ds)

/-! ## Digits written denote the number -/

theorem digitValue_digitChar {d : Nat} (h : d < 10) : digitValue (Nat.digitChar d) = d := by
  simp [digitValue, Nat.toNat_digitChar_of_lt_ten h]

theorem digitsValue_concat (cs : List Char) (c : Char) :
    digitsValue (cs ++ [c]) = 10 * digitsValue cs + digitValue c := by
  simp [digitsValue, List.foldl_append]

/-- The digits of a number denote it. -/
theorem digitsValue_toDigits (n : Nat) : digitsValue (Nat.toDigits 10 n) = n := by
  induction n using Nat.strongRecOn with
  | ind n ih =>
    by_cases h : n < 10
    · rw [Nat.toDigits_of_lt_base h]
      simpa [digitsValue] using digitValue_digitChar h
    · have hm : n % 10 < 10 := Nat.mod_lt _ (by decide)
      have hn : 10 * (n / 10) + n % 10 = n := Nat.div_add_mod n 10
      have hd := Nat.toDigits_append_toDigits (by decide : 1 < 10) (by omega : 0 < n / 10) hm
      rw [hn, Nat.toDigits_of_lt_base hm] at hd
      rw [← hd, digitsValue_concat, ih (n / 10) (by omega), digitValue_digitChar hm, hn]

/-- Zeros in front do not count. -/
theorem digitsValue_zeros (n : Nat) (cs : List Char) :
    digitsValue (List.replicate n '0' ++ cs) = digitsValue cs := by
  induction n with
  | zero => rfl
  | succ n ih => simpa [digitsValue, List.replicate_succ, digitValue] using ih

theorem digitsValue_padded (width n : Nat) : digitsValue (padded width n).toList = n := by
  simp [padded, digitsValue_zeros, digitsValue_toDigits]

end Text
end TickStream
