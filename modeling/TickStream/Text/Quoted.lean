import TickStream.Text.EscapedRanges
/-
Text as it stands inside a diagnostic: between double quotes, with every
character that would not show plainly written as an escape.
-/
namespace TickStream
namespace Text

/-- Whether `n` lies in one of the inclusive ranges. -/
def inRanges (ranges : List (Nat × Nat)) (n : Nat) : Bool :=
  ranges.any fun r => r.1 ≤ n && n ≤ r.2

/-- Whether a character is shown as a numbered escape rather than as itself. -/
def isEscaped (c : Char) : Bool :=
  c.toNat < 0x20 || c.toNat == 0x7f || (0x80 ≤ c.toNat && inRanges escapedRanges c.toNat)

def quoteChar (c : Char) : List Char :=
  match c with
  | '"' => ['\\', '"']
  | '\\' => ['\\', '\\']
  | '\t' => ['\\', 't']
  | '\r' => ['\\', 'r']
  | '\n' => ['\\', 'n']
  | '\x00' => ['\\', '0']
  | c =>
    if isEscaped c then
      ['\\', 'u', '\x7b'] ++ Nat.toDigits 16 c.toNat ++ ['\x7d']
    else [c]

/-- A text between double quotes, as diagnostics show it. -/
def quoted (s : String) : String :=
  String.ofList ('"' :: (s.toList.flatMap quoteChar ++ ['"']))

/-- A character that needs no escape stands for itself. -/
theorem quoteChar_plain (c : Char) (hq : c ≠ '"') (hb : c ≠ '\\') (he : isEscaped c = false) :
    quoteChar c = [c] := by
  have ht : c ≠ '\t' := fun h => by subst h; simp [isEscaped] at he
  have hr : c ≠ '\r' := fun h => by subst h; simp [isEscaped] at he
  have hn : c ≠ '\n' := fun h => by subst h; simp [isEscaped] at he
  have h0 : c ≠ '\x00' := fun h => by subst h; simp [isEscaped] at he
  unfold quoteChar
  split <;> simp_all

end Text
end TickStream
