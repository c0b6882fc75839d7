/-
Blank characters, and texts without the blanks at their ends.
-/
namespace TickStream
namespace Text

/-- Characters that show as empty space, in any script. -/
def isBlank (c : Char) : Bool :=
  (0x9 ≤ c.toNat && c.toNat ≤ 0xd) || c.toNat == 0x20 || c.toNat == 0x85 || c.toNat == 0xa0 ||
    c.toNat == 0x1680 || (0x2000 ≤ c.toNat && c.toNat ≤ 0x200a) || c.toNat == 0x2028 ||
    c.toNat == 0x2029 || c.toNat == 0x202f || c.toNat == 0x205f || c.toNat == 0x3000

def dropBlankTail (cs : List Char) : List Char := (cs.reverse.dropWhile isBlank).reverse

def trimEnd (s : String) : String := String.ofList (dropBlankTail s.toList)

def trim (s : String) : String := String.ofList (dropBlankTail (s.toList.dropWhile isBlank))

end Text
end TickStream
