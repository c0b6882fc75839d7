import TickStream.Json.Parser
/-
The texts of JSON values, by the grammar of the format and apart from any reader: what stands
for what, with white space wherever the grammar allows it.  A text stands for the value as it is
written, members in their order; `sorted` is the value as a reader keeps it.
-/
namespace TickStream
namespace Json

/-- White space between tokens, or nothing. -/
def Gap (cs : List Char) : Prop := ∀ c ∈ cs, isGap c

/-! ## Strings -/

/-- Four hexadecimal digits, in upper or lower case, for `n`. -/
def SpellsHex (n : Nat) (cs : List Char) : Prop :=
  ∃ a b c d p q r s, cs = [a, b, c, d] ∧ hexDigit? a = some p ∧ hexDigit? b = some q ∧
    hexDigit? c = some r ∧ hexDigit? d = some s ∧ n = 4096 * p + 256 * q + 16 * r + s

/-- One character of a string. -/
inductive SpellsChar : Char → List Char → Prop where
  | plain {c : Char} (quote : c ≠ '"') (backslash : c ≠ '\\') (control : 0x20 ≤ c.toNat) :
    SpellsChar c [c]
  | letter {l c : Char} (h : letterEscape? l = some c) : SpellsChar c ['\\', l]
  | numbered {n : Nat} {cs : List Char} (h : SpellsHex n cs) (low : isLowSurrogate n = false)
      (high : isHighSurrogate n = false) : SpellsChar (Char.ofNat n) ('\\' :: 'u' :: cs)
  | pair {n m : Nat} {cs ds : List Char} (h : SpellsHex n cs) (high : isHighSurrogate n)
      (h' : SpellsHex m ds) (low : isLowSurrogate m) :
    SpellsChar (Char.ofNat (0x10000 + (n - 0xd800) * 0x400 + (m - 0xdc00)))
      ('\\' :: 'u' :: (cs ++ '\\' :: 'u' :: ds))

/-- The characters of a string between its quotes. -/
inductive SpellsChars : List Char → List Char → Prop where
  | nil : SpellsChars [] []
  | cons {c : Char} {cs s ds : List Char} (head : SpellsChar c cs) (tail : SpellsChars s ds) :
    SpellsChars (c :: s) (cs ++ ds)

/-- A string with its quotes. -/
def SpellsString (s : String) (cs : List Char) : Prop :=
  ∃ ds, SpellsChars s.toList ds ∧ cs = '"' :: (ds ++ ['"'])

/-! ## Values -/

/-- What the grammar has texts for. -/
inductive Phrase where
  | value (v : Json)
  /-- A value with white space on both sides. -/
  | spaced (v : Json)
  /-- Items with commas between them, at least one. -/
  | items (vs : List Json)
  | member (k : String) (v : Json)
  /-- Members with commas between them, at least one. -/
  | members (ms : List (String × Json))

/-- The text stands for the phrase.  Integers that fit 64 bits stand in decimal digits; of other
numbers any numeral will do that denotes them. -/
inductive Spells : Phrase → List Char → Prop where
  | null : Spells (.value null) ['n', 'u', 'l', 'l']
  | true : Spells (.value (bool true)) ['t', 'r', 'u', 'e']
  | false : Spells (.value (bool false)) ['f', 'a', 'l', 's', 'e']
  | natural (n : UInt64) : Spells (.value (number (.natural n))) (Nat.toDigits 10 n.toNat)
  | negative {n : Int64} (h : n < 0) :
    Spells (.value (number (.negative n))) ('-' :: Nat.toDigits 10 n.toInt.natAbs)
  | real {d : Decimal.Double} {cs : List Char} (h : Numeral.read cs = .ok (.real d, [])) :
    Spells (.value (number (.real d))) cs
  | string {s : String} {cs : List Char} (h : SpellsString s cs) : Spells (.value (string s)) cs
  | emptyArray {g : List Char} (h : Gap g) : Spells (.value (array [])) ('[' :: (g ++ [']']))
  | array {vs : List Json} {cs : List Char} (h : Spells (.items vs) cs) :
    Spells (.value (array vs)) ('[' :: (cs ++ [']']))
  | emptyObject {g : List Char} (h : Gap g) :
    Spells (.value (object [])) ('\x7b' :: (g ++ ['\x7d']))
  | object {ms : List (String × Json)} {cs : List Char} (h : Spells (.members ms) cs) :
    Spells (.value (object ms)) ('\x7b' :: (cs ++ ['\x7d']))
  | spaced {v : Json} {before cs after : List Char} (hb : Gap before) (ha : Gap after)
      (h : Spells (.value v) cs) : Spells (.spaced v) (before ++ (cs ++ after))
  | lastItem {v : Json} {cs : List Char} (h : Spells (.spaced v) cs) : Spells (.items [v]) cs
  | moreItems {v : Json} {vs : List Json} {cs ds : List Char} (h : Spells (.spaced v) cs)
      (more : Spells (.items vs) ds) : Spells (.items (v :: vs)) (cs ++ ',' :: ds)
  | member {k : String} {v : Json} {before ks after cs : List Char} (hb : Gap before)
      (ha : Gap after) (hk : SpellsString k ks) (h : Spells (.spaced v) cs) :
    Spells (.member k v) (before ++ (ks ++ (after ++ ':' :: cs)))
  | lastMember {k : String} {v : Json} {cs : List Char} (h : Spells (.member k v) cs) :
    Spells (.members [(k, v)]) cs
  | moreMembers {k : String} {v : Json} {ms : List (String × Json)} {cs ds : List Char}
      (h : Spells (.member k v) cs) (more : Spells (.members ms) ds) :
    Spells (.members ((k, v) :: ms)) (cs ++ ',' :: ds)

/-! ## The values that readers keep -/

mutual
/-- The levels of arrays and objects of a value. -/
def depth : Json → Nat
  | array vs => depthItems vs + 1
  | object ms => depthMembers ms + 1
  | _ => 0

def depthItems : List Json → Nat
  | [] => 0
  | v :: vs => max v.depth (depthItems vs)

def depthMembers : List (String × Json) → Nat
  | [] => 0
  | (_, v) :: ms => max v.depth (depthMembers ms)
end

mutual
/-- The value with the members of all its objects sorted. -/
def sorted : Json → Json
  | array vs => array (sortedItems vs)
  | object ms => object (sortMembers (sortedMembers ms))
  | j => j

def sortedItems : List Json → List Json
  | [] => []
  | v :: vs => v.sorted :: sortedItems vs

def sortedMembers : List (String × Json) → List (String × Json)
  | [] => []
  | (k, v) :: ms => (k, v.sorted) :: sortedMembers ms
end

end Json
end TickStream
