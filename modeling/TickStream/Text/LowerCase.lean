import TickStream.Text.CaseRanges
import TickStream.Text.Quoted
/-
Lower case for any text.  One letter depends on its surroundings: a capital sigma
at the end of a word has a partner of its own.
-/
namespace TickStream
namespace Text

/-- The lower-case partner of a code point under the runs of `lowerRuns`. -/
def lowerCode (n : Nat) : List (Nat × Nat × Nat × Int) → Nat
  | [] => n
  | (first, last, step, shift) :: rest =>
    if first ≤ n && n ≤ last && (n - first) % step == 0 then (Int.ofNat n + shift).toNat
    else lowerCode n rest

def isCased (c : Char) : Bool :=
  c.isUpper || c.isLower || (0x80 ≤ c.toNat && inRanges casedRanges c.toNat)

/-- Whether a character is passed over when a letter's neighbours are looked for. -/
def isCaseIgnorable (c : Char) : Bool :=
  c == '\'' || c == '.' || c == ':' || c == '^' || c == '\x60' ||
    (0x80 ≤ c.toNat && inRanges ignorableRanges c.toNat)

def meetsCased (cs : List Char) : Bool :=
  ((cs.dropWhile isCaseIgnorable).head?.map isCased).getD false

/-- The lower-case form of one character.  `before` holds what precedes it, nearest
first, and `after` what follows. -/
def lowerChar (before : List Char) (c : Char) (after : List Char) : List Char :=
  if c == 'Σ' then
    if meetsCased before && !meetsCased after then ['ς'] else ['σ']
  else if c == 'İ' then ['i', '\u0307']
  else if c.toNat < 0x80 then [c.toLower]
  else [Char.ofNat (lowerCode c.toNat lowerRuns)]

/-- Lower-cases a list of characters; `before` holds what was passed, nearest first. -/
def lowerFrom (before : List Char) : List Char → List Char
  | [] => []
  | c :: rest => lowerChar before c rest ++ lowerFrom (c :: before) rest

def lowerCase (s : String) : String := String.ofList (lowerFrom [] s.toList)

/-- A text of ASCII characters is lowered letter by letter. -/
theorem lowerFrom_ascii (before cs : List Char) (h : ∀ c ∈ cs, c.toNat < 0x80) :
    lowerFrom before cs = cs.map Char.toLower := by
  induction cs generalizing before with
  | nil => rfl
  | cons c rest ih =>
    have hc : c.toNat < 0x80 := h c List.mem_cons_self
    have hs : (c == 'Σ') = false := by
      rw [beq_eq_false_iff_ne]; intro e; subst e; exact absurd hc (by decide)
    have hi : (c == 'İ') = false := by
      rw [beq_eq_false_iff_ne]; intro e; subst e; exact absurd hc (by decide)
    simp [lowerFrom, lowerChar, hs, hi, hc, ih (c :: before) fun d hd => h d (List.mem_cons_of_mem _ hd)]

end Text
end TickStream
