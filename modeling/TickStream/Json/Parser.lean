import TickStream.Json.Numeral
/-
Reading JSON texts.  Every reader gives back what is left, shorter than what it was
given, and that is why the loops over items and members end.  A text that stops
inside a value is told apart from one that breaks the grammar: the first fault met
from left to right decides.
-/
namespace TickStream
namespace Json

def isGap (c : Char) : Bool := c == ' ' || c == '\n' || c == '\t' || c == '\r'

def skipGap (cs : List Char) : List Char := cs.dropWhile isGap

theorem length_skipGap_le (cs : List Char) : (skipGap cs).length ≤ cs.length :=
  Numeral.length_dropWhile_le isGap cs

/-! ## Strings -/

def hexDigit? (c : Char) : Option Nat :=
  if c.isDigit then some (c.toNat - 48)
  else if 'a' ≤ c && c ≤ 'f' then some (c.toNat - 87)
  else if 'A' ≤ c && c ≤ 'F' then some (c.toNat - 55)
  else none

/-- Four hexadecimal digits.  The text counts as cut off when fewer than four bytes
are left, whatever they are. -/
def hexWord (cs : List Char) : Except Fault (Nat × Rest cs) :=
  if (String.ofList (cs.take 4)).utf8ByteSize < 4 then .error .truncated
  else match cs with
    | a :: b :: c :: d :: rest =>
      match hexDigit? a, hexDigit? b, hexDigit? c, hexDigit? d with
      | some a, some b, some c, some d =>
        .ok (4096 * a + 256 * b + 16 * c + d, ⟨rest, by simp; omega⟩)
      | _, _, _, _ => .error .malformed
    | _ => .error .malformed

def isHighSurrogate (n : Nat) : Bool := 0xd800 ≤ n && n ≤ 0xdbff

def isLowSurrogate (n : Nat) : Bool := 0xdc00 ≤ n && n ≤ 0xdfff

/-- A numbered escape after its letter.  A high surrogate needs a low one after it,
and a low one does not stand alone. -/
def numberedEscape (cs : List Char) : Except Fault (Char × Rest cs) :=
  match hexWord cs with
  | .error e => .error e
  | .ok (n, ⟨rest, h⟩) =>
    if isLowSurrogate n then .error .malformed
    else if isHighSurrogate n then
      match rest, h with
      | [], _ => .error .truncated
      | ['\\'], _ => .error .truncated
      | '\\' :: 'u' :: rest, h =>
        match hexWord rest with
        | .error e => .error e
        | .ok (m, ⟨rest', h'⟩) =>
          if isLowSurrogate m then
            .ok (Char.ofNat (0x10000 + (n - 0xd800) * 0x400 + (m - 0xdc00)),
              ⟨rest', by simp only [List.length_cons] at h; omega⟩)
          else .error .malformed
      | _, _ => .error .malformed
    else .ok (Char.ofNat n, ⟨rest, h⟩)

/-- The character that a letter after a backslash stands for. -/
def letterEscape? : Char → Option Char
  | '"' => some '"'
  | '\\' => some '\\'
  | '/' => some '/'
  | 'b' => some '\x08'
  | 'f' => some '\x0c'
  | 'n' => some '\n'
  | 'r' => some '\r'
  | 't' => some '\t'
  | _ => none

/-- An escape after its backslash. -/
def escape : (cs : List Char) → Except Fault (Char × Rest cs)
  | [] => .error .truncated
  | c :: rest =>
    if c = 'u' then
      match numberedEscape rest with
      | .error e => .error e
      | .ok (d, ⟨r, h⟩) => .ok (d, ⟨r, by simp; omega⟩)
    else match letterEscape? c with
      | some d => .ok (d, ⟨rest, by simp⟩)
      | none => .error .malformed

/-- A string after its opening quote.  `acc` holds the characters read, last first. -/
def stringTail (acc : List Char) (cs : List Char) : Except Fault (String × List Char) :=
  match cs with
  | [] => .error .truncated
  | c :: rest =>
    if c = '"' then .ok (String.ofList acc.reverse, rest)
    else if c = '\\' then
      match escape rest with
      | .error e => .error e
      | .ok (d, ⟨r, _⟩) => stringTail (d :: acc) r
    else if c.toNat < 0x20 then .error .malformed
    else stringTail (c :: acc) rest
termination_by cs.length
decreasing_by all_goals simp only [List.length_cons]; omega

theorem stringTail_length {acc cs s rest} (h : stringTail acc cs = .ok (s, rest)) :
    rest.length < cs.length := by
  fun_induction stringTail acc cs with
  | case1 => simp at h
  | case2 acc rest' => simp_all
  | case3 => simp at h
  | case4 acc rest' _ d r hr _ ih => have := ih h; simp; omega
  | case5 => simp at h
  | case6 acc c rest' _ _ _ ih => have := ih h; simp; omega

/-! ## Values -/

/-- The rest of a word whose first letter has been read. -/
def word : (expected : List Char) → List Char → Except Fault (List Char)
  | [], cs => .ok cs
  | _ :: _, [] => .error .truncated
  | e :: expected, c :: cs => if c = e then word expected cs else .error .malformed

theorem word_length {expected cs rest} (h : word expected cs = .ok rest) :
    rest.length ≤ cs.length := by
  fun_induction word expected cs with
  | case1 => simp_all
  | case2 => simp at h
  | case3 expected e cs ih => have := ih h; simp; omega
  | case4 => simp at h

abbrev Reader := (cs : List Char) → Except Fault (Json × Rest cs)

def items (element : Reader) (cs : List Char) : Except Fault (List Json × Rest cs) :=
  match element cs with
  | .error e => .error e
  | .ok (v, ⟨rest, h⟩) =>
    match hs : skipGap rest with
    | [] => .error .truncated
    | c :: rest' =>
      have hlt : rest'.length < cs.length := by
        have := length_skipGap_le rest
        rw [hs, List.length_cons] at this
        omega
      if c = ']' then .ok ([v], ⟨rest', hlt⟩)
      else if c = ',' then
        match items element rest' with
        | .error e => .error e
        | .ok (vs, ⟨r, hr⟩) => .ok (v :: vs, ⟨r, Nat.lt_trans hr hlt⟩)
      else .error .malformed
termination_by cs.length

def key (cs : List Char) : Except Fault (String × Rest cs) :=
  match hs : skipGap cs with
  | [] => .error .truncated
  | c :: rest =>
    if c = '"' then
      match hk : stringTail [] rest with
      | .error e => .error e
      | .ok (k, rest') =>
        match hs' : skipGap rest' with
        | [] => .error .truncated
        | d :: r =>
          if d = ':' then
            .ok (k, ⟨r, by
              have h1 := length_skipGap_le cs
              have h2 := stringTail_length hk
              have h3 := length_skipGap_le rest'
              rw [hs, List.length_cons] at h1
              rw [hs', List.length_cons] at h3
              omega⟩)
          else .error .malformed
    else .error .malformed

/-- The members of an object from the first one on, in the order they stand. -/
def members (element : Reader) (cs : List Char) :
    Except Fault (List (String × Json) × Rest cs) :=
  match key cs with
  | .error e => .error e
  | .ok (k, ⟨rest, hk⟩) =>
    match element rest with
    | .error e => .error e
    | .ok (v, ⟨rest', hv⟩) =>
      match hs : skipGap rest' with
      | [] => .error .truncated
      | c :: r =>
        have hlt : r.length < cs.length := by
          have := length_skipGap_le rest'
          rw [hs, List.length_cons] at this
          omega
        if c = '\x7d' then .ok ([(k, v)], ⟨r, hlt⟩)
        else if c = ',' then
          match members element r with
          | .error e => .error e
          | .ok (ms, ⟨r', hr⟩) => .ok ((k, v) :: ms, ⟨r', Nat.lt_trans hr hlt⟩)
        else .error .malformed
termination_by cs.length

def arrayTail (element : Reader) (cs : List Char) : Except Fault (Json × Rest cs) :=
  match hs : skipGap cs with
  | [] => .error .truncated
  | c :: rest =>
    if c = ']' then
      .ok (array [], ⟨rest, by
        have := length_skipGap_le cs
        rw [hs, List.length_cons] at this
        omega⟩)
    else match items element cs with
      | .error e => .error e
      | .ok (vs, r) => .ok (array vs, r)

/-- An object after its brace.  Its members are kept sorted, each key once. -/
def objectTail (element : Reader) (cs : List Char) : Except Fault (Json × Rest cs) :=
  match hs : skipGap cs with
  | [] => .error .truncated
  | c :: rest =>
    if c = '\x7d' then
      .ok (object [], ⟨rest, by
        have := length_skipGap_le cs
        rw [hs, List.length_cons] at this
        omega⟩)
    else match members element cs with
      | .error e => .error e
      | .ok (ms, r) => .ok (object (sortMembers ms), r)

/-- Hands a shorter rest on to a longer text. -/
def shift {cs cs' : List Char} (h : cs'.length ≤ cs.length) :
    Except Fault (Json × Rest cs') → Except Fault (Json × Rest cs)
  | .error e => .error e
  | .ok (v, ⟨r, hr⟩) => .ok (v, ⟨r, Nat.lt_of_lt_of_le hr h⟩)

def value : (depth : Nat) → Reader
  | 0, _ => .error .malformed
  | depth + 1, cs =>
    match hs : skipGap cs with
    | [] => .error .truncated
    | c :: rest =>
      have hlt : rest.length < cs.length := by
        have := length_skipGap_le cs
        rw [hs, List.length_cons] at this
        omega
      let constant (v : Json) (expected : List Char) : Except Fault (Json × Rest cs) :=
        match hw : word expected rest with
        | .error e => .error e
        | .ok r => .ok (v, ⟨r, Nat.lt_of_le_of_lt (word_length hw) hlt⟩)
      if c = '"' then
        match hk : stringTail [] rest with
        | .error e => .error e
        | .ok (s, r) => .ok (string s, ⟨r, Nat.lt_trans (stringTail_length hk) hlt⟩)
      else if c = '[' then
        if depth = 0 then .error .malformed
        else shift (Nat.le_of_lt hlt) (arrayTail (value depth) rest)
      else if c = '\x7b' then
        if depth = 0 then .error .malformed
        else shift (Nat.le_of_lt hlt) (objectTail (value depth) rest)
      else if c = 'n' then constant null ['u', 'l', 'l']
      else if c = 't' then constant (bool true) ['r', 'u', 'e']
      else if c = 'f' then constant (bool false) ['a', 'l', 's', 'e']
      else if c = '-' || c.isDigit then
        match hn : Numeral.read (c :: rest) with
        | .error e => .error e
        | .ok (n, r) =>
          .ok (number n, ⟨r, by
            have := Numeral.read_length hn
            have := length_skipGap_le cs
            rw [hs] at this
            omega⟩)
      else .error .malformed

/-- The number of levels, one more than the deepest nesting a text may have. -/
def depthLimit : Nat := 128

def parse (s : String) : Except Fault Json :=
  match value depthLimit s.toList with
  | .error e => .error e
  | .ok (v, ⟨rest, _⟩) => if (skipGap rest).isEmpty then .ok v else .error .malformed

end Json
end TickStream
