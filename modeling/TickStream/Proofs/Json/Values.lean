import TickStream.Proofs.Json.Numerals
import TickStream.Proofs.Json.Strings
/-
Reading values.  Main statement: from every text of a value that is not nested too deeply the
reader takes the value, with the members of its objects sorted.
-/
namespace TickStream
namespace Json

/-! ## White space -/

theorem skipGap_append {g : List Char} (h : Gap g) (cs : List Char) :
    skipGap (g ++ cs) = skipGap cs := List.dropWhile_append_of_pos h

theorem skipGap_cons {c : Char} (h : isGap c = false) (cs : List Char) :
    skipGap (c :: cs) = c :: cs := List.dropWhile_cons_of_neg (by rw [h]; decide)

theorem Numeral.Ends.after_gap {g rest : List Char} (hg : Gap g) (h : Numeral.Ends rest) :
    Numeral.Ends (g ++ rest) := by
  cases g with
  | nil => exact h
  | cons c g =>
    rintro d ⟨⟩
    have hc := hg c List.mem_cons_self
    simp only [isGap, Bool.or_eq_true, beq_iff_eq] at hc
    obtain ((rfl | rfl) | rfl) | rfl := hc <;> decide

/-! ## What each reader does on the text it is made for -/

section
variable {α : Type} {cs tail rest : List Char} {v : α}

/-- A reader that looks at the next character goes on with the one that stands there. -/
theorem Reads.of_cons {ds : List Char} {none : ds = [] → Except Fault (α × Rest cs)}
    {some : (c : Char) → (tail : List Char) → ds = c :: tail → Except Fault (α × Rest cs)}
    {c : Char} (hs : ds = c :: tail) (h : Reads (some c tail hs) v rest) :
    Reads (match hs : ds with
      | [] => none hs
      | c :: tail => some c tail hs) v rest := by
  subst hs
  exact h

/-- A reader that reads a string goes on with what was read. -/
theorem Reads.of_string {ds left : List Char} {k : String}
    {error : (e : Fault) → stringTail [] ds = .error e → Except Fault (α × Rest cs)}
    {ok : (k : String) → (left : List Char) → stringTail [] ds = .ok (k, left) →
      Except Fault (α × Rest cs)}
    (hk : stringTail [] ds = .ok (k, left)) (h : Reads (ok k left hk) v rest) :
    Reads (match hk : stringTail [] ds with
      | .error e => error e hk
      | .ok (k, left) => ok k left hk) v rest := by
  split
  · rename_i hr
    rw [hk] at hr
    exact absurd hr (by simp)
  · rename_i hr
    have hsame := hr
    rw [hk] at hsame
    injection hsame with hsame
    injection hsame with hkey hleft
    subst hkey hleft
    exact h

theorem Reads.shift {cs' : List Char} {v : Json} {r : Except Fault (Json × Rest cs')}
    (h : cs'.length ≤ cs.length) (hr : Reads r v rest) : Reads (shift h r) v rest := by
  obtain ⟨hlt, rfl⟩ := hr
  exact ⟨_, rfl⟩

end

section
variable {cs tail rest : List Char} {d : Nat}

theorem word_append (expected rest : List Char) : word expected (expected ++ rest) = .ok rest := by
  induction expected with
  | nil => rfl
  | cons e expected ih =>
    rw [List.cons_append, word, if_pos rfl]
    exact ih

theorem value_string {s : String} (hs : skipGap cs = '"' :: tail)
    (hread : stringTail [] tail = .ok (s, rest)) : Reads (value (d + 1) cs) (string s) rest := by
  rw [value]
  refine .of_cons hs ?_
  rw [if_pos rfl]
  refine .of_string hread ?_
  exact ⟨_, rfl⟩

/-- The words of the grammar, by their first letters. -/
inductive Constant : Char → List Char → Json → Prop where
  | null : Constant 'n' ['u', 'l', 'l'] null
  | true : Constant 't' ['r', 'u', 'e'] (bool true)
  | false : Constant 'f' ['a', 'l', 's', 'e'] (bool false)

theorem value_constant {c : Char} {expected : List Char} {v : Json} (hv : Constant c expected v)
    (hs : skipGap cs = c :: (expected ++ rest)) : Reads (value (d + 1) cs) v rest := by
  rw [value]
  refine .of_cons hs ?_
  cases hv
  all_goals
    rw [if_neg (by decide), if_neg (by decide), if_neg (by decide)]
    simp only [Char.reduceEq, if_true, if_false]
    split
    · rename_i h
      rw [word_append] at h
      exact absurd h (by simp)
    · rename_i h
      rw [word_append] at h
      injection h with h
      subst h
      exact ⟨_, rfl⟩

theorem value_number {c : Char} {n : Number} (hs : skipGap cs = c :: tail)
    (hc : c = '-' ∨ c.isDigit = true) (hread : Numeral.read (c :: tail) = .ok (n, rest)) :
    Reads (value (d + 1) cs) (number n) rest := by
  have hother : c ≠ '"' ∧ c ≠ '[' ∧ c ≠ '\x7b' ∧ c ≠ 'n' ∧ c ≠ 't' ∧ c ≠ 'f' := by
    refine ⟨?_, ?_, ?_, ?_, ?_, ?_⟩
    all_goals
      rintro rfl
      exact absurd hc (by decide)
  obtain ⟨h1, h2, h3, h4, h5, h6⟩ := hother
  have hfirst : (c = '-' || c.isDigit) = true := by
    rw [Bool.or_eq_true, decide_eq_true_iff]
    exact hc
  rw [value]
  refine .of_cons hs ?_
  rw [if_neg h1, if_neg h2, if_neg h3, if_neg h4, if_neg h5, if_neg h6, if_pos hfirst]
  split
  · rename_i h
    rw [hread] at h
    exact absurd h (by simp)
  · rename_i h
    rw [hread] at h
    simp only [Except.ok.injEq, Prod.mk.injEq] at h
    obtain ⟨rfl, rfl⟩ := h
    exact ⟨_, rfl⟩

theorem value_array {v : Json} (hs : skipGap cs = '[' :: tail) (hd : d ≠ 0)
    (hread : Reads (arrayTail (value d) tail) v rest) : Reads (value (d + 1) cs) v rest := by
  rw [value]
  refine .of_cons hs ?_
  rw [if_neg (by decide), if_pos rfl, if_neg hd]
  exact hread.shift _

theorem value_object {v : Json} (hs : skipGap cs = '\x7b' :: tail) (hd : d ≠ 0)
    (hread : Reads (objectTail (value d) tail) v rest) : Reads (value (d + 1) cs) v rest := by
  rw [value]
  refine .of_cons hs ?_
  rw [if_neg (by decide), if_neg (by decide), if_pos rfl, if_neg hd]
  exact hread.shift _

/-! ### Arrays -/

variable {element : Reader} {v : Json} {vs : List Json}

theorem arrayTail_empty (hs : skipGap cs = ']' :: rest) :
    Reads (arrayTail element cs) (array []) rest := by
  rw [arrayTail]
  refine .of_cons hs ?_
  rw [if_pos rfl]
  exact ⟨_, rfl⟩

theorem arrayTail_items {c : Char} (hs : skipGap cs = c :: tail) (hc : c ≠ ']')
    (hread : Reads (items element cs) vs rest) :
    Reads (arrayTail element cs) (array vs) rest := by
  obtain ⟨hlt, hread⟩ := hread
  rw [arrayTail]
  refine .of_cons hs ?_
  rw [if_neg hc, hread]
  exact ⟨_, rfl⟩

theorem items_last (hv : Reads (element cs) v tail) (hs : skipGap tail = ']' :: rest) :
    Reads (items element cs) [v] rest := by
  obtain ⟨hlt, hv⟩ := hv
  rw [items, hv]
  refine .of_cons hs ?_
  rw [if_pos rfl]
  exact ⟨_, rfl⟩

theorem items_more {left : List Char} (hv : Reads (element cs) v tail)
    (hs : skipGap tail = ',' :: rest) (hmore : Reads (items element rest) vs left) :
    Reads (items element cs) (v :: vs) left := by
  obtain ⟨hlt, hv⟩ := hv
  obtain ⟨hlt', hmore⟩ := hmore
  rw [items, hv]
  refine .of_cons hs ?_
  rw [if_neg (by decide), if_pos rfl, hmore]
  exact ⟨_, rfl⟩

/-! ### Objects -/

variable {k : String} {ms : List (String × Json)}

theorem objectTail_empty (hs : skipGap cs = '\x7d' :: rest) :
    Reads (objectTail element cs) (object []) rest := by
  rw [objectTail]
  refine .of_cons hs ?_
  rw [if_pos rfl]
  exact ⟨_, rfl⟩

theorem objectTail_members {c : Char} (hs : skipGap cs = c :: tail) (hc : c ≠ '\x7d')
    (hread : Reads (members element cs) ms rest) :
    Reads (objectTail element cs) (object (sortMembers ms)) rest := by
  obtain ⟨hlt, hread⟩ := hread
  rw [objectTail]
  refine .of_cons hs ?_
  rw [if_neg hc, hread]
  exact ⟨_, rfl⟩

theorem key_spelled {left : List Char} (hs : skipGap cs = '"' :: tail)
    (hread : stringTail [] tail = .ok (k, left)) (hcolon : skipGap left = ':' :: rest) :
    Reads (key cs) k rest := by
  rw [key]
  refine .of_cons hs ?_
  rw [if_pos rfl]
  refine .of_string hread ?_
  refine .of_cons hcolon ?_
  rw [if_pos rfl]
  exact ⟨_, rfl⟩

theorem members_last {back : List Char} (hk : Reads (key cs) k tail)
    (hv : Reads (element tail) v back) (hs : skipGap back = '\x7d' :: rest) :
    Reads (members element cs) [(k, v)] rest := by
  obtain ⟨hlt, hk⟩ := hk
  obtain ⟨hlt', hv⟩ := hv
  rw [members, hk]
  simp only [hv]
  refine .of_cons hs ?_
  rw [if_pos rfl]
  exact ⟨_, rfl⟩

theorem members_more {back left : List Char} (hk : Reads (key cs) k tail)
    (hv : Reads (element tail) v back) (hs : skipGap back = ',' :: rest)
    (hmore : Reads (members element rest) ms left) :
    Reads (members element cs) ((k, v) :: ms) left := by
  obtain ⟨hlt, hk⟩ := hk
  obtain ⟨hlt', hv⟩ := hv
  obtain ⟨hlt'', hmore⟩ := hmore
  rw [members, hk]
  simp only [hv]
  refine .of_cons hs ?_
  rw [if_neg (by decide), if_pos rfl, hmore]
  exact ⟨_, rfl⟩

end

/-! ## What the texts of the grammar begin with -/

/-- The text begins, behind white space, with a character that closes nothing. -/
def Opens (cs : List Char) : Prop :=
  ∃ g c tail, Gap g ∧ cs = g ++ c :: tail ∧ isGap c = false ∧ c ≠ ']' ∧ c ≠ '\x7d'

theorem Opens.of_first {c : Char} (tail : List Char) (hgap : isGap c = false) (h : c ≠ ']')
    (h' : c ≠ '\x7d') : Opens (c :: tail) :=
  ⟨[], c, tail, fun _ h => absurd h List.not_mem_nil, rfl, hgap, h, h'⟩

theorem Opens.append {cs : List Char} (h : Opens cs) (ds : List Char) : Opens (cs ++ ds) := by
  obtain ⟨g, c, tail, hg, rfl, hc⟩ := h
  exact ⟨g, c, tail ++ ds, hg, by rw [List.append_assoc, List.cons_append], hc⟩

theorem Opens.after_gap {g cs : List Char} (hg : Gap g) (h : Opens cs) : Opens (g ++ cs) := by
  obtain ⟨g', c, tail, hg', rfl, hc⟩ := h
  refine ⟨g ++ g', c, tail, fun d hd => ?_, by rw [List.append_assoc], hc⟩
  exact (List.mem_append.1 hd).elim (hg d) (hg' d)

theorem Opens.skipGap {cs : List Char} (h : Opens cs) :
    ∃ c tail, Json.skipGap cs = c :: tail ∧ c ≠ ']' ∧ c ≠ '\x7d' := by
  obtain ⟨g, c, tail, hg, rfl, hgap, hc⟩ := h
  exact ⟨c, tail, by rw [skipGap_append hg, skipGap_cons hgap], hc⟩

theorem isGap_of_first {c : Char} (hc : c = '-' ∨ c.isDigit = true) : isGap c = false := by
  by_cases hgap : isGap c = true
  · simp only [isGap, Bool.or_eq_true, beq_iff_eq] at hgap
    obtain ((rfl | rfl) | rfl) | rfl := hgap
    all_goals exact absurd hc (by decide)
  · exact Bool.eq_false_iff.2 hgap

theorem opens_of_first {c : Char} (tail : List Char) (hc : c = '-' ∨ c.isDigit = true) :
    Opens (c :: tail) := by
  refine .of_first tail (isGap_of_first hc) ?_ ?_
  · rintro rfl
    exact absurd hc (by decide)
  · rintro rfl
    exact absurd hc (by decide)

theorem Numeral.exists_of_read {cs left : List Char} {n : Number}
    (h : Numeral.read cs = .ok (n, left)) :
    ∃ c tail, cs = c :: tail ∧ (c = '-' ∨ c.isDigit = true) := by
  cases cs with
  | nil => exact absurd h (by simp [Numeral.read, Numeral.unsigned])
  | cons c cs =>
    refine ⟨c, cs, rfl, ?_⟩
    by_cases hminus : c = '-'
    · exact .inl hminus
    · have hother : Numeral.read (c :: cs) = Numeral.unsigned false (c :: cs) := by
        rw [Numeral.read]
        intro ds hds
        injection hds with hc
        exact hminus hc
      rw [hother] at h
      have hne := (Numeral.exists_of_unsigned h).1
      by_cases hc : c.isDigit = true
      · exact .inr hc
      · exact absurd (List.takeWhile_cons_of_neg hc) hne

theorem opens_of_spells {p : Phrase} {cs : List Char} (h : Spells p cs) : Opens cs := by
  induction h with
  | null => exact .of_first _ (by decide) (by decide) (by decide)
  | true => exact .of_first _ (by decide) (by decide) (by decide)
  | false => exact .of_first _ (by decide) (by decide) (by decide)
  | natural n =>
    obtain ⟨c, tail, hcs, hdigit, -⟩ := Text.toDigits_eq_cons n.toNat
    rw [hcs]
    exact opens_of_first tail (.inr hdigit)
  | negative h => exact opens_of_first _ (.inl rfl)
  | real h =>
    obtain ⟨c, tail, rfl, hc⟩ := Numeral.exists_of_read h
    exact opens_of_first tail hc
  | string h =>
    obtain ⟨ds, -, rfl⟩ := h
    exact .of_first _ (by decide) (by decide) (by decide)
  | emptyArray h => exact .of_first _ (by decide) (by decide) (by decide)
  | array h ih => exact .of_first _ (by decide) (by decide) (by decide)
  | emptyObject h => exact .of_first _ (by decide) (by decide) (by decide)
  | object h ih => exact .of_first _ (by decide) (by decide) (by decide)
  | spaced hb ha h ih => exact (ih.append _).after_gap hb
  | lastItem h ih => exact ih
  | moreItems h more ih ih' => exact ih.append _
  | member hb ha hk h ih =>
    obtain ⟨ds, -, rfl⟩ := hk
    exact .after_gap hb (.of_first _ (by decide) (by decide) (by decide))
  | lastMember h ih => exact ih
  | moreMembers h more ih ih' => exact ih.append _

/-! ## Every text is read -/

/-- What the readers make of a text of the phrase, whatever stands behind it that does not go on
with a numeral. -/
def Completes : Phrase → List Char → Prop
  | .value v, cs => ∀ g d rest, Gap g → v.depth < d → Numeral.Ends rest →
    Reads (value d (g ++ (cs ++ rest))) v.sorted rest
  | .spaced v, cs => ∀ d rest, v.depth < d → Numeral.Ends rest →
    ∃ left, Reads (value d (cs ++ rest)) v.sorted left ∧ skipGap left = skipGap rest
  | .items vs, cs => ∀ d rest, depthItems vs < d →
    Reads (items (value d) (cs ++ ']' :: rest)) (sortedItems vs) rest
  | .member k v, cs => ∀ d rest, v.depth < d → Numeral.Ends rest →
    ∃ mid left, Reads (key (cs ++ rest)) k mid ∧ Reads (value d mid) v.sorted left ∧
      skipGap left = skipGap rest
  | .members ms, cs => ∀ d rest, depthMembers ms < d →
    Reads (members (value d) (cs ++ '\x7d' :: rest)) (sortedMembers ms) rest

theorem completes_constant {c : Char} {expected : List Char} {v : Json}
    (hv : Constant c expected v) (hgap : isGap c = false) (hsorted : v.sorted = v) :
    Completes (.value v) (c :: expected) := by
  intro g d rest hg hd _
  cases d with
  | zero => exact absurd hd (Nat.not_lt_zero _)
  | succ d =>
    rw [hsorted]
    refine value_constant hv ?_
    rw [skipGap_append hg, List.cons_append, skipGap_cons hgap]

theorem completes_number {n : Number} {cs : List Char} (hread : Numeral.read cs = .ok (n, [])) :
    Completes (.value (number n)) cs := by
  intro g d rest hg hd hrest
  obtain ⟨c, tail, rfl, hc⟩ := Numeral.exists_of_read hread
  have hall := Numeral.read_append hrest hread
  rw [List.cons_append, List.nil_append] at hall
  cases d with
  | zero => exact absurd hd (Nat.not_lt_zero _)
  | succ d =>
    refine value_number ?_ hc hall
    rw [skipGap_append hg, List.cons_append, skipGap_cons (isGap_of_first hc)]

theorem completes_string {s : String} {cs : List Char} (h : SpellsString s cs) :
    Completes (.value (string s)) cs := by
  intro g d rest hg hd _
  obtain ⟨ds, hds, rfl⟩ := h
  cases d with
  | zero => exact absurd hd (Nat.not_lt_zero _)
  | succ d =>
    refine value_string ?_ (stringTail_of_spells hds rest)
    rw [skipGap_append hg, List.cons_append, skipGap_cons (by decide), List.append_assoc]
    rfl

theorem ends_closing {c : Char} (rest : List Char) (hc : c = ',' ∨ c = ']' ∨ c = '\x7d') :
    Numeral.Ends (c :: rest) := by
  rintro d ⟨⟩
  obtain rfl | rfl | rfl := hc <;> decide

theorem skipGap_closing {c : Char} (rest : List Char) (hc : c = ',' ∨ c = ']' ∨ c = '\x7d') :
    skipGap (c :: rest) = c :: rest := by
  refine skipGap_cons ?_ rest
  obtain rfl | rfl | rfl := hc <;> decide

theorem completes_array {vs vs' : List Json} {cs : List Char}
    (hread : ∀ d rest, depthItems vs < d →
      Reads (arrayTail (value d) (cs ++ ']' :: rest)) (array vs') rest)
    (hsorted : (array vs).sorted = array vs') :
    Completes (.value (array vs)) ('[' :: (cs ++ [']'])) := by
  intro g d rest hg hd _
  rw [depth] at hd
  cases d with
  | zero => exact absurd hd (Nat.not_lt_zero _)
  | succ d =>
    have hdepth : depthItems vs < d := Nat.lt_of_succ_lt_succ hd
    rw [hsorted]
    refine value_array ?_ (Nat.ne_zero_of_lt hdepth) (hread d rest hdepth)
    rw [skipGap_append hg, List.cons_append, skipGap_cons (by decide), List.append_assoc]
    rfl

theorem completes_object {ms ms' : List (String × Json)} {cs : List Char}
    (hread : ∀ d rest, depthMembers ms < d →
      Reads (objectTail (value d) (cs ++ '\x7d' :: rest)) (object ms') rest)
    (hsorted : (object ms).sorted = object ms') :
    Completes (.value (object ms)) ('\x7b' :: (cs ++ ['\x7d'])) := by
  intro g d rest hg hd _
  rw [depth] at hd
  cases d with
  | zero => exact absurd hd (Nat.not_lt_zero _)
  | succ d =>
    have hdepth : depthMembers ms < d := Nat.lt_of_succ_lt_succ hd
    rw [hsorted]
    refine value_object ?_ (Nat.ne_zero_of_lt hdepth) (hread d rest hdepth)
    rw [skipGap_append hg, List.cons_append, skipGap_cons (by decide), List.append_assoc]
    rfl

theorem completes_spaced {v : Json} {before cs after : List Char} (hb : Gap before)
    (ha : Gap after) (ih : Completes (.value v) cs) :
    Completes (.spaced v) (before ++ (cs ++ after)) := by
  intro d rest hd hrest
  refine ⟨after ++ rest, ?_, skipGap_append ha rest⟩
  rw [List.append_assoc, List.append_assoc]
  exact ih before d (after ++ rest) hb hd (hrest.after_gap ha)

theorem completes_member {k : String} {v : Json} {before ks after cs : List Char}
    (hb : Gap before) (ha : Gap after) (hk : SpellsString k ks) (ih : Completes (.spaced v) cs) :
    Completes (.member k v) (before ++ (ks ++ (after ++ ':' :: cs))) := by
  intro d rest hd hrest
  obtain ⟨ds, hds, rfl⟩ := hk
  obtain ⟨left, hv, hleft⟩ := ih d rest hd hrest
  refine ⟨cs ++ rest, left, ?_, hv, hleft⟩
  have htext : before ++ ('"' :: (ds ++ ['"']) ++ (after ++ ':' :: cs)) ++ rest =
      before ++ '"' :: (ds ++ '"' :: (after ++ ':' :: (cs ++ rest))) := by
    simp
  rw [htext]
  refine key_spelled ?_ (stringTail_of_spells hds (after ++ ':' :: (cs ++ rest))) ?_
  · rw [skipGap_append hb, skipGap_cons (by decide)]
  · rw [skipGap_append ha, skipGap_cons (by decide)]

theorem completes_of_spells {p : Phrase} {cs : List Char} (h : Spells p cs) : Completes p cs := by
  induction h with
  | null => exact completes_constant .null (by decide) rfl
  | true => exact completes_constant .true (by decide) rfl
  | false => exact completes_constant .false (by decide) rfl
  | natural n => exact completes_number (Numeral.read_natural n)
  | negative h => exact completes_number (Numeral.read_negative h)
  | real h => exact completes_number h
  | string h => exact completes_string h
  | emptyArray hg =>
    refine completes_array (fun d rest _ => arrayTail_empty ?_) rfl
    rw [skipGap_append hg, skipGap_closing rest (by decide)]
  | array h ih =>
    refine completes_array (fun d rest hd => ?_) rfl
    obtain ⟨c, tail, hs, hc, -⟩ := ((opens_of_spells h).append _).skipGap
    exact arrayTail_items hs hc (ih d rest hd)
  | emptyObject hg =>
    refine completes_object (fun d rest _ => objectTail_empty ?_) rfl
    rw [skipGap_append hg, skipGap_closing rest (by decide)]
  | object h ih =>
    refine completes_object (fun d rest hd => ?_) rfl
    obtain ⟨c, tail, hs, -, hc⟩ := ((opens_of_spells h).append _).skipGap
    exact objectTail_members hs hc (ih d rest hd)
  | spaced hb ha h ih => exact completes_spaced hb ha ih
  | lastItem h ih =>
    intro d rest hd
    obtain ⟨left, hv, hleft⟩ :=
      ih d (']' :: rest) (Nat.lt_of_le_of_lt (Nat.le_max_left _ _) hd) (ends_closing rest (by decide))
    exact items_last hv (hleft.trans (skipGap_closing rest (by decide)))
  | @moreItems v vs cs ds h more ih ih' =>
    intro d rest hd
    have hv : v.depth < d := Nat.lt_of_le_of_lt (Nat.le_max_left _ _) hd
    have hvs : depthItems vs < d := Nat.lt_of_le_of_lt (Nat.le_max_right _ _) hd
    obtain ⟨left, hread, hleft⟩ := ih d (',' :: (ds ++ ']' :: rest)) hv (ends_closing _ (by decide))
    rw [List.append_assoc, List.cons_append]
    exact items_more hread (hleft.trans (skipGap_closing _ (by decide))) (ih' d rest hvs)
  | member hb ha hk h ih => exact completes_member hb ha hk ih
  | lastMember h ih =>
    intro d rest hd
    obtain ⟨mid, left, hk, hv, hleft⟩ := ih d ('\x7d' :: rest)
      (Nat.lt_of_le_of_lt (Nat.le_max_left _ _) hd) (ends_closing rest (by decide))
    exact members_last hk hv (hleft.trans (skipGap_closing rest (by decide)))
  | @moreMembers k v ms cs ds h more ih ih' =>
    intro d rest hd
    have hv : v.depth < d := Nat.lt_of_le_of_lt (Nat.le_max_left _ _) hd
    have hms : depthMembers ms < d := Nat.lt_of_le_of_lt (Nat.le_max_right _ _) hd
    obtain ⟨mid, left, hk, hread, hleft⟩ :=
      ih d (',' :: (ds ++ '\x7d' :: rest)) hv (ends_closing _ (by decide))
    rw [List.append_assoc, List.cons_append]
    exact members_more hk hread (hleft.trans (skipGap_closing _ (by decide))) (ih' d rest hms)

/-- From a text that holds a value and nothing else but white space, the value is read. -/
theorem parse_of_spells {v : Json} {text : String} (h : Spells (.spaced v) text.toList)
    (hdepth : v.depth < depthLimit) : parse text = .ok v.sorted := by
  have hend : Numeral.Ends [] := fun c hc => absurd hc (by simp)
  obtain ⟨left, hread, hleft⟩ := completes_of_spells h depthLimit [] hdepth hend
  rw [List.append_nil] at hread
  obtain ⟨hlt, hread⟩ := hread
  rw [parse, hread]
  simp only [hleft]
  rfl

end Json
end TickStream
