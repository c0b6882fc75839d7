import TickStream.Proofs.Json.NumeralTexts
/-
What the readers accept.  Main statement: a text is read exactly if it is the text of a value
that is not nested too deeply, with white space around it.
-/
namespace TickStream
namespace Json

/-! ## Strings -/

section
variable {cs rest : List Char}

theorem hexWord_spells {n : Nat} (h : Reads (hexWord cs) n rest) :
    ∃ text, cs = text ++ rest ∧ SpellsHex n text := by
  obtain ⟨hlt, hread⟩ := h
  rw [hexWord.eq_def] at hread
  split at hread
  · exact absurd hread (by simp)
  · split at hread
    · rename_i a b c d back _
      split at hread
      · rename_i p q r s ha hb hc hd
        simp only [Except.ok.injEq, Prod.mk.injEq, Subtype.mk.injEq] at hread
        obtain ⟨hn, hrest⟩ := hread
        refine ⟨[a, b, c, d], by rw [← hrest]; rfl, ?_⟩
        exact ⟨a, b, c, d, p, q, r, s, rfl, ha, hb, hc, hd, hn.symm⟩
      · exact absurd hread (by simp)
    · exact absurd hread (by simp)

theorem numberedEscape_spells {c : Char} (h : Reads (numberedEscape cs) c rest) :
    ∃ text, cs = text ++ rest ∧ SpellsChar c ('\\' :: 'u' :: text) := by
  obtain ⟨hlt, hread⟩ := h
  rw [numberedEscape.eq_def] at hread
  split at hread
  · exact absurd hread (by simp)
  · rename_i n back hback hword
    obtain ⟨text, hcs, hspells⟩ := hexWord_spells ⟨hback, hword⟩
    split at hread
    · exact absurd hread (by simp)
    · rename_i hlow
      split at hread
      · rename_i hhigh
        split at hread
        · exact absurd hread (by simp)
        · exact absurd hread (by simp)
        · rename_i back' _ _
          split at hread
          · exact absurd hread (by simp)
          · rename_i m left hleft hword'
            obtain ⟨text', hback', hspells'⟩ := hexWord_spells ⟨hleft, hword'⟩
            split at hread
            · rename_i hlow'
              simp only [Except.ok.injEq, Prod.mk.injEq, Subtype.mk.injEq] at hread
              obtain ⟨hc, hrest⟩ := hread
              subst hc hrest
              refine ⟨text ++ '\\' :: 'u' :: text', ?_, .pair hspells hhigh hspells' hlow'⟩
              rw [hcs, hback', List.append_assoc, List.cons_append, List.cons_append]
            · exact absurd hread (by simp)
        · exact absurd hread (by simp)
      · rename_i hhigh
        simp only [Except.ok.injEq, Prod.mk.injEq, Subtype.mk.injEq] at hread
        obtain ⟨hc, hrest⟩ := hread
        subst hc hrest
        rw [Bool.not_eq_true] at hlow hhigh
        exact ⟨text, hcs, .numbered hspells hlow hhigh⟩

theorem escape_spells {c : Char} (h : Reads (escape cs) c rest) :
    ∃ text, cs = text ++ rest ∧ SpellsChar c ('\\' :: text) := by
  obtain ⟨hlt, hread⟩ := h
  cases cs with
  | nil => exact absurd hread (by simp [escape])
  | cons l cs =>
    rw [escape] at hread
    split at hread
    · rename_i hl
      split at hread
      · exact absurd hread (by simp)
      · rename_i d back hback hnumber
        obtain ⟨text, hcs, hspells⟩ := numberedEscape_spells ⟨hback, hnumber⟩
        simp only [Except.ok.injEq, Prod.mk.injEq, Subtype.mk.injEq] at hread
        obtain ⟨hc, hrest⟩ := hread
        subst hc hrest hl
        exact ⟨'u' :: text, by rw [hcs, List.cons_append], hspells⟩
    · split at hread
      · rename_i d hletter
        simp only [Except.ok.injEq, Prod.mk.injEq, Subtype.mk.injEq] at hread
        obtain ⟨hc, hrest⟩ := hread
        subst hc hrest
        exact ⟨[l], rfl, .letter hletter⟩
      · exact absurd hread (by simp)

theorem stringTail_spelled {acc : List Char} {s : String} (h : stringTail acc cs = .ok (s, rest)) :
    ∃ text chars, cs = text ++ '"' :: rest ∧ SpellsChars chars text ∧
      s = String.ofList (acc.reverse ++ chars) := by
  fun_induction stringTail acc cs with
  | case1 => exact absurd h (by simp)
  | case2 acc rest' =>
    simp only [Except.ok.injEq, Prod.mk.injEq] at h
    obtain ⟨hs, hrest⟩ := h
    exact ⟨[], [], by rw [hrest]; rfl, .nil, by rw [← hs, List.append_nil]⟩
  | case3 => exact absurd h (by simp)
  | case4 acc rest' d r hr hread _ ih =>
    obtain ⟨text, chars, hrest, hchars, hs⟩ := ih h
    obtain ⟨head, hcs, hspells⟩ := escape_spells ⟨hr, hread⟩
    refine ⟨'\\' :: (head ++ text), d :: chars, ?_, .cons hspells hchars, ?_⟩
    · rw [hcs, hrest, List.cons_append, List.append_assoc]
    · rw [hs, List.reverse_cons, List.append_assoc, List.singleton_append]
  | case5 => exact absurd h (by simp)
  | case6 acc c rest' quote backslash control ih =>
    obtain ⟨text, chars, hrest, hchars, hs⟩ := ih h
    refine ⟨c :: text, c :: chars, ?_, ?_, ?_⟩
    · rw [hrest, List.cons_append]
    · exact .cons (.plain quote backslash (Nat.le_of_not_lt control)) hchars
    · rw [hs, List.reverse_cons, List.append_assoc, List.singleton_append]

theorem spellsString_of_stringTail {s : String} (h : stringTail [] cs = .ok (s, rest)) :
    ∃ text, '"' :: cs = text ++ rest ∧ SpellsString s text := by
  obtain ⟨text, chars, hcs, hchars, hs⟩ := stringTail_spelled h
  rw [List.reverse_nil, List.nil_append] at hs
  refine ⟨'"' :: (text ++ ['"']), ?_, text, ?_, rfl⟩
  · rw [hcs, List.cons_append, List.append_assoc]
    rfl
  · rw [hs, String.toList_ofList]
    exact hchars

/-! ## Values -/

theorem skipGap_eq_cons {c : Char} {tail : List Char} (h : skipGap cs = c :: tail) :
    ∃ g, Gap g ∧ cs = g ++ c :: tail := by
  refine ⟨cs.takeWhile isGap, fun d hd => List.mem_takeWhile_imp hd, ?_⟩
  rw [← h]
  exact List.takeWhile_append_dropWhile.symm

/-- What the reader takes is white space and a text of the value, which is nested less deeply
than `d`. -/
def Accepts (element : Reader) (d : Nat) : Prop :=
  ∀ cs v rest, Reads (element cs) v rest → ∃ g text w, Gap g ∧ cs = g ++ (text ++ rest) ∧
    Spells (.value w) text ∧ w.sorted = v ∧ w.depth < d

variable {element : Reader} {d : Nat}

/-- White space behind a value belongs to it as well as white space in front. -/
theorem Accepts.spaced (h : Accepts element d) {v : Json} {left : List Char} {c : Char}
    (hv : Reads (element cs) v left) (hs : skipGap left = c :: rest) :
    ∃ text w, cs = text ++ c :: rest ∧ Spells (.spaced w) text ∧ w.sorted = v ∧ w.depth < d := by
  obtain ⟨g, text, w, hg, hcs, hspells, hsorted, hdepth⟩ := h cs v left hv
  obtain ⟨g', hg', hleft⟩ := skipGap_eq_cons hs
  refine ⟨g ++ (text ++ g'), w, ?_, .spaced hg hg' hspells, hsorted, hdepth⟩
  rw [hcs, hleft]
  simp only [List.append_assoc]

theorem items_spells (h : Accepts element d) {vs : List Json}
    (hread : Reads (items element cs) vs rest) :
    ∃ text ws, cs = text ++ ']' :: rest ∧ Spells (.items ws) text ∧ sortedItems ws = vs ∧
      depthItems ws < d := by
  induction hn : cs.length using Nat.strongRecOn generalizing cs vs with
  | ind n ih =>
    obtain ⟨hlt, hread⟩ := hread
    rw [items] at hread
    split at hread
    · exact absurd hread (by simp)
    · rename_i v left hleft hv
      split at hread
      · exact absurd hread (by simp)
      · rename_i c back hback
        obtain ⟨text, w, hcs, hspells, hsorted, hdepth⟩ := h.spaced ⟨hleft, hv⟩ hback
        simp only at hread
        split at hread
        · rename_i hc
          simp only [Except.ok.injEq, Prod.mk.injEq, Subtype.mk.injEq] at hread
          obtain ⟨hvs, hrest⟩ := hread
          subst hvs hrest hc
          refine ⟨text, [w], hcs, .lastItem hspells, by rw [← hsorted]; rfl, ?_⟩
          exact Nat.max_lt.2 ⟨hdepth, Nat.lt_of_le_of_lt (Nat.zero_le _) hdepth⟩
        · split at hread
          · rename_i hc
            split at hread
            · exact absurd hread (by simp)
            · rename_i ws left' hleft' hmore
              simp only [Except.ok.injEq, Prod.mk.injEq, Subtype.mk.injEq] at hread
              obtain ⟨hvs, hrest⟩ := hread
              subst hvs hrest hc
              have hshorter : back.length < n := by
                rw [← hn, hcs, List.length_append, List.length_cons]
                omega
              obtain ⟨text', ws', hback', hspells', hsorted', hdepth'⟩ :=
                ih back.length hshorter ⟨hleft', hmore⟩ rfl
              refine ⟨text ++ ',' :: text', w :: ws', ?_, .moreItems hspells hspells', ?_, ?_⟩
              · rw [hcs, hback', List.append_assoc, List.cons_append]
              · rw [sortedItems, hsorted, hsorted']
              · exact Nat.max_lt.2 ⟨hdepth, hdepth'⟩
          · exact absurd hread (by simp)

theorem Reads.of_shift {cs' : List Char} {v : Json} {r : Except Fault (Json × Rest cs')}
    {h : cs'.length ≤ cs.length} (hr : Reads (Json.shift h r) v rest) : Reads r v rest := by
  obtain ⟨_, hr⟩ := hr
  rw [Json.shift.eq_def] at hr
  split at hr
  · exact absurd hr (by simp)
  · simp only [Except.ok.injEq, Prod.mk.injEq, Subtype.mk.injEq] at hr
    obtain ⟨hv, hrest⟩ := hr
    subst hv hrest
    exact ⟨_, rfl⟩

theorem arrayTail_spells (h : Accepts element d) (hd : d ≠ 0) {v : Json}
    (hread : Reads (arrayTail element cs) v rest) :
    ∃ text w, '[' :: cs = text ++ rest ∧ Spells (.value w) text ∧ w.sorted = v ∧
      w.depth < d + 1 := by
  obtain ⟨hlt, hread⟩ := hread
  rw [arrayTail] at hread
  split at hread
  · exact absurd hread (by simp)
  · rename_i c back hback
    split at hread
    · rename_i hc
      simp only [Except.ok.injEq, Prod.mk.injEq, Subtype.mk.injEq] at hread
      obtain ⟨hv, hrest⟩ := hread
      subst hv hrest hc
      obtain ⟨g, hg, hcs⟩ := skipGap_eq_cons hback
      refine ⟨'[' :: (g ++ [']']), array [], ?_, .emptyArray hg, rfl, ?_⟩
      · rw [hcs, List.cons_append, List.append_assoc]
        rfl
      · exact Nat.succ_lt_succ (Nat.pos_of_ne_zero hd)
    · split at hread
      · exact absurd hread (by simp)
      · rename_i vs left hitems
        obtain ⟨left, hleft⟩ := left
        simp only [Except.ok.injEq, Prod.mk.injEq, Subtype.mk.injEq] at hread
        obtain ⟨hv, hrest⟩ := hread
        subst hv hrest
        obtain ⟨text, ws, hcs, hspells, hsorted, hdepth⟩ := items_spells h ⟨hleft, hitems⟩
        refine ⟨'[' :: (text ++ [']']), array ws, ?_, .array hspells, ?_, ?_⟩
        · rw [hcs, List.cons_append, List.append_assoc]
          rfl
        · rw [sorted, hsorted]
        · exact Nat.succ_lt_succ hdepth

theorem key_spells {k : String} (hread : Reads (key cs) k rest) :
    ∃ before text after, cs = before ++ (text ++ (after ++ ':' :: rest)) ∧ Gap before ∧
      Gap after ∧ SpellsString k text := by
  obtain ⟨hlt, hread⟩ := hread
  rw [key] at hread
  split at hread
  · exact absurd hread (by simp)
  · rename_i c back hback
    obtain ⟨before, hbefore, hcs⟩ := skipGap_eq_cons hback
    split at hread
    · rename_i hc
      split at hread
      · exact absurd hread (by simp)
      · rename_i k' left hstring
        split at hread
        · exact absurd hread (by simp)
        · rename_i c' back' hback'
          obtain ⟨after, hafter, hleft⟩ := skipGap_eq_cons hback'
          split at hread
          · rename_i hc'
            simp only [Except.ok.injEq, Prod.mk.injEq, Subtype.mk.injEq] at hread
            obtain ⟨hk, hrest⟩ := hread
            subst hk hrest hc hc'
            obtain ⟨text, htext, hspells⟩ := spellsString_of_stringTail hstring
            exact ⟨before, text, after, by rw [hcs, htext, hleft], hbefore, hafter, hspells⟩
          · exact absurd hread (by simp)
    · exact absurd hread (by simp)

theorem members_spells (h : Accepts element d) {ms : List (String × Json)}
    (hread : Reads (members element cs) ms rest) :
    ∃ text ws, cs = text ++ '\x7d' :: rest ∧ Spells (.members ws) text ∧ sortedMembers ws = ms ∧
      depthMembers ws < d := by
  induction hn : cs.length using Nat.strongRecOn generalizing cs ms with
  | ind n ih =>
    obtain ⟨hlt, hread⟩ := hread
    rw [members] at hread
    split at hread
    · exact absurd hread (by simp)
    · rename_i k mid hmid hkey
      obtain ⟨before, ks, after, hcs, hbefore, hafter, hks⟩ := key_spells ⟨hmid, hkey⟩
      split at hread
      · exact absurd hread (by simp)
      · rename_i v left hleft hv
        split at hread
        · exact absurd hread (by simp)
        · rename_i c back hback
          obtain ⟨text, w, hmid', hspells, hsorted, hdepth⟩ := h.spaced ⟨hleft, hv⟩ hback
          have hmember := Spells.member hbefore hafter hks hspells
          have hall : cs = before ++ (ks ++ (after ++ ':' :: text)) ++ c :: back := by
            rw [hcs, hmid']
            simp only [List.append_assoc, List.cons_append]
          simp only at hread
          split at hread
          · rename_i hc
            simp only [Except.ok.injEq, Prod.mk.injEq, Subtype.mk.injEq] at hread
            obtain ⟨hms, hrest⟩ := hread
            subst hms hrest hc
            refine ⟨_, [(k, w)], hall, .lastMember hmember, by rw [← hsorted]; rfl, ?_⟩
            exact Nat.max_lt.2 ⟨hdepth, Nat.lt_of_le_of_lt (Nat.zero_le _) hdepth⟩
          · split at hread
            · rename_i hc
              split at hread
              · exact absurd hread (by simp)
              · rename_i ws left' hleft' hmore
                simp only [Except.ok.injEq, Prod.mk.injEq, Subtype.mk.injEq] at hread
                obtain ⟨hms, hrest⟩ := hread
                subst hms hrest hc
                have hshorter : back.length < n := by
                  rw [← hn, hall, List.length_append, List.length_cons]
                  omega
                obtain ⟨text', ws', hback', hspells', hsorted', hdepth'⟩ :=
                  ih back.length hshorter ⟨hleft', hmore⟩ rfl
                refine ⟨_ ++ ',' :: text', (k, w) :: ws', ?_, .moreMembers hmember hspells',
                  ?_, ?_⟩
                · rw [hall, hback', List.append_assoc _ (',' :: text'), List.cons_append]
                · rw [sortedMembers, hsorted, hsorted']
                · exact Nat.max_lt.2 ⟨hdepth, hdepth'⟩
            · exact absurd hread (by simp)

theorem objectTail_spells (h : Accepts element d) (hd : d ≠ 0) {v : Json}
    (hread : Reads (objectTail element cs) v rest) :
    ∃ text w, '\x7b' :: cs = text ++ rest ∧ Spells (.value w) text ∧ w.sorted = v ∧
      w.depth < d + 1 := by
  obtain ⟨hlt, hread⟩ := hread
  rw [objectTail] at hread
  split at hread
  · exact absurd hread (by simp)
  · rename_i c back hback
    split at hread
    · rename_i hc
      simp only [Except.ok.injEq, Prod.mk.injEq, Subtype.mk.injEq] at hread
      obtain ⟨hv, hrest⟩ := hread
      subst hv hrest hc
      obtain ⟨g, hg, hcs⟩ := skipGap_eq_cons hback
      refine ⟨'\x7b' :: (g ++ ['\x7d']), object [], ?_, .emptyObject hg, rfl, ?_⟩
      · rw [hcs, List.cons_append, List.append_assoc]
        rfl
      · exact Nat.succ_lt_succ (Nat.pos_of_ne_zero hd)
    · split at hread
      · exact absurd hread (by simp)
      · rename_i ms left hmembers
        obtain ⟨left, hleft⟩ := left
        simp only [Except.ok.injEq, Prod.mk.injEq, Subtype.mk.injEq] at hread
        obtain ⟨hv, hrest⟩ := hread
        subst hv hrest
        obtain ⟨text, ws, hcs, hspells, hsorted, hdepth⟩ := members_spells h ⟨hleft, hmembers⟩
        refine ⟨'\x7b' :: (text ++ ['\x7d']), object ws, ?_, .object hspells, ?_, ?_⟩
        · rw [hcs, List.cons_append, List.append_assoc]
          rfl
        · rw [sorted, hsorted]
        · exact Nat.succ_lt_succ hdepth

theorem constant_spells {c : Char} {expected : List Char} {v : Json} (h : Constant c expected v) :
    Spells (.value v) (c :: expected) ∧ v.sorted = v ∧ v.depth = 0 := by
  cases h with
  | null => exact ⟨.null, rfl, rfl⟩
  | true => exact ⟨.true, rfl, rfl⟩
  | false => exact ⟨.false, rfl, rfl⟩

theorem word_eq_ok {expected left : List Char} (h : word expected cs = .ok left) :
    cs = expected ++ left := by
  fun_induction word expected cs with
  | case1 => exact Except.ok.inj h
  | case2 => exact absurd h (by simp)
  | case3 expected e cs ih => rw [ih h, List.cons_append]
  | case4 => exact absurd h (by simp)

theorem accepts_value (d : Nat) : Accepts (value d) d := by
  induction d with
  | zero =>
    intro cs v rest h
    obtain ⟨hlt, h⟩ := h
    exact absurd h (by simp [value])
  | succ d ih =>
    intro cs v rest hread
    obtain ⟨hlt, hread⟩ := hread
    -- Each kind of value gives the text from its first character on.
    have hbehind {c : Char} {tail : List Char} (hs : skipGap cs = c :: tail)
        (h : ∃ text w, c :: tail = text ++ rest ∧ Spells (.value w) text ∧ w.sorted = v ∧
          w.depth < d + 1) : ∃ g text w, Gap g ∧ cs = g ++ (text ++ rest) ∧
          Spells (.value w) text ∧ w.sorted = v ∧ w.depth < d + 1 := by
      obtain ⟨g, hg, hcs⟩ := skipGap_eq_cons hs
      obtain ⟨text, w, htext, h⟩ := h
      exact ⟨g, text, w, hg, by rw [hcs, htext], h⟩
    have hconstant {c : Char} {tail expected left : List Char} {w : Json}
        (hw : Constant c expected w) (hword : word expected tail = .ok left) (hv : w = v)
        (hrest : left = rest) : ∃ text w, c :: tail = text ++ rest ∧ Spells (.value w) text ∧
          w.sorted = v ∧ w.depth < d + 1 := by
      obtain ⟨hspells, hsorted, hdepth⟩ := constant_spells hw
      refine ⟨c :: expected, w, ?_, hspells, by rw [hsorted, hv], by rw [hdepth]; omega⟩
      rw [word_eq_ok hword, hrest, List.cons_append]
    rw [value] at hread
    split at hread
    · exact absurd hread (by simp)
    · rename_i c tail hs
      refine hbehind hs ?_
      simp only at hread
      split at hread
      · rename_i hc
        split at hread
        · exact absurd hread (by simp)
        · rename_i s left hstring
          simp only [Except.ok.injEq, Prod.mk.injEq, Subtype.mk.injEq] at hread
          obtain ⟨hv, hrest⟩ := hread
          subst hv hrest hc
          obtain ⟨text, htext, hspells⟩ := spellsString_of_stringTail hstring
          exact ⟨text, string s, htext, .string hspells, rfl, Nat.succ_pos d⟩
      · split at hread
        · rename_i hc
          split at hread
          · exact absurd hread (by simp)
          · rename_i hd
            subst hc
            exact arrayTail_spells ih hd (Reads.of_shift ⟨hlt, hread⟩)
        · split at hread
          · rename_i hc
            split at hread
            · exact absurd hread (by simp)
            · rename_i hd
              subst hc
              exact objectTail_spells ih hd (Reads.of_shift ⟨hlt, hread⟩)
          · split at hread
            · rename_i hc
              split at hread
              · exact absurd hread (by simp)
              · rename_i left hword
                simp only [Except.ok.injEq, Prod.mk.injEq, Subtype.mk.injEq] at hread
                subst hc
                exact hconstant .null hword hread.1 hread.2
            · split at hread
              · rename_i hc
                split at hread
                · exact absurd hread (by simp)
                · rename_i left hword
                  simp only [Except.ok.injEq, Prod.mk.injEq, Subtype.mk.injEq] at hread
                  subst hc
                  exact hconstant .true hword hread.1 hread.2
              · split at hread
                · rename_i hc
                  split at hread
                  · exact absurd hread (by simp)
                  · rename_i left hword
                    simp only [Except.ok.injEq, Prod.mk.injEq, Subtype.mk.injEq] at hread
                    subst hc
                    exact hconstant .false hword hread.1 hread.2
                · split at hread
                  · rename_i hc
                    split at hread
                    · exact absurd hread (by simp)
                    · rename_i n left hn
                      simp only [Except.ok.injEq, Prod.mk.injEq, Subtype.mk.injEq] at hread
                      obtain ⟨hv, hrest⟩ := hread
                      subst hv hrest
                      obtain ⟨front, htext, -, hfront⟩ := Numeral.takes_read hn
                      have hspells := Numeral.spells_of_read hfront
                      exact ⟨front, number n, htext, hspells, rfl, Nat.succ_pos d⟩
                  · exact absurd hread (by simp)

end

/-! ## White space at the end -/

/-- The last character is not white space. -/
def Closes (text : List Char) : Prop := ∃ front c, text = front ++ [c] ∧ isGap c = false

theorem closes_of_read {n : Number} {text : List Char} (h : Numeral.read text = .ok (n, [])) :
    Closes text := by
  obtain ⟨front, htext, hgap, hread⟩ := Numeral.takes_read h
  rw [List.append_nil] at htext
  obtain ⟨c, tail, hfront, -⟩ := Numeral.exists_of_read hread
  have hne : front ≠ [] := by
    rw [hfront]
    exact List.cons_ne_nil c tail
  refine ⟨front.dropLast, front.getLast hne, ?_, hgap _ (List.getLast_mem hne)⟩
  rw [htext, List.dropLast_concat_getLast]

theorem closes_of_spells {v : Json} {text : List Char} (h : Spells (.value v) text) :
    Closes text := by
  cases h with
  | null => exact ⟨['n', 'u', 'l'], 'l', rfl, by decide⟩
  | true => exact ⟨['t', 'r', 'u'], 'e', rfl, by decide⟩
  | false => exact ⟨['f', 'a', 'l', 's'], 'e', rfl, by decide⟩
  | natural n => exact closes_of_read (Numeral.read_natural n)
  | negative h => exact closes_of_read (Numeral.read_negative h)
  | real h => exact closes_of_read h
  | string h =>
    obtain ⟨ds, -, rfl⟩ := h
    exact ⟨'"' :: ds, '"', rfl, by decide⟩
  | emptyArray hg => exact ⟨'[' :: _, ']', rfl, by decide⟩
  | array h => exact ⟨'[' :: _, ']', rfl, by decide⟩
  | emptyObject hg => exact ⟨'\x7b' :: _, '\x7d', rfl, by decide⟩
  | object h => exact ⟨'\x7b' :: _, '\x7d', rfl, by decide⟩

theorem spells_concat_gap {v : Json} {text : List Char} {c : Char} (hc : isGap c = true) :
    Spells (.spaced v) (text ++ [c]) ↔ Spells (.spaced v) text := by
  constructor
  · intro h
    generalize hall : text ++ [c] = whole at h
    cases h with
    | @spaced _ before cs after hb ha h =>
      obtain hnil | ⟨after', d, hlast⟩ := List.eq_nil_or_concat after
      · -- The value would end with the white space.
        obtain ⟨front, d, hcs, hd⟩ := closes_of_spells h
        rw [hnil, List.append_nil, hcs, ← List.append_assoc] at hall
        have hsame := (List.append_inj' hall rfl).2
        injection hsame with hsame
        rw [hsame, hd] at hc
        exact absurd hc (by decide)
      · rw [hlast, List.concat_eq_append, ← List.append_assoc, ← List.append_assoc] at hall
        have hfront := (List.append_inj' hall rfl).1
        rw [hfront, List.append_assoc]
        refine .spaced hb (fun e he => ha e ?_) h
        rw [hlast, List.concat_eq_append]
        exact List.mem_append_left _ he
  · intro h
    generalize hp : Phrase.spaced v = p at h
    cases h with
    | @spaced _ before cs after hb ha h =>
      injection hp with hv
      subst hv
      rw [List.append_assoc, List.append_assoc]
      refine .spaced hb (fun e he => ?_) h
      cases List.mem_append.1 he with
      | inl he => exact ha e he
      | inr he =>
        rw [List.mem_singleton.1 he]
        exact hc
    | _ => exact absurd hp (by simp)

/-- A text is read exactly if it is the text of a value that is not nested too deeply. -/
theorem parse_eq_ok_iff {text : String} {v : Json} :
    parse text = .ok v ↔
      ∃ w, Spells (.spaced w) text.toList ∧ w.depth < depthLimit ∧ w.sorted = v := by
  constructor
  · intro h
    rw [parse] at h
    split at h
    · exact absurd h (by simp)
    · rename_i v' rest hrest hread
      split at h
      · rename_i hempty
        injection h with hv
        subst hv
        obtain ⟨g, front, w, hg, hcs, hspells, hsorted, hdepth⟩ :=
          accepts_value depthLimit _ _ _ ⟨hrest, hread⟩
        have hgap : Gap rest := by
          rw [List.isEmpty_iff, skipGap, List.dropWhile_eq_nil_iff] at hempty
          exact hempty
        exact ⟨w, hcs ▸ .spaced hg hgap hspells, hdepth, hsorted⟩
      · exact absurd h (by simp)
  · intro h
    obtain ⟨w, hspells, hdepth, hsorted⟩ := h
    rw [← hsorted]
    exact parse_of_spells hspells hdepth

/-- White space behind a text plays no part in what is read. -/
theorem parse_push_gap {text : String} {v : Json} {c : Char} (hc : isGap c = true) :
    parse (text.push c) = .ok v ↔ parse text = .ok v := by
  have htext : (text.push c).toList = text.toList ++ [c] := String.toList_push c
  rw [parse_eq_ok_iff, parse_eq_ok_iff, htext]
  constructor
  · intro h
    obtain ⟨w, hspells, h⟩ := h
    exact ⟨w, (spells_concat_gap hc).1 hspells, h⟩
  · intro h
    obtain ⟨w, hspells, h⟩ := h
    exact ⟨w, (spells_concat_gap hc).2 hspells, h⟩

end Json
end TickStream
