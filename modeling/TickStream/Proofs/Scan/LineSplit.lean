import Mathlib.Logic.Function.Iterate
import TickStream.Proofs.Scan.Discipline
import TickStream.Proofs.Scan.LineTexts
/-
Lines cut apart at newlines.  Main statement: over bytes that no failure follows, successive
advances of a scanner show the lines that are not blank as plain splitting gives them, in order,
up to the first one that is no text, and count them and all that they have gone through.
-/
namespace TickStream

open Step

namespace LineScanner

/-- A line where it stands in a stream. -/
structure PlacedLine where
  /-- What it holds, without what ends it. -/
  content : Bytes
  /-- Its number; the first line has number one. -/
  number : Nat
  /-- The position of its first byte. -/
  offset : Nat
  deriving DecidableEq, Repr

variable {c : Codec} {n offset k total : Nat} {bs run line content rest : Bytes}
  {runs : List Bytes} {text : String} {placed : PlacedLine} {more left : List PlacedLine}
  {s t : LineScanner} {source : Source}

/-! ## Splitting -/

/-- The lines of what stands between newlines, with `n` lines and `offset` bytes in front of
them.  Behind the last newline there is a line if there is anything, and it keeps a carriage
return. -/
def linesFrom (n offset : Nat) : List Bytes → List PlacedLine
  | [] => []
  | [tail] => if tail = [] then [] else [⟨tail, n + 1, offset⟩]
  | run :: next :: runs =>
    ⟨dropLast carriageReturn run, n + 1, offset⟩ ::
      linesFrom (n + 1) (offset + (run.length + 1)) (next :: runs)

def linesOf (bs : Bytes) : List PlacedLine := linesFrom 0 0 (bs.splitOn newline)

def PlacedLine.isShown (line : PlacedLine) : Bool := !line.content.all isBlank

def shownLines (bs : Bytes) : List PlacedLine := (linesOf bs).filter PlacedLine.isShown

theorem not_mem_of_mem_splitOn (h : run ∈ bs.splitOn newline) : newline ∉ run := by
  induction bs generalizing run with
  | nil =>
    rw [List.splitOn, List.splitOnP_nil, List.mem_singleton] at h
    rw [h]
    exact List.not_mem_nil
  | cons b bs ih =>
    rw [List.splitOn, List.splitOnP_cons_eq_if_modifyHead] at h
    by_cases hb : (b == newline) = true
    · rw [if_pos hb, List.mem_cons] at h
      obtain rfl | hrest := h
      · exact List.not_mem_nil
      · exact ih hrest
    · rw [if_neg hb] at h
      obtain ⟨first, rest, hsplit⟩ := List.exists_cons_of_ne_nil (List.splitOn_ne_nil newline bs)
      rw [hsplit] at ih
      rw [List.splitOn] at hsplit
      rw [hsplit, List.modifyHead_cons, List.mem_cons] at h
      obtain rfl | hrest := h
      · intro hmem
        obtain heq | hfirst := List.mem_cons.1 hmem
        · exact hb (beq_iff_eq.2 heq.symm)
        · exact ih List.mem_cons_self hfirst
      · exact ih (List.mem_cons_of_mem _ hrest)

/-- A carriage return is all that a run loses. -/
theorem exists_ending (run : Bytes) :
    ∃ ending, run = dropLast carriageReturn run ++ ending ∧
      (ending = [] ∨ ending = [carriageReturn]) := by
  rw [dropLast]
  by_cases hlast : run.getLast? = some carriageReturn
  · obtain ⟨front, rfl⟩ := List.getLast?_eq_some_iff.1 hlast
    rw [if_pos hlast, List.dropLast_concat]
    exact ⟨[carriageReturn], rfl, .inr rfl⟩
  · rw [if_neg hlast]
    exact ⟨[], (List.append_nil run).symm, .inl rfl⟩

/-- A line stands in the stream at its offset. -/
structure PlacedLine.StandsIn (line : PlacedLine) (bs front behind : Bytes) : Prop where
  split : bs = front ++ (line.content ++ behind)
  offset : front.length = line.offset
  number : front.count newline + 1 = line.number
  /-- The line starts with the stream or right after a newline. -/
  opened : front = [] ∨ front.getLast? = some newline
  whole : newline ∉ line.content
  /-- The line ends with the stream or right in front of a newline, or of a carriage return and
  a newline. -/
  closed : behind = [] ∨ (∃ rest, behind = newline :: rest) ∨
    ∃ rest, behind = carriageReturn :: newline :: rest

theorem exists_standsIn_of_mem {front : Bytes} (hwhole : ∀ run ∈ runs, newline ∉ run)
    (hfront : front = [] ∨ front.getLast? = some newline)
    (h : placed ∈ linesFrom (front.count newline) front.length runs) :
    ∃ before behind,
      placed.StandsIn (front ++ [newline].intercalate runs) before behind := by
  induction runs generalizing front with
  | nil => exact absurd h List.not_mem_nil
  | cons run runs ih =>
    obtain ⟨hrun, hmore⟩ := List.forall_mem_cons.1 hwhole
    cases runs with
    | nil =>
      rw [linesFrom] at h
      by_cases hnil : run = []
      · rw [if_pos hnil] at h
        exact absurd h List.not_mem_nil
      · rw [if_neg hnil, List.mem_singleton] at h
        subst h
        exact ⟨front, [], by simp, rfl, rfl, hfront, hrun, .inl rfl⟩
    | cons next runs =>
      rw [linesFrom, List.mem_cons] at h
      have hbytes : [newline].intercalate (run :: next :: runs) =
          run ++ newline :: [newline].intercalate (next :: runs) := by
        rw [List.intercalate_cons_cons, List.append_assoc, List.singleton_append]
      obtain rfl | h := h
      · obtain ⟨ending, hsplit, hending⟩ := exists_ending run
        refine ⟨front, ending ++ newline :: [newline].intercalate (next :: runs), ?_, rfl, rfl,
          hfront, fun hmem => hrun (mem_dropLast hmem), ?_⟩
        · rw [hbytes, ← List.append_assoc (dropLast carriageReturn run), ← hsplit]
        · obtain rfl | rfl := hending
          · exact .inr (.inl ⟨_, rfl⟩)
          · exact .inr (.inr ⟨_, rfl⟩)
      · -- The newline behind the run belongs to what stands in front of the others.
        have hcount : (front ++ (run ++ [newline])).count newline = front.count newline + 1 := by
          rw [List.count_append, List.count_append, List.count_eq_zero_of_not_mem hrun,
            List.count_singleton_self, Nat.zero_add]
        have hlength :
            (front ++ (run ++ [newline])).length = front.length + (run.length + 1) := by
          rw [List.length_append, List.length_append, List.length_singleton]
        rw [← hcount, ← hlength] at h
        have hlast : (front ++ (run ++ [newline])).getLast? = some newline := by
          rw [← List.append_assoc, List.getLast?_concat]
        obtain ⟨before, behind, hstands⟩ := ih hmore (.inr hlast) h
        refine ⟨before, behind, ?_⟩
        rw [hbytes]
        simpa using hstands

/-- Every line stands in the stream where it is said to. -/
theorem exists_standsIn (h : placed ∈ linesOf bs) :
    ∃ front behind, placed.StandsIn bs front behind := by
  have hopened : ([] : Bytes) = [] ∨ ([] : Bytes).getLast? = some newline := .inl rfl
  have hstands := exists_standsIn_of_mem (fun _ => not_mem_of_mem_splitOn) hopened h
  rwa [List.nil_append, List.intercalate_splitOn] at hstands

/-! ## One advance -/

/-- Of `total` lines those in `left` are still to be shown, and `k` have been. -/
structure Ahead (s : LineScanner) (c : Codec) (total k : Nat) (left : List PlacedLine) :
    Prop where
  records : s.records = k
  faces : ∃ n offset runs, s.Awaits c none n offset ([newline].intercalate runs) ∧
    (∀ run ∈ runs, newline ∉ run ∧ run.length ≤ limit) ∧
    (linesFrom n offset runs).filter PlacedLine.isShown = left ∧
    n + (linesFrom n offset runs).length = total

/-- What an advance makes of the lines that are left. -/
inductive Tells (c : Codec) (total k : Nat) :
    List PlacedLine → EStateM.Result Error LineScanner Bool → Prop where
  | ended {t : LineScanner} (phase : t.phase = .finished) (current : t.current = "")
      (lines : t.lines = total) (records : t.records = k) : Tells c total k [] (.ok false t)
  | text {line : PlacedLine} {left : List PlacedLine} {text : String} {t : LineScanner}
      (htext : Bytes.toString? line.content = some text) (current : t.current = text)
      (lines : t.lines = line.number) (ahead : t.Ahead c total (k + 1) left) :
    Tells c total k (line :: left) (.ok true t)
  | notText {line : PlacedLine} {left : List PlacedLine} {t : LineScanner}
      (htext : Bytes.toString? line.content = none) (current : t.current = "")
      (lines : t.lines = line.number) (records : t.records = k) :
    Tells c total k (line :: left) (.error (.badUtf8 "JSON line" line.offset) t)

/-- A line at the front is shown, reported or passed over. -/
theorem tells_of_line (hs : s.Awaits c none n offset (line ++ rest))
    (hline : Line none line content rest) (hk : s.records = k)
    (hahead : ∀ {j : Nat} {t : LineScanner},
      t.Awaits c none (n + 1) (offset + line.length) rest → t.records = j →
        t.Ahead c total j (more.filter PlacedLine.isShown))
    (hnext : ∀ {t : LineScanner},
      t.Awaits c none (n + 1) (offset + line.length) rest → t.records = k →
        Tells c total k (more.filter PlacedLine.isShown) (EStateM.run nextLine t)) :
    Tells c total k ((⟨content, n + 1, offset⟩ :: more).filter PlacedLine.isShown)
      (EStateM.run nextLine s) := by
  cases hblank : content.all isBlank with
  | true =>
    obtain ⟨t, hr, ht, hrecords⟩ := nextLine_of_blank hs hline hblank
    rw [List.filter_cons_of_neg (by simp [PlacedLine.isShown, hblank]), hr]
    exact hnext ht (hrecords.trans hk)
  | false =>
    rw [List.filter_cons_of_pos (by simp [PlacedLine.isShown, hblank])]
    cases htext : Bytes.toString? content with
    | none =>
      obtain ⟨t, hr, hcurrent, hlines, hrecords⟩ := nextLine_of_notText hs hline hblank htext
      rw [hr]
      exact .notText htext hcurrent hlines (hrecords.trans hk)
    | some text =>
      obtain ⟨t, hr, ht, hcurrent, hrecords⟩ := nextLine_of_text hs hline hblank htext
      rw [hr]
      exact .text htext hcurrent ht.lines (hahead ht (by rw [hrecords, hk]))

theorem tells_of_nothing (hs : s.Awaits c none total offset []) (hk : s.records = k) :
    Tells c total k [] (EStateM.run nextLine s) := by
  obtain ⟨t, hr, hphase, hcurrent, hlines, hrecords⟩ := nextLine_of_nothing hs
  rw [hr]
  exact .ended hphase hcurrent hlines (hrecords.trans hk)

theorem Awaits.ahead (hs : s.Awaits c none n offset ([newline].intercalate runs))
    (hfits : ∀ run ∈ runs, newline ∉ run ∧ run.length ≤ limit) (hk : s.records = k)
    (htotal : n + (linesFrom n offset runs).length = total) :
    s.Ahead c total k ((linesFrom n offset runs).filter PlacedLine.isShown) :=
  ⟨hk, n, offset, runs, hs, hfits, rfl, htotal⟩

theorem Awaits.tells (hs : s.Awaits c none n offset ([newline].intercalate runs))
    (hfits : ∀ run ∈ runs, newline ∉ run ∧ run.length ≤ limit) (hk : s.records = k)
    (htotal : n + (linesFrom n offset runs).length = total) :
    Tells c total k ((linesFrom n offset runs).filter PlacedLine.isShown)
      (EStateM.run nextLine s) := by
  -- Blank lines do not end an advance, so the induction is on all lines that are left.
  induction n, offset, runs using linesFrom.induct generalizing s with
  | case1 n offset =>
    subst htotal
    exact tells_of_nothing hs hk
  | case2 n offset =>
    subst htotal
    exact tells_of_nothing hs hk
  | case3 n offset tail htail =>
    obtain ⟨hwhole, hshort⟩ := hfits tail List.mem_cons_self
    rw [linesFrom, if_neg htail] at htotal ⊢
    have hbytes : [newline].intercalate [tail] = tail ++ [] := by simp
    rw [hbytes] at hs
    refine tells_of_line hs (.last htail rfl hwhole hshort) hk ?_ ?_
    · intro j t ht hj
      have hnone : ∀ run ∈ ([] : List Bytes), newline ∉ run ∧ run.length ≤ limit := nofun
      exact Awaits.ahead ht hnone hj htotal
    · intro t ht hj
      rw [List.filter_nil, ← htotal]
      exact tells_of_nothing ht hj
  | case4 n offset run next runs ih =>
    obtain ⟨⟨hwhole, hshort⟩, hmore⟩ := List.forall_mem_cons.1 hfits
    have hbytes : [newline].intercalate (run :: next :: runs) =
        (run ++ [newline]) ++ [newline].intercalate (next :: runs) := by
      rw [List.intercalate_cons_cons]
    have hlength : run.length + 1 = (run ++ [newline]).length := by
      rw [List.length_append, List.length_singleton]
    rw [hbytes] at hs
    rw [linesFrom, List.length_cons] at htotal
    rw [linesFrom]
    rw [hlength] at htotal ih ⊢
    refine tells_of_line hs (.closed hwhole hshort) hk ?_ ?_
    · intro j t ht hj
      exact ht.ahead hmore hj (by omega)
    · intro t ht hj
      exact ih ht hmore hj (by omega)

theorem Ahead.tells (hs : s.Ahead c total k left) :
    Tells c total k left (EStateM.run nextLine s) := by
  obtain ⟨hk, n, offset, runs, hawaits, hfits, rfl, htotal⟩ := hs
  exact hawaits.tells hfits hk htotal

theorem Ahead.outcome_text (hs : s.Ahead c total k (placed :: left))
    (htext : Bytes.toString? placed.content = some text) :
    (outcome nextLine s).1 = .ok true ∧ (outcome nextLine s).2.current = text ∧
      (outcome nextLine s).2.lines = placed.number ∧
      (outcome nextLine s).2.Ahead c total (k + 1) left := by
  have htells := hs.tells
  rw [outcome]
  cases hr : EStateM.run nextLine s with
  | error e t =>
    rw [hr] at htells
    cases htells with
    | notText hnone => simp [hnone] at htext
  | ok more t =>
    rw [hr] at htells
    cases htells with
    | text hsome hcurrent hlines hahead =>
      rw [htext] at hsome
      injection hsome with hsome
      exact ⟨rfl, hcurrent.trans hsome.symm, hlines, hahead⟩

theorem Ahead.outcome_notText (hs : s.Ahead c total k (placed :: left))
    (htext : Bytes.toString? placed.content = none) :
    (outcome nextLine s).1 = .error (.badUtf8 "JSON line" placed.offset) ∧
      (outcome nextLine s).2.current = "" ∧ (outcome nextLine s).2.lines = placed.number ∧
      (outcome nextLine s).2.records = k := by
  have htells := hs.tells
  rw [outcome]
  cases hr : EStateM.run nextLine s with
  | error e t =>
    rw [hr] at htells
    cases htells with
    | notText _ hcurrent hlines hrecords => exact ⟨rfl, hcurrent, hlines, hrecords⟩
  | ok more t =>
    rw [hr] at htells
    cases htells with
    | text hsome => simp [hsome] at htext

theorem Ahead.outcome_ended (hs : s.Ahead c total k []) :
    ∃ t, outcome nextLine s = (.ok false, t) ∧ t.phase = .finished ∧ t.current = "" ∧
      t.lines = total ∧ t.records = k := by
  have htells := hs.tells
  rw [outcome]
  cases hr : EStateM.run nextLine s with
  | error e t =>
    rw [hr] at htells
    cases htells
  | ok more t =>
    rw [hr] at htells
    cases htells with
    | ended hphase hcurrent hlines hrecords =>
      exact ⟨t, rfl, hphase, hcurrent, hlines, hrecords⟩

/-! ## All advances -/

def afterLine (s : LineScanner) : LineScanner := (outcome nextLine s).2

theorem awaits_ofSource (hs : source.Delivers bs) (c : Codec) :
    (ofSource source c).Awaits c none 0 0 ([newline].intercalate (bs.splitOn newline)) := by
  rw [List.intercalate_splitOn]
  exact ⟨rfl, rfl, hs.content, hs.failure, rfl, rfl⟩

theorem ahead_ofSource (hs : source.Delivers bs)
    (hshort : ∀ run ∈ bs.splitOn newline, run.length ≤ limit) (c : Codec) :
    (ofSource source c).Ahead c (linesOf bs).length 0 (shownLines bs) :=
  (awaits_ofSource hs c).ahead
    (fun run hrun => ⟨not_mem_of_mem_splitOn hrun, hshort run hrun⟩) rfl (Nat.zero_add _)

/-- As many advances as there are lines that are texts leave the others. -/
theorem Ahead.iterate (hs : s.Ahead c total k left) {j : Nat} (hj : j ≤ left.length)
    (htexts : ∀ line ∈ left.take j, (Bytes.toString? line.content).isSome) :
    (afterLine^[j] s).Ahead c total (k + j) (left.drop j) := by
  induction j generalizing s k left with
  | zero => exact hs
  | succ j ih =>
    cases left with
    | nil => exact absurd hj (Nat.not_succ_le_zero j)
    | cons line left =>
      rw [List.take_succ_cons] at htexts
      obtain ⟨htext, hmore⟩ := List.forall_mem_cons.1 htexts
      obtain ⟨text, htext⟩ := Option.isSome_iff_exists.1 htext
      obtain ⟨-, -, -, hahead⟩ := hs.outcome_text htext
      rw [Function.iterate_succ_apply, List.drop_succ_cons, Nat.add_comm j 1, ← Nat.add_assoc]
      exact ih hahead (Nat.le_of_succ_le_succ hj) hmore

/-- Behind the last line every further advance finds the end. -/
theorem Ahead.iterate_past (hs : s.Ahead c total k left) {j : Nat} (hj : left.length ≤ j)
    (htexts : ∀ line ∈ left, (Bytes.toString? line.content).isSome) :
    ∃ t, outcome nextLine (afterLine^[j] s) = (.ok false, t) ∧ t.current = "" ∧
      t.lines = total ∧ t.records = k + left.length := by
  -- `i` advances more, from a scanner that an advance no longer changes.
  obtain ⟨i, rfl⟩ := Nat.exists_eq_add_of_le' hj
  have hlast := hs.iterate (Nat.le_refl _) (by rwa [List.take_length])
  rw [List.drop_length] at hlast
  rw [Function.iterate_add_apply]
  obtain ⟨t, hend, hphase, hcurrent, hlines, hrecords⟩ := hlast.outcome_ended
  refine ⟨t, ?_, hcurrent, hlines, hrecords⟩
  have hagain : outcome nextLine t = (.ok false, t) := by
    rw [outcome, run_nextLine_finished hphase]
  have hfixed : afterLine t = t := congrArg Prod.snd hagain
  cases i with
  | zero => exact hend
  | succ i =>
    have hafter : afterLine (afterLine^[left.length] s) = t := congrArg Prod.snd hend
    rw [Function.iterate_succ_apply, hafter, Function.iterate_fixed hfixed]
    exact hagain

/-- Every advance shows the next line that is not blank, and those behind the last one find the
end.  A line that is no text is reported where it stands. -/
theorem nextLine_splits (hs : source.Delivers bs)
    (hshort : ∀ run ∈ bs.splitOn newline, run.length ≤ limit) (c : Codec)
    (htexts : ∀ line ∈ (shownLines bs).take k, (Bytes.toString? line.content).isSome) :
    let answer := outcome nextLine (afterLine^[k] (ofSource source c))
    (∀ line text, (shownLines bs)[k]? = some line → Bytes.toString? line.content = some text →
      answer.1 = .ok true ∧ answer.2.current = text ∧ answer.2.lines = line.number ∧
        answer.2.records = k + 1) ∧
    (∀ line, (shownLines bs)[k]? = some line → Bytes.toString? line.content = none →
      answer.1 = .error (.badUtf8 "JSON line" line.offset) ∧ answer.2.current = "" ∧
        answer.2.lines = line.number ∧ answer.2.records = k) ∧
    ((shownLines bs)[k]? = none →
      answer.1 = .ok false ∧ answer.2.current = "" ∧ answer.2.lines = (linesOf bs).length ∧
        answer.2.records = (shownLines bs).length) := by
  intro answer
  have hstart := ahead_ofSource hs hshort c
  have hnext {line : PlacedLine} (hline : (shownLines bs)[k]? = some line) :
      (afterLine^[k] (ofSource source c)).Ahead c (linesOf bs).length k
        (line :: (shownLines bs).drop (k + 1)) := by
    obtain ⟨hk, hget⟩ := List.getElem?_eq_some_iff.1 hline
    have hahead := hstart.iterate (Nat.le_of_lt hk) htexts
    rwa [Nat.zero_add, List.drop_eq_getElem_cons hk, hget] at hahead
  refine ⟨fun line text hline htext => ?_, fun line hline htext => ?_, fun hnone => ?_⟩
  · obtain ⟨hmore, hcurrent, hlines, hahead⟩ := (hnext hline).outcome_text htext
    exact ⟨hmore, hcurrent, hlines, hahead.records⟩
  · exact (hnext hline).outcome_notText htext
  · have hk := List.getElem?_eq_none_iff.1 hnone
    rw [List.take_of_length_le hk] at htexts
    obtain ⟨t, hend, hcurrent, hlines, hrecords⟩ := hstart.iterate_past hk htexts
    have hanswer : answer = (.ok false, t) := hend
    rw [hanswer]
    exact ⟨rfl, hcurrent, hlines, by rw [hrecords, Nat.zero_add]⟩

/-- Two lines behind which bytes stand that are no text; the second line follows two blank ones,
and the source is interrupted on the way. -/
theorem nextLine_splits_notText :
    let bs : Bytes := Bytes.ofString "one\r\n\n \t\r\ntwo\n" ++ [0xff, newline] ++
      Bytes.ofString "three"
    let source : Source := [.data (bs.take 4), .interrupted, .data (bs.drop 4)]
    let answer (k : Nat) := outcome nextLine (afterLine^[k] (ofSource source defaultCodec))
    (answer 1).1 = .ok true ∧ (answer 1).2.current = "two" ∧ (answer 1).2.lines = 4 ∧
      (answer 2).1 = .error (.badUtf8 "JSON line" 14) ∧ (answer 2).2.lines = 5 ∧
      (answer 2).2.records = 2 := by
  intro bs source answer
  have hs : source.Delivers bs := ⟨by decide +kernel, rfl⟩
  have hshort : ∀ run ∈ bs.splitOn newline, run.length ≤ limit := by decide +kernel
  have htexts : ∀ line ∈ (shownLines bs).take 2, (Bytes.toString? line.content).isSome := by
    decide +kernel
  have hshown : shownLines bs = [⟨Bytes.ofString "one", 1, 0⟩, ⟨Bytes.ofString "two", 4, 10⟩,
    ⟨[0xff], 5, 14⟩, ⟨Bytes.ofString "three", 6, 16⟩] := by decide +kernel
  obtain ⟨htext, -⟩ := nextLine_splits (k := 1) hs hshort defaultCodec fun line hline =>
    htexts line (List.take_subset_take_left _ (by decide) hline)
  obtain ⟨-, hnotText, -⟩ := nextLine_splits hs hshort defaultCodec htexts
  obtain ⟨hmore, hcurrent, hlines, -⟩ := htext _ "two" (by rw [hshown]; rfl) (by decide +kernel)
  obtain ⟨herror, -, hcount, hrecords⟩ := hnotText _ (by rw [hshown]; rfl) (by decide +kernel)
  exact ⟨hmore, hcurrent, hlines, herror, hcount, hrecords⟩

end LineScanner
end TickStream
