import TickStream.Proofs.Scan.LineSplit
/-
The limit on lines.  Main statement: whatever callers have done with a scanner over bytes that no
failure follows, an advance calls a line too long exactly if it comes to one that holds more bytes
than the limit, or just as many with a carriage return and a newline behind them.

In the second case the byte that is one too many is the carriage return, which is no part of what
the line holds.
-/
namespace TickStream

open Step

namespace LineScanner

variable {c : Codec} {bs raw content run rest front : Bytes} {runs : List Bytes}
  {n number offset most : Nat} {line : PlacedLine} {left : List PlacedLine} {text : String}
  {s t : LineScanner} {source : Source} {result : EStateM.Result Error LineScanner Bool}

/-! ## Lines over the limit -/

/-- A carriage return and a newline end the line. -/
def PlacedLine.EndsInPair (line : PlacedLine) (bs : Bytes) : Prop :=
  [carriageReturn, newline] <+: bs.drop (line.offset + line.content.length)

/-- The line is over the limit if a carriage return at its end is counted. -/
def PlacedLine.Overlong (line : PlacedLine) (bs : Bytes) : Prop :=
  limit < line.content.length ∨ line.content.length = limit ∧ line.EndsInPair bs

/-- An advance that has the lines `left` of `bs` in front of it reads this one: the lines before it
are passed over. -/
inductive Reads (bs : Bytes) : List PlacedLine → PlacedLine → Prop where
  | here {line : PlacedLine} {left : List PlacedLine} : Reads bs (line :: left) line
  | past {line other : PlacedLine} {left : List PlacedLine} (hblank : other.isShown = false)
      (hfits : ¬ other.Overlong bs) (h : Reads bs left line) : Reads bs (other :: left) line

theorem drop_behind (front content rest : Bytes) :
    (front ++ (content ++ rest)).drop (front.length + content.length) = rest := by
  rw [← List.append_assoc, ← List.length_append, List.drop_left]

/-- What counts is what stands in front of the newline. -/
theorem overlong_of_closed :
    (⟨dropLast carriageReturn run, number, front.length⟩ : PlacedLine).Overlong
      (front ++ (run ++ newline :: rest)) ↔ limit < run.length := by
  rw [PlacedLine.Overlong, PlacedLine.EndsInPair]
  simp only
  by_cases hlast : run.getLast? = some carriageReturn
  · obtain ⟨content, rfl⟩ := List.getLast?_eq_some_iff.1 hlast
    have hpair : [carriageReturn, newline] <+: carriageReturn :: newline :: rest := ⟨rest, rfl⟩
    rw [dropLast, if_pos hlast, List.dropLast_concat, List.append_assoc, drop_behind,
      List.length_append, List.length_singleton]
    simp only [List.singleton_append, hpair, and_true]
    omega
  · have hpair : ¬ [carriageReturn, newline] <+: newline :: rest := by
      rw [List.cons_prefix_cons]
      exact fun h => absurd h.1 (by decide)
    rw [dropLast, if_neg hlast, drop_behind]
    simp only [hpair, and_false, or_false]

theorem overlong_of_last :
    (⟨content, number, front.length⟩ : PlacedLine).Overlong (front ++ content) ↔
      limit < content.length := by
  have hbehind : (front ++ content).drop (front.length + content.length) = [] := by
    rw [← List.length_append, List.drop_length]
  have hpair : ¬ [carriageReturn, newline] <+: ([] : Bytes) := by
    rw [List.prefix_nil]
    exact List.cons_ne_nil _ _
  rw [PlacedLine.Overlong, PlacedLine.EndsInPair]
  simp only [hbehind, hpair, and_false, or_false]

/-! ## One advance -/

/-- The scanner goes on in front of some of the lines of `bs`, behind the others. -/
structure Between (s : LineScanner) (c : Codec) (bs : Bytes) : Prop where
  faces : ∃ front runs, bs = front ++ [newline].intercalate runs ∧
    s.Awaits c none s.lines front.length ([newline].intercalate runs) ∧
    (∀ run ∈ runs, newline ∉ run) ∧
    (linesOf bs).drop s.lines = linesFrom s.lines front.length runs

/-- What an advance makes of the lines that are left of `bs`. -/
inductive Comes (c : Codec) (bs : Bytes) :
    List PlacedLine → EStateM.Result Error LineScanner Bool → Prop where
  | ended {t : LineScanner} (behind : (linesOf bs).drop t.lines = []) : Comes c bs [] (.ok false t)
  | passed {line : PlacedLine} {left : List PlacedLine}
      {result : EStateM.Result Error LineScanner Bool} (hblank : line.isShown = false)
      (hfits : ¬ line.Overlong bs) (more : Comes c bs left result) : Comes c bs (line :: left) result
  | tooLong {line : PlacedLine} {left : List PlacedLine} {t : LineScanner}
      (hlong : line.Overlong bs) : Comes c bs (line :: left) (.error (.lineTooLong line.number limit) t)
  | notText {line : PlacedLine} {left : List PlacedLine} {t : LineScanner}
      (hshown : line.isShown = true) (hfits : ¬ line.Overlong bs)
      (htext : Bytes.toString? line.content = none) :
      Comes c bs (line :: left) (.error (.badUtf8 "JSON line" line.offset) t)
  | text {line : PlacedLine} {left : List PlacedLine} {text : String} {t : LineScanner}
      (hshown : line.isShown = true) (hfits : ¬ line.Overlong bs)
      (htext : Bytes.toString? line.content = some text) (current : t.current = text)
      (lines : t.lines = line.number) (between : t.Between c bs) :
      Comes c bs (line :: left) (.ok true t)

/-- A line at the front that fits is shown, reported as no text, or passed over. -/
theorem comes_of_line (hs : s.Awaits c none n offset (raw ++ rest))
    (hline : Line none raw content rest) (hfits : ¬ (⟨content, n + 1, offset⟩ : PlacedLine).Overlong bs)
    (hbetween : ∀ {t : LineScanner},
      t.Awaits c none (n + 1) (offset + raw.length) rest → t.Between c bs)
    (hnext : ∀ {t : LineScanner},
      t.Awaits c none (n + 1) (offset + raw.length) rest → Comes c bs left (EStateM.run nextLine t)) :
    Comes c bs (⟨content, n + 1, offset⟩ :: left) (EStateM.run nextLine s) := by
  cases hblank : content.all isBlank with
  | true =>
    obtain ⟨t, hr, ht, -⟩ := nextLine_of_blank hs hline hblank
    rw [hr]
    exact .passed (by simp [PlacedLine.isShown, hblank]) hfits (hnext ht)
  | false =>
    have hshown : (⟨content, n + 1, offset⟩ : PlacedLine).isShown = true := by
      simp [PlacedLine.isShown, hblank]
    cases htext : Bytes.toString? content with
    | none =>
      obtain ⟨t, hr, -⟩ := nextLine_of_notText hs hline hblank htext
      rw [hr]
      exact .notText hshown hfits htext
    | some text =>
      obtain ⟨t, hr, ht, hcurrent, -⟩ := nextLine_of_text hs hline hblank htext
      rw [hr]
      exact .text hshown hfits htext hcurrent ht.lines (hbetween ht)

theorem comes_of_tooLong (hs : s.Awaits c none n offset (raw ++ rest)) (hraw : newline ∉ raw)
    (hlimit : limit < raw.length)
    (hlong : (⟨content, n + 1, offset⟩ : PlacedLine).Overlong bs) :
    Comes c bs (⟨content, n + 1, offset⟩ :: left) (EStateM.run nextLine s) := by
  obtain ⟨t, hr⟩ := readLine_tooLong hs hraw hlimit
  rw [nextLine_error hs.phase hr]
  exact .tooLong hlong

theorem Awaits.between (hs : s.Awaits c none n front.length ([newline].intercalate runs))
    (hbs : bs = front ++ [newline].intercalate runs) (hwhole : ∀ run ∈ runs, newline ∉ run)
    (hleft : (linesOf bs).drop n = linesFrom n front.length runs) : s.Between c bs := by
  have hn := hs.lines
  subst hn
  exact ⟨front, runs, hbs, hs, hwhole, hleft⟩

theorem drop_succ_of_drop {α : Type} {as left : List α} {a : α} (h : as.drop n = a :: left) :
    as.drop (n + 1) = left := by
  rw [← List.drop_drop, h, List.drop_succ_cons, List.drop_zero]

theorem comes_of_nothing (hs : s.Awaits c none n offset []) (hleft : (linesOf bs).drop n = []) :
    Comes c bs [] (EStateM.run nextLine s) := by
  obtain ⟨t, hr, -, -, hlines, -⟩ := nextLine_of_nothing hs
  rw [hr]
  exact .ended (by rw [hlines, hleft])

theorem Awaits.comes (hs : s.Awaits c none n front.length ([newline].intercalate runs))
    (hbs : bs = front ++ [newline].intercalate runs) (hwhole : ∀ run ∈ runs, newline ∉ run)
    (hleft : (linesOf bs).drop n = linesFrom n front.length runs) :
    Comes c bs (linesFrom n front.length runs) (EStateM.run nextLine s) := by
  -- Blank lines do not end an advance, so the induction is on all lines that are left.
  induction runs generalizing n front s with
  | nil => exact comes_of_nothing hs hleft
  | cons run runs ih =>
    obtain ⟨hrun, hmore⟩ := List.forall_mem_cons.1 hwhole
    cases runs with
    | nil =>
      have hbytes : [newline].intercalate [run] = run ++ [] := by simp
      rw [hbytes] at hs hbs
      rw [linesFrom] at hleft ⊢
      by_cases hnil : run = []
      · rw [if_pos hnil] at hleft ⊢
        subst hnil
        exact comes_of_nothing hs hleft
      rw [if_neg hnil] at hleft ⊢
      have hlong : (⟨run, n + 1, front.length⟩ : PlacedLine).Overlong bs ↔ limit < run.length := by
        rw [hbs, List.append_nil]
        exact overlong_of_last
      by_cases hlimit : limit < run.length
      · exact comes_of_tooLong hs hrun hlimit (hlong.2 hlimit)
      have hafter : (linesOf bs).drop (n + 1) = linesFrom (n + 1) (front ++ run).length [] :=
        drop_succ_of_drop hleft
      have hfront : (front ++ run).length = front.length + run.length := List.length_append
      have hfits : ¬ (⟨run, n + 1, front.length⟩ : PlacedLine).Overlong bs := mt hlong.1 hlimit
      rw [List.append_nil] at hbs
      refine comes_of_line hs (.last hnil rfl hrun (Nat.le_of_not_lt hlimit)) hfits
        (fun ht => ?_) fun ht => comes_of_nothing ht hafter
      rw [← hfront] at ht
      exact ht.between (by rw [hbs, List.intercalate_nil, List.append_nil]) hmore hafter
    | cons next runs =>
      have hbytes : [newline].intercalate (run :: next :: runs) =
          run ++ newline :: [newline].intercalate (next :: runs) := by
        rw [List.intercalate_cons_cons, List.append_assoc, List.singleton_append]
      rw [hbytes] at hs hbs
      rw [linesFrom] at hleft ⊢
      have hlong : (⟨dropLast carriageReturn run, n + 1, front.length⟩ : PlacedLine).Overlong bs ↔
          limit < run.length := by
        rw [hbs]
        exact overlong_of_closed
      by_cases hlimit : limit < run.length
      · exact comes_of_tooLong hs hrun hlimit (hlong.2 hlimit)
      -- The newline behind the run belongs to what stands in front of the others.
      have hfront : (front ++ (run ++ [newline])).length = front.length + (run.length + 1) := by
        rw [List.length_append, List.length_append, List.length_singleton]
      have hsplit : run ++ newline :: [newline].intercalate (next :: runs) =
          (run ++ [newline]) ++ [newline].intercalate (next :: runs) :=
        List.append_cons run newline _
      rw [hsplit] at hs hbs
      rw [← hfront] at hleft ⊢
      have hbs' : bs = front ++ (run ++ [newline]) ++ [newline].intercalate (next :: runs) :=
        hbs.trans (List.append_assoc front _ _).symm
      have hafter := drop_succ_of_drop hleft
      have hfits : ¬ (⟨dropLast carriageReturn run, n + 1, front.length⟩ : PlacedLine).Overlong bs :=
        mt hlong.1 hlimit
      have hoffset : front.length + (run ++ [newline]).length =
          (front ++ (run ++ [newline])).length := List.length_append.symm
      refine comes_of_line hs (.closed hrun (Nat.le_of_not_lt hlimit)) hfits
        (fun ht => ?_) fun ht => ?_
      · rw [hoffset] at ht
        exact ht.between hbs' hmore hafter
      · rw [hoffset] at ht
        exact ih ht hbs' hmore hafter

theorem Between.comes (hs : s.Between c bs) :
    Comes c bs ((linesOf bs).drop s.lines) (EStateM.run nextLine s) := by
  obtain ⟨front, runs, hbs, hawaits, hwhole, hleft⟩ := hs
  rw [hleft]
  exact hawaits.comes hbs hwhole hleft

/-! ## The line that an advance reads -/

theorem number_of_getElem? {i : Nat} (h : (linesFrom n offset runs)[i]? = some line) :
    line.number = n + (i + 1) := by
  induction n, offset, runs using linesFrom.induct generalizing i with
  | case1 n offset => simp [linesFrom] at h
  | case2 n offset => simp [linesFrom] at h
  | case3 n offset tail htail =>
    rw [linesFrom, if_neg htail] at h
    obtain ⟨rfl, rfl⟩ : i = 0 ∧ ⟨tail, n + 1, offset⟩ = line := by
      simpa [List.getElem?_singleton] using h
    rfl
  | case4 n offset run next runs ih =>
    rw [linesFrom] at h
    cases i with
    | zero =>
      have hline : ⟨dropLast carriageReturn run, n + 1, offset⟩ = line := by simpa using h
      rw [← hline]
    | succ i =>
      rw [List.getElem?_cons_succ] at h
      rw [ih h]
      omega

/-- Lines are told apart by their numbers. -/
theorem eq_of_number_eq {other : PlacedLine} (hline : line ∈ linesOf bs)
    (hother : other ∈ linesOf bs) (h : line.number = other.number) : line = other := by
  obtain ⟨i, hi⟩ := List.mem_iff_getElem?.1 hline
  obtain ⟨j, hj⟩ := List.mem_iff_getElem?.1 hother
  have hnumber := number_of_getElem? hi
  have hnumber' := number_of_getElem? hj
  obtain rfl : i = j := by omega
  rw [hi] at hj
  exact Option.some.inj hj

theorem Reads.mem (h : Reads bs left line) : line ∈ left := by
  induction h with
  | here => exact List.mem_cons_self
  | past _ _ _ ih => exact List.mem_cons_of_mem _ ih

/-- What an advance comes to is decided by the lines that it reads. -/
theorem Comes.of_reads (h : Comes c bs left result) (hread : Reads bs left line) :
    ∃ behind, Comes c bs (line :: behind) result := by
  induction hread with
  | @here line left => exact ⟨left, h⟩
  | @past line other left hblank hfits _ ih =>
    cases h with
    | passed _ _ more => exact ih more
    | tooLong hlong => exact absurd hlong hfits
    | notText hshown => simp [hblank] at hshown
    | text hshown => simp [hblank] at hshown

theorem Comes.exists_overlong (h : Comes c bs left (.error (.lineTooLong number most) t)) :
    most = limit ∧ ∃ line, Reads bs left line ∧ line.number = number ∧ line.Overlong bs := by
  generalize hresult : EStateM.Result.error (Error.lineTooLong number most) t = result at h
  induction h with
  | ended => cases hresult
  | passed hblank hfits _ ih =>
    obtain ⟨hmost, line, hread, hline⟩ := ih hresult
    exact ⟨hmost, line, .past hblank hfits hread, hline⟩
  | tooLong hlong =>
    cases hresult
    exact ⟨rfl, _, .here, rfl, hlong⟩
  | notText => cases hresult
  | text => cases hresult

theorem Comes.of_overlong {behind : List PlacedLine} (h : Comes c bs (line :: behind) result)
    (hlong : line.Overlong bs) : ∃ t, result = .error (.lineTooLong line.number limit) t := by
  cases h with
  | passed _ hfits => exact absurd hlong hfits
  | tooLong => exact ⟨_, rfl⟩
  | notText _ hfits => exact absurd hlong hfits
  | text _ hfits => exact absurd hlong hfits

theorem Comes.tooLong_iff (h : Comes c bs left (EStateM.run nextLine s)) :
    (outcome nextLine s).1 = .error (.lineTooLong number most) ↔
      most = limit ∧ ∃ line, Reads bs left line ∧ line.number = number ∧ line.Overlong bs := by
  constructor
  · intro herror
    rw [run_of_outcome_error herror] at h
    exact h.exists_overlong
  · rintro ⟨rfl, line, hread, rfl, hlong⟩
    obtain ⟨behind, hcomes⟩ := h.of_reads hread
    obtain ⟨t, hr⟩ := hcomes.of_overlong hlong
    rw [outcome, hr]

/-- A line that is not blank and fits is shown, or is no text. -/
inductive Accepts (line : PlacedLine) : Except Error Bool × LineScanner → Prop where
  | text {text : String} {t : LineScanner} (htext : Bytes.toString? line.content = some text)
      (current : t.current = text) (lines : t.lines = line.number) : Accepts line (.ok true, t)
  | notText {t : LineScanner} (htext : Bytes.toString? line.content = none) :
      Accepts line (.error (.badUtf8 "JSON line" line.offset), t)

theorem Comes.of_fitting {behind : List PlacedLine}
    (h : Comes c bs (line :: behind) (EStateM.run nextLine s)) (hshown : line.isShown = true)
    (hfits : ¬ line.Overlong bs) : Accepts line (outcome nextLine s) := by
  rw [outcome]
  generalize EStateM.run nextLine s = result at h
  cases h with
  | passed hblank => simp [hshown] at hblank
  | tooLong hlong => exact absurd hlong hfits
  | notText _ _ htext => exact .notText htext
  | text _ _ htext current lines => exact .text htext current lines

theorem Comes.between (h : Comes c bs left (.ok true t)) : t.Between c bs := by
  generalize hresult : EStateM.Result.ok true t = result at h
  induction h with
  | ended => cases hresult
  | passed _ _ _ ih => exact ih hresult
  | tooLong => cases hresult
  | notText => cases hresult
  | text _ _ _ _ _ between =>
    cases hresult
    exact between

theorem Comes.behind (h : Comes c bs left (.ok false t)) : (linesOf bs).drop t.lines = [] := by
  generalize hresult : EStateM.Result.ok false t = result at h
  induction h with
  | ended behind =>
    cases hresult
    exact behind
  | passed _ _ _ ih => exact ih hresult
  | tooLong => cases hresult
  | notText => cases hresult
  | text => cases hresult

/-! ## Whatever callers do -/

/-- Unless it has failed, the scanner is in front of lines of `bs`, or behind them all. -/
structure Placed (c : Codec) (bs : Bytes) (s : LineScanner) : Prop where
  stands : s.Stands
  between : s.phase = .streaming → s.Between c bs
  behind : s.phase = .finished → (linesOf bs).drop s.lines = []

theorem Placed.fail (s : LineScanner) : Placed c bs { s with phase := .failed, current := "" } :=
  ⟨.fail s, nofun, nofun⟩

theorem Placed.comes (hs : Placed c bs s) (hfailed : s.phase ≠ .failed) :
    Comes c bs ((linesOf bs).drop s.lines) (EStateM.run nextLine s) := by
  cases hphase : s.phase with
  | fresh => exact absurd hphase hs.stands.phase
  | failed => exact absurd hphase hfailed
  | streaming => exact (hs.between hphase).comes
  | finished =>
    rw [run_nextLine_finished hphase, hs.behind hphase]
    exact .ended (hs.behind hphase)

theorem Placed.advances (hs : Placed c bs s) : Scan.Advances (Placed c bs) s := by
  have hstands := hs.stands.advances
  by_cases hfailed : s.phase = .failed
  · have hrun := nextLine_failed hfailed
    exact ensures_of_error hrun ⟨hs, (hstands.of_error hrun).2⟩
  have hcomes := hs.comes hfailed
  cases hr : EStateM.run nextLine s with
  | error e t =>
    obtain ⟨ht, hturned⟩ := hstands.of_error hr
    have hphase : t.phase = .failed := hturned.phase
    refine ensures_of_error hr ⟨⟨ht, fun h => ?_, fun h => ?_⟩, hturned⟩
    · exact absurd (hphase.symm.trans h) nofun
    · exact absurd (hphase.symm.trans h) nofun
  | ok more t =>
    rw [hr] at hcomes
    obtain ⟨ht, hturned⟩ := hstands.of_ok hr
    refine ensures_of_ok hr ⟨?_, hturned⟩
    cases more with
    | true =>
      have hphase : t.phase = .streaming := hturned.phase
      exact ⟨ht, fun _ => hcomes.between, fun h => absurd (hphase.symm.trans h) nofun⟩
    | false =>
      have hphase : t.phase = .finished := hturned.phase
      exact ⟨ht, fun h => absurd (hphase.symm.trans h) nofun, fun _ => hcomes.behind⟩

theorem lawful_placed (c : Codec) (bs : Bytes) : Scan.Lawful (Placed c bs) answer turns :=
  lawful_of (fun _ hs => hs.advances) (fun s _ => .fail s) fun _ hs => hs.stands

theorem placed_ofSource (hs : source.Delivers bs) (c : Codec) : Placed c bs (ofSource source c) := by
  have hawaits : (ofSource source c).Awaits c none 0 ([] : Bytes).length
      ([newline].intercalate (bs.splitOn newline)) := awaits_ofSource hs c
  refine ⟨⟨nofun, fun _ => rfl⟩, fun _ => ?_, nofun⟩
  exact hawaits.between (by rw [List.nil_append, List.intercalate_splitOn])
    (fun _ => not_mem_of_mem_splitOn) rfl

theorem after_placed (hs : source.Delivers bs) (c : Codec) (ops : List Operation) :
    Placed c bs (Scan.after answer ops (ofSource source c)) :=
  ((lawful_placed c bs).run (placed_ofSource hs c) ops).1

/-- An advance calls a line too long exactly if it comes to one that is over the limit together
with a carriage return in front of its newline.  It thus counts what a line holds, and nothing
else, unless that is just the limit and a carriage return follows. -/
theorem nextLine_tooLong_iff (hs : source.Delivers bs) (c : Codec) (ops : List Operation) :
    let s := Scan.after answer ops (ofSource source c)
    let left := (linesOf bs).drop s.lines
    let result := outcome nextLine s
    (s.isFailed = true → result.1 = .error .scannerFailed) ∧
    (s.isFailed = false →
      (∀ number most, result.1 = .error (.lineTooLong number most) ↔
        most = limit ∧ ∃ line, Reads bs left line ∧ line.number = number ∧ line.Overlong bs) ∧
      ∀ line, Reads bs left line →
        ((result.1 = .error (.lineTooLong line.number limit) ↔ limit < line.content.length) ↔
          ¬ (line.content.length = limit ∧ line.EndsInPair bs)) ∧
        (line.isShown = true → ¬ line.Overlong bs → Accepts line result)) := by
  intro s left result
  have hplaced : Placed c bs s := after_placed hs c ops
  constructor
  · intro hfailed
    have hphase : s.phase = .failed := by simpa [isFailed] using hfailed
    show (outcome nextLine s).1 = _
    rw [outcome, nextLine_failed hphase]
  · intro hfailed
    have hphase : s.phase ≠ .failed := by simpa [isFailed] using hfailed
    have hcomes := hplaced.comes hphase
    refine ⟨fun _ _ => hcomes.tooLong_iff, fun line hread => ⟨?_, ?_⟩⟩
    · have hlong : result.1 = .error (.lineTooLong line.number limit) ↔ line.Overlong bs := by
        refine hcomes.tooLong_iff.trans ⟨?_, fun hlong => ⟨rfl, line, hread, rfl, hlong⟩⟩
        rintro ⟨-, other, hother, hnumber, hlong⟩
        rwa [eq_of_number_eq (List.mem_of_mem_drop hread.mem) (List.mem_of_mem_drop hother.mem)
          hnumber.symm]
      rw [hlong, PlacedLine.Overlong]
      by_cases hpair : line.content.length = limit ∧ line.EndsInPair bs
      · simp [hpair]
      · simp only [hpair, or_false, not_false_eq_true]
    · intro hshown hfits
      obtain ⟨behind, hline⟩ := hcomes.of_reads hread
      exact hline.of_fitting hshown hfits

/-- As many bytes as the limit allows. -/
def full : Bytes := List.replicate limit 0x61

theorem length_full : full.length = limit := List.length_replicate

theorem newline_not_mem_full : newline ∉ full := by
  intro hmem
  exact absurd (List.eq_of_mem_replicate hmem) (by decide)

theorem dropLast_pair (content : Bytes) :
    dropLast carriageReturn (content ++ [carriageReturn]) = content := by
  rw [dropLast, if_pos List.getLast?_concat, List.dropLast_concat]

/-- A blank line, and behind it one that holds as much as the limit allows. -/
theorem nextLine_tooLong_iff_blank :
    let bs : Bytes := [newline].intercalate [[carriageReturn], full ++ [carriageReturn], []]
    let line : PlacedLine := ⟨full, 2, 2⟩
    let answer := (outcome nextLine (ofSource [.interrupted, .data bs] defaultCodec)).1
    Reads bs (linesOf bs) line ∧ answer = .error (.lineTooLong 2 limit) ∧
      ¬ (answer = .error (.lineTooLong 2 limit) ↔ limit < line.content.length) := by
  intro bs line answer
  have hs : Source.Delivers [.interrupted, .data bs] bs := ⟨List.append_nil bs, rfl⟩
  have hwhole : ∀ run ∈ [[carriageReturn], full ++ [carriageReturn], []], newline ∉ run := by
    simpa [carriageReturn, newline] using newline_not_mem_full
  have hlines : linesOf bs = [⟨[], 1, 0⟩, line] := by
    rw [linesOf, List.splitOn_intercalate newline hwhole (List.cons_ne_nil _ _), linesFrom,
      linesFrom, linesFrom, if_pos rfl, dropLast_pair]
    rfl
  have hfits : ¬ PlacedLine.Overlong ⟨[], 1, 0⟩ bs := by
    rintro (hless | ⟨hlimit, -⟩)
    · exact absurd hless (by decide)
    · exact absurd hlimit (by decide)
  have hread : Reads bs (linesOf bs) line := by
    rw [hlines]
    exact .past rfl hfits .here
  have hpair : line.EndsInPair bs := by
    have hbytes : bs = [carriageReturn, newline] ++ (full ++ [carriageReturn, newline]) := by
      simp [bs]
    have hbehind := drop_behind [carriageReturn, newline] full [carriageReturn, newline]
    rw [← hbytes] at hbehind
    exact ⟨[], hbehind.symm⟩
  obtain ⟨-, hgoes⟩ := nextLine_tooLong_iff hs defaultCodec []
  -- No call has been made before the advance, and no line is behind it.
  have hnone : (ofSource [.interrupted, .data bs] defaultCodec).lines = 0 := rfl
  simp only [Scan.after, hnone, List.drop_zero] at hgoes
  obtain ⟨htooLong, hread_iff⟩ := hgoes rfl
  refine ⟨hread, ?_, ?_⟩
  · exact (htooLong 2 limit).2 ⟨rfl, line, hread, rfl, .inr ⟨length_full, hpair⟩⟩
  · intro hiff
    exact (hread_iff line hread).1.1 hiff ⟨length_full, hpair⟩

/-- A line that holds no more than the limit is called too long. -/
theorem full_line_refused :
    let bs : Bytes := full ++ [carriageReturn, newline]
    linesOf bs = [⟨full, 1, 0⟩] ∧ ¬ limit < full.length ∧
      (outcome nextLine (ofSource [.data bs] defaultCodec)).1 = .error (.lineTooLong 1 limit) := by
  intro bs
  have hrun : newline ∉ full ++ [carriageReturn] := by
    simpa [carriageReturn, newline] using newline_not_mem_full
  have hbytes : bs = (full ++ [carriageReturn]) ++ [newline] := List.append_cons full _ _
  refine ⟨?_, Nat.not_lt_of_le (Nat.le_of_eq length_full), ?_⟩
  · have hwhole : ∀ run ∈ [full ++ [carriageReturn], []], newline ∉ run := by
      simpa using hrun
    have hsplit := List.splitOn_intercalate newline hwhole (List.cons_ne_nil _ _)
    have hcalate : [newline].intercalate [full ++ [carriageReturn], []] = bs := by simp [bs]
    rw [hcalate] at hsplit
    rw [linesOf, hsplit, linesFrom, linesFrom, if_pos rfl, dropLast_pair]
  · have hs : (ofSource [.data bs] defaultCodec).Awaits defaultCodec none 0 0
        ((full ++ [carriageReturn]) ++ [newline]) :=
      ⟨rfl, rfl, (List.append_nil bs).trans hbytes, rfl, rfl, rfl⟩
    have hlimit : limit < (full ++ [carriageReturn]).length := by
      rw [List.length_append, length_full]
      exact Nat.lt_succ_self limit
    obtain ⟨t, hr⟩ := readLine_tooLong hs hrun hlimit
    rw [outcome, nextLine_error rfl hr]

end LineScanner
end TickStream
