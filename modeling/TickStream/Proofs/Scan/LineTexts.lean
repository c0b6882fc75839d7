import TickStream.Proofs.Json.Compact
import TickStream.Proofs.Json.Soundness
import TickStream.Proofs.Scan.Lines
import TickStream.Proofs.Scan.Outcomes
/-
The lines of a stream that may hold anything and fail anywhere.  Main statements: a scanner of
lines shows the texts of the lines that are not blank, one after the other, up to the first line
that it cannot read; and written again, each with a newline behind it, they are shown again,
without a carriage return at their end, and decode as they did.
-/
namespace TickStream

open Step

namespace LineScanner

variable {fault? : Option IoFault} {n offset : Nat} {bs line content rest : Bytes}
  {texts : List String} {result : Except Error Bool} {s t : LineScanner} {text : String}

/-! ## Lines of bytes -/

/-- A line at the front of a stream, what it holds, and what is behind it. -/
inductive Line (fault? : Option IoFault) : Bytes → Bytes → Bytes → Prop where
  /-- A newline ends it, together with a carriage return in front of that. -/
  | closed {front rest : Bytes} (h : newline ∉ front) (short : front.length ≤ limit) :
    Line fault? (front ++ [newline]) (dropLast carriageReturn front) rest
  /-- The end of the stream ends it. -/
  | last {front : Bytes} (hne : front ≠ []) (hfault : fault? = none) (h : newline ∉ front)
      (short : front.length ≤ limit) :
    Line fault? front front []

/-- The texts of the lines that are not blank, and how they end.  There are `n` lines and
`offset` bytes in front of them. -/
inductive Lines (fault? : Option IoFault) :
    Nat → Nat → Bytes → List String → Except Error Bool → Prop where
  | ended {n offset : Nat} (hfault : fault? = none) : Lines fault? n offset [] [] (.ok false)
  | cutOff {n offset : Nat} {bs : Bytes} {fault : IoFault} (hfault : fault? = some fault)
      (h : newline ∉ bs) (short : bs.length ≤ limit) :
    Lines fault? n offset bs [] (.error (.io fault))
  | tooLong {n offset : Nat} {bs rest : Bytes} (h : newline ∉ bs) (long : limit < bs.length) :
    Lines fault? n offset (bs ++ rest) [] (.error (.lineTooLong (n + 1) limit))
  | notText {n offset : Nat} {line content rest : Bytes} (hline : Line fault? line content rest)
      (hshown : content.all isBlank = false) (htext : Bytes.toString? content = none) :
    Lines fault? n offset (line ++ rest) [] (.error (.badUtf8 "JSON line" offset))
  | blank {n offset : Nat} {line content rest : Bytes} {texts : List String}
      {result : Except Error Bool} (hline : Line fault? line content rest)
      (hblank : content.all isBlank = true)
      (more : Lines fault? (n + 1) (offset + line.length) rest texts result) :
    Lines fault? n offset (line ++ rest) texts result
  | text {n offset : Nat} {line content rest : Bytes} {text : String} {texts : List String}
      {result : Except Error Bool} (hline : Line fault? line content rest)
      (hshown : content.all isBlank = false) (htext : Bytes.toString? content = some text)
      (more : Lines fault? (n + 1) (offset + line.length) rest texts result) :
    Lines fault? n offset (line ++ rest) (text :: texts) result

theorem Line.length_pos (h : Line fault? line content rest) : 0 < line.length := by
  cases h with
  | closed => rw [List.length_append, List.length_singleton]; omega
  | last hne => exact List.length_pos_iff.2 hne

/-- Every stream has its lines. -/
theorem exists_lines (fault? : Option IoFault) (n offset : Nat) (bs : Bytes) :
    ∃ texts result, Lines fault? n offset bs texts result := by
  induction hsize : bs.length using Nat.strongRecOn generalizing n offset bs with
  | ind size ih =>
    have hmore {line content rest : Bytes} (hline : Line fault? line content rest)
        (hbs : bs = line ++ rest) : ∃ texts result, Lines fault? n offset bs texts result := by
      have hpos := hline.length_pos
      have hless : rest.length < size := by
        rw [← hsize, hbs, List.length_append]
        omega
      obtain ⟨texts, result, hrest⟩ :=
        ih rest.length hless (n + 1) (offset + line.length) rest rfl
      subst hbs
      cases hblank : content.all isBlank with
      | true => exact ⟨texts, result, .blank hline hblank hrest⟩
      | false =>
        cases htext : Bytes.toString? content with
        | none => exact ⟨[], _, .notText hline hblank htext⟩
        | some text => exact ⟨text :: texts, result, .text hline hblank htext hrest⟩
    by_cases hmem : newline ∈ bs
    · obtain ⟨front, rest, hbs, hfront⟩ := List.eq_append_cons_of_mem hmem
      by_cases hshort : front.length ≤ limit
      · exact hmore (.closed hfront hshort) (hbs.trans (List.append_cons front newline rest))
      · rw [hbs]
        exact ⟨[], _, .tooLong hfront (Nat.lt_of_not_le hshort)⟩
    · by_cases hshort : bs.length ≤ limit
      · cases hfault : fault? with
        | some fault => exact ⟨[], _, .cutOff rfl hmem hshort⟩
        | none =>
          rw [← hfault]
          by_cases hne : bs = []
          · subst hne
            exact ⟨[], _, .ended hfault⟩
          · exact hmore (.last hne hfault hmem hshort) (List.append_nil bs).symm
      · have hlong : Lines fault? n offset (bs ++ []) [] _ :=
          .tooLong hmem (Nat.lt_of_not_le hshort)
        rw [List.append_nil] at hlong
        exact ⟨[], _, hlong⟩

theorem Lines.length_le (h : Lines fault? n offset bs texts result) :
    texts.length ≤ bs.length := by
  induction h with
  | ended => exact Nat.le_refl _
  | cutOff => exact Nat.zero_le _
  | tooLong => exact Nat.zero_le _
  | notText => exact Nat.zero_le _
  | blank hline _ _ ih =>
    rw [List.length_append]
    omega
  | text hline _ _ _ ih =>
    have hpos := hline.length_pos
    rw [List.length_append, List.length_cons]
    omega

theorem Lines.result_cases (h : Lines fault? n offset bs texts result) :
    result = .ok false ∨ ∃ e, result = .error e := by
  induction h with
  | ended => exact .inl rfl
  | cutOff => exact .inr ⟨_, rfl⟩
  | tooLong => exact .inr ⟨_, rfl⟩
  | notText => exact .inr ⟨_, rfl⟩
  | blank _ _ _ ih => exact ih
  | text _ _ _ _ ih => exact ih

/-! ## A scanner shows them -/

/-- From `s` on, lines are asked for until there is none: the scanner goes through `shown`, each
time with a line, and the last call gives `result`. -/
inductive Drives : LineScanner → List LineScanner → Except Error Bool → Prop where
  | ended {s t : LineScanner} : EStateM.run nextLine s = .ok false t → Drives s [] (.ok false)
  | failed {s t : LineScanner} {e : Error} :
    EStateM.run nextLine s = .error e t → Drives s [] (.error e)
  | line {s t : LineScanner} {shown : List LineScanner} {result : Except Error Bool} :
    EStateM.run nextLine s = .ok true t → Drives t shown result → Drives s (t :: shown) result

/-- The scanner stands in front of `bs`, behind `n` lines and `offset` bytes. -/
structure Awaits (s : LineScanner) (c : Codec) (fault? : Option IoFault) (n offset : Nat)
    (bs : Bytes) : Prop where
  phase : s.phase = .streaming
  codec : s.codec = c
  content : s.source.content = bs
  failure : s.source.failure = fault?
  lines : s.lines = n
  offset : s.offset = offset

/-- The scanner shows a text, which it decodes by its codec. -/
structure Shows (t : LineScanner) (c : Codec) (text : String) : Prop where
  current : t.current = text
  decoded : t.decodeCurrent = c.decodeJson text

theorem drives_congr {shown : List LineScanner}
    (hnext : EStateM.run nextLine s = EStateM.run nextLine t) (hd : t.Drives shown result) :
    s.Drives shown result := by
  cases hd with
  | ended hr => exact .ended (hnext.trans hr)
  | failed hr => exact .failed (hnext.trans hr)
  | line hr hd => exact .line (hnext.trans hr) hd

/-- A blank line plays no part in an advance. -/
theorem nextLine_congr (hs : s.phase = .streaming) (ht : t.phase = .streaming)
    (hr : readLine s = readLine t) : EStateM.run nextLine s = EStateM.run nextLine t := by
  cases hread : readLine t with
  | ok more u => rw [nextLine_ok ht hread, nextLine_ok hs (hr.trans hread)]
  | error e u => rw [nextLine_error ht hread, nextLine_error hs (hr.trans hread)]

theorem readUntil_line {c : Codec} (hs : s.Awaits c fault? n offset (line ++ rest))
    (hline : Line fault? line content rest) :
    ∃ u, s.source.readUntil newline (limit + 1) = (.ok line, u) ∧ u.content = rest ∧
      u.failure = fault? := by
  cases hline with
  | @closed front rest h short =>
    have hcontent := hs.content.trans (List.append_cons front newline rest).symm
    obtain ⟨u, hread, hrest, hfailure⟩ :=
      Source.readUntil_of_line hcontent h (Nat.lt_succ_of_le short)
    exact ⟨u, hread, hrest, hfailure.trans hs.failure⟩
  | last hne hfault h short =>
    have hrest : s.source.Delivers line := by
      refine ⟨?_, hs.failure.trans hfault⟩
      rw [hs.content, List.append_nil]
    obtain ⟨u, hread, hnothing⟩ := Source.readUntil_of_rest hrest h (Nat.lt_succ_of_le short)
    exact ⟨u, hread, hnothing.content, hnothing.failure.trans hfault.symm⟩

theorem Line.content?_eq (h : Line fault? line content rest) : content? line = some content := by
  cases h with
  | closed => rw [content?, List.getLast?_concat, if_pos rfl, List.dropLast_concat]
  | last hne hfault h short =>
    have hopen : line.getLast? ≠ some newline := by
      intro hlast
      exact h (List.mem_of_getLast? hlast)
    rw [content?, if_neg hopen, if_pos short]

theorem readLine_of_line {c : Codec} (hs : s.Awaits c fault? n offset (line ++ rest))
    (hline : Line fault? line content rest) :
    ∃ u, readLine s = s.onLine u line ∧ content? line = some content ∧
      (s.passed u line).Awaits c fault? (n + 1) (offset + line.length) rest := by
  obtain ⟨u, hread, hrest, hfailure⟩ := readUntil_line hs hline
  obtain ⟨b, bs, hbytes⟩ := List.exists_cons_of_length_pos hline.length_pos
  have hpassed : (s.passed u line).Awaits c fault? (n + 1) (offset + line.length) rest := by
    refine ⟨hs.phase, hs.codec, hrest, hfailure, ?_, ?_⟩
    · show s.lines + 1 = n + 1
      rw [hs.lines]
    · show s.offset + line.length = offset + line.length
      rw [hs.offset]
  refine ⟨u, ?_, hline.content?_eq, hpassed⟩
  rw [hbytes] at hread ⊢
  exact readLine_line hread

theorem readLine_tooLong {c : Codec} (hs : s.Awaits c fault? n offset (bs ++ rest))
    (h : newline ∉ bs) (long : limit < bs.length) :
    ∃ t, readLine s = .error (.lineTooLong (n + 1) limit) t := by
  have hfst := Source.readUntil_fst newline (limit + 1) s.source
  have htake : (bs ++ rest).take (limit + 1) = bs.take (limit + 1) :=
    List.take_append_of_le_length long
  have hfront : limit + 1 ≤ ((bs ++ rest).takeWhile (· != newline)).length := by
    rw [Source.takeWhile_ne_of_not_mem h, List.length_append]
    omega
  rw [Source.lineOf, hs.content] at hfst
  simp only [if_pos hfront, htake] at hfst
  have hlength : (bs.take (limit + 1)).length = limit + 1 := by
    rw [List.length_take, Nat.min_eq_left long]
  obtain ⟨b, tail, hbytes⟩ : ∃ b tail, bs.take (limit + 1) = b :: tail :=
    List.exists_cons_of_length_pos (by omega)
  have hnone : content? (bs.take (limit + 1)) = none := by
    have hopen : (bs.take (limit + 1)).getLast? ≠ some newline := by
      intro hlast
      exact h (List.mem_of_mem_take (List.mem_of_getLast? hlast))
    rw [content?, if_neg hopen, if_neg (by omega)]
  rcases hread : s.source.readUntil newline (limit + 1) with ⟨got, u⟩
  rw [hread, hbytes] at hfst
  have hgot : got = .ok (b :: tail) := hfst
  subst hgot
  refine ⟨s.passed u (b :: tail), ?_⟩
  rw [hbytes] at hnone
  rw [readLine_line hread, onLine, hnone, hs.lines]

theorem readLine_cutOff {c : Codec} {fault : IoFault} (hs : s.Awaits c (some fault) n offset bs)
    (h : newline ∉ bs) (short : bs.length ≤ limit) :
    ∃ t, readLine s = .error (.io fault) t := by
  have hfst := Source.readUntil_fst newline (limit + 1) s.source
  have hall : bs.takeWhile (· != newline) = bs := by
    have := Source.takeWhile_ne_of_not_mem h []
    simpa using this
  rw [Source.lineOf, hs.content, hs.failure] at hfst
  simp only [hall, Nat.lt_irrefl, if_false] at hfst
  rw [if_neg (Nat.not_le_of_lt (Nat.lt_succ_of_le short))] at hfst
  rcases hread : s.source.readUntil newline (limit + 1) with ⟨got, u⟩
  rw [hread] at hfst
  have hgot : got = .error fault := hfst
  subst hgot
  exact ⟨_, readLine_fault hread⟩

/-- A blank line is passed over. -/
theorem nextLine_of_blank {c : Codec} (hs : s.Awaits c fault? n offset (line ++ rest))
    (hline : Line fault? line content rest) (hblank : content.all isBlank = true) :
    ∃ t, EStateM.run nextLine s = EStateM.run nextLine t ∧
      t.Awaits c fault? (n + 1) (offset + line.length) rest ∧ t.records = s.records := by
  obtain ⟨u, hr, hcontent, hpassed⟩ := readLine_of_line hs hline
  have hskip : readLine s = readLine (s.passed u line) := by
    rw [hr, onLine, hcontent]
    simp only [hblank, if_true]
  exact ⟨_, nextLine_congr hs.phase hpassed.phase hskip, hpassed, rfl⟩

theorem nextLine_of_text {c : Codec} (hs : s.Awaits c fault? n offset (line ++ rest))
    (hline : Line fault? line content rest) (hshown : content.all isBlank = false)
    (htext : Bytes.toString? content = some text) :
    ∃ t, EStateM.run nextLine s = .ok true t ∧
      t.Awaits c fault? (n + 1) (offset + line.length) rest ∧ t.current = text ∧
      t.records = s.records + 1 := by
  obtain ⟨u, hr, hcontent, hpassed⟩ := readLine_of_line hs hline
  have hread : readLine s = .ok true
      { s.passed u line with current := text, records := s.records + 1 } := by
    rw [hr, onLine, hcontent]
    simp only [hshown, Bool.false_eq_true, if_false, htext]
  exact ⟨_, nextLine_ok hs.phase hread, ⟨hpassed.phase, hpassed.codec, hpassed.content,
    hpassed.failure, hpassed.lines, hpassed.offset⟩, rfl, rfl⟩

theorem nextLine_of_notText {c : Codec} (hs : s.Awaits c fault? n offset (line ++ rest))
    (hline : Line fault? line content rest) (hshown : content.all isBlank = false)
    (htext : Bytes.toString? content = none) :
    ∃ t, EStateM.run nextLine s = .error (.badUtf8 "JSON line" offset) t ∧ t.current = "" ∧
      t.lines = n + 1 ∧ t.records = s.records := by
  obtain ⟨u, hr, hcontent, hpassed⟩ := readLine_of_line hs hline
  have hread : readLine s = .error (.badUtf8 "JSON line" offset) (s.passed u line) := by
    rw [hr, onLine, hcontent]
    simp only [hshown, Bool.false_eq_true, if_false, htext, hs.offset]
  exact ⟨_, nextLine_error hs.phase hread, rfl, hpassed.lines, rfl⟩

theorem nextLine_of_nothing {c : Codec} (hs : s.Awaits c none n offset []) :
    ∃ t, EStateM.run nextLine s = .ok false t ∧ t.phase = .finished ∧ t.current = "" ∧
      t.lines = n ∧ t.records = s.records := by
  have hend : s.source.Delivers [] := ⟨hs.content, hs.failure⟩
  obtain ⟨u, hread⟩ := Source.readUntil_of_end hend newline (Nat.succ_pos limit)
  exact ⟨_, nextLine_ok hs.phase (readLine_end hread), rfl, rfl, hs.lines, rfl⟩

/-- A scanner shows the texts of the lines that it stands in front of, and ends as they do. -/
theorem Lines.drives {c : Codec} (h : Lines fault? n offset bs texts result)
    (hs : s.Awaits c fault? n offset bs) :
    ∃ shown, s.Drives shown result ∧ List.Forall₂ (fun t text => t.Shows c text) shown texts := by
  induction h generalizing s with
  | ended hfault =>
    obtain ⟨t, hr, -⟩ := nextLine_of_nothing (hfault ▸ hs)
    exact ⟨[], .ended hr, .nil⟩
  | cutOff hfault h short =>
    obtain ⟨t, hr⟩ := readLine_cutOff (hfault ▸ hs) h short
    exact ⟨[], .failed (nextLine_error hs.phase hr), .nil⟩
  | tooLong h long =>
    obtain ⟨t, hr⟩ := readLine_tooLong hs h long
    exact ⟨[], .failed (nextLine_error hs.phase hr), .nil⟩
  | notText hline hshown htext =>
    obtain ⟨t, hr, -⟩ := nextLine_of_notText hs hline hshown htext
    exact ⟨[], .failed hr, .nil⟩
  | blank hline hblank _ ih =>
    -- The next line of the scanner is the next one behind the blank line.
    obtain ⟨t, hnext, hpassed, -⟩ := nextLine_of_blank hs hline hblank
    obtain ⟨shown, hd, htexts⟩ := ih hpassed
    exact ⟨shown, drives_congr hnext hd, htexts⟩
  | @text n offset line content rest text texts result hline hshown htext _ ih =>
    obtain ⟨t, hr, hpassed, hcurrent, -⟩ := nextLine_of_text hs hline hshown htext
    obtain ⟨shown, hd, htexts⟩ := ih hpassed
    have hne : text ≠ "" := ne_empty_of_not_blank (by rw [hshown]; decide) htext
    have hempty : ¬ t.current.isEmpty = true := by
      rw [hcurrent]
      simpa using hne
    refine ⟨t :: shown, .line hr hd, .cons ⟨hcurrent, ?_⟩ htexts⟩
    rw [decodeCurrent, if_neg hempty, hpassed.codec, hcurrent]

/-- From `s` on, the advances show `texts`, and the one behind them gives `result`. -/
def Gives (s : LineScanner) (texts : List String) (result : Except Error Bool) : Prop :=
  ∃ shown, s.Drives shown result ∧ shown.map current = texts

theorem current_of_shows {c : Codec} {shown : List LineScanner}
    (h : List.Forall₂ (fun t text => t.Shows c text) shown texts) : shown.map current = texts := by
  induction h with
  | nil => rfl
  | cons hshows _ ih => rw [List.map_cons, hshows.current, ih]

theorem Lines.gives {c : Codec} (h : Lines fault? n offset bs texts result)
    (hs : s.Awaits c fault? n offset bs) : s.Gives texts result := by
  obtain ⟨shown, hd, hshows⟩ := h.drives hs
  exact ⟨shown, hd, current_of_shows hshows⟩

/-! ## Texts written again -/

/-- The text is that of a line: it has no newline, it is not blank, and it is within the limit.
It may end in a carriage return. -/
structure Fits (text : String) : Prop where
  whole : newline ∉ Bytes.ofString text
  shown : (Bytes.ofString text).all isBlank = false
  short : (Bytes.ofString text).length ≤ limit

theorem mem_dropLast {b c : UInt8} (h : c ∈ dropLast b bs) : c ∈ bs := by
  rw [dropLast] at h
  split at h
  · exact (List.dropLast_sublist bs).subset h
  · exact h

theorem length_dropLast_le (b : UInt8) (bs : Bytes) : (dropLast b bs).length ≤ bs.length := by
  rw [dropLast]
  split
  · rw [List.length_dropLast]
    omega
  · exact Nat.le_refl _

theorem Line.fits (h : Line fault? line content rest) (hshown : content.all isBlank = false)
    (htext : Bytes.toString? content = some text) : Fits text := by
  have hcontent := Bytes.toString?_eq_some_iff.1 htext
  have hwhole : newline ∉ content ∧ content.length ≤ limit := by
    cases h with
    | @closed front _ h short =>
      refine ⟨fun hmem => h (mem_dropLast hmem), ?_⟩
      exact Nat.le_trans (length_dropLast_le carriageReturn front) short
    | last hne hfault h short => exact ⟨h, short⟩
  rw [hcontent] at hwhole hshown
  exact ⟨hwhole.1, hshown, hwhole.2⟩

theorem Lines.fits (h : Lines fault? n offset bs texts result) : ∀ text ∈ texts, Fits text := by
  induction h with
  | ended => exact fun text h => absurd h List.not_mem_nil
  | cutOff => exact fun text h => absurd h List.not_mem_nil
  | tooLong => exact fun text h => absurd h List.not_mem_nil
  | notText => exact fun text h => absurd h List.not_mem_nil
  | blank _ _ _ ih => exact ih
  | text hline hshown htext _ ih =>
    exact List.forall_mem_cons.2 ⟨hline.fits hshown htext, ih⟩

def bare (text : String) : String :=
  if text.toList.getLast? = some '\r' then String.ofList text.toList.dropLast else text

theorem bare_push (text : String) : bare (text.push '\r') = text := by
  have hlist : (text.push '\r').toList = text.toList ++ ['\r'] := String.toList_push '\r'
  rw [bare, hlist, List.getLast?_concat, if_pos rfl, List.dropLast_concat, String.ofList_toList]

/-- A text ends in a carriage return if its bytes do. -/
theorem exists_push_of_getLast? (h : (Bytes.ofString text).getLast? = some carriageReturn) :
    ∃ front : String, text = front.push '\r' := by
  obtain hnil | ⟨front, c, hlist⟩ := List.eq_nil_or_concat text.toList
  · rw [Bytes.ofString_eq, hnil] at h
    exact absurd h (by simp)
  · rw [List.concat_eq_append] at hlist
    have hne : String.utf8EncodeChar c ≠ [] := by
      intro hnone
      have hlen := congrArg List.length hnone
      rw [String.length_utf8EncodeChar] at hlen
      exact absurd hlen (Nat.ne_of_gt c.utf8Size_pos)
    rw [Bytes.ofString_eq, hlist, List.flatMap_append, List.flatMap_singleton,
      List.getLast?_append_of_ne_nil _ hne] at h
    have hmem : carriageReturn ∈ String.utf8EncodeChar c := List.mem_of_getLast? h
    -- A character that is not a control character has no such byte.
    have hcontrol : c.toNat < 0x20 := by
      by_cases hc : 0x20 ≤ c.toNat
      · have := Text.le_of_mem_utf8EncodeChar hc hmem
        exact absurd this (by decide)
      · exact Nat.lt_of_not_le hc
    have hbyte : String.utf8EncodeChar c = [UInt8.ofNat c.toNat] := by
      have hascii : c.val.toNat ≤ 127 := by
        have : c.val.toNat < 0x20 := hcontrol
        omega
      rw [String.utf8EncodeChar]
      simp only [hascii, if_true]
      rfl
    rw [hbyte, List.mem_singleton] at hmem
    have hnat : c.toNat = 0x0d := by
      have := congrArg UInt8.toNat hmem
      rw [UInt8.toNat_ofNat_of_lt' (by show c.toNat < 256; omega)] at this
      exact this.symm
    have hc : c = '\r' := Char.toNat_inj.1 hnat
    refine ⟨String.ofList front, ?_⟩
    apply String.toList_inj.1
    have hpush : ((String.ofList front).push '\r').toList =
        (String.ofList front).toList ++ ['\r'] := String.toList_push '\r'
    rw [hpush, String.toList_ofList, hlist, hc]

theorem ofString_push_carriageReturn (text : String) :
    Bytes.ofString (text.push '\r') = Bytes.ofString text ++ [carriageReturn] := by
  have hlist : (text.push '\r').toList = text.toList ++ ['\r'] := String.toList_push '\r'
  rw [Bytes.ofString_eq, hlist, List.flatMap_append, ← Bytes.ofString_eq]
  rfl

theorem bare_cases (text : String) :
    (text = (bare text).push '\r' ∨ text = bare text) ∧
      dropLast carriageReturn (Bytes.ofString text) = Bytes.ofString (bare text) := by
  by_cases h : (Bytes.ofString text).getLast? = some carriageReturn
  · obtain ⟨front, rfl⟩ := exists_push_of_getLast? h
    rw [bare_push]
    refine ⟨.inl rfl, ?_⟩
    rw [dropLast, if_pos h, ofString_push_carriageReturn, List.dropLast_concat]
  · have hopen : text.toList.getLast? ≠ some '\r' := by
      intro hlast
      obtain ⟨front, hlist⟩ := List.getLast?_eq_some_iff.1 hlast
      rw [Bytes.ofString_eq, hlist, List.flatMap_append] at h
      exact h (List.getLast?_concat)
    have hbare : bare text = text := by rw [bare, if_neg hopen]
    rw [hbare, dropLast, if_neg h]
    exact ⟨.inr rfl, rfl⟩

theorem all_isBlank_dropLast (bs : Bytes) :
    (dropLast carriageReturn bs).all isBlank = bs.all isBlank := by
  rw [dropLast]
  split
  · rename_i hlast
    obtain ⟨front, rfl⟩ := List.getLast?_eq_some_iff.1 hlast
    rw [List.dropLast_concat, List.all_append]
    show front.all isBlank = (front.all isBlank && true)
    rw [Bool.and_true]
  · rfl

/-- Texts that are written one to a line are the texts of lines again. -/
theorem lines_ended (h : ∀ text ∈ texts, Fits text) (n offset : Nat) :
    Lines none n offset (ended texts) (texts.map bare) (.ok false) := by
  induction texts generalizing n offset with
  | nil => exact .ended rfl
  | cons text texts ih =>
    obtain ⟨htext, hmore⟩ := List.forall_mem_cons.1 h
    have hline : Line none (Bytes.ofString text ++ [newline]) (Bytes.ofString (bare text))
        (ended texts) := by
      rw [← (bare_cases text).2]
      exact .closed htext.whole htext.short
    have hshown : (Bytes.ofString (bare text)).all isBlank = false := by
      rw [← (bare_cases text).2, all_isBlank_dropLast]
      exact htext.shown
    rw [ended_cons, List.append_cons, List.map_cons]
    exact .text hline hshown (Bytes.toString?_ofString _) (ih hmore _ _)

end LineScanner

/-! ## Records -/

namespace Codec

variable {c : Codec} {text : String} {r : Record}

theorem decodeJson_eq_ok_iff :
    c.decodeJson text = .ok r ↔ ∃ j, Json.parse text = .ok j ∧ c.recordOfJson text j = .ok r := by
  rw [decodeJson]
  cases Json.parse text with
  | error e => simp [Except.bind]
  | ok j =>
    simp only [Except.bind]
    cases hr : c.recordOfJson text j <;> simp [hr]

/-- A record of unknown tag keeps its line without the blanks at its end. -/
theorem recordOfJson_push (j : Json) :
    c.recordOfJson (text.push '\r') j = c.recordOfJson text j := by
  have htrim : Text.trimEnd (text.push '\r') = Text.trimEnd text := by
    have hlist : (text.push '\r').toList = text.toList ++ ['\r'] := String.toList_push '\r'
    rw [Text.trimEnd, Text.trimEnd, Text.dropBlankTail, Text.dropBlankTail, hlist,
      List.reverse_append]
    rfl
  rw [recordOfJson, recordOfJson, htrim]

/-- A carriage return at the end of a line plays no part in its record. -/
theorem decodeJson_bare :
    c.decodeJson (LineScanner.bare text) = .ok r ↔ c.decodeJson text = .ok r := by
  obtain hpush | hsame := (LineScanner.bare_cases text).1
  · generalize LineScanner.bare text = front at hpush
    subst hpush
    rw [decodeJson_eq_ok_iff, decodeJson_eq_ok_iff]
    simp only [Json.parse_push_gap (c := '\r') (by decide), recordOfJson_push]
  · rw [← hsame]

end Codec
end TickStream
