import Mathlib.Data.List.Forall2
import TickStream.Proofs.Bytes.Delivery
import TickStream.Proofs.Bytes.Texts
import TickStream.Proofs.Scan.LineDeliveries
/-
Lines read back as they were written.  Main statement: over lines that each hold a record, with a
newline behind every one of them, a scanner of lines gives the records in order and nothing else,
in whatever pieces the lines arrive.
-/
namespace TickStream

open Step

namespace Bytes

theorem ofString_append (s t : String) : ofString (s ++ t) = ofString s ++ ofString t := by
  rw [ofString_eq, ofString_eq, ofString_eq, String.toList_append, List.flatMap_append]

end Bytes

namespace Source

variable {s : Source} {line rest : Bytes} {stop : UInt8} {limit : Nat}

theorem readUntil_of_lineOf (hs : s.content = line ++ rest)
    (hline : lineOf stop limit (line ++ rest) s.failure = .ok line) :
    ∃ t, readUntil stop limit s = (.ok line, t) ∧ t.content = rest ∧ t.failure = s.failure := by
  have hfst := readUntil_fst stop limit s
  rw [hs, hline] at hfst
  rcases hread : readUntil stop limit s with ⟨result, t⟩
  rw [hread] at hfst
  have hresult : result = .ok line := hfst
  subst hresult
  obtain ⟨hcontent, hfailure⟩ := content_readUntil hread
  rw [hs] at hcontent
  exact ⟨t, rfl, (List.append_cancel_left hcontent).symm, hfailure.symm⟩

/-- A line within the limit is read with the byte that ends it. -/
theorem readUntil_of_line (hs : s.content = line ++ stop :: rest) (hstop : stop ∉ line)
    (hlimit : line.length < limit) :
    ∃ t, readUntil stop limit s = (.ok (line ++ [stop]), t) ∧ t.content = rest ∧
      t.failure = s.failure := by
  have hsplit : line ++ stop :: rest = (line ++ [stop]) ++ rest := List.append_cons line stop rest
  rw [hsplit] at hs
  refine readUntil_of_lineOf hs ?_
  have hlong : line.length < (line ++ stop :: rest).length := by
    rw [List.length_append, List.length_cons]
    omega
  rw [← hsplit, lineOf]
  simp only [takeWhile_line hstop]
  rw [if_neg (Nat.not_le_of_lt hlimit), if_pos hlong]

/-- Without the byte that ends a line all that is left within the limit is read. -/
theorem readUntil_of_rest (hs : s.Delivers rest) (hstop : stop ∉ rest)
    (hlimit : rest.length < limit) :
    ∃ t, readUntil stop limit s = (.ok rest, t) ∧ t.Delivers [] := by
  have hcontent : s.content = rest ++ [] := by rw [hs.content, List.append_nil]
  have hline : lineOf stop limit (rest ++ []) s.failure = .ok rest := by
    rw [List.append_nil, lineOf, hs.failure]
    simp only [takeWhile_of_not_mem hstop, Nat.lt_irrefl, if_false]
    exact if_neg (Nat.not_le_of_lt hlimit)
  obtain ⟨t, hread, hnothing, hfailure⟩ := readUntil_of_lineOf hcontent hline
  exact ⟨t, hread, hnothing, hfailure.trans hs.failure⟩

/-- At the end nothing is read. -/
theorem readUntil_of_end (hs : s.Delivers []) (stop : UInt8) (hlimit : 0 < limit) :
    ∃ t, readUntil stop limit s = (.ok [], t) := by
  obtain ⟨t, hread, -⟩ := readUntil_of_rest hs List.not_mem_nil hlimit
  exact ⟨t, hread⟩

end Source

namespace LineScanner

variable {s : LineScanner} {c : Codec} {line : String} {rest : Bytes} {r : Record}

/-- The text is a line that a scanner shows as it is. -/
structure OneLine (line : String) : Prop where
  whole : newline ∉ Bytes.ofString line
  shown : (Bytes.ofString line).all isBlank = false
  /-- A carriage return at the end would count as part of what ends the line. -/
  closed : (Bytes.ofString line).getLast? ≠ some carriageReturn
  short : (Bytes.ofString line).length ≤ limit

theorem OneLine.not_isEmpty (h : OneLine line) : line.isEmpty = false := by
  have hne : line ≠ "" := by
    rintro rfl
    exact absurd h.shown (by decide)
  simpa using hne

theorem OneLine.content? (h : OneLine line) :
    content? (Bytes.ofString line ++ [newline]) = some (Bytes.ofString line) := by
  rw [LineScanner.content?, List.getLast?_concat, if_pos rfl, List.dropLast_concat, dropLast,
    if_neg h.closed]

/-- Records are looked for on lines, and the source hands out `bs` from here on. -/
structure Streams (s : LineScanner) (c : Codec) (bs : Bytes) : Prop where
  phase : s.phase = .streaming
  codec : s.codec = c
  source : s.source.Delivers bs

theorem run_guarded_ok {α : Type} {t : LineScanner} {step : Step α} {a : α}
    (h : EStateM.run step s = .ok a t) : EStateM.run (guarded step) s = .ok a t := by
  rw [run_guarded, h]

theorem nextLine_ok {t : LineScanner} {more : Bool} (hs : s.phase = .streaming)
    (hr : readLine s = .ok more t) : EStateM.run nextLine s = .ok more t := by
  have hguard : EStateM.run (guarded readLine) s = .ok more t := run_guarded_ok hr
  rw [nextLine, bind_ok (run_get s), hs]
  exact hguard

theorem run_guarded_error {α : Type} {step : Step α} {e : Error} {t : LineScanner}
    (h : EStateM.run step s = .error e t) :
    EStateM.run (guarded step) s = .error e { t with phase := .failed, current := "" } := by
  rw [run_guarded, h]

theorem nextLine_error {t : LineScanner} {e : Error} (hs : s.phase = .streaming)
    (hr : readLine s = .error e t) :
    EStateM.run nextLine s = .error e { t with phase := .failed, current := "" } := by
  have hguard : EStateM.run (guarded readLine) s =
      .error e { t with phase := .failed, current := "" } := run_guarded_error hr
  rw [nextLine, bind_ok (run_get s), hs]
  exact hguard

theorem nextLine_of_line (hs : s.Streams c (Bytes.ofString line ++ newline :: rest))
    (h : OneLine line) :
    ∃ t, EStateM.run nextLine s = .ok true t ∧ t.current = line ∧ t.Streams c rest := by
  obtain ⟨u, hread, hcontent, hfailure⟩ :=
    Source.readUntil_of_line hs.source.content h.whole (Nat.lt_succ_of_le h.short)
  have hu : u.Delivers rest := ⟨hcontent, hfailure.trans hs.source.failure⟩
  -- The line is not empty: it ends in a newline.
  obtain ⟨b, bs, hbytes⟩ := List.exists_cons_of_ne_nil
    (List.append_ne_nil_of_right_ne_nil (Bytes.ofString line) (List.cons_ne_nil newline []))
  rw [hbytes] at hread
  have hrun : readLine s = .ok true { s.passed u (Bytes.ofString line ++ [newline]) with
      current := line, records := s.records + 1 } := by
    rw [readLine_line hread, ← hbytes, onLine, h.content?]
    simp only [h.shown, Bool.false_eq_true, if_false, Bytes.toString?_ofString]
  exact ⟨_, nextLine_ok hs.phase hrun, rfl, hs.phase, hs.codec, hu⟩

theorem nextRecord_of_line (hs : s.Streams c (Bytes.ofString line ++ newline :: rest))
    (h : OneLine line) (hr : c.decodeJson line = .ok r) :
    ∃ t, EStateM.run nextRecord s = .ok (some r) t ∧ t.Streams c rest := by
  obtain ⟨t, hline, hcurrent, ht⟩ := nextLine_of_line hs h
  have hdecode : t.decodeCurrent = .ok r := by
    rw [decodeCurrent, hcurrent, h.not_isEmpty, ht.codec]
    exact hr
  have hguard : EStateM.run (guarded (ofExcept t.decodeCurrent)) t = .ok r t :=
    run_guarded_ok (run_ofExcept_ok hdecode t)
  refine ⟨t, ?_, ht⟩
  rw [nextRecord, bind_ok hline, if_pos rfl, bind_ok (run_get t), bind_ok hguard]
  rfl

theorem nextRecord_at_end (hs : s.Streams c []) :
    ∃ t, EStateM.run nextRecord s = .ok none t := by
  obtain ⟨u, hread⟩ := Source.readUntil_of_end hs.source newline (Nat.succ_pos limit)
  have hline := nextLine_ok hs.phase (readLine_end hread)
  exact ⟨_, bind_ok hline⟩

/-! ## All lines -/

def ended (lines : List String) : Bytes :=
  (lines.map fun line => Bytes.ofString line ++ [newline]).flatten

theorem ended_cons (line : String) (lines : List String) :
    ended (line :: lines) = Bytes.ofString line ++ newline :: ended lines := by
  rw [ended, List.map_cons, List.flatten_cons, List.append_assoc]
  rfl

theorem length_le_length_ended (lines : List String) : lines.length ≤ (ended lines).length := by
  induction lines with
  | nil => exact Nat.le_refl _
  | cons line lines ih =>
    rw [ended_cons, List.length_append, List.length_cons, List.length_cons]
    omega

/-- The line holds the record and nothing else. -/
structure Holds (c : Codec) (line : String) (r : Record) : Prop where
  oneLine : OneLine line
  decoded : c.decodeJson line = .ok r

theorem results_of_lines {lines : List String} {rs : List Record}
    (h : List.Forall₂ (Holds c) lines rs) (hs : s.Streams c (ended lines)) {n : Nat}
    (hn : lines.length < n) : ∃ t, Scan.results nextRecord n s = (rs.map .ok, t) := by
  induction h generalizing s n with
  | nil =>
    obtain ⟨t, ht⟩ := nextRecord_at_end hs
    cases n with
    | zero => exact absurd hn (Nat.not_lt_zero _)
    | succ n => exact ⟨t, by rw [Scan.results_succ, ht]; rfl⟩
  | @cons line r lines rs hline _ ih =>
    rw [ended_cons] at hs
    obtain ⟨t, ht, hstreams⟩ := nextRecord_of_line hs hline.oneLine hline.decoded
    cases n with
    | zero => exact absurd hn (Nat.not_lt_zero _)
    | succ n =>
      obtain ⟨u, hu⟩ := ih hstreams (Nat.lt_of_succ_lt_succ hn)
      exact ⟨u, by rw [Scan.results_succ, ht]; simp only [hu, List.map_cons]⟩

theorem mapM_ok {α : Type} (as : List α) :
    (as.map Except.ok : List (Except Error α)).mapM id = .ok as := by
  induction as with
  | nil => rfl
  | cons a as ih => rw [List.map_cons, List.mapM_cons, ih]; rfl

/-- All records are read off their lines. -/
theorem readAll_of_lines {lines : List String} {rs : List Record} {out : Source}
    (h : List.Forall₂ (Holds c) lines rs) (hout : out.Delivers (ended lines)) :
    ∃ t, EStateM.run readAll (ofSource out c) = .ok rs t := by
  have hs : (ofSource out c).Streams c (ended lines) := ⟨rfl, rfl, hout⟩
  have hbound : lines.length < bound (ofSource out c) := by
    have hlines := length_le_length_ended lines
    show lines.length < out.content.length + 1
    rw [hout.content]
    omega
  obtain ⟨t, ht⟩ := results_of_lines h hs hbound
  refine ⟨t, ?_⟩
  rw [readAll, bind_ok (run_get _), Scan.run_collect, ht]
  simp only [mapM_ok]

end LineScanner
end TickStream
