import TickStream.Proofs.Scan.Twins
import TickStream.Scan.Lines
/-
Scanners of lines over sources that cut the same bytes in pieces of their own.  Main statement:
no advance tells such scanners apart.
-/
namespace TickStream

open Step

namespace LineScanner

open Scan (Twins Alike Spent Matches Refused)

instance : Scanner LineScanner where
  source := source
  onto s u := { s with source := u }
  phase := phase
  source_onto _ _ := rfl
  phase_onto _ _ := rfl

variable {α : Type} {s t : LineScanner} {u v : Source}

/-! ## One line -/

/-- The scanner after a line that is not advanced to. -/
def passed (s : LineScanner) (u : Source) (line : Bytes) : LineScanner :=
  { s with
    source := u, current := "", offset := s.offset + line.length, lines := s.lines + 1 }

/-- What a scanner makes of a line that it has read. -/
def onLine (s : LineScanner) (u : Source) (line : Bytes) :
    EStateM.Result Error LineScanner Bool :=
  match content? line with
  | none => .error (.lineTooLong (s.lines + 1) limit) (s.passed u line)
  | some content =>
    if content.all isBlank then readLine (s.passed u line)
    else match Bytes.toString? content with
      | none => .error (.badUtf8 "JSON line" s.offset) (s.passed u line)
      | some text =>
        .ok true { s.passed u line with current := text, records := s.records + 1 }

theorem readLine_fault {fault : IoFault}
    (h : s.source.readUntil newline (limit + 1) = (.error fault, u)) :
    readLine s = .error (.io fault) { s with source := u, current := "" } := by
  rw [readLine]
  split <;> simp_all

theorem readLine_end (h : s.source.readUntil newline (limit + 1) = (.ok [], u)) :
    readLine s = .ok false { s with source := u, phase := .finished, current := "" } := by
  rw [readLine]
  split <;> simp_all

theorem readLine_line {b : UInt8} {bs : Bytes}
    (h : s.source.readUntil newline (limit + 1) = (.ok (b :: bs), u)) :
    readLine s = s.onLine u (b :: bs) := by
  rw [readLine]
  split
  · simp_all
  · simp_all
  · rename_i heq
    simp only [h, Prod.mk.injEq, Except.ok.injEq, List.cons.injEq] at heq
    obtain ⟨⟨rfl, rfl⟩, rfl⟩ := heq
    rfl

/-- Scanners that are alike make the same of a line, if they do of the next one. -/
theorem agree_onLine (hsource : u.Alike v) {w : Source} {line : Bytes}
    (hnext : Agree Alike Twins (readLine (s.passed u line)) (readLine (s.passed v line))) :
    Agree Alike Twins (s.onLine u line)
      (onLine { s with source := w } v line) := by
  have hpassed : passed { s with source := w } v line = s.passed v line := rfl
  rw [onLine, onLine, hpassed]
  cases content? line with
  | none => exact .error ⟨v⟩
  | some content =>
    show Agree Alike Twins (if content.all isBlank then _ else _)
      (if content.all isBlank then _ else _)
    by_cases hblank : content.all isBlank
    · rw [if_pos hblank, if_pos hblank]
      exact hnext
    · rw [if_neg hblank, if_neg hblank]
      cases Bytes.toString? content with
      | none => exact .error ⟨v⟩
      | some text => exact .ok ⟨hsource⟩

theorem respects_readLine : Respects Alike Alike Twins readLine := by
  intro s
  -- Every line that is passed leaves less of the source.
  induction hsize : s.source.size using Nat.strongRecOn generalizing s with
  | ind n ih =>
    rintro _ @⟨w, hsource⟩
    have hread := (Source.faithful_readUntil newline (limit + 1)).sameRead hsource
    show Agree Alike Twins (readLine s) (readLine { s with source := w })
    rcases hs : Source.readUntil newline (limit + 1) s.source with ⟨got, u⟩
    rcases ht : Source.readUntil newline (limit + 1) w with ⟨got', v⟩
    replace hread : Source.SameRead (got, u) (got', v) := by
      rw [← hs, ← ht]
      exact hread
    cases hread with
    | error =>
      rw [readLine_fault hs, readLine_fault (s := { s with source := w }) ht]
      exact .error ⟨v⟩
    | @ok bs _ _ halike =>
      cases bs with
      | nil =>
        rw [readLine_end hs, readLine_end (s := { s with source := w }) ht]
        exact .ok ⟨halike⟩
      | cons b bs =>
        rw [readLine_line hs, readLine_line (s := { s with source := w }) ht]
        have hless : u.size < n := hsize ▸ Source.size_readUntil hs
        exact agree_onLine halike (ih u.size hless (s.passed u (b :: bs)) rfl _ ⟨halike⟩)

/-! ## Advances -/

theorem run_guarded (step : Step α) (s : LineScanner) :
    EStateM.run (guarded step) s = match EStateM.run step s with
      | .ok a s => .ok a s
      | .error e s => .error e { s with phase := .failed, current := "" } := rfl

theorem respects_guarded {P Q : LineScanner → LineScanner → Prop} {step : Step α}
    (h : Respects P Q Twins step) : Respects P Q Spent (guarded step) := by
  refine Scan.respects_final (fun s => { s with phase := .failed, current := "" }) (fun s => ?_)
    (fun _ _ ⟨_⟩ => ⟨rfl⟩) h
  rw [run_guarded]
  cases EStateM.run step s <;> rfl

theorem nextLine_failed (hs : s.phase = .failed) :
    EStateM.run nextLine s = .error .scannerFailed s := by
  rw [nextLine, bind_ok (run_get s), hs]
  rfl

theorem nextLine_alike : Respects Alike Alike Matches nextLine := by
  have hread : Respects Alike Alike Matches (guarded readLine) :=
    (respects_guarded respects_readLine).mono (fun _ _ h => h) fun _ _ => .spent
  refine respects_get_bind (fun s t h => by cases h; rfl) fun s => ?_
  cases s.phase with
  | failed => exact (respects_throw _).mono (fun _ _ h => h) fun _ _ => .alike
  | finished => exact respects_pure false
  | fresh => exact hread
  | streaming => exact hread

theorem refused_nextLine : Refused nextLine := fun _ hs => nextLine_failed hs

theorem respects_nextLine : Respects Matches Matches Matches nextLine :=
  Scan.respects_matches nextLine_alike refused_nextLine.respects

theorem refused_nextRecord : Refused nextRecord := fun _ hs => bind_error (nextLine_failed hs)

theorem respects_nextRecord : Respects Matches Matches Matches nextRecord :=
  Scan.respects_advance_decode respects_nextLine (fun _ => respects_guarded) fun _ _ ⟨_⟩ => rfl

theorem respects_readAll : Respects Matches Matches Matches readAll :=
  Scan.respects_collect_all respects_nextRecord refused_nextRecord fun _ => rfl

end LineScanner
end TickStream
