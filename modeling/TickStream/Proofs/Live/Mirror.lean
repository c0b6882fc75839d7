import TickStream.Proofs.Live.Standing
/-
A scanner in the place of a session.  Main statement: a session that streams shows for good what
a scanner shows whose source cuts the same bytes in another way, and fails where that fails.
-/
namespace TickStream

open Step
open Scan (Matches Broken Refused)

theorem Scan.Matches.phase_eq {σ : Type} [Scanner σ] {s t : σ} (h : Matches s t) :
    Scanner.phase t = Scanner.phase s := by
  obtain ⟨u⟩ := h.twins
  exact Scanner.phase_onto s u

theorem Step.outcome_giving {ε σ α β : Type} (x : EStateM ε σ α) (g : α → β) (s : σ) :
    outcome (do return g (← x)) s = ((outcome x s).1.map g, (outcome x s).2) := by
  rw [outcome, outcome, EStateM.run_bind]
  cases EStateM.run x s <;> rfl

namespace Live

/-! ## A scanner in the place of a session -/

/-- What callers do with records. -/
inductive Take where
  | record
  | frame

/-- How a session reports what its scanner gives: failures of the source are failures of the
connection, and a scanner that has failed is a session that has. -/
def told {α : Type} (operation : String) : Except Error α → Except Error α
  | .ok a => .ok a
  | .error .scannerFailed => .error (.badState operation SessionState.failed.name)
  | .error e => .error (e.during .streaming)

/-- How a session reports the metadata that its scanner gives at the start. -/
def toldAtStart : Except Error Metadata → Except Error Answer
  | .ok m => .ok (.started (some m))
  | .error e => .error (e.during .readingMetadata)

theorem told_external {α : Type} (operation : String) {e : Error} (he : e.IsExternal) :
    told (α := α) operation (.error e) = .error (e.during .streaming) := by
  cases e <;> first | rfl | exact absurd rfl he

namespace Take

def call : Take → Call
  | record => .nextRecord
  | frame => .nextFrame

/-- What callers get of a scanner with the given advances, as a session reports it. -/
def answer {σ : Type} (nextRecord : EStateM Error σ (Option Record))
    (nextFrame : EStateM Error σ Bool) (take : Take) (s : σ) : Except Error Answer × σ :=
  match take with
  | record => ((told "next_record" (outcome nextRecord s).1).map .record, (outcome nextRecord s).2)
  | frame => ((told "next_frame" (outcome nextFrame s).1).map .advanced, (outcome nextFrame s).2)

/-- The same for a sequence of advances. -/
def answers {σ : Type} (nextRecord : EStateM Error σ (Option Record))
    (nextFrame : EStateM Error σ Bool) (takes : List Take) (s : σ) : List (Except Error Answer) :=
  trace (answer nextRecord nextFrame) takes s

end Take

/-- What callers get of a session for a sequence of advances. -/
def Session.answers (s : Session) (takes : List Take) : List (Except Error Answer) :=
  trace (fun take s => s.perform take.call) takes s

section
variable {σ α : Type} [Scanner σ] {P : σ → Prop} {wrap : σ → Feed} {onFeed : EStateM Error Feed α}
  {onScanner : EStateM Error σ α} {s : Session} {c : σ}

/-- An advance of a feed is one of the scanner in it: it does not depend on how the source is cut,
keeps `P`, and fails for good. -/
structure Advances (P : σ → Prop) (wrap : σ → Feed) (onFeed : EStateM Error Feed α)
    (onScanner : EStateM Error σ α) : Prop where
  wraps : ∀ c, EStateM.run onFeed (wrap c) = Feed.fed wrap (EStateM.run onScanner c)
  respects : Respects Matches Matches Matches onScanner
  refused : Refused onScanner
  ensures : ∀ c, P c → Ensures c onScanner (fun _ d => P d) Broken

/-- The session shows what the scanner `c` shows, or both have failed. -/
inductive Mirrors (P : σ → Prop) (wrap : σ → Feed) (s : Session) (c : σ) : Prop where
  | goes {own : σ} (hstate : s.state = .streaming) (hfeed : s.feed = some (wrap own))
    (hown : P own) (hmatches : Matches own c)
  | failed (hstate : s.state = .failed) (hphase : Scanner.phase c = .failed)

theorem Mirrors.inFeed (hs : Mirrors P wrap s c) (ha : Advances P wrap onFeed onScanner)
    (operation : String) :
    (outcome (Session.inFeed operation onFeed) s).1 = told operation (outcome onScanner c).1 ∧
      Mirrors P wrap (outcome (Session.inFeed operation onFeed) s).2 (outcome onScanner c).2 := by
  cases hs with
  | failed hstate hphase =>
    have hrefused : EStateM.run (Session.inFeed operation onFeed) s =
        .error (.badState operation s.state.name) s := by
      refine Session.run_refused ?_ _
      rw [hstate]
      decide
    rw [outcome, outcome, hrefused, ha.refused c hphase, hstate]
    exact ⟨rfl, .failed hstate hphase⟩
  | @goes own hstate hfeed hown hmatches =>
    have hagree := ha.respects own c hmatches
    have hwraps := ha.wraps own
    have hensures := ha.ensures own hown
    rw [Ensures] at hensures
    rw [outcome, outcome]
    generalize EStateM.run onScanner own = out at hagree hwraps hensures
    generalize EStateM.run onScanner c = out' at hagree
    cases hagree with
    | ok hnext =>
      rw [Session.run_inFeed_ok hstate hfeed hwraps]
      cases hensures with
      | ok hown => exact ⟨rfl, .goes hstate rfl hown hnext⟩
    | error hnext =>
      cases hensures with
      | error hbroken =>
        rw [Session.run_inFeed_error hstate hfeed hwraps hbroken.external]
        refine ⟨(told_external operation hbroken.external).symm, .failed rfl ?_⟩
        exact hnext.phase_eq.trans hbroken.phase

variable {nextRecord : EStateM Error σ (Option Record)} {nextFrame : EStateM Error σ Bool}

theorem Mirrors.take (hs : Mirrors P wrap s c) (hr : Advances P wrap Feed.nextRecord nextRecord)
    (hf : Advances P wrap Feed.nextFrame nextFrame) (take : Take) :
    (s.perform take.call).1 = (take.answer nextRecord nextFrame c).1 ∧
      Mirrors P wrap (s.perform take.call).2 (take.answer nextRecord nextFrame c).2 := by
  cases take with
  | record =>
    obtain ⟨hvalue, hstates⟩ := hs.inFeed hr "next_record"
    rw [Session.perform, Take.call, Call.step, outcome_giving, Take.answer]
    exact ⟨congrArg (Except.map Answer.record) hvalue, hstates⟩
  | frame =>
    obtain ⟨hvalue, hstates⟩ := hs.inFeed hf "next_frame"
    rw [Session.perform, Take.call, Call.step, outcome_giving, Take.answer]
    exact ⟨congrArg (Except.map Answer.advanced) hvalue, hstates⟩

/-- Session and scanner give the same for good. -/
theorem Mirrors.answers_eq (hs : Mirrors P wrap s c)
    (hr : Advances P wrap Feed.nextRecord nextRecord)
    (hf : Advances P wrap Feed.nextFrame nextFrame) (takes : List Take) :
    s.answers takes = Take.answers nextRecord nextFrame takes c :=
  trace_eq_of (fun take _ _ h => h.take hr hf take) takes hs

end

theorem advances_frames_nextRecord :
    Advances (fun c => ∃ m, c.Sound m) .frames Feed.nextRecord FrameScanner.nextRecord where
  wraps := Feed.run_step_frames FrameScanner.nextRecord LineScanner.nextRecord
  respects := FrameScanner.respects_nextRecord
  refused := FrameScanner.refused_nextRecord
  ensures c := by
    rintro ⟨m, hc⟩
    exact hc.nextRecord.mono (fun _ _ h => ⟨m, h⟩) fun _ _ h => h

theorem advances_frames_nextFrame :
    Advances (fun c => ∃ m, c.Sound m) .frames Feed.nextFrame FrameScanner.nextFrame where
  wraps := Feed.run_step_frames FrameScanner.nextFrame LineScanner.nextLine
  respects := FrameScanner.respects_nextFrame
  refused := FrameScanner.refused_nextFrame
  ensures c := by
    rintro ⟨m, hc⟩
    exact hc.nextFrame.mono (fun _ _ h => ⟨m, h.1⟩) fun _ _ h => h

theorem advances_lines_nextRecord :
    Advances LineScanner.Sound .lines Feed.nextRecord LineScanner.nextRecord where
  wraps := Feed.run_step_lines FrameScanner.nextRecord LineScanner.nextRecord
  respects := LineScanner.respects_nextRecord
  refused := LineScanner.refused_nextRecord
  ensures _ hc := hc.nextRecord

theorem advances_lines_nextLine :
    Advances LineScanner.Sound .lines Feed.nextFrame LineScanner.nextLine where
  wraps := Feed.run_step_lines FrameScanner.nextFrame LineScanner.nextLine
  respects := LineScanner.respects_nextLine
  refused := LineScanner.refused_nextLine
  ensures _ hc := hc.nextLine.mono (fun _ _ h => h.1) fun _ _ h => h

end Live
end TickStream
