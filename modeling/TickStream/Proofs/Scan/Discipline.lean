import TickStream.Proofs.Scan.Deliveries
import TickStream.Proofs.Scan.Lines
import TickStream.Proofs.Scan.Outcomes
import TickStream.Proofs.Scan.Turns
/-
What scanners of frames and of lines keep to, whatever callers do with them.  Main statement: a
failure and the end of the stream are final; the frames or lines that are counted are those that
were taken; the last of them is shown as long as nothing has failed since; and metadata is decoded
once at most.
-/
namespace TickStream

open Step

/-! ## Frames -/

namespace FrameScanner

open Scan

variable {s t u : FrameScanner} {k : Nat} {α : Type}

instance : Advancer FrameScanner where
  advance := nextFrame
  next := nextRecord
  taken := frames
  shows s := s.header.isSome

def turns : Operation → FrameScanner → List Turn
  | .nextFrame, s => [turnOf nextFrame s]
  | .nextRecord, s => [turnOf nextRecord s]
  | .records n, s => turnsOf n s
  | .readAll, s => turnsOf (bound s) s
  | _, _ => []

/-- From `s` to `t` as many frames were counted, and no metadata was decoded. -/
structure Tallied (s : FrameScanner) (k : Nat) (t : FrameScanner) : Prop where
  frames : t.frames = s.frames + k
  metadata : t.metadata = s.metadata

theorem Tallied.refl (s : FrameScanner) : s.Tallied 0 s := ⟨rfl, rfl⟩

theorem Tallied.fill (h : s.Tallied k t) (position n : Nat) :
    Ensures t (fill position n) (fun _ u => s.Tallied k u) fun _ u => s.Tallied k u := by
  refine Ensures.bind (Q := fun _ u => s.Tallied k u) (E := fun _ u => s.Tallied k u) ?_
    (fun _ _ h => h) fun bs u hu => ?_
  · rw [Ensures, run_intake]
    cases EStateM.run (Intake.upTo n) t.source with
    | ok bs u => exact .ok ⟨h.frames, h.metadata⟩
    | error e u => exact .error ⟨h.frames, h.metadata⟩
  · exact ensures_modify_bind (ensures_pure ⟨hu.frames, hu.metadata⟩)

theorem Tallied.fillExactly (h : s.Tallied k t) (position n : Nat) (context : String)
    (offset : Nat) : Ensures t (fillExactly position n context offset)
      (fun _ u => s.Tallied k u) fun _ u => s.Tallied k u := by
  refine (h.fill position n).bind (fun _ _ h => h) fun got u hu => ?_
  by_cases hshort : got < n
  · rw [if_pos hshort]
    exact .error hu
  · rw [if_neg hshort]
    exact ensures_pure hu

theorem Tallied.readBody (h : s.Tallied k t) :
    Ensures t readBody (fun _ u => s.Tallied (k + 1) u) fun _ u => s.Tallied k u := by
  refine ensures_get_bind ?_
  refine ensures_ofExcept_bind (fun _ _ => h) fun header _ => ?_
  refine ensures_ofExcept_bind (fun _ _ => h) fun _ _ => ?_
  refine (h.fillExactly _ _ _ _).bind (fun _ _ h => h) fun _ u hu => ?_
  exact ensures_modify ⟨congrArg (· + 1) hu.frames, hu.metadata⟩

theorem tallied_readFrame (s : FrameScanner) :
    Ensures s readFrame (fun more t => s.Tallied more.toNat t) fun _ t => s.Tallied 0 t := by
  refine ensures_get_bind ?_
  refine ((Tallied.refl s).fill 0 Header.size).bind (fun _ _ h => h) fun got t ht => ?_
  by_cases hnone : got = 0
  · rw [if_pos hnone]
    exact ensures_modify_bind (ensures_pure ⟨ht.frames, ht.metadata⟩)
  rw [if_neg hnone]
  by_cases hshort : got < Header.size
  · rw [if_pos hshort]
    exact .error ht
  · rw [if_neg hshort]
    exact ht.readBody.bind (fun _ _ h => h) fun _ u hu => ensures_pure hu

/-- The metadata has been asked for, and this is all that will be known of it. -/
inductive Past (m? : Option Metadata) (s : FrameScanner) : Prop where
  | opened {m : Metadata} (hm : m? = some m) (h : s.Opened m)
  | ended {m : Metadata} (hm : m? = some m) (hphase : s.phase = .finished)
    (hmetadata : s.metadata = some m) (hheader : s.header = none)
  | failed (hphase : s.phase = .failed) (hmetadata : s.metadata = m?) (hheader : s.header = none)

variable {m? : Option Metadata}

theorem Past.not_fresh (h : s.Past m?) : s.phase ≠ .fresh := by
  cases h with
  | opened hm h => rw [h.phase]; decide
  | ended _ hphase => rw [hphase]; decide
  | failed hphase => rw [hphase]; decide

theorem Past.metadata (h : s.Past m?) : s.metadata = m? := by
  cases h with
  | opened hm h => rw [h.metadata, hm]
  | ended hm _ hmetadata => rw [hmetadata, hm]
  | failed _ hmetadata => exact hmetadata

theorem Past.fail (h : s.Past m?) : Past m? { s with phase := .failed, header := none } :=
  .failed rfl h.metadata rfl

theorem Past.advances (h : s.Past m?) : Advances (Past m?) s := by
  cases h with
  | ended hm hphase hmetadata hheader =>
    refine ensures_of_ok (run_nextFrame_finished hphase) ⟨.ended hm hphase hmetadata hheader, ?_⟩
    exact ⟨rfl, congrArg Option.isSome hheader, hphase⟩
  | failed hphase hmetadata hheader =>
    refine ensures_of_error (run_nextFrame_failed hphase) ⟨.failed hphase hmetadata hheader, ?_⟩
    exact ⟨rfl, congrArg Option.isSome hheader, hphase⟩
  | @opened m hm h =>
    have hs : s.Past m? := .opened hm h
    have htally := tallied_readFrame s
    cases hr : EStateM.run readFrame s with
    | error e t =>
      have ht := htally.of_error hr
      refine ensures_of_error (nextFrame_error h.phase hr) ⟨.failed rfl ?_ rfl, ?_⟩
      · exact ht.metadata.trans hs.metadata
      · exact ⟨ht.frames, rfl, rfl⟩
    | ok more t =>
      have ht := htally.of_ok hr
      refine ensures_of_ok (nextFrame_ok h.phase hr) ?_
      cases more with
      | true =>
        obtain ⟨header, body, hadvanced⟩ := readFrame_eq_true h hr
        refine ⟨.opened hm hadvanced.opened, ht.frames, ?_, hadvanced.opened.phase⟩
        exact congrArg Option.isSome hadvanced.header
      | false =>
        obtain ⟨hended, -⟩ := readFrame_eq_false hr
        refine ⟨.ended hm hended.phase (ht.metadata.trans h.metadata) hended.header, ht.frames,
          ?_, hended.phase⟩
        exact congrArg Option.isSome hended.header

/-! ## Calls on scanners of frames -/

/-- Metadata that has been asked for is not decoded again. -/
theorem outcome_readHead_past (hs : s.phase ≠ .fresh) : outcome readHead s =
    (match s.metadata with
      | some m => .ok m
      | none => .error .scannerFailed, s) := by
  have hrun : EStateM.run readHead s = EStateM.run decoded s := by
    rw [readHead_eq, bind_ok (run_get s), if_neg hs]
  rw [outcome, hrun, decoded, bind_ok (run_get s)]
  cases s.metadata <;> rfl

theorem decodes_of_advances {P : FrameScanner → Prop} (h : Advances P s)
    (hfail : ∀ t, P t → P { t with phase := .failed, header := none }) : Decodes P s := by
  refine h.decodes (fun t => { t with phase := .failed, header := none }) rfl (fun step t => ?_)
    fun t ht => ⟨hfail t ht, rfl, rfl, rfl⟩
  rw [run_guarded]
  cases EStateM.run step t <;> rfl

theorem answer_readAll_snd (s : FrameScanner) :
    (answer .readAll s).2 = (results nextRecord (bound s) s).2 := outcome_collect_snd (bound s) s

theorem answer_kept (hs : s.phase ≠ .fresh) (hadvance : (outcome nextFrame s).2 = s)
    (hnext : Stuck s) (op : Operation) : (answer op s).2 = s := by
  cases op with
  | metadata => exact congrArg Prod.snd (outcome_readHead_past hs)
  | nextFrame => exact hadvance
  | nextRecord => exact hnext.outcome
  | records n => exact hnext.results n
  | readAll => exact (answer_readAll_snd s).trans (hnext.results _)
  | currentHeader => rfl
  | currentBytes => rfl
  | currentTsOut => rfl
  | decodeCurrent => rfl

theorem refuses_of_failed (hs : s.phase = .failed) (hheader : s.header = none) :
    Refuses answer s := by
  have hadvance := run_nextFrame_failed hs
  have hpast : s.phase ≠ .fresh := by
    rw [hs]
    decide
  exact refuses_of_run hs hadvance (nextRecord_error hadvance) (congrArg Option.isSome hheader)
    (answer_kept hpast)

theorem over_of_finished (hs : s.phase = .finished) : Over answer s := by
  have hadvance := run_nextFrame_finished hs
  have hpast : s.phase ≠ .fresh := by
    rw [hs]
    decide
  exact over_of_run hadvance (nextRecord_end hadvance) (answer_kept hpast)

theorem lawful_of {P : FrameScanner → Prop} (hadvances : ∀ s, P s → Advances P s)
    (hhead : ∀ s, P s → P (outcome readHead s).2 ∧ Follows s [] (outcome readHead s).2)
    (hfail : ∀ s, P s → P { s with phase := .failed, header := none })
    (hhidden : ∀ s, P s → s.phase = .failed → s.header = none) : Lawful P answer turns := by
  have hdecodes (s : FrameScanner) (hs : P s) := decodes_of_advances (hadvances s hs) hfail
  refine ⟨hadvances, hdecodes, fun op s hs => ?_,
    fun s hs hphase => refuses_of_failed hphase (hhidden s hs hphase),
    fun s _ hphase => over_of_finished hphase⟩
  cases op with
  | metadata => exact hhead s hs
  | nextFrame => exact (hadvances s hs).turned.imp_right Turned.follows
  | nextRecord => exact (hdecodes s hs).turned.imp_right Turned.follows
  | records n => exact results_follow hdecodes hs n
  | readAll =>
    rw [answer_readAll_snd]
    exact results_follow hdecodes hs (bound s)
  | currentHeader => exact ⟨hs, .refl s⟩
  | currentBytes => exact ⟨hs, .refl s⟩
  | currentTsOut => exact ⟨hs, .refl s⟩
  | decodeCurrent => exact ⟨hs, .refl s⟩

theorem Past.hidden (h : s.Past m?) (hphase : s.phase = .failed) : s.header = none := by
  cases h with
  | opened _ h =>
    rw [h.phase] at hphase
    cases hphase
  | ended _ _ _ hheader => exact hheader
  | failed _ _ hheader => exact hheader

theorem lawful_past (m? : Option Metadata) : Lawful (Past m?) answer turns := by
  refine lawful_of (fun _ hs => hs.advances) (fun s hs => ?_) (fun _ hs => hs.fail)
    fun _ hs => hs.hidden
  rw [outcome_readHead_past hs.not_fresh]
  exact ⟨hs, .refl s⟩

/-- The metadata has been asked for. -/
def Known (s : FrameScanner) : Prop := ∃ m?, s.Past m?

/-- Nothing has been read, or the metadata has been asked for. -/
def Stands (source : Source) (s : FrameScanner) : Prop := s = ofSource source ∨ s.Known

variable {source : Source}

/-- A call for the metadata leaves a scanner that knows it, or has failed at it. -/
theorem Stands.head (hs : s.Stands source) :
    Known (outcome readHead s).2 ∧ Follows s [] (outcome readHead s).2 ∧
      ∀ e, (outcome readHead s).1 = .error e → (outcome readHead s).2.phase = .failed := by
  obtain rfl | ⟨m?, hpast⟩ := hs
  · cases hread : EStateM.run Metadata.read source with
    | ok head u =>
      have hrun := readHead_ok (s := ofSource source) rfl hread
      rw [outcome, hrun]
      exact ⟨⟨_, .opened rfl ⟨rfl, rfl, Bytes.length_zeros capacity⟩⟩, ⟨rfl, rfl⟩,
        fun e h => by cases h⟩
    | error e u =>
      have hrun := readHead_error (s := ofSource source) rfl hread
      rw [outcome, hrun]
      exact ⟨⟨none, .failed rfl rfl rfl⟩, ⟨rfl, rfl⟩, fun _ _ => rfl⟩
  · rw [outcome_readHead_past hpast.not_fresh]
    refine ⟨⟨m?, hpast⟩, .refl s, fun e he => ?_⟩
    cases hpast with
    | opened _ h =>
      rw [h.metadata] at he
      cases he
    | ended _ _ hmetadata =>
      rw [hmetadata] at he
      cases he
    | failed hphase => exact hphase

theorem Stands.advances (hs : s.Stands source) : Advances Known s := by
  obtain rfl | ⟨m?, hpast⟩ := hs
  · cases hread : EStateM.run Metadata.read source with
    | error e u =>
      have hrun := readHead_error (s := ofSource source) rfl hread
      refine ensures_of_error (nextFrame_fresh_error rfl hrun) ⟨⟨none, .failed rfl rfl rfl⟩, ?_⟩
      exact ⟨rfl, rfl, rfl⟩
    | ok head u =>
      -- The advance is that of the scanner that has decoded its metadata.
      have hrun := readHead_ok (s := ofSource source) rfl hread
      have hpast : Past (some head.1) { ofSource source with
          source := u, metadata := some head.1, phase := .streaming, offset := head.2 } :=
        .opened rfl ⟨rfl, rfl, Bytes.length_zeros capacity⟩
      show EndsIn _ _ (EStateM.run nextFrame (ofSource source))
      rw [nextFrame_fresh rfl rfl hrun]
      refine hpast.advances.mono (fun more t ht => ?_) fun e t ht => ?_
      · exact ⟨⟨_, ht.1⟩, ht.2.taken, ht.2.shows, ht.2.phase⟩
      · exact ⟨⟨_, ht.1⟩, ht.2.taken, ht.2.shows, ht.2.phase⟩
  · refine hpast.advances.mono (fun more t ht => ?_) fun e t ht => ?_
    · exact ⟨⟨m?, ht.1⟩, ht.2⟩
    · exact ⟨⟨m?, ht.1⟩, ht.2⟩

theorem Known.fail (h : s.Known) : Known { s with phase := .failed, header := none } := by
  obtain ⟨m?, hpast⟩ := h
  exact ⟨m?, hpast.fail⟩

theorem lawful_stands (source : Source) : Lawful (Stands source) answer turns := by
  refine lawful_of (fun s hs => ?_) (fun s hs => ?_) (fun s hs => ?_) fun s hs hphase => ?_
  · exact hs.advances.mono (fun _ _ h => ⟨.inr h.1, h.2⟩) fun _ _ h => ⟨.inr h.1, h.2⟩
  · obtain ⟨hknown, hfollows, -⟩ := hs.head
    exact ⟨.inr hknown, hfollows⟩
  · obtain rfl | hknown := hs
    · exact .inr ⟨none, .failed rfl rfl rfl⟩
    · exact .inr hknown.fail
  · obtain rfl | ⟨m?, hpast⟩ := hs
    · cases hphase
    · exact hpast.hidden hphase

/-- The metadata is not decoded any more, whatever callers do. -/
structure Settled (s : FrameScanner) : Prop where
  not_fresh : ∀ ops, (after answer ops s).phase ≠ .fresh
  metadata : ∀ ops, (after answer ops s).metadata = s.metadata
  kept : ∀ ops, (outcome readHead (after answer ops s)).2 = after answer ops s

theorem Known.settled (h : s.Known) : s.Settled := by
  obtain ⟨m?, hpast⟩ := h
  have hafter (ops : List Operation) := ((lawful_past m?).run hpast ops).1
  refine ⟨fun ops => (hafter ops).not_fresh, fun ops => ?_, fun ops => ?_⟩
  · rw [(hafter ops).metadata, hpast.metadata]
  · rw [outcome_readHead_past (hafter ops).not_fresh]

/-- What is only true of scanners of frames. -/
structure Headed (s : FrameScanner) : Prop where
  by_head : Settled (outcome readHead s).2
  by_frame : Settled (outcome nextFrame s).2
  by_record : Settled (outcome nextRecord s).2
  head_failed : ∀ e, (outcome readHead s).1 = .error e → Refuses answer (outcome readHead s).2

theorem hidden_of_refuses (h : Refuses answer s) : s.isFailed = true ∧ s.header = none ∧
    s.currentBytes = [] ∧ s.currentTsOut? = none := by
  have hphase : s.phase = .failed := h.failed
  have hhidden : s.header.isSome = false := h.hidden
  have hheader : s.header = none := by simpa using hhidden
  refine ⟨?_, hheader, ?_, ?_⟩
  · rw [isFailed, hphase]
    rfl
  · rw [currentBytes, currentSize, hheader]
    rfl
  · rw [currentTsOut?, hheader]
    cases s.codec? <;> rfl

theorem Stands.headed (hs : s.Stands source) : s.Headed := by
  obtain ⟨hknown, -, hfailed⟩ := hs.head
  have hdecodes := decodes_of_advances hs.advances fun _ h => h.fail
  refine ⟨hknown.settled, hs.advances.turned.1.settled, hdecodes.turned.1.settled,
    fun e he => ?_⟩
  exact (lawful_stands source).refuses _ (.inr hknown) (hfailed e he)

end FrameScanner

/-! ## Lines -/

namespace LineScanner

open Scan

variable {s t : LineScanner}

instance : Advancer LineScanner where
  advance := nextLine
  next := nextRecord
  taken := records
  shows s := !s.current.isEmpty

/-- The turns that an operation takes. -/
def turns : Operation → LineScanner → List Turn
  | .nextLine, s => [turnOf nextLine s]
  | .nextRecord, s => [turnOf nextRecord s]
  | .records n, s => turnsOf n s
  | .readAll, s => turnsOf (bound s) s
  | _, _ => []

/-- There is a line to look at only as long as the scanner goes on. -/
structure Stands (s : LineScanner) : Prop where
  phase : s.phase ≠ .fresh
  current : s.phase ≠ .streaming → s.current = ""

theorem Stands.fail (s : LineScanner) : Stands { s with phase := .failed, current := "" } :=
  ⟨nofun, fun _ => rfl⟩

theorem turned_readLine (hs : s.phase = .streaming) : Ensures s readLine
    (fun more t => Turned s ⟨more, false⟩ t) fun _ t => t.records = s.records := by
  -- Every line that is passed leaves less of the source.
  induction hsize : s.source.size using Nat.strongRecOn generalizing s with
  | ind n ih =>
    show EndsIn _ _ (readLine s)
    rcases hread : s.source.readUntil newline (limit + 1) with ⟨got, u⟩
    cases got with
    | error fault =>
      rw [readLine_fault hread]
      exact .error rfl
    | ok bs =>
      cases bs with
      | nil =>
        rw [readLine_end hread]
        exact .ok ⟨rfl, rfl, rfl⟩
      | cons b bs =>
        rw [readLine_line hread, onLine]
        cases content? (b :: bs) with
        | none => exact .error rfl
        | some content =>
          have hless : u.size < n := hsize ▸ Source.size_readUntil hread
          have hnext := ih u.size hless (s := s.passed u (b :: bs)) hs rfl
          show EndsIn _ _ (if content.all isBlank then readLine (s.passed u (b :: bs)) else _)
          split
          · exact hnext.mono (fun _ _ h => ⟨h.taken, h.shows, h.phase⟩) fun _ _ h => h
          · rename_i hblank
            split
            · exact .error rfl
            · rename_i text htext
              have hne := ne_empty_of_not_blank hblank htext
              refine .ok ⟨rfl, ?_, hs⟩
              show (!text.isEmpty) = true
              simpa using hne

theorem run_nextLine_finished (hs : s.phase = .finished) :
    EStateM.run nextLine s = .ok false s := by
  rw [nextLine, bind_ok (run_get s), hs]
  rfl

theorem Stands.shows (hs : s.Stands) (hphase : s.phase ≠ .streaming) :
    Advancer.shows s = false := by
  show (!s.current.isEmpty) = false
  rw [hs.current hphase]
  rfl

theorem stands_of_turned {more : Bool} (h : Turned s ⟨more, false⟩ t) : t.Stands := by
  have hphase : t.phase = if more then .streaming else .finished := h.phase
  cases more with
  | true =>
    refine ⟨?_, fun hne => absurd hphase hne⟩
    rw [hphase]
    nofun
  | false =>
    refine ⟨?_, fun _ => ?_⟩
    · rw [hphase]
      nofun
    · have hshows : (!t.current.isEmpty) = false := h.shows
      simpa using hshows

theorem Stands.advances (hs : s.Stands) : Advances Stands s := by
  cases hphase : s.phase with
  | fresh => exact absurd hphase hs.phase
  | failed =>
    have hshows := hs.shows (by rw [hphase]; decide)
    exact ensures_of_error (nextLine_failed hphase) ⟨hs, rfl, hshows, hphase⟩
  | finished =>
    have hshows := hs.shows (by rw [hphase]; decide)
    exact ensures_of_ok (run_nextLine_finished hphase) ⟨hs, rfl, hshows, hphase⟩
  | streaming =>
    have hread := turned_readLine hphase
    cases hr : readLine s with
    | error e t =>
      have htaken : t.records = s.records := hread.of_error hr
      exact ensures_of_error (nextLine_error hphase hr) ⟨.fail t, htaken, rfl, rfl⟩
    | ok more t =>
      have hturned := hread.of_ok hr
      exact ensures_of_ok (nextLine_ok hphase hr) ⟨stands_of_turned hturned, hturned⟩

theorem decodes_of_advances {P : LineScanner → Prop} (h : Advances P s)
    (hfail : ∀ t, P t → P { t with phase := .failed, current := "" }) : Decodes P s := by
  refine h.decodes (fun t => { t with phase := .failed, current := "" }) rfl
    (fun step t => ?_) fun t ht => ⟨hfail t ht, rfl, rfl, rfl⟩
  rw [run_guarded]
  cases EStateM.run step t <;> rfl

theorem answer_readAll_snd (s : LineScanner) :
    (answer .readAll s).2 = (results nextRecord (bound s) s).2 := outcome_collect_snd (bound s) s

theorem answer_kept (hadvance : (outcome nextLine s).2 = s) (hnext : Stuck s) (op : Operation) :
    (answer op s).2 = s := by
  cases op with
  | nextLine => exact hadvance
  | nextRecord => exact hnext.outcome
  | records n => exact hnext.results n
  | readAll => exact (answer_readAll_snd s).trans (hnext.results _)
  | currentLine => rfl
  | decodeCurrent => rfl

theorem Stands.refuses (hs : s.Stands) (hphase : s.phase = .failed) : Refuses answer s := by
  have hshows := hs.shows (by rw [hphase]; decide)
  exact refuses_of_run hphase (nextLine_failed hphase) (refused_nextRecord s hphase) hshows
    answer_kept

theorem over_of_finished (hphase : s.phase = .finished) : Over answer s := by
  have hadvance := run_nextLine_finished hphase
  exact over_of_run hadvance (bind_ok hadvance) answer_kept

theorem lawful_of {P : LineScanner → Prop} (hadvances : ∀ s, P s → Advances P s)
    (hfail : ∀ s, P s → P { s with phase := .failed, current := "" })
    (hstands : ∀ s, P s → s.Stands) : Lawful P answer turns := by
  have hdecodes (s : LineScanner) (hs : P s) := decodes_of_advances (hadvances s hs) hfail
  refine ⟨hadvances, hdecodes, fun op s hs => ?_,
    fun s hs hphase => (hstands s hs).refuses hphase, fun _ _ hphase => over_of_finished hphase⟩
  cases op with
  | nextLine => exact (hadvances s hs).turned.imp_right Turned.follows
  | nextRecord => exact (hdecodes s hs).turned.imp_right Turned.follows
  | records n => exact results_follow hdecodes hs n
  | readAll =>
    rw [answer_readAll_snd]
    exact results_follow hdecodes hs (bound s)
  | currentLine => exact ⟨hs, .refl s⟩
  | decodeCurrent => exact ⟨hs, .refl s⟩

theorem lawful_stands : Lawful Stands answer turns :=
  lawful_of (fun _ hs => hs.advances) (fun s _ => .fail s) fun _ hs => hs

theorem hidden_of_refuses (h : Refuses answer s) : s.isFailed = true ∧ s.current = "" := by
  have hphase : s.phase = .failed := h.failed
  have hhidden : (!s.current.isEmpty) = false := h.hidden
  refine ⟨?_, by simpa using hhidden⟩
  rw [isFailed, hphase]
  rfl

end LineScanner

/-! ## Every sequence of operations -/

namespace Scan

/-- Whatever callers do with scanners, and wherever the sources of these end or fail. -/
theorem scanners_disciplined :
    (∀ (source : Source) (ops : List FrameScanner.Operation),
      let s := FrameScanner.ofSource source
      let t := after FrameScanner.answer ops s
      Disciplined FrameScanner.answer t
        (history FrameScanner.answer FrameScanner.turns ops s) ∧ t.Headed) ∧
    (∀ s : FrameScanner, Refuses FrameScanner.answer s →
      s.isFailed = true ∧ s.header = none ∧ s.currentBytes = [] ∧ s.currentTsOut? = none) ∧
    (∀ (source : Source) (codec : Codec) (ops : List LineScanner.Operation),
      let s := LineScanner.ofSource source codec
      Disciplined LineScanner.answer (after LineScanner.answer ops s)
        (history LineScanner.answer LineScanner.turns ops s)) ∧
    ∀ s : LineScanner, Refuses LineScanner.answer s → s.isFailed = true ∧ s.current = "" := by
  refine ⟨fun source ops => ?_, fun _ => FrameScanner.hidden_of_refuses,
    fun source codec ops => ?_, fun _ => LineScanner.hidden_of_refuses⟩
  · have hlawful := FrameScanner.lawful_stands source
    have hs : (FrameScanner.ofSource source).Stands source := .inl rfl
    exact ⟨hlawful.disciplined hs rfl rfl ops, (hlawful.run hs ops).1.headed⟩
  · have hs : (LineScanner.ofSource source codec).Stands := ⟨nofun, fun _ => rfl⟩
    exact LineScanner.lawful_stands.disciplined hs rfl rfl ops

end Scan
end TickStream
