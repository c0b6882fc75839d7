import TickStream.Proofs.Scan.FrameDeliveries
import TickStream.Proofs.Scan.Whole
/-
Frames with other bodies.  Main statement: whole frames with the same headers are shown in the
place of others, and what comes behind them is the same.
-/
namespace TickStream

open Step

namespace FrameScanner

variable {s t : FrameScanner} {m : Metadata} {f : Frame} {α : Type}

/-! ## What earlier frames have left -/

def SameSource (s t : FrameScanner) : Prop := s.source.Alike t.source

def Any (_ _ : FrameScanner) : Prop := True

theorem sameSource_intake {r : Intake α}
    (hr : Respects Source.Alike Source.Alike Intake.Lost r) :
    Respects SameSource SameSource Any (intake r) := by
  intro s t h
  have hagree := hr _ _ h
  rw [run_intake, run_intake]
  generalize EStateM.run r s.source = out at hagree
  generalize EStateM.run r t.source = out' at hagree
  cases hagree with
  | ok h => exact .ok h
  | error => exact .error trivial

theorem sameSource_fill (position n : Nat) :
    Respects SameSource SameSource Any (fill position n) := by
  refine (sameSource_intake (Intake.respects_upTo n)).bind fun bs => ?_
  refine Respects.bind (Q := SameSource) (respects_modify ?_) fun _ => respects_pure _
  exact fun _ _ h => h

theorem sameSource_fillExactly (position n : Nat) (context : String) (offset : Nat) :
    Respects SameSource SameSource Any (fillExactly position n context offset) := by
  refine (sameSource_fill position n).bind fun got => Respects.ite ?_ (respects_pure _)
  exact (respects_throw _).mono (fun _ _ h => h) fun _ _ _ => trivial

/-- The scanners stand at the same position in front of the same bytes.  What earlier frames have
left in their scratch bytes may differ. -/
structure Level (s t : FrameScanner) (m : Metadata) : Prop where
  left : s.Opened m
  right : t.Opened m
  offset : s.offset = t.offset
  source : s.SameSource t

theorem Level.readBody (hl : s.Level t m)
    (hfront : s.scratch.take Header.size = t.scratch.take Header.size) :
    Agree Any Any (EStateM.run readBody s) (EStateM.run readBody t) := by
  rw [FrameScanner.readBody, bind_ok (run_get s), bind_ok (run_get t), hfront, hl.left.codec,
    hl.right.codec, hl.offset]
  have hrest (h : Header) : Respects SameSource Any Any (do
      ofExcept (checkSize (some m.codec) h)
      fillExactly Header.size (h.recordSize - Header.size) "record body" (t.offset + Header.size)
      modify fun s => { s with
        offset := s.offset + h.recordSize, frames := s.frames + 1, header := some h }) := by
    refine Respects.bind (Q := SameSource) ?_ fun _ => ?_
    · exact (respects_ofExcept _).mono (fun _ _ h => h) fun _ _ _ => trivial
    · exact (sameSource_fillExactly _ _ _ _).bind fun _ => respects_modify fun _ _ _ => trivial
  refine Respects.bind (P := SameSource) (Q := SameSource) ?_ hrest s t hl.source
  exact (respects_ofExcept _).mono (fun _ _ h => h) fun _ _ _ => trivial

theorem run_fill_ok {position n : Nat} {bs : Bytes} {u : Source}
    (h : EStateM.run (Intake.upTo n) s.source = .ok bs u) : EStateM.run (fill position n) s =
      .ok bs.length { s with source := u, scratch := overwrite s.scratch position bs } := by
  rw [fill, bind_ok (run_intake_ok h)]
  rfl

theorem Level.readFrame (hl : s.Level t m) :
    Agree Any Any (EStateM.run readFrame s) (EStateM.run readFrame t) := by
  have hagree := Intake.respects_upTo Header.size _ _ hl.source
  rw [FrameScanner.readFrame, bind_ok (run_get s), bind_ok (run_get t)]
  generalize hs : EStateM.run (Intake.upTo Header.size) s.source = out at hagree
  generalize ht : EStateM.run (Intake.upTo Header.size) t.source = out' at hagree
  cases hagree with
  | error =>
    rw [fill, bind_error (bind_error (run_intake_error hs)),
      bind_error (bind_error (run_intake_error ht))]
    exact .error trivial
  | @ok bs u v hrest =>
    rw [bind_ok (run_fill_ok hs), bind_ok (run_fill_ok ht)]
    by_cases hnone : bs.length = 0
    · rw [if_pos hnone, if_pos hnone]
      exact .ok trivial
    rw [if_neg hnone, if_neg hnone]
    by_cases hshort : bs.length < Header.size
    · rw [if_pos hshort, if_pos hshort, hl.offset]
      exact .error trivial
    rw [if_neg hshort, if_neg hshort]
    have hle := (Source.readUpTo_eq_ok (Intake.run_upTo_eq_ok.1 hs)).2.2.1
    have hlen : bs.length = Header.size := by omega
    obtain ⟨hleft, hfront⟩ := hl.left.overwritten (u := u) hlen
    obtain ⟨hright, hfront'⟩ := hl.right.overwritten (u := v) hlen
    have hbody := Level.readBody ⟨hleft, hright, hl.offset, hrest⟩ (hfront.trans hfront'.symm)
    show Agree Any Any (EStateM.run (do FrameScanner.readBody; return true) _)
      (EStateM.run (do FrameScanner.readBody; return true) _)
    rw [EStateM.run_bind, EStateM.run_bind]
    generalize EStateM.run FrameScanner.readBody _ = left at hbody
    generalize EStateM.run FrameScanner.readBody _ = right at hbody
    cases hbody with
    | ok => exact .ok trivial
    | error => exact .error trivial

theorem Level.nextFrame (hl : s.Level t m) :
    Agree Any Any (EStateM.run nextFrame s) (EStateM.run nextFrame t) := by
  have hagree := hl.readFrame
  rw [run_nextFrame_streaming hl.left.phase, run_nextFrame_streaming hl.right.phase, run_guarded,
    run_guarded]
  generalize EStateM.run FrameScanner.readFrame s = left at hagree
  generalize EStateM.run FrameScanner.readFrame t = right at hagree
  cases hagree with
  | ok => exact .ok trivial
  | error => exact .error trivial

/-! ## Other bodies -/

theorem eq_of_encode_append {h k : Header} {x y : Bytes} (hh : Header.size ≤ h.recordSize)
    (hk : Header.size ≤ k.recordSize) (heq : h.encode ++ x = k.encode ++ y) : h = k ∧ x = y := by
  have hlen : h.encode.length = k.encode.length := by rw [h.length_encode, k.length_encode]
  obtain ⟨hencode, hrest⟩ := List.append_inj heq hlen
  have hdecode := Header.decode_encode hh
  rw [hencode, Header.decode_encode hk] at hdecode
  injection hdecode with hdecode
  exact ⟨hdecode.symm, hrest⟩

/-- A whole frame is taken, and nothing else. -/
theorem nextFrame_takes {rest : Bytes} (hs : s.Opened m) (hf : m.codec.Whole f)
    (hcontent : s.source.content = f.bytes ++ rest) :
    ∃ t, EStateM.run FrameScanner.nextFrame s = .ok true t ∧ t.Opened m ∧ t.current = some f ∧
      t.source.content = rest ∧ s.source.failure = t.source.failure ∧
      t.offset = s.offset + f.header.recordSize := by
  obtain ⟨t, ht⟩ := nextFrame_whole hs hf hcontent
  obtain ⟨h, body, hadvanced⟩ := nextFrame_eq_true hs ht
  obtain ⟨body', hbytes, hframed⟩ := hf.framed
  have hsame := hadvanced.content
  rw [hcontent, hbytes, List.append_assoc, List.append_assoc] at hsame
  obtain ⟨rfl, hbehind⟩ :=
    eq_of_encode_append hframed.size_le hadvanced.framed.size_le hsame
  have hlen : body'.length = body.length := by
    have := hframed.size
    have := hadvanced.framed.size
    omega
  obtain ⟨rfl, rfl⟩ := List.append_inj hbehind hlen
  refine ⟨t, ht, hadvanced.opened, ?_, rfl, hadvanced.failure, hadvanced.offset⟩
  rw [hadvanced.current, ← hbytes]

/-- At the same position `s` has `frames` in front of it, `t` has whole frames with the same
headers, and behind these their sources are the same. -/
structure Parallel (s t : FrameScanner) (m : Metadata) (frames others : List Frame)
    (rest : Bytes) : Prop where
  left : s.Opened m
  right : t.Opened m
  offset : s.offset = t.offset
  failure : s.source.failure = t.source.failure
  content : s.source.content = (frames.map Frame.bytes).flatten ++ rest
  replaced : t.source.content = (others.map Frame.bytes).flatten ++ rest
  headers : others.map Frame.header = frames.map Frame.header
  whole : ∀ f ∈ others, m.codec.Whole f

variable {u : FrameScanner} {frames others : List Frame} {g : Frame} {rest : Bytes}
  {result : Except Error Bool}

/-- One frame further the scanners are in parallel again. -/
theorem Parallel.advance (hp : s.Parallel t m (f :: frames) (g :: others) rest)
    (hr : EStateM.run FrameScanner.nextFrame s = .ok true u) (hu : u.current = some f) :
    ∃ v, EStateM.run FrameScanner.nextFrame t = .ok true v ∧ v.current = some g ∧
      u.Parallel v m frames others rest := by
  obtain ⟨h, body, hadvanced⟩ := nextFrame_eq_true hp.left hr
  rw [hadvanced.current] at hu
  injection hu with hu
  subst hu
  injection hp.headers with hheader hheaders
  have hfront : s.source.content = (h.encode ++ body) ++
      ((frames.map Frame.bytes).flatten ++ rest) := hp.content.trans (List.append_assoc _ _ _)
  have hothers : t.source.content = g.bytes ++ ((others.map Frame.bytes).flatten ++ rest) :=
    hp.replaced.trans (List.append_assoc _ _ _)
  have hwhole := List.forall_mem_cons.1 hp.whole
  obtain ⟨v, hv, hopened, hcurrent, hcontent, hfailure, hoffset⟩ :=
    nextFrame_takes hp.right hwhole.1 hothers
  refine ⟨v, hv, hcurrent, hadvanced.opened, hopened, ?_, ?_, ?_, hcontent, hheaders, hwhole.2⟩
  · rw [hadvanced.offset, hoffset, hp.offset, hheader]
  · rw [← hadvanced.failure, ← hfailure, hp.failure]
  · exact List.append_cancel_left (hadvanced.content.symm.trans hfront)

theorem Level.drives_nil (hl : s.Level t m) (hd : s.Drives [] result) : t.Drives [] result := by
  have hagree := hl.nextFrame
  generalize ht : EStateM.run FrameScanner.nextFrame t = out at hagree
  cases hd with
  | ended hr =>
    rw [hr] at hagree
    cases hagree with
    | ok => exact .ended ht
  | failed hr =>
    rw [hr] at hagree
    cases hagree with
    | error => exact .failed ht

theorem Parallel.gives_nil (hp : s.Parallel t m [] others rest) (hd : s.Drives [] result) :
    t.Gives others result := by
  have hnil : others = [] := List.map_eq_nil_iff.1 hp.headers
  subst hnil
  have hl : s.Level t m :=
    ⟨hp.left, hp.right, hp.offset, hp.content.trans hp.replaced.symm, hp.failure⟩
  exact ⟨[], hl.drives_nil hd, rfl⟩

/-- Whole frames with other bodies are shown in the place of those with the same headers, and the
advance behind them gives the same. -/
theorem Parallel.gives (hp : s.Parallel t m frames others rest) (hg : s.Gives frames result) :
    t.Gives others result := by
  obtain ⟨shown, hdrives, hshown⟩ := hg
  induction hdrives generalizing t frames others with
  | ended hr =>
    rw [List.map_eq_nil_iff.1 hshown.symm] at hp
    exact hp.gives_nil (.ended hr)
  | failed hr =>
    rw [List.map_eq_nil_iff.1 hshown.symm] at hp
    exact hp.gives_nil (.failed hr)
  | frame hr _ ih =>
    cases frames with
    | nil => cases hshown
    | cons f frames =>
      cases others with
      | nil => cases hp.headers
      | cons g others =>
        injection hshown with hcurrent hshown
        obtain ⟨v, hv, hshows, hnext⟩ := hp.advance hr hcurrent
        obtain ⟨later, hdrives, hlater⟩ := ih hnext hshown
        refine ⟨v :: later, .frame hv hdrives, ?_⟩
        rw [List.map_cons, List.map_cons, hshows, hlater]

end FrameScanner
end TickStream
