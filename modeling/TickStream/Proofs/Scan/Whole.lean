import TickStream.Proofs.Metadata.Decoded
import TickStream.Proofs.Scan.Tiling
/-
Whole frames at the front of a source that may fail anywhere.  Main statements: an advance takes
every whole frame, whatever its body holds, so that the frames that are shown are all there are
in front of the first that is not whole; and written one after the other they are shown again.
-/
namespace TickStream

open Step

/-- The frame is a header and as many bytes behind it as it states and its layout has.  Nothing
is asked of what these bytes hold. -/
structure Codec.Whole (c : Codec) (f : Frame) : Prop where
  framed : ∃ body, f.bytes = f.header.encode ++ body ∧ c.Framed f.header body

namespace FrameScanner

variable {s t : FrameScanner} {m : Metadata} {f : Frame} {h : Header} {frames : List Frame}
  {result : Except Error Bool}

/-- From `s` on, the advances show `frames`, and the one behind them gives `result`. -/
def Gives (s : FrameScanner) (frames : List Frame) (result : Except Error Bool) : Prop :=
  ∃ shown, s.Drives shown result ∧ shown.map current = frames.map some

theorem Advanced.current {body : Bytes} (ha : s.Advanced t m h body) :
    t.current = some ⟨h, h.encode ++ body⟩ := by
  rw [FrameScanner.current, ha.header, ha.bytes]
  rfl

theorem currentBytes_of_current (ht : t.current = some f) : t.currentBytes = f.bytes := by
  unfold current at ht
  cases hheader : t.header with
  | none =>
    rw [hheader] at ht
    cases ht
  | some h =>
    rw [hheader] at ht
    injection ht with ht
    rw [← ht]

theorem flatten_of_current {shown : List FrameScanner}
    (hshown : shown.map FrameScanner.current = frames.map some) :
    shown.map currentBytes = frames.map Frame.bytes := by
  induction shown generalizing frames with
  | nil =>
    cases frames with
    | nil => rfl
    | cons f frames => cases hshown
  | cons t shown ih =>
    cases frames with
    | nil => cases hshown
    | cons f frames =>
      injection hshown with ht hshown
      rw [List.map_cons, List.map_cons, currentBytes_of_current ht, ih hshown]

/-- Every advance shows a whole frame. -/
theorem Drives.gives {shown : List FrameScanner} (hd : s.Drives shown result) (hs : s.Opened m) :
    ∃ frames : List Frame, shown.map FrameScanner.current = frames.map some ∧
      ∀ f ∈ frames, m.codec.Whole f := by
  induction hd with
  | ended => exact ⟨[], rfl, fun f hf => absurd hf List.not_mem_nil⟩
  | failed => exact ⟨[], rfl, fun f hf => absurd hf List.not_mem_nil⟩
  | frame hr _ ih =>
    obtain ⟨h, body, hadvanced⟩ := nextFrame_eq_true hs hr
    obtain ⟨frames, hframes, hwhole⟩ := ih hadvanced.opened
    refine ⟨⟨h, h.encode ++ body⟩ :: frames, ?_, ?_⟩
    · rw [List.map_cons, List.map_cons, hadvanced.current, hframes]
    · intro f hf
      rcases List.mem_cons.1 hf with rfl | hf
      · exact ⟨body, rfl, hadvanced.framed⟩
      · exact hwhole f hf

theorem Drives.result_cases {shown : List FrameScanner} (hd : s.Drives shown result) :
    result = .ok false ∨ ∃ e, result = .error e := by
  induction hd with
  | ended => exact .inl rfl
  | failed => exact .inr ⟨_, rfl⟩
  | frame _ _ ih => exact ih

/-- Every frame has bytes of its own. -/
theorem Drives.length_le {shown : List FrameScanner} (hd : s.Drives shown result)
    (hs : s.Opened m) : shown.length ≤ s.source.size := by
  induction hd with
  | ended => exact Nat.zero_le _
  | failed => exact Nat.zero_le _
  | frame hr _ ih =>
    obtain ⟨h, body, hadvanced⟩ := nextFrame_eq_true hs hr
    have hrest := ih hadvanced.opened
    have hhead := hadvanced.size_le
    rw [Header.size] at hhead
    rw [List.length_cons]
    omega

/-! ## A whole frame is always taken -/

theorem run_fill_of_le {n : Nat} (hn : n ≤ s.source.content.length) (position : Nat) :
    ∃ u : Source, u.content = s.source.content.drop n ∧
      EStateM.run (fill position n) s = .ok n { s with
        source := u, scratch := overwrite s.scratch position (s.source.content.take n) } := by
  obtain ⟨u, hread, hrest⟩ := Source.readUpTo_of_le hn
  refine ⟨u, hrest, ?_⟩
  have hlen : (s.source.content.take n).length = n := by
    rw [List.length_take, Nat.min_eq_left hn]
  rw [fill, bind_ok (run_intake_ok (Intake.run_upTo_eq_ok.2 hread))]
  show EStateM.Result.ok (s.source.content.take n).length _ = _
  rw [hlen]

theorem readBody_whole {body rest : Bytes} (hs : s.Opened m)
    (hh : s.scratch.take Header.size = h.encode) (hf : m.codec.Framed h body)
    (hcontent : s.source.content = body ++ rest) : ∃ t, EStateM.run readBody s = .ok () t := by
  have hsize := hf.size
  have hdecode : Header.decode (s.scratch.take Header.size) = .ok h := by
    rw [hh, Header.decode_encode hf.size_le]
  have hcheck : checkSize s.codec? h = .ok () := by
    rw [hs.codec, checkSize_eq_ok.2 hf.layout]
  have hn : h.recordSize - Header.size ≤ s.source.content.length := by
    rw [hcontent, List.length_append]
    omega
  obtain ⟨u, -, hfill⟩ := run_fill_of_le hn Header.size
  obtain ⟨t, hfull⟩ : ∃ t, EStateM.run (fillExactly Header.size (h.recordSize - Header.size)
      "record body" (s.offset + Header.size)) s = .ok () t := by
    rw [fillExactly, bind_ok hfill, if_neg (Nat.lt_irrefl _)]
    exact ⟨_, rfl⟩
  rw [readBody, bind_ok (run_get s), bind_ok (run_ofExcept_ok hdecode s),
    bind_ok (run_ofExcept_ok hcheck s), bind_ok hfull]
  exact ⟨_, rfl⟩

/-- Whatever the bytes behind it are, and however the source fails after them. -/
theorem nextFrame_whole {rest : Bytes} (hs : s.Opened m) (hf : m.codec.Whole f)
    (hcontent : s.source.content = f.bytes ++ rest) :
    ∃ t, EStateM.run nextFrame s = .ok true t := by
  obtain ⟨body, hbytes, hframed⟩ := hf.framed
  have hcontent : s.source.content = f.header.encode ++ (body ++ rest) := by
    rw [hcontent, hbytes, List.append_assoc]
  have hn : Header.size ≤ s.source.content.length := by
    rw [hcontent, List.length_append, f.header.length_encode]
    omega
  obtain ⟨u, hrest, hfill⟩ := run_fill_of_le hn 0
  rw [hcontent, f.header.take_encode_append] at hfill
  rw [hcontent, f.header.drop_encode_append] at hrest
  obtain ⟨hopened, hfront⟩ := hs.overwritten (u := u) f.header.length_encode
  obtain ⟨t, ht⟩ := readBody_whole hopened hfront hframed hrest
  refine ⟨t, nextFrame_ok hs.phase ?_⟩
  rw [readFrame, bind_ok (run_get s), bind_ok hfill, if_neg (by decide)]
  show EStateM.run (if Header.size < Header.size then _ else _) _ = _
  rw [if_neg (Nat.lt_irrefl _), bind_ok ht]
  rfl

/-- There is no whole frame behind the ones that are shown. -/
theorem Drives.not_whole {shown : List FrameScanner} {rest tail : Bytes}
    (hd : s.Drives shown result) (hs : s.Opened m)
    (hcontent : s.source.content = (shown.map currentBytes).flatten ++ rest)
    (hf : m.codec.Whole f) : rest ≠ f.bytes ++ tail := by
  intro hrest
  induction hd with
  | ended hr =>
    obtain ⟨t, ht⟩ := nextFrame_whole hs hf (hcontent.trans hrest)
    rw [ht] at hr
    cases hr
  | failed hr =>
    obtain ⟨t, ht⟩ := nextFrame_whole hs hf (hcontent.trans hrest)
    rw [ht] at hr
    cases hr
  | frame hr _ ih =>
    obtain ⟨h, body, hadvanced⟩ := nextFrame_eq_true hs hr
    refine ih hadvanced.opened ?_
    rw [hadvanced.content, List.map_cons, List.flatten_cons, hadvanced.bytes] at hcontent
    exact List.append_cancel_left (hcontent.trans (List.append_assoc _ _ _))

/-- The frames that are shown are the front of what the source hands out.  Behind them is no
whole frame, and only a clean end leaves nothing. -/
theorem Drives.all_whole {shown : List FrameScanner} (hd : s.Drives shown result)
    (hs : s.Opened m) : ∃ (frames : List Frame) (rest : Bytes),
      shown.map FrameScanner.current = frames.map some ∧ (∀ f ∈ frames, m.codec.Whole f) ∧
      s.source.content = (frames.map Frame.bytes).flatten ++ rest ∧
      (∀ f tail, m.codec.Whole f → rest ≠ f.bytes ++ tail) ∧
      (result = .ok false ↔ rest = [] ∧ s.source.failure = none) := by
  obtain ⟨frames, hframes, hwhole⟩ := hd.gives hs
  obtain ⟨-, rest, hcontent, hresult⟩ := hd.splits hs
  refine ⟨frames, rest, hframes, hwhole, ?_, ?_, hresult⟩
  · rw [hcontent, flatten_of_current hframes]
  · intro f tail hf
    exact hd.not_whole hs hcontent hf

/-! ## Whole frames once more -/

/-- Whole frames, one after the other and with nothing behind them, are shown as they are. -/
theorem Streams.gives (hframes : ∀ f ∈ frames, m.codec.Whole f)
    (hs : s.Streams m (frames.map Frame.bytes).flatten) : s.Gives frames (.ok false) := by
  induction frames generalizing s with
  | nil =>
    obtain ⟨t, ht, -⟩ := nextFrame_nil hs
    exact ⟨[], .ended ht, rfl⟩
  | cons f frames ih =>
    obtain ⟨body, hbytes, hframed⟩ := (hframes f List.mem_cons_self).framed
    rw [List.map_cons, List.flatten_cons, hbytes, List.append_assoc] at hs
    obtain ⟨t, ht, htook⟩ := nextFrame_framed hframed hs
    obtain ⟨shown, hdrives, hshown⟩ :=
      ih (fun f hf => hframes f (List.mem_cons_of_mem _ hf)) htook.streams
    have hcurrent : t.current = some f := by
      rw [current, htook.header, htook.bytes, ← hbytes]
      rfl
    refine ⟨t :: shown, .frame ht hdrives, ?_⟩
    rw [List.map_cons, List.map_cons, hcurrent, hshown]

theorem held_of_readHead {source : Source}
    (h : EStateM.run readHead (ofSource source) = .ok m s) : ∃ n, m.Held n ∧ n < UInt32.size := by
  cases hread : EStateM.run Metadata.read source with
  | ok head u =>
    rw [readHead_ok (s := ofSource source) rfl hread] at h
    injection h with hm
    exact hm ▸ Metadata.held_of_read hread
  | error e u =>
    rw [readHead_error (s := ofSource source) rfl hread] at h
    cases h

/-- Metadata that was decoded and whole frames come out of a scanner again if they are written
one after the other. -/
theorem gives_again {head : Bytes} {source again : Source}
    (h : EStateM.run readHead (ofSource source) = .ok m s) (hm : m.encode = .ok head)
    (hframes : ∀ f ∈ frames, m.codec.Whole f)
    (hs : again.Delivers (head ++ (frames.map Frame.bytes).flatten)) :
    (∃ t, EStateM.run readHead (ofSource again) = .ok m t) ∧
      (ofSource again).Gives frames (.ok false) := by
  obtain ⟨n, hheld, hn⟩ := held_of_readHead h
  obtain ⟨u, hread, hrest⟩ := Metadata.read_of_encodesTo (hheld.encodesTo hn hm) hheld.plain hs
  obtain ⟨t, hstreams, -, -, hhead, hopen⟩ := opens hread hrest
  obtain ⟨shown, hdrives, hshown⟩ := hstreams.gives hframes
  exact ⟨⟨t, hhead⟩, shown, drives_congr hopen.symm hdrives, hshown⟩

end FrameScanner
end TickStream
