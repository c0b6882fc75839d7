import TickStream.Proofs.Metadata.Frame
import TickStream.Proofs.Record.Framing
import TickStream.Scan.Frames
/-
What one advance of a scanner of frames does when its source does not fail: it takes a whole
frame off the front of the bytes that are left, meets the end when none are left, and says what is
missing of a frame that is cut off.
-/
namespace TickStream

open Step

namespace Codec

/-- The header can be that of a frame: it has room for itself, and states the size that the
layout of its tag has. -/
structure Admits (c : Codec) (h : Header) : Prop where
  size : Header.size ≤ h.recordSize
  layout : ∀ k, Kind.ofTag? h.tag = some k → h.recordSize = c.size k

theorem Framed.admits {c : Codec} {h : Header} {body : Bytes} (hf : c.Framed h body) :
    c.Admits h := ⟨hf.size_le, hf.layout⟩

end Codec

namespace FrameScanner

variable {s t : FrameScanner} {m : Metadata} {bs : Bytes} {h : Header}

/-! ## The parts of a step -/

section
variable {α : Type} {a : α} {e : Error}

theorem run_intake (r : Intake α) (s : FrameScanner) :
    EStateM.run (intake r) s = match EStateM.run r s.source with
      | .ok a source => .ok a { s with source := source }
      | .error e source => .error e { s with source := source } := rfl

theorem run_intake_ok {r : Intake α} {source : Source}
    (hr : EStateM.run r s.source = .ok a source) :
    EStateM.run (intake r) s = .ok a { s with source := source } := by
  rw [run_intake, hr]

theorem run_intake_error {r : Intake α} {source : Source}
    (hr : EStateM.run r s.source = .error e source) :
    EStateM.run (intake r) s = .error e { s with source := source } := by
  rw [run_intake, hr]

theorem run_guarded (step : Step α) (s : FrameScanner) :
    EStateM.run (guarded step) s = match EStateM.run step s with
      | .ok a s => .ok a s
      | .error e s => .error e { s with phase := .failed, header := none } := rfl

theorem run_guarded_ok {step : Step α} (hs : EStateM.run step s = .ok a t) :
    EStateM.run (guarded step) s = .ok a t := by
  rw [run_guarded, hs]

theorem run_guarded_error {step : Step α} (hs : EStateM.run step s = .error e t) :
    EStateM.run (guarded step) s = .error e { t with phase := .failed, header := none } := by
  rw [run_guarded, hs]

end

theorem run_nextFrame (s : FrameScanner) :
    EStateM.run nextFrame s = EStateM.run (match s.phase with
      | .failed => throw .scannerFailed
      | .finished => return false
      | .fresh => do
        let _ ← readHead
        guarded readFrame
      | .streaming => guarded readFrame) s := rfl

theorem run_nextFrame_streaming (hs : s.phase = .streaming) :
    EStateM.run nextFrame s = EStateM.run (guarded readFrame) s := by
  rw [run_nextFrame, hs]

theorem run_nextFrame_finished (hs : s.phase = .finished) :
    EStateM.run nextFrame s = .ok false s := by
  rw [run_nextFrame, hs]
  rfl

theorem run_nextFrame_failed (hs : s.phase = .failed) :
    EStateM.run nextFrame s = .error .scannerFailed s := by
  rw [run_nextFrame, hs]
  rfl

/-! ## The scratch bytes -/

section
variable {scratch : Bytes} {position : Nat}

theorem length_overwrite (hfits : position + bs.length ≤ scratch.length) :
    (overwrite scratch position bs).length = scratch.length := by
  rw [overwrite, List.length_append, List.length_append, List.length_take, List.length_drop]
  omega

/-- What is read into the scratch bytes stands behind what stood there before. -/
theorem take_overwrite (bs : Bytes) (hfits : position ≤ scratch.length) :
    (overwrite scratch position bs).take (position + bs.length) =
      scratch.take position ++ bs := by
  have hlen : (scratch.take position ++ bs).length = position + bs.length := by
    rw [List.length_append, List.length_take, Nat.min_eq_left hfits]
  rw [overwrite, ← hlen, List.take_left]

theorem run_fill (hs : s.source.Delivers bs) (position n : Nat) :
    ∃ u : Source, u.Delivers (bs.drop n) ∧ EStateM.run (fill position n) s =
      .ok (bs.take n).length
        { s with source := u, scratch := overwrite s.scratch position (bs.take n) } := by
  obtain ⟨u, hu, hrest⟩ := Intake.upTo_of_delivers hs n
  refine ⟨u, hrest, ?_⟩
  rw [fill, bind_ok (run_intake_ok hu)]
  rfl

end

theorem recordSize_le_capacity (h : Header) : h.recordSize ≤ capacity := by
  have := h.length.toNat_lt
  rw [Header.recordSize, capacity]
  omega

/-! ## Scanners that have decoded their metadata -/

/-- The metadata has been decoded, and the source hands out `bs` from here on. -/
structure Streams (s : FrameScanner) (m : Metadata) (bs : Bytes) : Prop where
  phase : s.phase = .streaming
  metadata : s.metadata = some m
  scratch : s.scratch.length = capacity
  source : s.source.Delivers bs

theorem Streams.codec (hs : s.Streams m bs) : s.codec? = some m.codec := by
  rw [codec?, hs.metadata]
  rfl

/-- From `s` to `t` the frame `f` with the header `h` was taken, and the source hands out `rest`
after it. -/
structure Took (s t : FrameScanner) (m : Metadata) (h : Header) (f rest : Bytes) : Prop where
  streams : t.Streams m rest
  header : t.header = some h
  bytes : t.currentBytes = f
  offset : t.offset = s.offset + h.recordSize
  frames : t.frames = s.frames + 1

theorem Took.size {f rest : Bytes} (ht : s.Took t m h f rest) : t.currentSize = h.recordSize := by
  rw [currentSize, ht.header]
  rfl

/-- From `s` to `t` the end of the stream was met. -/
structure Ended (s t : FrameScanner) : Prop where
  phase : t.phase = .finished
  header : t.header = none
  metadata : t.metadata = s.metadata
  frames : t.frames = s.frames

theorem checkSize_eq_ok {c : Codec} :
    checkSize (some c) h = .ok () ↔
      ∀ k, Kind.ofTag? h.tag = some k → h.recordSize = c.size k := by
  simp only [checkSize, Option.bind_some, Codec.expectedSize?]
  cases Kind.ofTag? h.tag with
  | none => simp
  | some k =>
    show (if c.size k ≠ h.recordSize then _ else _) = _ ↔ _
    by_cases hk : c.size k = h.recordSize
    · simp [hk]
    · simp [hk, Ne.symm hk]

/-! ## Reading a frame -/

theorem readFrame_nil (hs : s.Streams m []) :
    ∃ t, EStateM.run readFrame s = .ok false t ∧ s.Ended t := by
  obtain ⟨u, -, hu⟩ := run_fill hs.source 0 Header.size
  refine ⟨{ s with
    source := u, scratch := overwrite s.scratch 0 [], phase := .finished, header := none },
    ?_, rfl, rfl, rfl, rfl⟩
  rw [readFrame, bind_ok (run_get s), bind_ok hu]
  rfl

/-- Fewer bytes than a header are reported as cut off. -/
theorem readFrame_short (hs : s.Streams m bs) (hne : bs ≠ []) (hlen : bs.length < Header.size) :
    ∃ t, EStateM.run readFrame s =
      .error (.truncated "record header" s.offset Header.size bs.length) t := by
  obtain ⟨u, -, hu⟩ := run_fill hs.source 0 Header.size
  rw [List.take_of_length_le (Nat.le_of_lt hlen)] at hu
  have hpos : ¬ bs.length = 0 := fun h0 => hne (List.length_eq_zero_iff.1 h0)
  refine ⟨{ s with source := u, scratch := overwrite s.scratch 0 bs }, ?_⟩
  rw [readFrame, bind_ok (run_get s), bind_ok hu, if_neg hpos]
  show EStateM.run (if bs.length < Header.size then _ else _) _ = _
  rw [if_pos hlen]
  rfl

/-- `t` is `s` with the header `h` taken off the source into the scratch bytes. -/
structure Started (s t : FrameScanner) (m : Metadata) (h : Header) (rest : Bytes) : Prop where
  streams : t.Streams m rest
  scratch : t.scratch.take Header.size = h.encode
  offset : t.offset = s.offset
  frames : t.frames = s.frames

theorem readFrame_header {rest : Bytes} (hs : s.Streams m (h.encode ++ rest)) :
    ∃ t, s.Started t m h rest ∧
      EStateM.run readFrame s = EStateM.run (do readBody; return true) t := by
  obtain ⟨u, hrest, hu⟩ := run_fill hs.source 0 Header.size
  rw [h.take_encode_append, h.length_encode] at hu
  rw [h.drop_encode_append] at hrest
  have hfits : 0 + h.encode.length ≤ s.scratch.length := by
    rw [hs.scratch, h.length_encode]
    decide
  have hfront : (overwrite s.scratch 0 h.encode).take Header.size = h.encode := by
    have := take_overwrite h.encode (Nat.zero_le s.scratch.length)
    rwa [h.length_encode, Nat.zero_add] at this
  refine ⟨{ s with source := u, scratch := overwrite s.scratch 0 h.encode },
    ⟨⟨hs.phase, hs.metadata, ?_, hrest⟩, hfront, rfl, rfl⟩, ?_⟩
  · rw [← hs.scratch]
    exact length_overwrite hfits
  · rw [readFrame, bind_ok (run_get s), bind_ok hu, if_neg (by decide)]
    show EStateM.run (if Header.size < Header.size then _ else _) _ = _
    rw [if_neg (Nat.lt_irrefl _)]

/-- A header that can be that of a frame is followed by its body. -/
theorem readBody_admits {rest : Bytes} (ht : s.Started t m h rest) (ha : m.codec.Admits h) :
    EStateM.run readBody t = EStateM.run (do
      fillExactly Header.size (h.recordSize - Header.size) "record body" (t.offset + Header.size)
      modify fun t => { t with
        offset := t.offset + h.recordSize
        frames := t.frames + 1
        header := some h }) t := by
  have hdecode : Header.decode (t.scratch.take Header.size) = .ok h := by
    rw [ht.scratch, Header.decode_encode ha.size]
  have hcheck : checkSize t.codec? h = .ok () := by
    rw [ht.streams.codec, checkSize_eq_ok.2 ha.layout]
  rw [readBody, bind_ok (run_get t), bind_ok (run_ofExcept_ok hdecode t),
    bind_ok (run_ofExcept_ok hcheck t)]

theorem readFrame_framed {body rest : Bytes} (hf : m.codec.Framed h body)
    (hs : s.Streams m (h.encode ++ (body ++ rest))) :
    ∃ t, EStateM.run readFrame s = .ok true t ∧ s.Took t m h (h.encode ++ body) rest := by
  obtain ⟨t, ht, hrun⟩ := readFrame_header hs
  have hlen : h.recordSize - Header.size = body.length := by
    have := hf.size
    omega
  obtain ⟨u, hrest, hu⟩ := run_fill ht.streams.source Header.size body.length
  rw [List.take_left] at hu
  rw [List.drop_left] at hrest
  have hfill : EStateM.run (fillExactly Header.size (h.recordSize - Header.size) "record body"
      (t.offset + Header.size)) t = .ok ()
        { t with source := u, scratch := overwrite t.scratch Header.size body } := by
    rw [hlen, fillExactly, bind_ok hu, if_neg (Nat.lt_irrefl _)]
    rfl
  have hbody := readBody_admits ht hf.admits
  rw [bind_ok hfill] at hbody
  have hfits : Header.size + body.length ≤ t.scratch.length := by
    rw [ht.streams.scratch, hf.size]
    exact recordSize_le_capacity h
  -- The body covers all of what earlier frames left behind the header.
  have hframe : (overwrite t.scratch Header.size body).take h.recordSize = h.encode ++ body := by
    rw [← hf.size, take_overwrite body (by omega), ht.scratch]
  refine ⟨_, hrun.trans (bind_ok hbody), ⟨⟨ht.streams.phase, ht.streams.metadata, ?_, hrest⟩,
    rfl, hframe, ?_, ?_⟩⟩
  · exact (length_overwrite hfits).trans ht.streams.scratch
  · exact congrArg (· + h.recordSize) ht.offset
  · exact congrArg (· + 1) ht.frames

theorem nextFrame_ok {b : Bool} (hs : s.phase = .streaming)
    (hr : EStateM.run readFrame s = .ok b t) : EStateM.run nextFrame s = .ok b t := by
  rw [run_nextFrame_streaming hs, run_guarded_ok hr]

theorem nextFrame_error {e : Error} (hs : s.phase = .streaming)
    (hr : EStateM.run readFrame s = .error e t) :
    EStateM.run nextFrame s = .error e { t with phase := .failed, header := none } := by
  rw [run_nextFrame_streaming hs, run_guarded_error hr]

theorem nextFrame_nil (hs : s.Streams m []) :
    ∃ t, EStateM.run nextFrame s = .ok false t ∧ s.Ended t := by
  obtain ⟨t, ht, hend⟩ := readFrame_nil hs
  exact ⟨t, nextFrame_ok hs.phase ht, hend⟩

theorem nextFrame_framed {body rest : Bytes} (hf : m.codec.Framed h body)
    (hs : s.Streams m (h.encode ++ (body ++ rest))) :
    ∃ t, EStateM.run nextFrame s = .ok true t ∧ s.Took t m h (h.encode ++ body) rest := by
  obtain ⟨t, ht, htook⟩ := readFrame_framed hf hs
  exact ⟨t, nextFrame_ok hs.phase ht, htook⟩

end FrameScanner
end TickStream
