import TickStream.Proofs.Bytes.Reading
import TickStream.Proofs.Scan.Run
/-
Scanning whatever the source does: it may end or fail anywhere.  Main statements: an advance
takes the bytes of one frame off the source or meets its end, so that a scanner gives finitely
many records and then ends or fails for good; and every record is what its frame decodes to.
-/
namespace TickStream

open Step

/-- The record is what some frame decodes to. -/
def Codec.Decoded (c : Codec) (r : Record) : Prop := ∃ h body, c.decodeBody h body = .ok r

namespace FrameScanner

variable {s t u : FrameScanner} {m : Metadata} {r : Record} {rs : List Record} {n : Nat}
  {h : Header}

theorem run_intake_eq_ok {α : Type} {x : Intake α} {a : α} :
    EStateM.run (intake x) s = .ok a t ↔
      ∃ source, EStateM.run x s.source = .ok a source ∧ t = { s with source := source } := by
  rw [run_intake]
  cases EStateM.run x s.source <;> simp [eq_comm]

theorem run_guarded_eq_ok {α : Type} {step : Step α} {a : α} :
    EStateM.run (guarded step) s = .ok a t ↔ EStateM.run step s = .ok a t := by
  rw [run_guarded]
  cases EStateM.run step s <;> simp

/-! ## Frames -/

theorem run_fill_eq_ok {position got : Nat} (hr : EStateM.run (fill position n) s = .ok got t) :
    ∃ bs source, Source.readUpTo n s.source = (.ok bs, source) ∧ got = bs.length ∧
      t = { s with source := source, scratch := overwrite s.scratch position bs } := by
  obtain ⟨bs, s₁, hread, hrest⟩ := run_bind_eq_ok.1 hr
  obtain ⟨source, htaken, rfl⟩ := run_intake_eq_ok.1 hread
  injection hrest with hgot ht
  exact ⟨bs, source, Intake.run_upTo_eq_ok.1 htaken, hgot.symm, ht.symm⟩

theorem run_fillExactly_eq_ok {position : Nat} {context : String} {offset : Nat}
    (hr : EStateM.run (fillExactly position n context offset) s = .ok () t) :
    ∃ bs source, Source.readUpTo n s.source = (.ok bs, source) ∧ bs.length = n ∧
      t = { s with source := source, scratch := overwrite s.scratch position bs } := by
  obtain ⟨got, s₁, hfill, hrest⟩ := run_bind_eq_ok.1 hr
  obtain ⟨bs, source, hread, rfl, rfl⟩ := run_fill_eq_ok hfill
  by_cases hshort : bs.length < n
  · rw [if_pos hshort] at hrest
    cases hrest
  · rw [if_neg hshort] at hrest
    injection hrest with _ ht
    have hle := (Source.readUpTo_eq_ok hread).2.2.1
    exact ⟨bs, source, hread, by omega, ht.symm⟩

/-- The metadata has been decoded, and the scanner goes on. -/
structure Opened (s : FrameScanner) (m : Metadata) : Prop where
  phase : s.phase = .streaming
  metadata : s.metadata = some m
  scratch : s.scratch.length = capacity

theorem Opened.codec (hs : s.Opened m) : s.codec? = some m.codec := by
  rw [codec?, hs.metadata]
  rfl

/-- The scanner with as many bytes as a header has in its scratch bytes. -/
theorem Opened.overwritten {bs : Bytes} {u : Source} (hs : s.Opened m)
    (hlen : bs.length = Header.size) :
    Opened { s with source := u, scratch := overwrite s.scratch 0 bs } m ∧
      (overwrite s.scratch 0 bs).take Header.size = bs := by
  have hfits : 0 + bs.length ≤ s.scratch.length := by
    rw [hs.scratch, hlen]
    decide
  have hfront := take_overwrite bs (Nat.zero_le s.scratch.length)
  rw [hlen, Nat.zero_add] at hfront
  exact ⟨⟨hs.phase, hs.metadata, (length_overwrite hfits).trans hs.scratch⟩, hfront⟩

/-- From `s` to `t` a frame was taken off the source, and the scanner goes on. -/
structure Advanced (s t : FrameScanner) (m : Metadata) (h : Header) (body : Bytes) : Prop where
  opened : t.Opened m
  header : t.header = some h
  framed : m.codec.Framed h body
  bytes : t.currentBytes = h.encode ++ body
  content : s.source.content = (h.encode ++ body) ++ t.source.content
  failure : s.source.failure = t.source.failure
  offset : t.offset = s.offset + h.recordSize

/-- A frame has the bytes of its header at least. -/
theorem Advanced.size_le {body : Bytes} (ha : s.Advanced t m h body) :
    t.source.size + Header.size ≤ s.source.size := by
  rw [Source.size, Source.size, ha.content, List.length_append, List.length_append,
    h.length_encode]
  omega

/-- A body that was read belongs to the header in the scratch bytes. -/
theorem readBody_eq_ok (hs : s.Opened m) (hh : s.scratch.take Header.size = h.encode)
    (hr : EStateM.run readBody s = .ok () t) : ∃ body, s.source.content = body ++ t.source.content ∧
      s.source.failure = t.source.failure ∧ m.codec.Framed h body ∧ t.Opened m ∧
      t.header = some h ∧ t.currentBytes = h.encode ++ body ∧
      t.offset = s.offset + h.recordSize := by
  rw [readBody, bind_ok (run_get s)] at hr
  obtain ⟨h', s₁, hdecode, hr⟩ := run_bind_eq_ok.1 hr
  obtain ⟨hdecode, rfl⟩ := run_ofExcept_eq_ok.1 hdecode
  have hroom : ¬ h.recordSize < Header.size := by
    intro hshort
    rw [hh, Header.decode_encode_short hshort] at hdecode
    cases hdecode
  have hhead : h' = h := by
    rw [hh, Header.decode_encode (Nat.le_of_not_lt hroom)] at hdecode
    injection hdecode with hdecode
    exact hdecode.symm
  subst hhead
  obtain ⟨_, s₂, hcheck, hr⟩ := run_bind_eq_ok.1 hr
  obtain ⟨hcheck, rfl⟩ := run_ofExcept_eq_ok.1 hcheck
  rw [hs.codec] at hcheck
  obtain ⟨_, s₃, hfill, hr⟩ := run_bind_eq_ok.1 hr
  obtain ⟨body, source, hread, hlen, rfl⟩ := run_fillExactly_eq_ok hfill
  injection hr with _ ht
  subst ht
  obtain ⟨hcontent, hfailure, -⟩ := Source.readUpTo_eq_ok hread
  have hsize : Header.size + body.length = h'.recordSize := by omega
  have hfits : Header.size + body.length ≤ s₂.scratch.length := by
    rw [hs.scratch, hsize]
    exact recordSize_le_capacity h'
  refine ⟨body, hcontent, hfailure, ⟨hsize, checkSize_eq_ok.1 hcheck⟩, ?_, rfl, ?_, rfl⟩
  · exact ⟨hs.phase, hs.metadata, (length_overwrite hfits).trans hs.scratch⟩
  · show (overwrite s₂.scratch Header.size body).take h'.recordSize = _
    rw [← hsize, take_overwrite body (by omega), hh]

/-- A frame is what its bytes on the source are. -/
theorem readFrame_eq_true (hs : s.Opened m) (hr : EStateM.run readFrame s = .ok true t) :
    ∃ h body, s.Advanced t m h body := by
  rw [readFrame, bind_ok (run_get s)] at hr
  obtain ⟨got, s₁, hfill, hr⟩ := run_bind_eq_ok.1 hr
  obtain ⟨bs, source, hread, rfl, rfl⟩ := run_fill_eq_ok hfill
  obtain ⟨hcontent, hfailure, hle, -⟩ := Source.readUpTo_eq_ok hread
  by_cases hnone : bs.length = 0
  · rw [if_pos hnone] at hr
    cases hr
  rw [if_neg hnone] at hr
  by_cases hshort : bs.length < Header.size
  · rw [if_pos hshort, run_throw_bind] at hr
    cases hr
  rw [if_neg hshort] at hr
  obtain ⟨_, s₂, hbody, hrest⟩ := run_bind_eq_ok.1 hr
  injection hrest with _ ht
  subst ht
  -- As many bytes as a header has are a header.
  obtain ⟨h, left, rfl⟩ := Header.exists_encode (Nat.le_of_not_lt hshort)
  have hleft : left = [] := by
    rw [List.length_append, h.length_encode] at hle
    exact List.length_eq_zero_iff.1 (by omega)
  subst hleft
  rw [List.append_nil] at hcontent hbody
  obtain ⟨hopened, hfront⟩ := hs.overwritten (u := source) h.length_encode
  obtain ⟨body, hbody, hend, hframed, ht, hheader, hbytes, hoffset⟩ :=
    readBody_eq_ok hopened hfront hbody
  refine ⟨h, body, ht, hheader, hframed, hbytes, ?_, hfailure.trans hend, hoffset⟩
  rw [hcontent, List.append_assoc]
  exact congrArg (h.encode ++ ·) hbody

/-- The end of the stream is one of the source. -/
theorem readFrame_eq_false (hr : EStateM.run readFrame s = .ok false t) :
    s.Ended t ∧ s.source.content = [] ∧ s.source.failure = none := by
  rw [readFrame, bind_ok (run_get s)] at hr
  obtain ⟨got, s₁, hfill, hr⟩ := run_bind_eq_ok.1 hr
  obtain ⟨bs, source, hread, rfl, rfl⟩ := run_fill_eq_ok hfill
  by_cases hnone : bs.length = 0
  · rw [if_pos hnone] at hr
    injection hr with _ ht
    subst ht
    have hend := (Source.readUpTo_eq_ok hread).2.2.2 (by rw [hnone]; decide)
    rw [List.length_eq_zero_iff.1 hnone] at hend
    exact ⟨⟨rfl, rfl, rfl, rfl⟩, hend⟩
  rw [if_neg hnone] at hr
  by_cases hshort : bs.length < Header.size
  · rw [if_pos hshort, run_throw_bind] at hr
    cases hr
  rw [if_neg hshort] at hr
  obtain ⟨_, s₂, -, hrest⟩ := run_bind_eq_ok.1 hr
  cases hrest

theorem nextFrame_eq_true (hs : s.Opened m) (hr : EStateM.run nextFrame s = .ok true t) :
    ∃ h body, s.Advanced t m h body := by
  rw [run_nextFrame_streaming hs.phase, run_guarded_eq_ok] at hr
  exact readFrame_eq_true hs hr

theorem nextFrame_eq_false (hs : s.phase = .streaming)
    (hr : EStateM.run nextFrame s = .ok false t) :
    s.Ended t ∧ s.source.content = [] ∧ s.source.failure = none := by
  rw [run_nextFrame_streaming hs, run_guarded_eq_ok] at hr
  exact readFrame_eq_false hr

/-! ## Records -/

theorem decoded_of_decodeCurrent (hm : s.metadata = some m) (h : s.decodeCurrent = .ok r) :
    m.codec.Decoded r := by
  have hcodec : s.codec? = some m.codec := by
    rw [codec?, hm]
    rfl
  rw [decodeCurrent, hcodec] at h
  cases hheader : s.header with
  | none =>
    rw [hheader] at h
    exact absurd h (by simp)
  | some hd =>
    rw [hheader] at h
    exact ⟨hd, _, h⟩

/-- A record is decoded from the frame of an advance. -/
theorem Opened.of_nextRecord (hs : s.Opened m) (hr : EStateM.run nextRecord s = .ok (some r) t) :
    (∃ h body, s.Advanced t m h body) ∧ m.codec.Decoded r := by
  obtain ⟨more, s₁, hframe, hr⟩ := run_bind_eq_ok.1 hr
  cases more with
  | false => cases hr
  | true =>
    obtain ⟨h, body, hadvanced⟩ := nextFrame_eq_true hs hframe
    rw [if_pos rfl, bind_ok (run_get s₁)] at hr
    obtain ⟨r', s₂, hdecode, hrest⟩ := run_bind_eq_ok.1 hr
    obtain ⟨hdecoded, rfl⟩ := run_ofExcept_eq_ok.1 (run_guarded_eq_ok.1 hdecode)
    injection hrest with hr ht
    injection hr with hr
    subst hr ht
    exact ⟨⟨h, body, hadvanced⟩, decoded_of_decodeCurrent hadvanced.opened.metadata hdecoded⟩

/-- At the end the metadata is still known. -/
theorem Opened.metadata_at_end (hs : s.Opened m) (h : EStateM.run nextRecord s = .ok none t) :
    t.metadata = some m := by
  obtain ⟨more, s₁, hframe, h⟩ := run_bind_eq_ok.1 h
  cases more with
  | false =>
    injection h with _ ht
    exact ht ▸ (nextFrame_eq_false hs.phase hframe).1.metadata.trans hs.metadata
  | true =>
    rw [if_pos rfl, bind_ok (run_get s₁)] at h
    obtain ⟨r', s₂, hdecode, h⟩ := run_bind_eq_ok.1 h
    injection h with hr
    exact absurd hr (by simp)

/-! ## Runs -/

/-- A run takes bytes for each of its records. -/
theorem Yields.of_opened (hy : s.Yields rs t) (hs : s.Opened m) :
    t.Opened m ∧ t.source.size + rs.length ≤ s.source.size ∧ ∀ r ∈ rs, m.codec.Decoded r := by
  induction hy with
  | nil s => exact ⟨hs, Nat.le_refl _, fun r hr => absurd hr List.not_mem_nil⟩
  | @cons s u t r rs hr _ ih =>
    obtain ⟨⟨h, body, hadvanced⟩, hdecoded⟩ := hs.of_nextRecord hr
    obtain ⟨hopened, hsize, hall⟩ := ih hadvanced.opened
    have hhead := hadvanced.size_le
    rw [Header.size] at hhead
    refine ⟨hopened, ?_, ?_⟩
    · rw [List.length_cons]
      omega
    · intro r' hr'
      obtain rfl | hr' := List.mem_cons.1 hr'
      · exact hdecoded
      · exact hall r' hr'

/-- The next call gives no record: the stream is at its end, or it fails. -/
inductive Stops (s : FrameScanner) : Prop where
  | ends (t : FrameScanner) (h : EStateM.run nextRecord s = .ok none t)
  | fails (e : Error) (t : FrameScanner) (h : EStateM.run nextRecord s = .error e t)

theorem Stops.congr (hs : s.Stops) (hn : EStateM.run nextRecord s = EStateM.run nextRecord u) :
    u.Stops := by
  cases hs with
  | ends t h => exact .ends t (hn ▸ h)
  | fails e t h => exact .fails e t (hn ▸ h)

/-- Every scanner comes to a stop: the source has only so many bytes. -/
theorem Opened.yields (hs : s.Opened m) : ∃ rs t, s.Yields rs t ∧ t.Stops := by
  induction hsize : s.source.size using Nat.strongRecOn generalizing s with
  | ind n ih =>
    cases hr : EStateM.run nextRecord s with
    | error e t => exact ⟨[], s, .nil s, .fails e t hr⟩
    | ok next t =>
      cases next with
      | none => exact ⟨[], s, .nil s, .ends t hr⟩
      | some r =>
        obtain ⟨⟨h, body, hadvanced⟩, -⟩ := hs.of_nextRecord hr
        have hless : t.source.size < n := by
          have := hadvanced.size_le
          rw [Header.size] at this
          omega
        obtain ⟨rs, u, hy, hstops⟩ := ih _ hless hadvanced.opened rfl
        exact ⟨r :: rs, u, .cons hr hy, hstops⟩

/-! ## From the front of a source -/

/-- Over any source the metadata is decoded, and then the records are those of the opened
scanner, or it fails at the metadata. -/
theorem opens_or_fails (source : Source) :
    (∃ m s, EStateM.run readHead (ofSource source) = .ok m s ∧ s.Opened m ∧
      EStateM.run nextRecord (ofSource source) = EStateM.run nextRecord s) ∨
    ∃ e s, EStateM.run readHead (ofSource source) = .error e s ∧
      EStateM.run nextRecord (ofSource source) = .error e s := by
  cases hread : EStateM.run Metadata.read source with
  | ok head u =>
    have hhead := readHead_ok (s := ofSource source) rfl hread
    exact .inl ⟨_, _, hhead, ⟨rfl, rfl, Bytes.length_zeros capacity⟩,
      nextRecord_congr (nextFrame_fresh rfl rfl hhead)⟩
  | error e u =>
    have hhead := readHead_error (s := ofSource source) rfl hread
    exact .inr ⟨_, _, hhead, nextRecord_error (nextFrame_fresh_error rfl hhead)⟩

/-- Scanners with the same next record have the same runs. -/
theorem Yields.congr (hy : s.Yields rs t)
    (hn : EStateM.run nextRecord s = EStateM.run nextRecord u) :
    ∃ v, u.Yields rs v ∧ EStateM.run nextRecord t = EStateM.run nextRecord v := by
  cases hy with
  | nil => exact ⟨u, .nil u, hn⟩
  | cons hr hy => exact ⟨t, .cons (hn ▸ hr) hy, rfl⟩

end FrameScanner
end TickStream
