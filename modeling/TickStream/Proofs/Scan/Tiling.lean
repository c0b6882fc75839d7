import TickStream.Proofs.Scan.Progress
/-
Frames as they are, of bytes that may be anything.  Main statement: the frames that a scanner
shows, one after the other, are the bytes behind the metadata: none is lost, shown twice or
moved, whatever the bytes are; and the scanner ends cleanly exactly when none are left.
-/
namespace TickStream

open Step

namespace FrameScanner

variable {s t : FrameScanner} {m : Metadata} {bs : Bytes}

/-- From `s` on, frames are asked for until there is none: the scanner goes through `shown`, each
time with a frame, and the last call gives `result`. -/
inductive Drives : FrameScanner → List FrameScanner → Except Error Bool → Prop where
  | ended {s t : FrameScanner} : EStateM.run nextFrame s = .ok false t → Drives s [] (.ok false)
  | failed {s t : FrameScanner} {e : Error} :
    EStateM.run nextFrame s = .error e t → Drives s [] (.error e)
  | frame {s t : FrameScanner} {shown : List FrameScanner} {result : Except Error Bool} :
    EStateM.run nextFrame s = .ok true t → Drives t shown result → Drives s (t :: shown) result

/-- The scanner shows a frame: a header, and as many bytes as it states and its layout has. -/
structure Shows (t : FrameScanner) (c : Codec) : Prop where
  size : t.currentSize = t.currentBytes.length
  framed : ∃ h body, t.currentBytes = h.encode ++ body ∧ c.Framed h body

theorem Advanced.shows {h : Header} {body : Bytes} (ha : s.Advanced t m h body) :
    t.Shows m.codec := by
  refine ⟨?_, h, body, ha.bytes, ha.framed⟩
  rw [currentSize, ha.header, ha.bytes, ha.framed.length_eq]
  rfl

/-- The first byte of a frame states its length, and the second one its layout. -/
theorem Shows.bytes {c : Codec} (ht : t.Shows c) :
    Header.size ≤ t.currentBytes.length ∧
      ∃ words tag tail, t.currentBytes = words :: tag :: tail ∧
        t.currentBytes.length = 4 * words.toNat ∧
        ∀ n, c.expectedSize? tag = some n → t.currentBytes.length = n := by
  obtain ⟨h, body, hbytes, hf⟩ := ht.framed
  obtain ⟨tail, htail⟩ := h.encode_eq_cons
  have hlen : t.currentBytes.length = h.recordSize := by rw [hbytes, hf.length_eq]
  refine ⟨by rw [hlen]; exact hf.size_le, h.length, h.tag, tail ++ body, ?_, ?_, ?_⟩
  · rw [hbytes, htail, List.cons_append, List.cons_append]
  · rw [hlen, Header.recordSize, Nat.mul_comm]
  · intro n hn
    obtain ⟨k, hk, hn⟩ := Option.map_eq_some_iff.1 hn
    rw [hlen, hf.layout k hk, hn]

/-- Asking for frames comes to an end: every frame has bytes of its own. -/
theorem Opened.drives (hs : s.Opened m) : ∃ shown result, s.Drives shown result := by
  -- By induction on the number of bytes that are left.
  induction hn : s.source.size using Nat.strongRecOn generalizing s with
  | ind n ih =>
    cases hr : EStateM.run nextFrame s with
    | error e t => exact ⟨[], _, .failed hr⟩
    | ok more t =>
      cases more with
      | false => exact ⟨[], _, .ended hr⟩
      | true =>
        obtain ⟨h, body, hadvanced⟩ := nextFrame_eq_true hs hr
        have hless : t.source.size < n := by
          have := hadvanced.size_le
          rw [Header.size] at this
          omega
        obtain ⟨shown, result, hdrives⟩ := ih _ hless hadvanced.opened rfl
        exact ⟨t :: shown, result, .frame hr hdrives⟩

/-- A source without bytes that does not fail is no failure. -/
theorem not_ended_of_error {e : Error} (hs : s.Opened m)
    (hr : EStateM.run nextFrame s = .error e t) :
    ¬ (s.source.content = [] ∧ s.source.failure = none) := by
  intro ⟨hcontent, hfailure⟩
  obtain ⟨u, hu, -⟩ := nextFrame_nil ⟨hs.phase, hs.metadata, hs.scratch, hcontent, hfailure⟩
  rw [hu] at hr
  cases hr

/-- The frames that are shown are the front of what the source hands out, and only a clean end
leaves none of it. -/
theorem Drives.splits {shown : List FrameScanner} {result : Except Error Bool}
    (hd : s.Drives shown result) (hs : s.Opened m) :
    (∀ t ∈ shown, t.Shows m.codec) ∧
      ∃ rest, s.source.content = (shown.map currentBytes).flatten ++ rest ∧
        (result = .ok false ↔ rest = [] ∧ s.source.failure = none) := by
  induction hd with
  | ended hr =>
    have hend := (nextFrame_eq_false hs.phase hr).2
    exact ⟨fun t ht => absurd ht List.not_mem_nil, _, rfl, fun _ => hend, fun _ => rfl⟩
  | failed hr =>
    have hleft := not_ended_of_error hs hr
    exact ⟨fun t ht => absurd ht List.not_mem_nil, _, rfl, fun hok => absurd hok (by simp),
      fun hend => absurd hend hleft⟩
  | frame hr _ ih =>
    obtain ⟨h, body, hadvanced⟩ := nextFrame_eq_true hs hr
    obtain ⟨hshows, left, hleft, hresult⟩ := ih hadvanced.opened
    refine ⟨?_, left, ?_, ?_⟩
    · intro u hu
      rcases List.mem_cons.1 hu with rfl | hu
      · exact hadvanced.shows
      · exact hshows u hu
    · rw [hadvanced.content, hleft, List.map_cons, List.flatten_cons, hadvanced.bytes]
      exact (List.append_assoc _ _ _).symm
    · rw [hresult, hadvanced.failure]

theorem Streams.opened (hs : s.Streams m bs) : s.Opened m := ⟨hs.phase, hs.metadata, hs.scratch⟩

/-- Of a source that does not fail, a clean end is one without bytes left. -/
theorem Drives.tiles {shown : List FrameScanner} {result : Except Error Bool}
    (hd : s.Drives shown result) (hs : s.Streams m bs) :
    (∀ t ∈ shown, t.Shows m.codec) ∧
      ∃ rest, bs = (shown.map currentBytes).flatten ++ rest ∧
        (result = .ok false ↔ rest = []) := by
  obtain ⟨hshows, rest, hrest, hresult⟩ := hd.splits hs.opened
  refine ⟨hshows, rest, hs.source.content ▸ hrest, ?_⟩
  rw [hresult, and_iff_left hs.source.failure]

def shownSize : List FrameScanner → Nat
  | [] => 0
  | t :: shown => t.currentSize + shownSize shown

theorem shownSize_eq {c : Codec} {shown : List FrameScanner} (h : ∀ t ∈ shown, t.Shows c) :
    shownSize shown = (shown.map currentBytes).flatten.length := by
  induction shown with
  | nil => rfl
  | cons t shown ih =>
    rw [shownSize, ih fun u hu => h u (List.mem_cons_of_mem t hu),
      (h t List.mem_cons_self).size, List.map_cons, List.flatten_cons, List.length_append]

/-- The tiling in numbers: the sizes of the frames add up to the number of their bytes. -/
theorem Drives.covers {shown : List FrameScanner} {result : Except Error Bool}
    (hd : s.Drives shown result) (hs : s.Streams m bs) :
    shownSize shown ≤ bs.length ∧
      (shown.map currentBytes).flatten = bs.take (shownSize shown) ∧
      (result = .ok false ↔ shownSize shown = bs.length) := by
  obtain ⟨hshows, rest, hrest, hresult⟩ := hd.tiles hs
  have hsum := shownSize_eq hshows
  have hlen : bs.length = shownSize shown + rest.length := by
    rw [hrest, List.length_append, hsum]
  refine ⟨by omega, by rw [hsum, hrest, List.take_left], ?_⟩
  rw [hresult, ← List.length_eq_zero_iff]
  omega

theorem drives_congr {shown : List FrameScanner} {result : Except Error Bool}
    (hn : EStateM.run nextFrame s = EStateM.run nextFrame t) (hd : s.Drives shown result) :
    t.Drives shown result := by
  cases hd with
  | ended hr => exact .ended (hn ▸ hr)
  | failed hr => exact .failed (hn ▸ hr)
  | frame hr hd => exact .frame (hn ▸ hr) hd

/-- A new scanner has decoded metadata, and stands behind it, or fails at once. -/
theorem ofSource_cases {source : Source} (hs : source.Delivers bs) :
    (∃ m s, EStateM.run readHead (ofSource source) = .ok m s ∧
      EStateM.run nextFrame (ofSource source) = EStateM.run nextFrame s ∧
      s.offset = Metadata.prefixSize + Metadata.declaredLength bs ∧ s.offset ≤ bs.length ∧
      s.Streams m (bs.drop s.offset)) ∨
    ∃ e t, EStateM.run readHead (ofSource source) = .error e t ∧
      EStateM.run nextFrame (ofSource source) = .error e t := by
  cases hr : EStateM.run Metadata.read source with
  | ok head u =>
    obtain ⟨m, size⟩ := head
    obtain ⟨hsize, hle, hu⟩ := Metadata.read_eq_ok hs hr
    obtain ⟨s, hstreams, hoffset, -, hhead, hopen⟩ := opens hr hu
    rw [← hoffset] at hsize hle hstreams
    exact .inl ⟨m, s, hhead, hopen, hsize, hle, hstreams⟩
  | error e u =>
    have hhead := readHead_error (s := ofSource source) rfl hr
    exact .inr ⟨e, _, hhead, nextFrame_fresh_error rfl hhead⟩

/-- Frames tile the bytes behind the metadata, whatever the bytes are. -/
theorem frames_tile {source : Source} (hs : source.Delivers bs) :
    (∃ shown result, (ofSource source).Drives shown result) ∧
    ∀ m s, EStateM.run readHead (ofSource source) = .ok m s →
      ∀ shown result, (ofSource source).Drives shown result →
        let start := Metadata.prefixSize + Metadata.declaredLength bs
        let total := shownSize shown
        s.offset = start ∧ s.source.Delivers (bs.drop start) ∧ start + total ≤ bs.length ∧
        (shown.map currentBytes).flatten = (bs.drop start).take total ∧
        (∀ t ∈ shown, t.currentSize = t.currentBytes.length ∧
          Header.size ≤ t.currentBytes.length ∧
          ∃ words tag tail, t.currentBytes = words :: tag :: tail ∧
            t.currentBytes.length = 4 * words.toNat ∧
            ∀ n, m.codec.expectedSize? tag = some n → t.currentBytes.length = n) ∧
        (result = .ok false ↔ start + total = bs.length) := by
  rcases ofSource_cases hs with ⟨m, s, hhead, hopen, hoffset, hle, hstreams⟩ | ⟨e, t, hhead, hframe⟩
  · refine ⟨?_, fun m' s' hhead' shown result hd => ?_⟩
    · obtain ⟨shown, result, hd⟩ := hstreams.opened.drives
      exact ⟨shown, result, drives_congr hopen.symm hd⟩
    · rw [hhead] at hhead'
      injection hhead' with hm hs'
      subst hm hs'
      have hd' := drives_congr hopen hd
      obtain ⟨hshows, -⟩ := hd'.tiles hstreams
      obtain ⟨hfits, hflat, hend⟩ := hd'.covers hstreams
      rw [List.length_drop] at hfits hend
      rw [← hoffset]
      refine ⟨rfl, hstreams.source, by omega, hflat, fun t ht => ?_, ?_⟩
      · exact ⟨(hshows t ht).size, (hshows t ht).bytes⟩
      · rw [hend]
        omega
  · refine ⟨⟨[], _, .failed hframe⟩, fun m s hhead' => ?_⟩
    rw [hhead] at hhead'
    exact absurd hhead' (by simp)

/-- A frame of unknown tag with three stray bytes behind it. -/
theorem frames_tile_stray :
    let m : Metadata := ⟨.v1, "XNAS.ITCH", some .mbo, 0, 0, 0, some .rawSymbol,
      .instrumentId, false, ["AAPL"], [], [], []⟩
    let h : Header := ⟨5, 0xf0, 2, 10888, 60⟩
    let head : Bytes := m.encode.toOption.getD []
    let bs : Bytes := head ++ (h.encode ++ ([1, 2, 3, 4] ++ [7, 7, 7]))
    let start := Metadata.prefixSize + Metadata.declaredLength bs
    ∃ s t e, EStateM.run readHead (ofSource (Source.ofBytes bs)) = .ok m s ∧
      (ofSource (Source.ofBytes bs)).Drives [t] (.error e) ∧
      h.encode ++ [1, 2, 3, 4] = (bs.drop start).take 20 ∧ start + 20 ≠ bs.length := by
  intro m h head bs start
  have hm : m.EncodesTo head := ⟨by decide +kernel, by decide +kernel⟩
  have hs : (Source.ofBytes bs).Delivers bs := Source.delivers_ofBytes bs
  have hf : m.codec.Framed h [1, 2, 3, 4] :=
    ⟨by decide, fun k hk => absurd hk (by rw [show Kind.ofTag? h.tag = none from rfl]; simp)⟩
  obtain ⟨u, hu, hrest⟩ := Metadata.read_of_encodesTo hm (by decide) hs
  obtain ⟨s, hstreams, -, -, hhead, hopen⟩ := opens hu hrest
  obtain ⟨t, ht, htook⟩ := nextFrame_framed hf hstreams
  obtain ⟨w, hw⟩ := readFrame_short htook.streams (by decide) (by decide)
  have hdrives : (ofSource (Source.ofBytes bs)).Drives [t] (.error _) :=
    drives_congr hopen.symm (.frame ht (.failed (nextFrame_error htook.streams.phase hw)))
  obtain ⟨-, hall⟩ := frames_tile hs
  obtain ⟨-, -, -, hflat, -, hend⟩ := hall m s hhead [t] _ hdrives
  have htotal : shownSize [t] = 20 := htook.size
  rw [htotal] at hflat hend
  have hbytes : ([t].map currentBytes).flatten = h.encode ++ [1, 2, 3, 4] := by
    rw [List.map_singleton, List.flatten_singleton, htook.bytes]
  rw [hbytes] at hflat
  exact ⟨s, t, _, hhead, hdrives, hflat, fun hlen => absurd (hend.2 hlen) (by simp)⟩

end FrameScanner
end TickStream
