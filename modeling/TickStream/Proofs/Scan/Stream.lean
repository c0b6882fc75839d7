import TickStream.Proofs.Record.RoundTrip
import TickStream.Proofs.Scan.Run
/-
Streams read back as they were written.  Main statement: over the frame of metadata and the
frames of records, in whatever pieces they arrive, a scanner gives the metadata, then every
record in order with its send time, and then the end for ever.
-/
namespace TickStream

open Step

/-- A record of a stream: its frame there, and the send time that belongs to it, if any. -/
structure Item where
  record : Record
  frame : Bytes
  sent : Option UInt64

namespace Codec

/-- How a record gets into a stream. -/
inductive Writes (c : Codec) : Item → Prop where
  /-- A record of a known kind that reads back as it was written, with no send time of its own. -/
  | plain {h : Header} {k : Kind} {b : k.Body} {f : Bytes} :
    c.encode (.known h k b) = .ok f → c.decode f = .ok (.known h k b) →
    Writes c ⟨.known h k b, f, if c.tsOut then some Timestamp.undefined else none⟩
  /-- The same record, written with the time at which it was sent. -/
  | sent {h : Header} {k : Kind} {b : k.Body} {f g : Bytes} {t : UInt64} :
    c.encode (.known h k b) = .ok f → c.decode f = .ok (.known h k b) →
    c.encodeWithTsOut (.known h k b) t = .ok g → Writes c ⟨.known h k b, g, some t⟩
  /-- A record of unknown tag: a frame as long as its header states. -/
  | unknown {h : Header} {body : Bytes} :
    Kind.ofTag? h.tag = none → (h.encode ++ body).length = h.recordSize →
    Writes c ⟨.unrecognized h (h.encode ++ body), h.encode ++ body, none⟩

theorem encodeWithTsOut_eq_ok {c : Codec} {r : Record} {t : UInt64} {bs : Bytes}
    (hbs : c.encodeWithTsOut r t = .ok bs) : c.tsOut = true ∧ c.encodeAt r t = .ok bs := by
  rw [encodeWithTsOut] at hbs
  by_cases hc : c.tsOut = true
  · rw [if_pos hc] at hbs
    exact ⟨hc, hbs⟩
  · rw [if_neg hc] at hbs
    exact absurd hbs (by simp)

theorem Writes.decode {c : Codec} {i : Item} (hi : c.Writes i) :
    c.decode i.frame = .ok i.record := by
  cases hi with
  | plain _ hd => exact hd
  | sent hf hd hg => exact decode_of_encodeAt_of_decode hf (encodeWithTsOut_eq_ok hg).2 hd
  | unknown htag hlen => exact decode_of_unknown htag hlen

/-- The send time that is found in the frame of a known tag. -/
theorem Writes.sent_eq {c : Codec} {i : Item} (hi : c.Writes i) :
    (do let _ ← c.expectedSize? i.record.header.tag; c.tsOut? i.frame) = i.sent := by
  cases hi with
  | @plain h k b f hf hd =>
    obtain ⟨htag, -⟩ := encodeAt_eq_ok.1 hf
    show ((Kind.ofTag? h.tag).map c.size).bind (fun _ => c.tsOut? f) = _
    rw [htag]
    show c.tsOut? f = _
    by_cases hc : c.tsOut = true
    · rw [if_pos hc, tsOut?_of_encodeAt hf hc]
    · rw [if_neg hc, tsOut?, Bool.eq_false_iff.2 hc]
      rfl
  | @sent h k b f g t hf hd hg =>
    obtain ⟨hc, hg⟩ := encodeWithTsOut_eq_ok hg
    obtain ⟨htag, -⟩ := encodeAt_eq_ok.1 hg
    show ((Kind.ofTag? h.tag).map c.size).bind (fun _ => c.tsOut? g) = _
    rw [htag]
    exact tsOut?_of_encodeAt hg hc
  | @unknown h body htag hlen =>
    show ((Kind.ofTag? h.tag).map c.size).bind (fun _ => c.tsOut? (h.encode ++ body)) = _
    rw [htag]
    rfl

end Codec

namespace FrameScanner

variable {s : FrameScanner} {m : Metadata} {items : List Item}

/-- After `n` of the items the scanner stands in front of the others. -/
theorem streams_iterate (hitems : ∀ i ∈ items, m.codec.Writes i)
    (hs : s.Streams m (items.map Item.frame).flatten) {n : Nat} (hn : n ≤ items.length) :
    (afterRecord^[n] s).Streams m ((items.drop n).map Item.frame).flatten ∧
      (afterRecord^[n] s).frames = s.frames + n := by
  have hlen : ((items.take n).map Item.record).length = n := by
    rw [List.length_map, List.length_take, Nat.min_eq_left hn]
  have hd : List.Forall₂ (fun f r => m.codec.decode f = .ok r)
      ((items.take n).map Item.frame) ((items.take n).map Item.record) := by
    rw [List.forall₂_map_left_iff, List.forall₂_map_right_iff, List.forall₂_same]
    exact fun i hi => (hitems i (List.mem_of_mem_take hi)).decode
  -- The first `n` items are a run, and the others are what follows it.
  rw [← List.take_append_drop n items, List.map_append, List.flatten_append] at hs
  obtain ⟨t, hyields, hstreams, -, hframes⟩ := yields_of_decode hd hs
  have ht : afterRecord^[n] s = t := by
    have := hyields.iterate
    rwa [hlen] at this
  rw [ht, hframes, hlen]
  exact ⟨hstreams, rfl⟩

/-- The call behind the last item meets the end of the stream, and so do all calls after it. -/
theorem ended_iterate (hitems : ∀ i ∈ items, m.codec.Writes i)
    (hs : s.Streams m (items.map Item.frame).flatten) :
    ∃ t, EStateM.run nextRecord (afterRecord^[items.length] s) = .ok none t ∧
      t.phase = .finished ∧ t.header = none ∧ t.metadata = some m ∧
      t.frames = s.frames + items.length ∧ EStateM.run nextRecord t = .ok none t ∧
      ∀ n, items.length < n → afterRecord^[n] s = t := by
  obtain ⟨hstreams, hframes⟩ := streams_iterate hitems hs (Nat.le_refl _)
  rw [List.drop_length] at hstreams
  obtain ⟨t, ht, hend⟩ := nextRecord_nil hstreams
  have hstay : EStateM.run nextRecord t = .ok none t :=
    nextRecord_end (run_nextFrame_finished hend.phase)
  refine ⟨t, ht, hend.phase, hend.header, hend.metadata.trans hstreams.metadata,
    hend.frames.trans hframes, hstay, fun n hn => ?_⟩
  obtain ⟨k, rfl⟩ := Nat.exists_eq_add_of_lt hn
  have hsplit : items.length + k + 1 = k + (items.length + 1) := by omega
  rw [hsplit, Function.iterate_add_apply, Function.iterate_succ_apply', afterRecord_ok ht]
  exact Function.iterate_fixed (afterRecord_ok hstay) k

/-- What is known of the scanner whatever number of calls there have been. -/
theorem known_iterate (hitems : ∀ i ∈ items, m.codec.Writes i)
    (hs : s.Streams m (items.map Item.frame).flatten) (n : Nat) :
    EStateM.run readHead (afterRecord^[n] s) = .ok m (afterRecord^[n] s) ∧
      (afterRecord^[n] s).frames = s.frames + min n items.length := by
  by_cases hn : n ≤ items.length
  · obtain ⟨hstreams, hframes⟩ := streams_iterate hitems hs hn
    rw [Nat.min_eq_left hn]
    refine ⟨readHead_again ?_ hstreams.metadata, hframes⟩
    rw [hstreams.phase]
    decide
  · obtain ⟨t, -, hphase, -, hmetadata, hframes, -, hafter⟩ := ended_iterate hitems hs
    rw [hafter n (Nat.lt_of_not_le hn), Nat.min_eq_right (Nat.le_of_not_le hn)]
    refine ⟨readHead_again ?_ hmetadata, hframes⟩
    rw [hphase]
    decide

/-- One call for the next record, after `n` others. -/
theorem nextRecord_iterate (hitems : ∀ i ∈ items, m.codec.Writes i)
    (hs : s.Streams m (items.map Item.frame).flatten) (n : Nat) :
    EStateM.run nextRecord (afterRecord^[n] s) =
        .ok (items[n]?.map Item.record) (afterRecord^[n + 1] s) ∧
      (afterRecord^[n + 1] s).currentTsOut? = items[n]?.bind Item.sent := by
  by_cases hn : n < items.length
  · obtain ⟨hstreams, -⟩ := streams_iterate hitems hs (Nat.le_of_lt hn)
    have hi : m.codec.Writes items[n] := hitems _ (List.getElem_mem hn)
    rw [List.drop_eq_getElem_cons hn, List.map_cons, List.flatten_cons] at hstreams
    obtain ⟨t, ht, htook⟩ := nextRecord_of_decode hi.decode hstreams
    rw [Function.iterate_succ_apply', afterRecord_ok ht, ht, List.getElem?_eq_getElem hn]
    refine ⟨rfl, ?_⟩
    rw [currentTsOut?, htook.streams.codec, htook.header, htook.bytes]
    exact hi.sent_eq
  · have hle : items.length ≤ n := Nat.le_of_not_lt hn
    obtain ⟨t, hend, -, hheader, -, -, hstay, hafter⟩ := ended_iterate hitems hs
    rw [hafter (n + 1) (Nat.lt_succ_of_le hle), List.getElem?_eq_none hle]
    refine ⟨?_, ?_⟩
    · by_cases heq : n = items.length
      · rw [heq]
        exact hend
      · rw [hafter n (by omega)]
        exact hstay
    · rw [currentTsOut?, hheader]
      cases t.codec? <;> rfl

/-- Metadata and records written one after the other come out of a scanner as they went in. -/
theorem stream_round_trip {head : Bytes} {source : Source} (hm : m.EncodesTo head)
    (htexts : m.TextsPlain) (hitems : ∀ i ∈ items, m.codec.Writes i)
    (hs : source.Delivers (head ++ (items.map Item.frame).flatten)) :
    ∃ s, EStateM.run readHead (ofSource source) = .ok m s ∧
      EStateM.run nextRecord (ofSource source) = EStateM.run nextRecord s ∧
      ∀ n,
        EStateM.run readHead (afterRecord^[n] s) = .ok m (afterRecord^[n] s) ∧
        EStateM.run nextRecord (afterRecord^[n] s) =
          .ok (items[n]?.map Item.record) (afterRecord^[n + 1] s) ∧
        (afterRecord^[n] s).frames = min n items.length ∧
        (afterRecord^[n + 1] s).currentTsOut? = items[n]?.bind Item.sent := by
  obtain ⟨u, hu, hrest⟩ := Metadata.read_of_encodesTo hm htexts hs
  obtain ⟨s, hstreams, -, hzero, hhead, hnext⟩ := opens hu hrest
  refine ⟨s, hhead, nextRecord_congr hnext, fun n => ?_⟩
  obtain ⟨hknown, hframes⟩ := known_iterate hitems hstreams n
  obtain ⟨hrecord, hsent⟩ := nextRecord_iterate hitems hstreams n
  rw [hzero, Nat.zero_add] at hframes
  exact ⟨hknown, hrecord, hframes, hsent⟩

/-- A bar with its send time and a record of unknown tag, cut within the metadata. -/
theorem stream_round_trip_bar :
    let m : Metadata := ⟨.v2, "XNAS.ITCH", some .ohlcv1m, 0, 0, 0, some .rawSymbol,
      .instrumentId, true, ["AAPL"], [], [], []⟩
    let bar : Record := .known ⟨16, Tag.ohlcv1m, 2, 10888, 60⟩ .ohlcv ⟨⟨5⟩, ⟨9⟩, ⟨4⟩, ⟨7⟩, 200⟩
    let h : Header := ⟨5, 0xf0, 2, 10888, 61⟩
    let unknown : Bytes := h.encode ++ [1, 2, 3, 4]
    let head : Bytes := m.encode.toOption.getD []
    let frame : Bytes := (m.codec.encodeWithTsOut bar 75).toOption.getD []
    let source : Source :=
      [.data (head.take 5), .interrupted, .data (head.drop 5 ++ (frame ++ (unknown ++ [])))]
    ∃ s, EStateM.run readHead (ofSource source) = .ok m s ∧
      EStateM.run nextRecord s = .ok (some bar) (afterRecord s) ∧
      (afterRecord s).currentTsOut? = some 75 ∧
      EStateM.run nextRecord (afterRecord s) =
        .ok (some (.unrecognized h unknown)) (afterRecord (afterRecord s)) ∧
      (afterRecord (afterRecord s)).currentTsOut? = none ∧
      EStateM.run nextRecord (afterRecord^[7] s) = .ok none (afterRecord^[8] s) := by
  intro m bar h unknown head frame source
  have hm : m.EncodesTo head := ⟨by decide +kernel, by decide +kernel⟩
  have hframe : m.codec.encodeWithTsOut bar 75 = .ok frame := by decide +kernel
  have hplain : m.codec.encode bar = .ok ((m.codec.encode bar).toOption.getD []) := by
    decide +kernel
  have hbar : m.codec.Writes ⟨bar, frame, some 75⟩ :=
    .sent hplain (Codec.decode_of_encodeAt hplain ⟨by decide, trivial⟩) hframe
  have hunknown : m.codec.Writes ⟨.unrecognized h unknown, unknown, none⟩ :=
    .unknown (by decide) (by decide)
  have hitems : ∀ i ∈ [Item.mk bar frame (some 75), ⟨.unrecognized h unknown, unknown, none⟩],
      m.codec.Writes i := by
    intro i hi
    rcases List.mem_pair.1 hi with rfl | rfl
    · exact hbar
    · exact hunknown
  have hsource : source.Delivers (head ++ (frame ++ (unknown ++ []))) := by
    refine ⟨?_, rfl⟩
    show head.take 5 ++ ((head.drop 5 ++ (frame ++ (unknown ++ []))) ++ []) = _
    rw [List.append_nil, ← List.append_assoc, List.take_append_drop]
  obtain ⟨s, hhead, -, hcalls⟩ := stream_round_trip hm (by decide) hitems hsource
  obtain ⟨-, hfirst, -, hsent⟩ := hcalls 0
  obtain ⟨-, hsecond, -, hnone⟩ := hcalls 1
  exact ⟨s, hhead, hfirst, hsent, hsecond, hnone, (hcalls 7).2.1⟩

end FrameScanner
end TickStream
