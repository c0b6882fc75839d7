import TickStream.Print
import TickStream.Proofs.Record.PrintedLines
/-
Streams printed and read back.  Main statement: over any source, the records that a scanner gives
before it stops are printed, one on a line and without those of unknown tag; if the stream ends,
they are counted and the lines give them back, and otherwise the failure is reported.
-/
namespace TickStream
namespace Print

open Step FrameScanner

variable {source : Source} {s t u : FrameScanner} {m : Metadata} {r : Record} {rs : List Record}

/-- The records that are printed. -/
def known (rs : List Record) : List Record := rs.filter fun r => !r.isUnrecognized

def lines (rs : List Record) : List String := (known rs).map fun r => line r.toJson

theorem lines_cons (r : Record) (rs : List Record) :
    lines (r :: rs) = (recordLine? r).toList ++ lines rs := by
  rw [lines, known, List.filter_cons, recordLine?]
  cases r.isUnrecognized <;> rfl

/-! ## What is printed -/

theorem recordLines_append (rs : List Record) (ending : List (Except Error Record)) :
    recordLines (rs.map .ok ++ ending) =
      ((recordLines ending).1, lines rs ++ (recordLines ending).2) := by
  induction rs with
  | nil => rfl
  | cons r rs ih =>
    rw [List.map_cons, List.cons_append, recordLines, ih, lines_cons, List.append_assoc]

theorem records_of_failed {e : Error} (hhead : EStateM.run readHead (ofSource source) = .error e s) :
    (records source false).result = .error e ∧ (records source false).text = String.join [] := by
  replace hhead : readHead (ofSource source) = .error e s := hhead
  rw [records, hhead]
  exact ⟨rfl, rfl⟩

/-- A run that ends with `ending`, all of which is met within the advances that are made. -/
theorem records_of_yields (hhead : EStateM.run readHead (ofSource source) = .ok m s)
    (hs : s.Opened m) (hy : s.Yields rs t) {ending : List (Except Error Record)}
    (hending : ending.length ≤ 1) (ht : ∀ n, (t.nextRecords n).1 = ending.take n) :
    (records source false).result =
        (recordLines ending).1.map (fun _ => (lines rs ++ (recordLines ending).2).length) ∧
      (records source false).text = String.join (lines rs ++ (recordLines ending).2) := by
  obtain ⟨-, hsize, -⟩ := hy.of_opened hs
  have hall : (s.nextRecords s.bound).1 = rs.map .ok ++ ending := by
    rw [hy.nextRecords ht]
    refine List.take_of_length_le ?_
    rw [List.length_append, List.length_map, bound]
    omega
  replace hhead : readHead (ofSource source) = .ok m s := hhead
  rw [records, hhead]
  simp only [hall, recordLines_append]
  exact ⟨trivial, rfl⟩

/-! ## What the lines hold -/

theorem exists_of_mem_known (hr : r ∈ known rs) : r ∈ rs ∧ ∃ h k b, r = .known h k b := by
  obtain ⟨hmem, hknown⟩ := List.mem_filter.1 hr
  cases r with
  | known h k b => exact ⟨hmem, h, k, b, rfl⟩
  | unrecognized h bytes => exact absurd hknown (by simp [Record.isUnrecognized])

/-- The line of a record that a frame decodes to holds the record and nothing else. -/
theorem holds_compact {c : Codec} (hd : c.Decoded r) (hr : r ∈ known rs) :
    LineScanner.Holds c r.toJson.compact r := by
  obtain ⟨-, h, k, b, rfl⟩ := exists_of_mem_known hr
  obtain ⟨-, -, htexts⟩ := hd.of_known
  exact ⟨Record.oneLine_compact htexts.widen, hd.decodeJson_compact⟩

theorem ofString_join_lines (rs : List Record) :
    Bytes.ofString (String.join (lines rs)) =
      LineScanner.ended ((known rs).map fun r => r.toJson.compact) := by
  have hnewline : Bytes.ofString "\n" = [LineScanner.newline] := by decide
  rw [lines]
  induction known rs with
  | nil => rfl
  | cons r rs ih =>
    rw [List.map_cons, String.join_cons, Bytes.ofString_append, line, Bytes.ofString_append, ih,
      hnewline, List.map_cons, LineScanner.ended_cons, List.append_assoc]
    rfl

/-- The lines give the records back, in whatever pieces they arrive. -/
theorem readAll_lines {c : Codec} (hd : ∀ r ∈ rs, c.Decoded r) {out : Source}
    (hout : out.Delivers (Bytes.ofString (String.join (lines rs)))) :
    ∃ last, EStateM.run LineScanner.readAll (LineScanner.ofSource out c) = .ok (known rs) last := by
  rw [ofString_join_lines] at hout
  refine LineScanner.readAll_of_lines ?_ hout
  rw [List.forall₂_map_left_iff, List.forall₂_same]
  exact fun r hr => holds_compact (hd r (exists_of_mem_known hr).1) hr

theorem newline_not_mem_compact {c : Codec} (hd : c.Decoded r) (hr : r ∈ known rs) :
    '\n' ∉ r.toJson.compact.toList := by
  intro hmem
  refine (holds_compact hd hr).oneLine.whole ?_
  rw [Bytes.ofString_eq, List.mem_flatMap]
  exact ⟨'\n', hmem, by decide⟩

/-! ## Streams -/

/-- The text is one line for every record that is printed, and each line ends at its only
newline. -/
structure Shows (p : Printed Nat) (rs : List Record) : Prop where
  text : p.text = String.join (lines rs)
  newline : ∀ r ∈ known rs, '\n' ∉ r.toJson.compact.toList

/-- A run from the front of a source is one of the scanner that has decoded the metadata, or the
metadata cannot be decoded and there are no records. -/
theorem yields_cases (hy : (ofSource source).Yields rs t) :
    (∃ m s v, EStateM.run readHead (ofSource source) = .ok m s ∧ s.Opened m ∧ s.Yields rs v ∧
      EStateM.run nextRecord t = EStateM.run nextRecord v) ∨
    ∃ e v, EStateM.run readHead (ofSource source) = .error e v ∧ rs = [] ∧
      EStateM.run nextRecord t = .error e v := by
  obtain ⟨m, s, hhead, hs, hnext⟩ | ⟨e, v, hhead, hfails⟩ := opens_or_fails source
  · obtain ⟨v, hyields, hsame⟩ := hy.congr hnext
    exact .inl ⟨m, s, v, hhead, hs, hyields, hsame⟩
  · cases hy with
    | nil => exact .inr ⟨e, v, hhead, rfl, hfails⟩
    | cons hr _ =>
      rw [hfails] at hr
      cases hr

/-- Whatever a source does, a scanner gives some records and stops.  These are printed; if the
stream ends they are counted and their lines give them back, and if it fails the failure is
reported behind them. -/
theorem print_reads_back (source : Source) :
    (∃ rs t, (ofSource source).Yields rs t ∧ t.Stops) ∧
    ∀ rs t, (ofSource source).Yields rs t →
      (∀ u, EStateM.run nextRecord t = .ok none u → ∃ m, u.metadata = some m ∧
        (records source false).result = .ok (known rs).length ∧
        Shows (records source false) rs ∧
        ∀ out : Source, out.Delivers (Bytes.ofString (records source false).text) →
          ∃ last, EStateM.run LineScanner.readAll (LineScanner.ofSource out m.codec) =
            .ok (known rs) last) ∧
      ∀ e u, EStateM.run nextRecord t = .error e u →
        (records source false).result = .error e ∧ Shows (records source false) rs := by
  refine ⟨?_, fun rs t hy => ⟨fun u hend => ?_, fun e u hfail => ?_⟩⟩
  · obtain ⟨m, s, hhead, hs, hnext⟩ | ⟨e, v, hhead, hfails⟩ := opens_or_fails source
    · obtain ⟨rs, t, hy, hstops⟩ := hs.yields
      obtain ⟨v, hyields, hsame⟩ := hy.congr hnext.symm
      exact ⟨rs, v, hyields, hstops.congr hsame⟩
    · exact ⟨[], _, .nil _, .fails e v hfails⟩
  · obtain ⟨m, s, v, hhead, hs, hyields, hsame⟩ | ⟨e, v, -, -, hfails⟩ := yields_cases hy
    · rw [hsame] at hend
      obtain ⟨hopened, -, hdecoded⟩ := hyields.of_opened hs
      have hnone (n : Nat) : (v.nextRecords n).1 = ([] : List (Except Error Record)).take n := by
        rw [nextRecords_succ_none hend, List.take_nil]
      obtain ⟨hresult, htext⟩ := records_of_yields hhead hs hyields (by decide) hnone
      have hlines : lines rs ++ (recordLines []).2 = lines rs := List.append_nil _
      rw [hlines] at hresult htext
      have hcount : (lines rs).length = (known rs).length := List.length_map _
      refine ⟨m, hopened.metadata_at_end hend, hresult.trans (congrArg Except.ok hcount),
        ⟨htext, fun r hr => ?_⟩, fun out hout => ?_⟩
      · exact newline_not_mem_compact (hdecoded r (exists_of_mem_known hr).1) hr
      · exact readAll_lines hdecoded (htext ▸ hout)
    · rw [hfails] at hend
      cases hend
  · obtain ⟨m, s, v, hhead, hs, hyields, hsame⟩ | ⟨e', v, hhead, rfl, hfails⟩ := yields_cases hy
    · rw [hsame] at hfail
      obtain ⟨-, -, hdecoded⟩ := hyields.of_opened hs
      have hlast := nextRecords_error hfail
      obtain ⟨hresult, htext⟩ := records_of_yields hhead hs hyields (Nat.le_refl _) hlast
      have hlines : lines rs ++ (recordLines [.error e]).2 = lines rs := List.append_nil _
      rw [hlines] at htext
      exact ⟨hresult, htext, fun r hr =>
        newline_not_mem_compact (hdecoded r (exists_of_mem_known hr).1) hr⟩
    · rw [hfails] at hfail
      injection hfail with he
      obtain ⟨hresult, htext⟩ := records_of_failed hhead
      exact ⟨he ▸ hresult, htext, fun r hr => absurd hr List.not_mem_nil⟩

/-- A message of two lines and a record of unknown tag: one line is printed. -/
theorem print_reads_back_message :
    let m : Metadata := ⟨.v2, "XNAS.ITCH", some .ohlcv1m, 0, 0, 0, some .rawSymbol,
      .instrumentId, true, ["AAPL"], [], [], []⟩
    let message : Record := .known ⟨82, Tag.system, 2, 10888, 60⟩ .system
      (⟨"reset\r\nby \"host\"", 7⟩ : SystemMessage)
    let h : Header := ⟨5, 0xf0, 2, 10888, 61⟩
    let unknown : Bytes := h.encode ++ [1, 2, 3, 4]
    let head : Bytes := m.encode.toOption.getD []
    let frame : Bytes := (m.codec.encode message).toOption.getD []
    let source : Source := [.data head, .interrupted, .data frame, .data unknown]
    let out : Source := Source.ofBytes (Bytes.ofString (line message.toJson))
    (records source false).result = .ok 1 ∧
      (records source false).text = line message.toJson ∧
      ∃ last, EStateM.run LineScanner.readAll (LineScanner.ofSource out m.codec) =
        .ok [message] last := by
  intro m message h unknown head frame source out
  have hm : m.EncodesTo head := ⟨by decide +kernel, by decide +kernel⟩
  have hframe : m.codec.encode message = .ok frame := by decide +kernel
  have hmessage : m.codec.decode frame = .ok message :=
    Codec.decode_of_encodeAt hframe ⟨by decide, trivial⟩
  have hunknown : m.codec.decode unknown = .ok (.unrecognized h unknown) :=
    Codec.decode_of_unknown (by decide) (by decide)
  have hsource : source.Delivers (head ++ ([frame, unknown].flatten ++ [])) :=
    ⟨by rw [List.append_nil]; rfl, rfl⟩
  obtain ⟨u, hu, hrest⟩ := Metadata.read_of_encodesTo hm (by decide) hsource
  obtain ⟨s, hstreams, -, -, -, hnext⟩ := opens hu hrest
  obtain ⟨t, hyields, ht, -⟩ := yields_of_decode (.cons hmessage (.cons hunknown .nil)) hstreams
  obtain ⟨v, hend, hended⟩ := nextRecord_nil ht
  -- The run of the opened scanner is one from the front of the source.
  obtain ⟨w, hy, hsame⟩ := hyields.congr (nextRecord_congr hnext.symm)
  obtain ⟨m', hm', hresult, hshows, hback⟩ := ((print_reads_back source).2 _ _ hy).1 v (hsame ▸ hend)
  have hmetadata : m' = m := by
    rw [hended.metadata, ht.metadata] at hm'
    exact (Option.some.inj hm').symm
  have hlines : lines [message, .unrecognized h unknown] = [line message.toJson] := rfl
  have htext : (records source false).text = line message.toJson := by
    rw [hshows.text, hlines, String.join_cons, String.join_nil, String.append_empty]
  subst hmetadata
  exact ⟨hresult, htext, hback out (htext ▸ Source.delivers_ofBytes _)⟩

end Print
end TickStream
