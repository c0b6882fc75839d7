import Mathlib.Control.Monad.Basic
import TickStream.Proofs.Bytes.Covers
import TickStream.Proofs.Bytes.Reading
import TickStream.Proofs.Metadata.Encoding
/-
Metadata that was read from a frame.  A field may be full when it is read, and keeps a zero when
it is written.  Main statement: decoded metadata has a frame again, which gives it back, unless
one of its texts fills its field; and then that is what is said of it.
-/
namespace TickStream
namespace Metadata

open Step Reader Entry

/-! ## What is known of decoded metadata -/

theorem covers_schema : Covers readSchema fun _ n => n = 2 := by
  refine covers_offset.bind fun start n hn => ?_
  refine (spans_word .u16 "schema").covers.bind fun v k hk => ?_
  have hsum : n + (k + 0) = 2 := by
    rw [hn, hk]
    rfl
  split
  · exact covers_pure hsum
  · split
    · exact covers_pure hsum
    · exact covers_throw _

theorem covers_symbology (field : String) : Covers (readSymbology field) fun _ n => n = 1 := by
  refine covers_offset.bind fun start n hn => ?_
  refine (spans_word .u8 field).covers.bind fun v k hk => ?_
  have hsum : n + (k + 0) = 1 := by
    rw [hn, hk]
    rfl
  split
  · exact covers_pure hsum
  · split
    · exact covers_pure hsum
    · exact covers_throw _

theorem covers_symbologies : Covers readSymbologies fun _ n => n = 3 := by
  refine (covers_symbology "stype_in").bind fun stypeIn a ha => ?_
  refine covers_offset.bind fun start b hb => ?_
  refine (covers_symbology "stype_out").bind fun stypeOut c hc => ?_
  cases stypeOut with
  | none => exact covers_throw _
  | some stypeOut =>
    refine (spans_word .u8 "ts_out").covers.bind fun tsOut d hd => covers_pure ?_
    rw [ha, hb, hc, hd]
    rfl

theorem covers_versioned (v : Version) : Covers (readVersioned v) fun _ n => n = 58 := by
  cases v with
  | v1 =>
    refine (spans_skip 8 "record_count").covers.bind fun _ a ha => ?_
    refine covers_symbologies.bind fun fields b hb => ?_
    refine (spans_skip 47 "reserved").covers.bind fun _ c hc => covers_pure ?_
    omega
  | v2 =>
    refine covers_symbologies.bind fun fields a ha => ?_
    refine (spans_word .u16 "symbol_cstr_len").covers.bind fun width b hb => ?_
    have hb : b = 2 := hb
    split
    · exact Covers.bind (Q := fun _ _ => False) (covers_throw _) fun _ _ h => h.elim
    · refine (spans_skip 53 "reserved").covers.bind fun _ c hc => covers_pure ?_
      omega

theorem covers_count (context : String) : Covers (readCount context) fun _ n => n = 4 :=
  (spans_word .u32 context).covers.bind fun _ _ hn => covers_pure hn

theorem covers_symbols (width : Nat) (field : String) :
    Covers (readSymbols width field) fun ss n =>
      n = widthAll (symbolEntries width field ss) ∧ ∀ s ∈ ss, HeldIn width s := by
  have hone : Covers (text width field) fun s n =>
      n = widthAll [Entry.text field width s] ∧ HeldIn width s := covers_text width field
  refine (covers_count field).bind fun count n hn => ?_
  intro c c' ss hr
  obtain ⟨k, hk, hsize, hheld⟩ := covers_times hone count hr
  refine ⟨k, hk, ?_, hheld⟩
  rw [symbolEntries, widthAll_cons, List.map_eq_flatMap, hn, hsize]
  rfl

theorem covers_interval (width : Nat) :
    Covers (readInterval width) fun i n =>
      n = widthAll (intervalEntries width i) ∧ HeldIn width i.symbol := by
  refine (spans_word .u32 "interval start_date").covers.bind fun first a ha => ?_
  refine (spans_word .u32 "interval end_date").covers.bind fun last b hb => ?_
  refine (covers_text width "mapping symbol").bind fun symbol c hc => covers_pure ⟨?_, hc.2⟩
  rw [ha, hb, hc.1]
  rfl

theorem covers_mapping (width : Nat) :
    Covers (readMapping width) fun s n =>
      n = widthAll (mappingEntries width s) ∧
        ∀ t ∈ s.symbol :: s.intervals.map MappingInterval.symbol, HeldIn width t := by
  refine (covers_text width "mapping raw_symbol").bind fun symbol a ha => ?_
  refine (covers_count "mapping intervals").bind fun count b hb => ?_
  refine (covers_times (covers_interval width) count).bind fun is c hc => covers_pure ⟨?_, ?_⟩
  · rw [mappingEntries, widthAll_cons, widthAll_cons, ha.1, hb, hc.1]
    rfl
  · rw [List.forall_mem_cons, List.forall_mem_map]
    exact ⟨ha.2, hc.2⟩

/-- What is known of metadata that was read from `n` bytes. -/
structure Held (m : Metadata) (n : Nat) : Prop where
  dataset : HeldIn datasetWidth m.dataset
  symbols : ∀ s ∈ m.symbolTexts, HeldIn m.version.symbolWidth s
  /-- A frame of it needs no more bytes. -/
  size : widthAll m.entries ≤ n

theorem Held.plain {m : Metadata} {n : Nat} (h : m.Held n) : m.TextsPlain := by
  intro s hs
  rw [texts_eq] at hs
  rcases List.mem_cons.1 hs with rfl | hs
  · exact h.dataset.1
  · exact (h.symbols s hs).1

theorem covers_body (v : Version) :
    Covers (readBody v) fun m n => m.version = v ∧ m.Held n := by
  refine (covers_text datasetWidth "dataset").bind fun dataset a ha => ?_
  refine covers_schema.bind fun schema b hb => ?_
  refine (spans_word .u64 "start").covers.bind fun start c hc => ?_
  refine (spans_word .u64 "end").covers.bind fun stop d hd => ?_
  refine (spans_word .u64 "limit").covers.bind fun limit e he => ?_
  refine (covers_versioned v).bind fun fields f hf => ?_
  obtain ⟨stypeIn, stypeOut, tsOut⟩ := fields
  refine (covers_count "schema_definition length").bind fun length g hg => ?_
  refine (spans_skip length "schema_definition").covers.bind fun _ i hi => ?_
  refine (covers_symbols v.symbolWidth "symbols").bind fun symbols j hj => ?_
  refine (covers_symbols v.symbolWidth "partial").bind fun partly k hk => ?_
  refine (covers_symbols v.symbolWidth "not_found").bind fun notFound l hl => ?_
  refine (covers_count "mappings").bind fun count n hn => ?_
  refine (covers_times (covers_mapping v.symbolWidth) count).bind fun mappings o ho => ?_
  refine covers_pure ⟨rfl, ha.2, ?_, ?_⟩
  · simp only [symbolTexts, List.forall_mem_append, List.forall_mem_flatMap]
    exact ⟨⟨⟨hj.2, hk.2⟩, hl.2⟩, ho.2⟩
  · rw [entries_eq]
    have hdataset : widthAll [Entry.text "dataset" datasetWidth dataset] = a := ha.1.symm
    have hschema : widthAll [Entry.word .u16 (schemaCode schema)] = b := hb.symm
    have hstart : widthAll [Entry.word .u64 start] = c := hc.symm
    have hstop : widthAll [Entry.word .u64 stop] = d := hd.symm
    have hlimit : widthAll [Entry.word .u64 limit] = e := he.symm
    have hlength : widthAll [Entry.word .u32 (0 : UInt32)] = g := hg.symm
    have hmappings : widthAll (countEntry mappings ::
        mappings.flatMap (mappingEntries v.symbolWidth)) = n + o := by
      rw [widthAll_cons, hn, ho.1]
      rfl
    simp only [widthAll_append, widthAll_versionedEntries, hdataset, hschema, hstart, hstop,
      hlimit, hlength, ← hj.1, ← hk.1, ← hl.1, hmappings]
    omega

theorem held_of_decodeBody {m : Metadata} {v : Version} {body : Bytes}
    (h : decodeBody v body = .ok m) : ∃ n, m.Held n ∧ n ≤ body.length := by
  rw [decodeBody, Reader.run] at h
  split at h
  · rename_i m' c hrun
    injection h with h
    obtain ⟨n, hn, -, hheld⟩ := covers_body v hrun
    have hn : body.length = n + c.rest.length := hn
    rw [← h]
    exact ⟨n, hheld, by omega⟩
  · exact absurd h (by simp)

theorem length_lt_of_decodePrefix {bs : Bytes} {v : Version} {n : Nat}
    (h : decodePrefix bs = .ok (v, n)) : n < UInt32.size := by
  rw [length_of_decodePrefix h]
  exact UInt32.toNat_lt _

/-- The frame of decoded metadata is no longer than the one that it was decoded from. -/
theorem held_of_decode {m : Metadata} {bs : Bytes} (h : decode bs = .ok m) :
    ∃ n, m.Held n ∧ n < UInt32.size := by
  obtain ⟨head, -, h⟩ := bind_eq_ok.1 h
  obtain ⟨⟨v, length⟩, hprefix, h⟩ := bind_eq_ok.1 h
  obtain ⟨body, hbody, hm⟩ := bind_eq_ok.1 h
  have hlength := length_lt_of_decodePrefix hprefix
  have hbodyLength : body.length = length := by
    obtain ⟨c, htake⟩ := Reader.run_eq_ok.1 hbody
    exact (take_eq_ok htake).2
  obtain ⟨n, hheld, hn⟩ := held_of_decodeBody hm
  exact ⟨n, hheld, by omega⟩

/-- The same of metadata that was taken off a source. -/
theorem held_of_read {m : Metadata} {size : Nat} {s t : Source}
    (h : EStateM.run read s = .ok (m, size) t) : ∃ n, m.Held n ∧ n < UInt32.size := by
  obtain ⟨front, s₁, -, h⟩ := run_bind_eq_ok.1 h
  obtain ⟨⟨v, length⟩, s₂, hprefix, h⟩ := run_bind_eq_ok.1 h
  have hlength := length_lt_of_decodePrefix (run_ofExcept_eq_ok.1 hprefix).1
  obtain ⟨body, s₃, hbody, h⟩ := run_bind_eq_ok.1 h
  obtain ⟨m', s₄, hdecode, h⟩ := run_bind_eq_ok.1 h
  injection h with h
  injection h with h
  obtain ⟨n, hheld, hn⟩ := held_of_decodeBody (run_ofExcept_eq_ok.1 hdecode).1
  have hbodyLength := Intake.length_of_exactly hbody
  exact ⟨n, h ▸ hheld, by omega⟩

/-- The length of a frame that is written for it can be stated. -/
theorem Held.encodesTo {m : Metadata} {n : Nat} {head : Bytes} (hm : m.Held n)
    (hn : n < UInt32.size) (h : m.encode = .ok head) : m.EncodesTo head := by
  have hsize := hm.size
  refine ⟨h, ?_⟩
  rw [length_of_encode h]
  omega

/-! ## Writing it again -/

/-- A text stands in its field with no zero behind it. -/
def FillsField (m : Metadata) : Prop :=
  (Bytes.ofString m.dataset).length = datasetWidth ∨
    ∃ s ∈ m.symbolTexts, (Bytes.ofString s).length = m.version.symbolWidth

instance (m : Metadata) : Decidable m.FillsField := inferInstanceAs (Decidable (_ ∨ ∃ s ∈ _, _))

theorem Held.textsFit_iff {m : Metadata} {n : Nat} (h : m.Held n) :
    m.TextsFit ↔ ¬ m.FillsField := by
  constructor
  · rintro ⟨hdataset, hsymbols⟩ (hfull | ⟨s, hs, hfull⟩)
    · omega
    · have := hsymbols s hs
      omega
  · intro hfull
    refine ⟨?_, fun s hs => ?_⟩
    · have hle := h.dataset.2
      have hne : (Bytes.ofString m.dataset).length ≠ datasetWidth := fun he => hfull (.inl he)
      omega
    · have hle := (h.symbols s hs).2
      have hne : (Bytes.ofString s).length ≠ m.version.symbolWidth :=
        fun he => hfull (.inr ⟨s, hs, he⟩)
      omega

theorem encode_eq_error {m : Metadata} {fault : Error} (h : m.encode = .error fault) :
    encodeAll m.entries = .error fault := by
  rw [encode] at h
  cases hbody : encodeAll m.entries with
  | ok body =>
    rw [hbody] at h
    exact absurd h (by simp [bind, Except.bind, pure, Except.pure])
  | error e =>
    rw [hbody] at h
    injection h with h
    rw [h]

/-- Nothing but a full field is ever said of decoded metadata that has no frame. -/
theorem Held.error_eq {m : Metadata} {n : Nat} (hm : m.Held n) {fault : Error}
    (h : m.encode = .error fault) : ∃ field width, fault = .textTooLong field width width := by
  obtain ⟨field, width, s, hmem, hlong, rfl⟩ := encodeAll_eq_error (encode_eq_error h)
  have hall : ∀ e ∈ m.entries, e.OfText fun width s => (Bytes.ofString s).length ≤ width :=
    (ofText_entries _ m).2 ⟨hm.dataset.2, fun s hs => (hm.symbols s hs).2⟩
  have hle : (Bytes.ofString s).length ≤ width := hall _ hmem
  exact ⟨field, width, by rw [Nat.le_antisymm hle hlong]⟩

/-- Metadata that was decoded, and its own frame. -/
theorem decoded_round_trip {m : Metadata} {bs : Bytes} (h : decode bs = .ok m) :
    (¬ m.FillsField → ∃ bs', m.encode = .ok bs' ∧ ∀ rest, decode (bs' ++ rest) = .ok m) ∧
    (m.FillsField → ∃ field width, m.encode = .error (.textTooLong field width width)) := by
  obtain ⟨n, hm, hn⟩ := held_of_decode h
  have hfits := m.encode_isOk.trans hm.textsFit_iff
  constructor
  · intro hfull
    obtain ⟨bs', hbs'⟩ := hfits.2 hfull
    have hlen : bs'.length < prefixSize + UInt32.size := by
      have hsize := hm.size
      rw [length_of_encode hbs']
      omega
    exact ⟨bs', hbs', decode_of_encodesTo ⟨hbs', hlen⟩ hm.plain⟩
  · intro hfull
    cases hbs : m.encode with
    | ok bs' => exact absurd hfull (hfits.1 ⟨bs', hbs⟩)
    | error fault =>
      obtain ⟨field, width, rfl⟩ := hm.error_eq hbs
      exact ⟨field, width, rfl⟩

/-- A frame with a record count, a definition of a schema and reserved bytes that are not zero:
none of them is in the frame that is written for its metadata. -/
theorem decoded_round_trip_stray :
    let bs : Bytes := front .v1 122 ++ (Bytes.ofString "GLBX.MDP3-LONG1" ++ Bytes.zeros 27 ++
      Word.u64.encode (9 : UInt64) ++ [0, 0, 5] ++ List.replicate 47 0xee ++ [2, 0, 0, 0, 7, 7] ++
      Bytes.zeros 16)
    let m : Metadata := ⟨.v1, "GLBX.MDP3-LONG1", some .mbo, 0, 0, 0, some .instrumentId,
      .instrumentId, true, [], [], [], []⟩
    decode bs = .ok m ∧ ∃ bs', m.encode = .ok bs' ∧ decode (bs' ++ [3]) = .ok m ∧ bs'.length = 128
    := by
  intro bs m
  have hdecode : decode bs = .ok m := by decide +kernel
  obtain ⟨hagain, -⟩ := decoded_round_trip hdecode
  obtain ⟨bs', hbs', hback⟩ := hagain (by decide)
  have hlen : bs'.length = 128 := by
    rw [length_of_encode hbs']
    decide
  exact ⟨hdecode, bs', hbs', hback [3], hlen⟩

/-- A dataset of sixteen characters is read from its field, and does not fit it again. -/
theorem full_dataset_not_encoded :
    let bs : Bytes := front .v1 120 ++ (List.replicate 16 0x41 ++ Bytes.zeros 104)
    ∃ m, decode bs = .ok m ∧ ¬ ∃ bs', m.encode = .ok bs' ∧ decode bs' = .ok m := by
  intro bs
  refine ⟨⟨.v1, "AAAAAAAAAAAAAAAA", some .mbo, 0, 0, 0, some .instrumentId, .instrumentId, false,
    [], [], [], []⟩, by decide +kernel, ?_⟩
  rintro ⟨bs', hbs', -⟩
  have hfit := (encode_isOk _).1 ⟨bs', hbs'⟩
  exact absurd hfit (by decide)

end Metadata
end TickStream
