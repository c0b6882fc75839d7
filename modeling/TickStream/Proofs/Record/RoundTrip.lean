import TickStream.Proofs.Record.Framing
import TickStream.Proofs.Record.Texts
/-
Records of known kinds in bytes.  Main statement: a record has a frame exactly when its tag
means its kind, its header states the size of its layout, and its texts are shorter than their
fields; and the frame gives the record back unless a text has a zero character or a field is
set that the version lacks.
-/
namespace TickStream

open Step Reader

namespace Codec

/-- What a record must be like to have a frame. -/
structure Holds (c : Codec) (h : Header) (k : Kind) (b : k.Body) : Prop where
  /-- The tag means the kind. -/
  tag : Kind.ofTag? h.tag = some k
  /-- The header states the size of the layout, send time included. -/
  size : h.recordSize = c.size k
  texts : k.TextsFit c.version b

/-- What a body must be like for its frame to give it back. -/
structure Keeps (c : Codec) (k : Kind) (b : k.Body) : Prop where
  texts : k.TextsPlain c.version b
  unset : k.LacksUnset c.version b

def trailer (c : Codec) (t : UInt64) : Bytes := if c.tsOut then Word.u64.encode t else []

theorem length_trailer (c : Codec) (t : UInt64) :
    (c.trailer t).length = if c.tsOut then tsOutSize else 0 := by
  rw [trailer]
  split
  · exact Word.u64.length_encode t
  · rfl

/-- The fields of a body have bytes exactly when its texts fit. -/
theorem encode_toRow_isOk (k : Kind) (v : Version) (b : k.Body) :
    (∃ bs, Row.encode (k.layout v) (k.toRow v b) = .ok bs) ↔ k.TextsFit v b := by
  rw [Row.encode_isOk, Row.forall_iff_texts Field.fits_iff, k.texts_toRow v b]
  rfl

/-- A frame is the header, the fields and the send time. -/
theorem encodeAt_eq_ok {c : Codec} {h : Header} {k : Kind} {b : k.Body} {t : UInt64}
    {bs : Bytes} :
    c.encodeAt (.known h k b) t = .ok bs ↔
      Kind.ofTag? h.tag = some k ∧ h.recordSize = c.size k ∧
        ∃ row, Row.encode (k.layout c.version) (k.toRow c.version b) = .ok row ∧
          bs = h.encode ++ (row ++ c.trailer t) := by
  rw [encodeAt]
  by_cases htag : Kind.ofTag? h.tag = some k
  · by_cases hsize : h.recordSize = c.size k
    · rw [if_neg (fun hne => hne htag), if_neg (fun hne => hne hsize), bind_eq_ok]
      constructor
      · rintro ⟨row, hrow, hbs⟩
        injection hbs with hbs
        exact ⟨htag, hsize, row, hrow, by rw [← hbs, List.append_assoc]; rfl⟩
      · rintro ⟨-, -, row, hrow, rfl⟩
        exact ⟨row, hrow, by rw [← List.append_assoc]; rfl⟩
    · rw [if_neg (fun hne => hne htag), if_pos hsize]
      exact ⟨fun hbs => absurd hbs (by simp), fun hbs => absurd hbs.2.1 hsize⟩
  · rw [if_pos htag]
    exact ⟨fun hbs => absurd hbs (by simp), fun hbs => absurd hbs.1 htag⟩

theorem encodeAt_isOk (c : Codec) (h : Header) (k : Kind) (b : k.Body) (t : UInt64) :
    (∃ bs, c.encodeAt (.known h k b) t = .ok bs) ↔ c.Holds h k b := by
  constructor
  · rintro ⟨bs, hbs⟩
    obtain ⟨htag, hsize, row, hrow, -⟩ := encodeAt_eq_ok.1 hbs
    exact ⟨htag, hsize, (encode_toRow_isOk k c.version b).1 ⟨row, hrow⟩⟩
  · rintro ⟨htag, hsize, htexts⟩
    obtain ⟨row, hrow⟩ := (encode_toRow_isOk k c.version b).2 htexts
    exact ⟨_, encodeAt_eq_ok.2 ⟨htag, hsize, row, hrow, rfl⟩⟩

/-- What is written behind a header is as long as the layout. -/
theorem framed_append_trailer {c : Codec} {h : Header} {k : Kind} {b : k.Body} {row : Bytes}
    (htag : Kind.ofTag? h.tag = some k) (hsize : h.recordSize = c.size k)
    (hrow : Row.encode (k.layout c.version) (k.toRow c.version b) = .ok row) (t : UInt64) :
    c.Framed h (row ++ c.trailer t) := by
  refine ⟨?_, fun k' hk' => ?_⟩
  · rw [hsize, size, Kind.size, List.length_append, Row.length_encode hrow, length_trailer,
      Header.size, Nat.add_assoc]
  · rw [htag] at hk'
    injection hk' with hk'
    rw [← hk', hsize]

/-- Behind a header of a known tag stand the fields of its layout. -/
theorem decodeBody_of_tag {c : Codec} {h : Header} {k : Kind} {body : Bytes}
    (hf : c.Framed h body) (htag : Kind.ofTag? h.tag = some k) :
    c.decodeBody h body = (do
      let row ← Reader.run (Row.read (k.layout c.version)) body Header.size
      return .known h k (k.ofRow c.version row)) := by
  have hsize := hf.size
  simp only [decodeBody, htag]
  rw [if_neg (by omega), if_neg (fun hne => hne (hf.layout k htag))]

/-- A record of a known kind comes from a header of its tag and the fields of its layout. -/
theorem exists_row_of_decodeBody {c : Codec} {h h' : Header} {k : Kind} {b : k.Body}
    {body : Bytes} (hd : c.decodeBody h' body = .ok (.known h k b)) :
    h = h' ∧ c.Framed h body ∧ Kind.ofTag? h.tag = some k ∧
      ∃ row, Reader.run (Row.read (k.layout c.version)) body Header.size = .ok row ∧
        k.ofRow c.version row = b := by
  obtain ⟨hf, hheader⟩ := framed_of_decodeBody hd
  have hh : h = h' := hheader
  subst hh
  cases htag : Kind.ofTag? h.tag with
  | none =>
    simp only [decodeBody, htag] at hd
    split at hd
    · exact absurd hd (by simp)
    · exact absurd hd (by simp)
  | some k' =>
    rw [decodeBody_of_tag hf htag] at hd
    obtain ⟨row, hread, hr⟩ := bind_eq_ok.1 hd
    injection hr with hr
    injection hr with _ hk hb
    subst hk
    exact ⟨rfl, hf, rfl, row, hread, eq_of_heq hb⟩

/-- If no text has a zero, all that the version has of a body comes back. -/
theorem decode_of_encodeAt_plain {c : Codec} {h : Header} {k : Kind} {b : k.Body} {t : UInt64}
    {bs : Bytes} (hbs : c.encodeAt (.known h k b) t = .ok bs) (hk : k.TextsPlain c.version b) :
    c.decode bs = .ok (.known h k (k.ofRow c.version (k.toRow c.version b))) := by
  obtain ⟨htag, hsize, row, hrow, rfl⟩ := encodeAt_eq_ok.1 hbs
  have hf := framed_append_trailer htag hsize hrow t
  have hplain : Row.Forall LawfulFieldKind.Plain (k.layout c.version) (k.toRow c.version b) := by
    rw [Row.forall_iff_texts Field.plain_iff, k.texts_toRow c.version b]
    exact hk
  have hread := (Row.takes_read hrow hplain).run_eq (c.trailer t) Header.size
  rw [decode_encode_append hf.size_le, decodeBody_of_tag hf htag, hread]
  rfl

theorem decode_of_encodeAt {c : Codec} {h : Header} {k : Kind} {b : k.Body} {t : UInt64}
    {bs : Bytes} (hbs : c.encodeAt (.known h k b) t = .ok bs) (hk : c.Keeps k b) :
    c.decode bs = .ok (.known h k b) := by
  rw [decode_of_encodeAt_plain hbs hk.texts, Kind.ofRow_toRow hk.unset]

/-- When a record was sent does not show in what its frame decodes to. -/
theorem decode_of_encodeAt_of_decode {c : Codec} {h : Header} {k : Kind} {b : k.Body}
    {t t' : UInt64} {bs bs' : Bytes} {r : Record} (hbs : c.encodeAt (.known h k b) t = .ok bs)
    (hbs' : c.encodeAt (.known h k b) t' = .ok bs') (hd : c.decode bs = .ok r) :
    c.decode bs' = .ok r := by
  obtain ⟨htag, hsize, row, hrow, rfl⟩ := encodeAt_eq_ok.1 hbs
  obtain ⟨-, -, row', hrow', rfl⟩ := encodeAt_eq_ok.1 hbs'
  obtain rfl : row = row' := by
    rw [hrow] at hrow'
    injection hrow'
  have hf := framed_append_trailer htag hsize hrow t
  have hf' := framed_append_trailer htag hsize hrow t'
  rw [decode_encode_append hf.size_le, decodeBody_of_tag hf htag] at hd
  rw [decode_encode_append hf'.size_le, decodeBody_of_tag hf' htag]
  obtain ⟨values, hread, hr⟩ := bind_eq_ok.1 hd
  have htakes := (Row.spans_read (k.layout c.version)).takes (Row.length_encode hrow) hread
  rw [htakes.run_eq (c.trailer t') Header.size]
  exact hr

/-- The last bytes of a frame are its send time. -/
theorem tsOut?_append {c : Codec} {front sent : Bytes} (hc : c.tsOut = true)
    (hfront : Header.size ≤ front.length) (hsent : sent.length = tsOutSize) :
    c.tsOut? (front ++ sent) = some (Word.u64.decode sent) := by
  have hlen : (front ++ sent).length = front.length + tsOutSize := by
    rw [List.length_append, hsent]
  have hcond : ¬ ((!c.tsOut ||
      decide ((front ++ sent).length < Header.size + tsOutSize)) = true) := by
    simp only [hc, Bool.not_true, Bool.false_or, decide_eq_true_eq]
    omega
  rw [tsOut?, if_neg hcond, hlen, Nat.add_sub_cancel, List.drop_left]

/-- The send time of a frame that was written with one. -/
theorem tsOut?_of_encodeAt {c : Codec} {h : Header} {k : Kind} {b : k.Body} {t : UInt64}
    {bs : Bytes} (hbs : c.encodeAt (.known h k b) t = .ok bs) (hc : c.tsOut = true) :
    c.tsOut? bs = some t := by
  obtain ⟨-, -, row, -, rfl⟩ := encodeAt_eq_ok.1 hbs
  have ht : c.trailer t = Word.u64.encode t := by rw [trailer, if_pos hc]
  have hfront : Header.size ≤ (h.encode ++ row).length := by
    rw [List.length_append, h.length_encode]
    omega
  rw [ht, ← List.append_assoc, tsOut?_append hc hfront (Word.u64.length_encode t),
    Word.decode_encode]

/-- Records of known kinds and their frames, with and without send times. -/
theorem known_round_trip (c : Codec) (h : Header) (k : Kind) (b : k.Body) :
    ((∃ bs, c.encode (.known h k b) = .ok bs) ↔ c.Holds h k b) ∧
    (∀ bs, c.encode (.known h k b) = .ok bs → c.Keeps k b →
      c.decode bs = .ok (.known h k b)) ∧
    (c.tsOut = true → ∀ t : UInt64,
      ((∃ bs, c.encodeWithTsOut (.known h k b) t = .ok bs) ↔ c.Holds h k b) ∧
      ∀ bs, c.encodeWithTsOut (.known h k b) t = .ok bs →
        c.tsOut? bs = some t ∧ (c.Keeps k b → c.decode bs = .ok (.known h k b))) := by
  refine ⟨c.encodeAt_isOk h k b Timestamp.undefined, ?_, ?_⟩
  · intro bs hbs hk
    exact decode_of_encodeAt hbs hk
  · intro hc t
    have hw : c.encodeWithTsOut (.known h k b) t = c.encodeAt (.known h k b) t := by
      rw [encodeWithTsOut, if_pos hc]
    rw [hw]
    refine ⟨c.encodeAt_isOk h k b t, fun bs hbs => ⟨tsOut?_of_encodeAt hbs hc, ?_⟩⟩
    exact decode_of_encodeAt hbs

/-- A symbol mapping in the first version, which has no room for the naming schemes. -/
theorem known_round_trip_mapping :
    let c : Codec := ⟨.v1, true⟩
    let h : Header := ⟨22, Tag.symbolMapping, 1, 5482, 1704186000403918695⟩
    let b : SymbolMappingMessage := ⟨unsetSymbology, "ES.FUT", unsetSymbology, "ESZ4", 0, 1⟩
    ∃ bs, c.encodeWithTsOut (.known h .symbolMapping b) 7 = .ok bs ∧ c.tsOut? bs = some 7 ∧
      c.decode bs = .ok (.known h .symbolMapping b) := by
  intro c h b
  have hb : c.Holds h .symbolMapping b := ⟨by decide, by decide, by decide⟩
  have hk : c.Keeps .symbolMapping b := ⟨by decide, rfl, rfl⟩
  obtain ⟨-, -, hall⟩ := known_round_trip c h .symbolMapping b
  obtain ⟨hok, hback⟩ := hall rfl 7
  obtain ⟨bs, hbs⟩ := hok.2 hb
  exact ⟨bs, hbs, (hback bs hbs).1, (hback bs hbs).2 hk⟩

end Codec
end TickStream
