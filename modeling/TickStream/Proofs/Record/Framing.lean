import TickStream.Proofs.Record.Rows
import TickStream.Record.Codec
/-
How a frame is taken apart: a header of sixteen bytes, then as many bytes as it states.  Every
sixteen bytes are the header of some frame, so a frame can always be written `h.encode ++ body`.
-/
namespace TickStream

open Step Reader

theorem Word.exists_encode (w : Word) (bs : Bytes) (h : w.width ≤ bs.length) :
    ∃ v rest, bs = w.encode v ++ rest ∧ rest.length = bs.length - w.width := by
  have hl : (bs.take w.width).length = w.width := by
    rw [List.length_take]
    omega
  refine ⟨w.decode (bs.take w.width), bs.drop w.width, ?_, List.length_drop⟩
  rw [w.encode_decode _ hl, List.take_append_drop]

namespace Header

theorem takes_read (h : Header) : Takes read h.encode h := by
  have hall : Takes read (Word.u8.encode h.length ++ (Word.u8.encode h.tag ++
      (Word.u16.encode h.publisherId ++ (Word.u32.encode h.instrumentId ++
        Word.u64.encode h.tsEvent)))) h := by
    refine (takes_word .u8 h.length _).andThen ?_
    refine (takes_word .u8 h.tag _).andThen ?_
    refine (takes_word .u16 h.publisherId _).andThen ?_
    refine (takes_word .u32 h.instrumentId _).andThen ?_
    exact (takes_word .u64 h.tsEvent _).giving _
  simpa only [encode, List.append_assoc] using hall

/-- The bytes that a header was read from are the bytes that are written for it. -/
theorem read_eq_ok {c c' : Cursor} {h : Header} (hr : EStateM.run read c = .ok h c') :
    c.rest = h.encode ++ c'.rest := by
  obtain ⟨length, c₁, h₁, hr⟩ := run_bind_eq_ok.1 hr
  obtain ⟨tag, c₂, h₂, hr⟩ := run_bind_eq_ok.1 hr
  obtain ⟨publisher, c₃, h₃, hr⟩ := run_bind_eq_ok.1 hr
  obtain ⟨instrument, c₄, h₄, hr⟩ := run_bind_eq_ok.1 hr
  obtain ⟨ts, c₅, h₅, hr⟩ := run_bind_eq_ok.1 hr
  injection hr with hh hc
  rw [word_eq_ok h₁, word_eq_ok h₂, word_eq_ok h₃, word_eq_ok h₄, word_eq_ok h₅, ← hh, ← hc]
  simp only [encode, List.append_assoc]

/-- Every sixteen bytes are a header. -/
theorem exists_encode {bs : Bytes} (h : size ≤ bs.length) :
    ∃ (hd : Header) (rest : Bytes), bs = hd.encode ++ rest := by
  rw [size] at h
  obtain ⟨length, r₁, rfl, h₁⟩ := Word.u8.exists_encode bs (by rw [Word.width]; omega)
  rw [Word.width] at h₁
  obtain ⟨tag, r₂, rfl, h₂⟩ := Word.u8.exists_encode r₁ (by rw [Word.width]; omega)
  rw [Word.width] at h₂
  obtain ⟨publisher, r₃, rfl, h₃⟩ := Word.u16.exists_encode r₂ (by rw [Word.width]; omega)
  rw [Word.width] at h₃
  obtain ⟨instrument, r₄, rfl, h₄⟩ := Word.u32.exists_encode r₃ (by rw [Word.width]; omega)
  rw [Word.width] at h₄
  obtain ⟨ts, r₅, rfl, -⟩ := Word.u64.exists_encode r₄ (by rw [Word.width]; omega)
  exact ⟨⟨length, tag, publisher, instrument, ts⟩, r₅, by simp only [encode, List.append_assoc]⟩

/-- The first two bytes of a header are its length and its tag. -/
theorem encode_eq_cons (h : Header) : ∃ tail, h.encode = h.length :: h.tag :: tail := by
  refine ⟨Word.u16.encode h.publisherId ++ (Word.u32.encode h.instrumentId ++
    Word.u64.encode h.tsEvent), ?_⟩
  rw [encode, Word.encode_u8, Word.encode_u8]
  simp only [List.append_assoc, List.cons_append, List.nil_append]

theorem getElem?_zero_encode_append (h : Header) (rest : Bytes) :
    (h.encode ++ rest)[0]? = some h.length := by
  obtain ⟨tail, htail⟩ := h.encode_eq_cons
  rw [htail]
  rfl

theorem getElem?_one_encode_append (h : Header) (rest : Bytes) :
    (h.encode ++ rest)[1]? = some h.tag := by
  obtain ⟨tail, htail⟩ := h.encode_eq_cons
  rw [htail]
  rfl

theorem decode_encode_append (h : Header) (rest : Bytes) :
    decode (h.encode ++ rest) =
      if h.recordSize < size then .error (.recordTooShort h.length) else .ok h := by
  rw [decode, (takes_read h).run_eq rest 0]
  show (if h.recordSize < size then _ else _) = _
  split <;> rfl

theorem decode_encode {h : Header} (hs : size ≤ h.recordSize) : decode h.encode = .ok h := by
  have hd := h.decode_encode_append []
  rwa [List.append_nil, if_neg (Nat.not_lt.2 hs)] at hd

theorem decode_encode_short {h : Header} (hs : h.recordSize < size) :
    decode h.encode = .error (.recordTooShort h.length) := by
  have hd := h.decode_encode_append []
  rwa [List.append_nil, if_pos hs] at hd

theorem exists_of_decode {bs : Bytes} {h : Header} (hd : decode bs = .ok h) :
    ∃ rest, bs = h.encode ++ rest := by
  obtain ⟨h', hrun, hd⟩ := bind_eq_ok.1 hd
  obtain ⟨c, hread⟩ := Reader.run_eq_ok.1 hrun
  have hbs := read_eq_ok hread
  split at hd
  · exact absurd hd (by simp [bind, Except.bind])
  · injection hd with hd
    exact ⟨c.rest, by rw [← hd]; exact hbs⟩

theorem drop_encode_append (h : Header) (rest : Bytes) : (h.encode ++ rest).drop size = rest := by
  rw [← h.length_encode]
  exact List.drop_left

theorem take_encode_append (h : Header) (rest : Bytes) :
    (h.encode ++ rest).take size = h.encode := by
  rw [← h.length_encode]
  exact List.take_left

end Header

namespace Codec

/-- The bytes after a header are as many as it states, and the layout of a known tag has as
many. -/
structure Framed (c : Codec) (h : Header) (body : Bytes) : Prop where
  size : Header.size + body.length = h.recordSize
  layout : ∀ k, Kind.ofTag? h.tag = some k → h.recordSize = c.size k

theorem Framed.length_eq {c : Codec} {h : Header} {body : Bytes} (hf : c.Framed h body) :
    (h.encode ++ body).length = h.recordSize := by
  rw [List.length_append, h.length_encode, hf.size]

theorem Framed.size_le {c : Codec} {h : Header} {body : Bytes} (hf : c.Framed h body) :
    Header.size ≤ h.recordSize := by
  rw [← hf.size]
  omega

/-- What the bytes after a header decode to is a record with that header, in a frame. -/
theorem framed_of_decodeBody {c : Codec} {h : Header} {body : Bytes} {r : Record}
    (hd : c.decodeBody h body = .ok r) : c.Framed h body ∧ r.header = h := by
  simp only [decodeBody] at hd
  split at hd
  · exact absurd hd (by simp)
  · rename_i hsize
    have hsize : Header.size + body.length = h.recordSize := by omega
    split at hd
    · rename_i htag
      injection hd with hd
      rw [← hd]
      refine ⟨⟨hsize, fun k hk => ?_⟩, rfl⟩
      rw [htag] at hk
      exact absurd hk (by simp)
    · rename_i k htag
      split at hd
      · exact absurd hd (by simp)
      · rename_i hlayout
        obtain ⟨row, -, hr⟩ := bind_eq_ok.1 hd
        injection hr with hr
        rw [← hr]
        refine ⟨⟨hsize, fun k' hk' => ?_⟩, rfl⟩
        rw [htag] at hk'
        injection hk' with hk'
        rw [← hk']
        exact Decidable.not_not.1 hlayout

theorem decode_encode_append {c : Codec} {h : Header} {body : Bytes}
    (hs : Header.size ≤ h.recordSize) : c.decode (h.encode ++ body) = c.decodeBody h body := by
  rw [decode, Header.decode_encode_append, if_neg (by omega)]
  show c.decodeBody h ((h.encode ++ body).drop Header.size) = _
  rw [h.drop_encode_append]

/-- What a frame of unknown tag decodes to is the frame itself. -/
theorem decode_of_unknown {c : Codec} {h : Header} {body : Bytes}
    (htag : Kind.ofTag? h.tag = none) (hlen : (h.encode ++ body).length = h.recordSize) :
    c.decode (h.encode ++ body) = .ok (.unrecognized h (h.encode ++ body)) := by
  rw [List.length_append, h.length_encode] at hlen
  rw [decode_encode_append (by omega)]
  simp only [decodeBody, htag]
  rw [if_neg (by omega)]

/-- A frame that decodes is the header of its record and a body. -/
theorem exists_of_decode {c : Codec} {f : Bytes} {r : Record} (hd : c.decode f = .ok r) :
    ∃ body, f = r.header.encode ++ body ∧ c.Framed r.header body ∧
      c.decodeBody r.header body = .ok r := by
  obtain ⟨h, hh, hb⟩ := bind_eq_ok.1 hd
  obtain ⟨body, rfl⟩ := Header.exists_of_decode hh
  rw [h.drop_encode_append] at hb
  obtain ⟨hf, rfl⟩ := framed_of_decodeBody hb
  exact ⟨body, rfl, hf, hb⟩

end Codec
end TickStream
