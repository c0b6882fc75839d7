import TickStream.Proofs.Record.JsonLengths
import TickStream.Proofs.Record.Reencoding
/-
Whether what is written for a record is a frame.  Main statement: it is for every record of a
known kind and for every record that comes from a frame; but a record of unknown tag that comes
from a line is written as this line, if the line is as long as its own header says, and that is a
frame only if it happens to begin with the bytes of the header.
-/
namespace TickStream

open Step Json

/-- The bytes are a frame with this header: as long as their first byte states, which leaves room
for a header, and the header is what is decoded from them. -/
structure Header.Frames (h : Header) (bs : Bytes) : Prop where
  size : Header.size ≤ bs.length
  stated : ∃ words, bs[0]? = some words ∧ 4 * words.toNat = bs.length
  decoded : Header.decode bs = .ok h

/-- Bytes of the length that a header states are its frame exactly if they begin with it. -/
theorem Header.frames_iff {h : Header} {bs : Bytes} (hlen : bs.length = h.recordSize) :
    h.Frames bs ↔ h.encode <+: bs := by
  constructor
  · intro hframes
    obtain ⟨rest, rfl⟩ := Header.exists_of_decode hframes.decoded
    exact List.prefix_append h.encode rest
  · rintro ⟨rest, rfl⟩
    have hsize : Header.size ≤ (h.encode ++ rest).length := by
      rw [List.length_append, h.length_encode]
      omega
    refine ⟨hsize, ⟨h.length, h.getElem?_zero_encode_append rest, ?_⟩, ?_⟩
    · rw [hlen, Header.recordSize, Nat.mul_comm]
    · rw [Header.decode_encode_append, if_neg (by omega)]

namespace Codec

variable {c c' : Codec} {h : Header} {k : Kind} {b : k.Body} {r : Record} {f bs bytes : Bytes}
  {line : String}

/-- A record of unknown tag is written as it was found, if that is as long as its header states. -/
theorem encode_unrecognized_eq_ok :
    c.encode (.unrecognized h bytes) = .ok bs ↔ bs = bytes ∧ bytes.length = h.recordSize := by
  show (if bytes.length ≠ h.recordSize then _ else _) = _ ↔ _
  by_cases hlen : bytes.length = h.recordSize
  · rw [if_neg (not_not.2 hlen), Except.ok.injEq]
    exact ⟨fun hbs => ⟨hbs.symm, hlen⟩, fun hbs => hbs.1.symm⟩
  · rw [if_pos hlen]
    exact ⟨fun hbs => absurd hbs nofun, fun hbs => absurd hbs.2 hlen⟩

/-- What is written for a record is as long as its header states. -/
theorem length_of_encode (hbs : c.encode r = .ok bs) : bs.length = r.header.recordSize := by
  cases r with
  | unrecognized h bytes =>
    obtain ⟨rfl, hlen⟩ := encode_unrecognized_eq_ok.1 hbs
    exact hlen
  | known h k b =>
    obtain ⟨htag, hsize, row, hrow, rfl⟩ := encodeAt_eq_ok.1 hbs
    exact (framed_append_trailer htag hsize hrow Timestamp.undefined).length_eq

theorem frames_iff_of_encode (hbs : c.encode r = .ok bs) :
    r.header.Frames bs ↔ r.header.encode <+: bs := Header.frames_iff (length_of_encode hbs)

/-- What is written for a record of a known kind begins with its header. -/
theorem prefix_of_encode_known (hbs : c.encode (.known h k b) = .ok bs) : h.encode <+: bs := by
  obtain ⟨-, -, row, -, rfl⟩ := encodeAt_eq_ok.1 hbs
  exact List.prefix_append _ _

/-- A record of unknown tag that comes from a frame is that frame. -/
theorem bytes_of_decode (hd : c'.decode f = .ok (.unrecognized h bytes)) :
    bytes = f ∧ h.encode <+: f := by
  obtain ⟨body, hf, hframed, hbody⟩ := exists_of_decode hd
  replace hf : f = h.encode ++ body := hf
  replace hframed : c'.Framed h body := hframed
  -- A frame of a known tag never decodes to a record that is not recognized.
  have htag : Kind.ofTag? h.tag = none := by
    cases htag : Kind.ofTag? h.tag with
    | none => rfl
    | some k =>
      have hbody : c'.decodeBody h body = .ok (.unrecognized h bytes) := hbody
      rw [decodeBody_of_tag hframed htag] at hbody
      obtain ⟨row, -, hr⟩ := bind_eq_ok.1 hbody
      cases hr
  rw [hf, decode_of_unknown htag hframed.length_eq] at hd
  injection hd with hd
  injection hd with _ hbytes
  rw [hf]
  exact ⟨hbytes.symm, List.prefix_append h.encode body⟩

/-- What is written for a record that comes from a frame begins with its header. -/
theorem prefix_of_encode_decoded (hd : c'.decode f = .ok r) (hbs : c.encode r = .ok bs) :
    r.header.encode <+: bs := by
  cases r with
  | known h k b => exact prefix_of_encode_known hbs
  | unrecognized h bytes =>
    obtain ⟨rfl, -⟩ := encode_unrecognized_eq_ok.1 hbs
    obtain ⟨rfl, hfront⟩ := bytes_of_decode hd
    exact hfront

/-- A record of unknown tag that comes from a line keeps the line. -/
theorem bytes_of_decodeJson (hd : c'.decodeJson line = .ok (.unrecognized h bytes)) :
    bytes = Bytes.ofString (Text.trimEnd line) := by
  obtain ⟨j, -, hr⟩ := decodeJson_eq_ok_iff.1 hd
  obtain ⟨head, h₀, -, -, ⟨k, b, -, hknown⟩ | ⟨-, hunknown⟩⟩ := recordOfJson_cases hr
  · cases hknown
  · injection hunknown

/-- What is written for a record is its frame if the record is of a known kind, or comes from a
frame.  A record of unknown tag that comes from a line is written exactly if the line, without the
blanks at its end, is as long as its header states; it is written as this line, and that is a frame
of it exactly if it begins with the bytes of the header. -/
theorem encode_frames_iff (c c' : Codec) :
    (∀ f r bs, c'.decode f = .ok r → c.encode r = .ok bs → r.header.Frames bs) ∧
    (∀ line (h : Header) (k : Kind) (b : k.Body) bs, c'.decodeJson line = .ok (.known h k b) →
      c.encode (.known h k b) = .ok bs → h.Frames bs) ∧
    ∀ line h bytes, c'.decodeJson line = .ok (.unrecognized h bytes) → ∀ bs,
      (c.encode (.unrecognized h bytes) = .ok bs ↔
        bs = Bytes.ofString (Text.trimEnd line) ∧ bs.length = h.recordSize) ∧
      (c.encode (.unrecognized h bytes) = .ok bs → (h.Frames bs ↔ h.encode <+: bs)) := by
  refine ⟨fun f r bs hd hbs => ?_, fun line h k b bs _ hbs => ?_, fun line h bytes hd bs => ?_⟩
  · exact (frames_iff_of_encode hbs).2 (prefix_of_encode_decoded hd hbs)
  · exact (frames_iff_of_encode hbs).2 (prefix_of_encode_known hbs)
  · refine ⟨?_, frames_iff_of_encode⟩
    rw [encode_unrecognized_eq_ok, ← bytes_of_decodeJson hd]
    exact ⟨fun hbs => ⟨hbs.1, hbs.1 ▸ hbs.2⟩, fun hbs => ⟨hbs.1, hbs.1 ▸ hbs.2⟩⟩

/-- A record of unknown tag, read off its frame and read off a line.  Both are written as
they were read, which for the line is no frame unless it begins with the header. -/
theorem encode_frames_iff_unknown :
    let c : Codec := ⟨.v2, false⟩
    let h : Header := ⟨20, ⟨0xee⟩, 1, 9, 5⟩
    let frame := h.encode ++ List.replicate 64 0
    let line := (Json.object [("hd", .object [("length", .ofNat 20), ("rtype", .ofNat 0xee),
      ("publisher_id", .ofNat 1), ("instrument_id", .ofNat 9), ("ts_event", .ofNat 5)])]).compact
    let text := Bytes.ofString line
    (c.decode frame = .ok (.unrecognized h frame) ∧ c.encode (.unrecognized h frame) = .ok frame ∧
      h.Frames frame) ∧
    (c.decodeJson line = .ok (.unrecognized h text) ∧ c.encode (.unrecognized h text) = .ok text ∧
      (h.Frames text ↔ h.encode <+: text)) := by
  intro c h frame line text
  obtain ⟨hframe, -, hline⟩ := encode_frames_iff c c
  have hd : c.decode frame = .ok (.unrecognized h frame) := decode_of_unknown rfl (by decide)
  have hbs : c.encode (.unrecognized h frame) = .ok frame :=
    encode_unrecognized_eq_ok.2 ⟨rfl, by decide⟩
  have hd' : c.decodeJson line = .ok (.unrecognized h text) :=
    decodeJson_of_compact ⟨⟨trivial, trivial, trivial, trivial, trivial, trivial⟩, trivial⟩
      (by decide) rfl
  obtain ⟨hwritten, hframes⟩ := hline line h text hd' text
  have hbs' : c.encode (.unrecognized h text) = .ok text := by
    refine hwritten.2 ⟨?_, ?_⟩ <;> decide +kernel
  exact ⟨⟨hd, hbs, hframe frame (.unrecognized h frame) frame hd hbs⟩, hd', hbs', hframes hbs'⟩

/-- A line of unknown tag with as many bytes as its header states is written as it is, and that is
no frame: it begins with a brace, which would stand for 492 bytes. -/
theorem line_encodes_as_itself :
    let c : Codec := ⟨.v2, false⟩
    let h : Header := ⟨20, ⟨0xee⟩, 1, 9, 5⟩
    let line := (Json.object [("hd", .object [("length", .ofNat 20), ("rtype", .ofNat 0xee),
      ("publisher_id", .ofNat 1), ("instrument_id", .ofNat 9), ("ts_event", .ofNat 5)])]).compact
    let bs := Bytes.ofString line
    c.decodeJson line = .ok (.unrecognized h bs) ∧ c.encode (.unrecognized h bs) = .ok bs ∧
      ¬ h.Frames bs := by
  intro c h line bs
  have hd : c.decodeJson line = .ok (.unrecognized h bs) :=
    decodeJson_of_compact ⟨⟨trivial, trivial, trivial, trivial, trivial, trivial⟩, trivial⟩
      (by decide) rfl
  refine ⟨hd, encode_unrecognized_eq_ok.2 ⟨rfl, by decide +kernel⟩, fun hframes => ?_⟩
  obtain ⟨words, hwords, hstated⟩ := hframes.stated
  have hbrace : bs[0]? = some 0x7b := by decide +kernel
  have hlen : bs.length = 80 := by decide +kernel
  rw [hbrace] at hwords
  cases hwords
  rw [hlen] at hstated
  exact absurd hstated (by decide)

end Codec
end TickStream
