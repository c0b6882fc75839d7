import TickStream.Proofs.OneRun
import TickStream.Proofs.Record.JsonLines
import TickStream.Proofs.Scan.LineTexts
/-
The lengths of records that are read from lines.  Main statement: a record has the length of its
kind if its header is given as an object, and otherwise the length that stands first in the array;
and it is for this length alone, or for a text, that it may have no frame.
-/
namespace TickStream

open Json Step

/-! ## Why a record has no frame -/

/-- Only misuse is ever said of a row that has no bytes: its texts are too long. -/
theorem Row.errsAs_encode {κ : Type} [FieldKind κ] {E : Error → Prop}
    (h : ∀ (k : κ) (name : String) (v : FieldKind.Val k), ErrsAs E (FieldKind.encode k name v))
    (slots : List (Slot κ)) (row : Row slots) : ErrsAs E (encode slots row) := by
  induction slots with
  | nil => exact errsAs_ok []
  | cons slot slots ih =>
    cases slot with
    | gap n => exact (ih row).bind fun bs => errsAs_ok _
    | field name k =>
      exact (h k name row.1).bind fun bs => (ih row.2).bind fun bs' => errsAs_ok _
    | optional name k unset =>
      exact (h k name row.1).bind fun bs => (ih row.2).bind fun bs' => errsAs_ok _

theorem Field.errsAs_encode (f : Field) (name : String) (v : f.Val) :
    ErrsAs (fun e => e.category = .usage) (f.encode name v) := by
  cases f with
  | scalar s => exact errsAs_ok _
  | text n =>
    show ErrsAs _ (if (Bytes.ofString v).length < n then _ else _)
    exact ErrsAs.ite (errsAs_ok _) (errsAs_error rfl)
  | levels k n =>
    obtain ⟨bs, hbs⟩ := k.encodeAll_isOk (Vector.toList v)
    show ErrsAs _ (k.encodeAll (Vector.toList v))
    rw [hbs]
    exact errsAs_ok bs

/-! ## Headers in JSON -/

/-- The first item of an array is the length. -/
theorem Header.ofJson_array {items : List Json} {h : Header}
    (hr : Header.ofJson (.array items) = .ok h) :
    ∃ item rest, items = item :: rest ∧ Scalar.ofJson (.word .u8) item = .ok h.length := by
  generalize hexpected : s!"struct RecordHeader with {Row.count slots} elements" = expected at *
  have hr : (Row.ofItems expected slots 0 items).map ofRow = .ok h := by
    rw [← hexpected]
    exact hr
  cases hrow : Row.ofItems expected slots 0 items with
  | error e =>
    rw [hrow] at hr
    cases hr
  | ok row =>
    rw [hrow] at hr
    injection hr with hr
    subst hr
    cases items with
    | nil => cases hrow
    | cons item rest =>
      obtain ⟨v, hv, hmore⟩ := bind_eq_ok.1 hrow
      obtain ⟨row', -, hpair⟩ := bind_eq_ok.1 hmore
      injection hpair with hpair
      rw [← hpair]
      exact ⟨item, rest, rfl, hv⟩

namespace Codec

variable {c : Codec} {h : Header} {k : Kind} {b : k.Body}

/-- A record of a known tag is refused for its length exactly if that is not the length of its
kind. -/
theorem encode_recordLength_iff (htag : Kind.ofTag? h.tag = some k) :
    (∃ tag expected got, c.encode (.known h k b) = .error (.recordLength tag expected got)) ↔
      h.recordSize ≠ c.size k := by
  rw [encode, encodeAt, if_neg (not_not.2 htag)]
  by_cases hsize : h.recordSize = c.size k
  · rw [if_neg (not_not.2 hsize)]
    refine ⟨?_, fun hne => absurd hsize hne⟩
    rintro ⟨tag, expected, got, he⟩
    have husage : ErrsAs (fun e => e.category = .usage) (do
        let bs ← Row.encode (k.layout c.version) (k.toRow c.version b)
        return h.encode ++ bs ++
          if c.tsOut then Word.u64.encode Timestamp.undefined else []) :=
      (Row.errsAs_encode Field.errsAs_encode _ _).bind fun bs => errsAs_ok _
    cases husage he
  · rw [if_pos hsize]
    exact ⟨fun _ => hsize, fun _ => ⟨_, _, _, rfl⟩⟩

/-- The length of a kind's records can be stated in a header. -/
theorem words_toNat (c : Codec) (k : Kind) : (c.words k).toNat * 4 = c.size k := by
  obtain ⟨v, tsOut⟩ := c
  rw [words, size, Kind.size_eq]
  cases v <;> cases tsOut <;> cases k <;> rfl

theorem recordSize_eq_iff : h.recordSize = c.size k ↔ h.length = c.words k := by
  rw [Header.recordSize, ← c.words_toNat k, ← UInt8.toNat_inj]
  omega

theorem tag_settleLength (c : Codec) (k : Kind) (head : Json) (h : Header) :
    (c.settleLength k head h).tag = h.tag := by
  cases head <;> rfl

/-- What a line can be read as: a record of the kind that its tag means, with the length settled,
or the line itself if the tag means none. -/
theorem recordOfJson_cases {line : String} {j : Json} {r : Record}
    (hr : c.recordOfJson line j = .ok r) :
    ∃ head h, j.member? "hd" = some head ∧ Header.ofJson head = .ok h ∧
      ((∃ k b, Kind.ofTag? h.tag = some k ∧ r = .known (c.settleLength k head h) k b) ∨
        (Kind.ofTag? h.tag = none ∧
          r = .unrecognized h (Bytes.ofString (Text.trimEnd line)))) := by
  rw [recordOfJson] at hr
  cases hhead : j.member? "hd" with
  | none =>
    rw [hhead] at hr
    cases hr
  | some head =>
  rw [hhead] at hr
  obtain ⟨_, hsome, hr⟩ := bind_eq_ok.1 hr
  injection hsome with hsome
  subst hsome
  obtain ⟨h, hh, hr⟩ := bind_eq_ok.1 hr
  refine ⟨head, h, rfl, hh, ?_⟩
  cases htag : Kind.ofTag? h.tag with
  | none =>
    rw [htag] at hr
    injection hr with hr
    exact .inr ⟨rfl, hr.symm⟩
  | some k =>
  rw [htag] at hr
  cases j with
  | object members =>
    obtain ⟨b, -, hr⟩ := bind_eq_ok.1 hr
    injection hr with hr
    exact .inl ⟨k, b, rfl, hr.symm⟩
  | _ => cases hhead

/-- A known record has the header that its line states, with the length settled. -/
theorem recordOfJson_eq_known {line : String} {j : Json}
    (hr : c.recordOfJson line j = .ok (.known h k b)) :
    ∃ head h₀, j.member? "hd" = some head ∧ Header.ofJson head = .ok h₀ ∧
      Kind.ofTag? h.tag = some k ∧ h = c.settleLength k head h₀ := by
  obtain ⟨head, h₀, hhead, hh₀, ⟨k', b', htag, hknown⟩ | ⟨-, hunknown⟩⟩ := recordOfJson_cases hr
  · injection hknown with hh hk
    subst hk hh
    exact ⟨head, h₀, hhead, hh₀, by rw [tag_settleLength, htag], rfl⟩
  · cases hunknown

theorem decodeJson_of_compact {v : Json} {r : Record} (hv : v.Integral)
    (hdepth : v.depth < depthLimit) (hr : c.recordOfJson v.compact v.sorted = .ok r) :
    c.decodeJson v.compact = .ok r :=
  decodeJson_eq_ok_iff.2 ⟨_, parse_of_spells (spells_compact hv) hdepth, hr⟩

/-- A record that was read from a line has the length of its kind exactly if its header is an
object, or an array that begins with this length. -/
theorem json_length_iff {line : String} (hd : c.decodeJson line = .ok (.known h k b)) :
    ∃ j head, Json.parse line = .ok j ∧ j.member? "hd" = some head ∧
      (c.expectedSize? h.tag = some h.recordSize ↔ (∃ members, head = .object members) ∨
        ∃ item rest, head = .array (item :: rest) ∧
          Scalar.ofJson (.word .u8) item = .ok (c.words k)) ∧
      ((∃ tag expected got, c.encode (.known h k b) = .error (.recordLength tag expected got)) ↔
        c.expectedSize? h.tag ≠ some h.recordSize) := by
  obtain ⟨j, hj, hr⟩ := decodeJson_eq_ok_iff.1 hd
  obtain ⟨head, h₀, hhead, hh₀, htag, hset⟩ := recordOfJson_eq_known hr
  have hexpected : c.expectedSize? h.tag = some h.recordSize ↔ h.recordSize = c.size k := by
    rw [expectedSize?, htag]
    simp [eq_comm]
  refine ⟨j, head, hj, hhead, ?_, (encode_recordLength_iff htag).trans (not_congr hexpected.symm)⟩
  rw [hexpected, recordSize_eq_iff]
  cases head with
  | object members => exact iff_of_true (by rw [hset]; rfl) (.inl ⟨members, rfl⟩)
  | array items =>
    obtain ⟨item, rest, rfl, hitem⟩ := Header.ofJson_array hh₀
    have hkept : h.length = h₀.length := by rw [hset]; rfl
    rw [hkept]
    constructor
    · exact fun hlen => .inr ⟨item, rest, rfl, hlen ▸ hitem⟩
    · rintro (⟨members, hm⟩ | ⟨item', rest', harray, hitem'⟩)
      · cases hm
      · injection harray with harray
        injection harray with hsame _
        rw [← hsame, hitem] at hitem'
        injection hitem'
  | _ => cases hh₀

/-- A bar with its length at the head of the array. -/
theorem json_length_iff_array :
    let c : Codec := ⟨.v2, false⟩
    let h : Header := ⟨14, Tag.ohlcv1s, 1, 5482, 1609160400000000000⟩
    let b : Ohlcv :=
      ⟨⟨372025000000000⟩, ⟨372050000000000⟩, ⟨372025000000000⟩, ⟨372050000000000⟩, 57⟩
    let line := (Json.object [
      ("hd", .array [.ofNat 14, .ofNat 32, .ofNat 1, .ofNat 5482, .ofNat 1609160400000000000]),
      ("open", .ofNat 372025000000000), ("high", .ofNat 372050000000000),
      ("low", .ofNat 372025000000000), ("close", .ofNat 372050000000000),
      ("volume", .ofNat 57)]).compact
    c.decodeJson line = .ok (.known h .ohlcv b) ∧ c.expectedSize? h.tag = some h.recordSize ∧
      ¬ ∃ tag expected got,
        c.encode (.known h .ohlcv b) = .error (.recordLength tag expected got) := by
  intro c h b line
  have hd : c.decodeJson line = .ok (.known h .ohlcv b) :=
    decodeJson_of_compact ⟨⟨trivial, trivial, trivial, trivial, trivial, trivial⟩, trivial, trivial,
      trivial, trivial, trivial, trivial⟩ (by decide) rfl
  obtain ⟨j, head, hj, hhead, -, hrefused⟩ := json_length_iff hd
  have hsize : c.expectedSize? h.tag = some h.recordSize := rfl
  exact ⟨hd, hsize, fun he => hrefused.1 he hsize⟩

/-- The same bar with another length there.  It keeps that length and has no frame. -/
theorem array_header_length_kept :
    let c : Codec := ⟨.v2, false⟩
    let h : Header := ⟨0, Tag.ohlcv1s, 1, 5482, 1609160400000000000⟩
    let b : Ohlcv :=
      ⟨⟨372025000000000⟩, ⟨372050000000000⟩, ⟨372025000000000⟩, ⟨372050000000000⟩, 57⟩
    let line := (Json.object [
      ("hd", .array [.ofNat 0, .ofNat 32, .ofNat 1, .ofNat 5482, .ofNat 1609160400000000000]),
      ("open", .ofNat 372025000000000), ("high", .ofNat 372050000000000),
      ("low", .ofNat 372025000000000), ("close", .ofNat 372050000000000),
      ("volume", .ofNat 57)]).compact
    c.decodeJson line = .ok (.known h .ohlcv b) ∧ h.recordSize = 0 ∧
      c.expectedSize? h.tag = some 56 ∧
      c.encode (.known h .ohlcv b) = .error (.recordLength Tag.ohlcv1s 56 0) := by
  intro c h b line
  have hd : c.decodeJson line = .ok (.known h .ohlcv b) :=
    decodeJson_of_compact ⟨⟨trivial, trivial, trivial, trivial, trivial, trivial⟩, trivial, trivial,
      trivial, trivial, trivial, trivial⟩ (by decide) rfl
  exact ⟨hd, rfl, rfl, rfl⟩

end Codec
end TickStream
