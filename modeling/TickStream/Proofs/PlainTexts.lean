import TickStream.Proofs.Metadata.Agreement
import TickStream.Proofs.Metadata.Decoded
import TickStream.Proofs.Record.JsonLines
import TickStream.Proofs.Record.RoundTrip
/-
Texts with a zero character, in whatever is written.  Main statement: a field, a frame of metadata
and the frame of a record are written for such a text as for any other, and give their texts back
exactly if they hold no such text.
-/
namespace TickStream

open Step Reader

namespace PaddedText

variable {field : String} {width : Nat} {s : String} {bs : Bytes}

/-- A field gives its text back exactly if that has no zero. -/
theorem decode_eq_iff (h : encode field width s = .ok bs) (name : String) (offset : Nat) :
    decode name offset bs = .ok s ↔ Text.ZeroFree s :=
  ⟨zeroFree_of_decode, fun hs => decode_encode h hs name offset⟩

end PaddedText

/-! ## Metadata -/

namespace Metadata

open Entry

variable {m m' : Metadata} {bs : Bytes}

def mappingTexts (s : SymbolMapping) : String × List String :=
  (s.symbol, s.intervals.map MappingInterval.symbol)

/-- The texts are the same, each in its place. -/
structure SameTexts (m m' : Metadata) : Prop where
  dataset : m.dataset = m'.dataset
  symbols : m.symbols = m'.symbols
  partly : m.partly = m'.partly
  notFound : m.notFound = m'.notFound
  mappings : m.mappings.map mappingTexts = m'.mappings.map mappingTexts

theorem SameTexts.refl (m : Metadata) : m.SameTexts m := ⟨rfl, rfl, rfl, rfl, rfl⟩

theorem texts_eq_mappingTexts (m : Metadata) :
    m.texts = m.dataset :: (m.symbols ++ m.partly ++ m.notFound ++
      (m.mappings.map mappingTexts).flatMap fun texts => texts.1 :: texts.2) := by
  rw [List.flatMap_map]
  rfl

theorem SameTexts.texts_eq (h : m.SameTexts m') : m.texts = m'.texts := by
  rw [texts_eq_mappingTexts, texts_eq_mappingTexts, h.dataset, h.symbols, h.partly, h.notFound,
    h.mappings]

/-- How much room a mapping takes depends on its texts alone. -/
theorem widthAll_mappingEntries (width : Nat) (s : SymbolMapping) :
    widthAll (mappingEntries width s) = width + (4 + (mappingTexts s).2.length * (8 + width)) := by
  have hintervals : widthAll (s.intervals.flatMap (intervalEntries width)) =
      s.intervals.length * (8 + width) := by
    induction s.intervals with
    | nil => exact (Nat.zero_mul _).symm
    | cons i is ih =>
      have hone : widthAll (intervalEntries width i) = 8 + width := by
        show 4 + (4 + (width + 0)) = 8 + width
        omega
      rw [List.flatMap_cons, widthAll_append, ih, hone, List.length_cons, Nat.succ_mul,
        Nat.add_comm]
  rw [mappingEntries, widthAll_cons, widthAll_cons, hintervals, mappingTexts, List.length_map]
  rfl

theorem widthAll_mappings (width : Nat) (mappings : List SymbolMapping) :
    widthAll (mappings.flatMap (mappingEntries width)) =
      ((mappings.map mappingTexts).map fun texts =>
        width + (4 + texts.2.length * (8 + width))).sum := by
  induction mappings with
  | nil => rfl
  | cons s mappings ih =>
    rw [List.flatMap_cons, widthAll_append, ih, widthAll_mappingEntries, List.map_cons,
      List.map_cons, List.sum_cons]

theorem SameTexts.widthAll_eq (h : m.SameTexts m') (hversion : m.version = m'.version) :
    widthAll m.entries = widthAll m'.entries := by
  rw [entries_eq, entries_eq]
  simp only [widthAll_append, widthAll_cons, widthAll_versionedEntries, widthAll_mappings,
    h.symbols, h.partly, h.notFound, h.mappings, hversion]
  rfl

/-- Metadata is of the version that its frame states. -/
theorem version_of_decode (h : decode bs = .ok m) (hlen : prefixSize ≤ bs.length) :
    bs.take 4 = magic ++ [m.version.code] := by
  cases hp : decodePrefix (bs.take prefixSize) with
  | error e =>
    rw [decode_of_prefix_error hlen hp] at h
    cases h
  | ok head =>
    obtain ⟨v, n⟩ := head
    rw [decode_of_prefix_ok hlen hp] at h
    obtain ⟨body, -, hbody⟩ := bind_eq_ok.1 h
    rw [decodeBody] at hbody
    obtain ⟨-, hv, -⟩ := (covers_body v).of_run hbody
    rw [hv]
    exact ((decodePrefix_eq_ok hlen).1 hp).1

theorem version_eq_of_decode (hbs : m.encode = .ok bs) (h : decode bs = .ok m') :
    m'.version = m.version := by
  obtain ⟨body, -, rfl⟩ := encode_eq_ok.1 hbs
  have hfront := length_front m.version body.length
  have hlen : prefixSize ≤ (front m.version body.length ++ body).length := by
    rw [List.length_append, hfront]
    omega
  have htake : (front m.version body.length ++ body).take 4 = magic ++ [m.version.code] := by
    rw [front, Word.encode_u8, List.append_assoc, List.append_assoc]
    rfl
  have hsame := (version_of_decode h hlen).symm.trans htake
  have hcode : m'.version.code = m.version.code := by
    have := List.append_cancel_left hsame
    injection this
  revert hcode
  cases m'.version <;> cases m.version <;> decide

/-- A frame of metadata gives its texts back exactly if none has a zero and the length of the frame
can be stated. -/
theorem sameTexts_iff (hbs : m.encode = .ok bs) :
    (∃ m', decode bs = .ok m' ∧ m'.SameTexts m) ↔
      m.TextsPlain ∧ bs.length < prefixSize + UInt32.size := by
  constructor
  · rintro ⟨m', hdecode, hsame⟩
    obtain ⟨n, hheld, hn⟩ := held_of_decode hdecode
    have hplain : m.TextsPlain := by
      rw [TextsPlain, ← hsame.texts_eq]
      exact hheld.plain
    -- What was decoded is as wide as what was written, and its width was stated in the frame.
    have hsize := hheld.size
    rw [hsame.widthAll_eq (version_eq_of_decode hbs hdecode)] at hsize
    refine ⟨hplain, ?_⟩
    rw [length_of_encode hbs]
    omega
  · rintro ⟨hplain, hlen⟩
    have hdecode := decode_of_encodesTo ⟨hbs, hlen⟩ hplain []
    rw [List.append_nil] at hdecode
    exact ⟨m, hdecode, .refl m⟩

end Metadata

/-! ## Records -/

namespace Codec

variable {c : Codec} {h : Header} {k : Kind} {b b' : k.Body} {bs : Bytes}

/-- What a frame of a known kind holds: no text of it has a zero. -/
theorem textsPlain_of_decode (hd : c.decode bs = .ok (.known h k b)) :
    k.TextsPlain c.version b := by
  obtain ⟨body, -, -, hdecode⟩ := exists_of_decode hd
  obtain ⟨-, -, -, row, hread, rfl⟩ := exists_row_of_decodeBody hdecode
  have hcovers := Row.forall_of_read (fun f name => (f.texts_of_read name).mono
    fun v _ hv => (f.plain_iff v).2 fun t ht => (hv t ht).1) (k.layout c.version)
  obtain ⟨n, hplain⟩ := hcovers.of_run hread
  rw [Row.forall_iff_texts Field.plain_iff, ← k.toRow_ofRow c.version row, k.texts_toRow] at hplain
  exact hplain

/-- The frame of a record of a known kind gives its texts back exactly if none has a zero. -/
theorem sameTexts_iff (hbs : c.encode (.known h k b) = .ok bs) :
    (∃ b', c.decode bs = .ok (.known h k b') ∧ k.texts c.version b' = k.texts c.version b) ↔
      k.TextsPlain c.version b := by
  constructor
  · rintro ⟨b', hdecode, hsame⟩
    rw [Kind.TextsPlain, ← hsame]
    exact textsPlain_of_decode hdecode
  · intro hplain
    refine ⟨k.ofRow c.version (k.toRow c.version b), decode_of_encodeAt_plain hbs hplain, ?_⟩
    rw [← k.texts_toRow, k.toRow_ofRow, k.texts_toRow]

end Codec

/-! ## All that is written -/

/-- Whatever is written, with texts of any characters: metadata has a frame with its texts, and a
record of a known kind one with its own, exactly if no text has a zero character, and for metadata
if the length of the frame can be stated; and so every field is read as its text. -/
theorem texts_read_back_iff (m : Metadata) (c : Codec) (h : Header) (k : Kind) (b : k.Body) :
    (∀ bs, m.encode = .ok bs →
      ((∃ m', Metadata.decode bs = .ok m' ∧ m'.SameTexts m) ↔
        m.TextsPlain ∧ bs.length < Metadata.prefixSize + UInt32.size)) ∧
    (∀ bs, c.encode (.known h k b) = .ok bs →
      ((∃ b', c.decode bs = .ok (.known h k b') ∧ k.texts c.version b' = k.texts c.version b) ↔
        k.TextsPlain c.version b)) ∧
    ∀ field width s bs, PaddedText.encode field width s = .ok bs →
      ∀ name offset, PaddedText.decode name offset bs = .ok s ↔ Text.ZeroFree s :=
  ⟨fun _ hbs => Metadata.sameTexts_iff hbs, fun _ hbs => Codec.sameTexts_iff hbs,
    fun _ _ _ _ hbs => PaddedText.decode_eq_iff hbs⟩

/-- A dataset that ends in a zero, and a mapping without one. -/
theorem texts_read_back_iff_dataset :
    let m : Metadata :=
      ⟨.v1, "A\x00", some .mbo, 0, 0, 0, none, .instrumentId, false, [], [], [], []⟩
    let c : Codec := ⟨.v1, false⟩
    let h : Header := ⟨20, Tag.symbolMapping, 1, 5482, 7⟩
    let b : SymbolMappingMessage := ⟨1, "ES.FUT", 1, "ESZ4", 0, 1⟩
    (∃ bs, m.encode = .ok bs ∧ ¬ ∃ m', Metadata.decode bs = .ok m' ∧ m'.SameTexts m) ∧
      ∃ bs b', c.encode (.known h .symbolMapping b) = .ok bs ∧
        c.decode bs = .ok (.known h .symbolMapping b') ∧ b'.stypeInSymbol = "ES.FUT" := by
  intro m c h b
  obtain ⟨hmetadata, hrecord, -⟩ := texts_read_back_iff m c h .symbolMapping b
  obtain ⟨bs, hbs⟩ := m.encode_isOk.2 (by decide)
  refine ⟨⟨bs, hbs, fun hsame => ?_⟩, ?_⟩
  · obtain ⟨hplain, -⟩ := (hmetadata bs hbs).1 hsame
    exact absurd hplain (by decide)
  · have hholds : c.Holds h .symbolMapping b := ⟨by decide, by decide, by decide⟩
    obtain ⟨bs, hbs⟩ := (c.encodeAt_isOk h .symbolMapping b Timestamp.undefined).2 hholds
    obtain ⟨b', hdecode, htexts⟩ := (hrecord bs hbs).2 (by decide)
    have hin : (b'.stypeInSymbol, 22) = ("ES.FUT", 22) := (List.cons_eq_cons.1 htexts).1
    exact ⟨bs, b', hbs, hdecode, congrArg Prod.fst hin⟩

/-- A message that is read from JSON and written with a zero inside, which then ends it: what
follows is refused. -/
theorem zero_in_message_refused :
    let c : Codec := ⟨.v1, false⟩
    let h : Header := ⟨20, Tag.system, 1, 5482, 7⟩
    let r : Record := .known h .system ⟨"A\x00B", unsetCode⟩
    let bs : Bytes := h.encode ++ ([0x41, 0, 0x42] ++ Bytes.zeros 61)
    c.decodeJson r.toJson.compact = .ok r ∧ c.encode r = .ok bs ∧
      c.decode bs = .error (.badPadding "msg" 18) := by
  intro c h r bs
  refine ⟨?_, by decide +kernel, by decide +kernel⟩
  exact Codec.decodeJson_of_writtenOn (by decide) (by decide) (Record.writtenOn_compact h _ _)

end TickStream
