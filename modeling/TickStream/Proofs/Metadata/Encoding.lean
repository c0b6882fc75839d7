import TickStream.Proofs.Bytes.Entries
import TickStream.Proofs.Metadata.Frame
/-
Metadata frames in memory, in both versions.  Main statement: metadata has a frame exactly when
its texts are shorter than their fields, so no text is ever cut; the frame gives the metadata
back, whatever follows it; and what the two versions give back differs in the version only.
-/
namespace TickStream
namespace Metadata

open Step Reader Entry

def symbolTexts (m : Metadata) : List String :=
  m.symbols ++ m.partly ++ m.notFound ++
    m.mappings.flatMap fun s => s.symbol :: s.intervals.map MappingInterval.symbol

theorem texts_eq (m : Metadata) : m.texts = m.dataset :: m.symbolTexts := rfl

/-- Every text is shorter than its field. -/
structure TextsFit (m : Metadata) : Prop where
  dataset : (Bytes.ofString m.dataset).length < datasetWidth
  symbols : ∀ s ∈ m.symbolTexts, (Bytes.ofString s).length < m.version.symbolWidth

instance (m : Metadata) : Decidable m.TextsFit :=
  decidable_of_iff ((Bytes.ofString m.dataset).length < datasetWidth ∧
      ∀ s ∈ m.symbolTexts, (Bytes.ofString s).length < m.version.symbolWidth)
    ⟨fun h => ⟨h.1, h.2⟩, fun h => ⟨h.dataset, h.symbols⟩⟩

/-! ## Which metadata has a frame -/

section
variable (P : Nat → String → Prop) (width : Nat)

theorem ofText_symbolEntries (field : String) (symbols : List String) :
    (∀ e ∈ symbolEntries width field symbols, e.OfText P) ↔ ∀ s ∈ symbols, P width s := by
  rw [symbolEntries, List.forall_mem_cons, List.forall_mem_map]
  exact and_iff_right trivial

theorem ofText_intervalEntries (i : MappingInterval) :
    (∀ e ∈ intervalEntries width i, e.OfText P) ↔ P width i.symbol := by
  rw [intervalEntries, List.forall_mem_cons, List.forall_mem_cons, List.forall_mem_singleton]
  exact (and_iff_right trivial).trans (and_iff_right trivial)

theorem ofText_mappingEntries (s : SymbolMapping) :
    (∀ e ∈ mappingEntries width s, e.OfText P) ↔
      ∀ t ∈ s.symbol :: s.intervals.map MappingInterval.symbol, P width t := by
  rw [mappingEntries, List.forall_mem_cons, List.forall_mem_cons, List.forall_mem_cons,
    List.forall_mem_map]
  refine and_congr_right fun _ => (and_iff_right trivial).trans ?_
  simp only [List.forall_mem_flatMap, ofText_intervalEntries]

theorem ofText_versionedEntries (m : Metadata) : ∀ e ∈ m.versionedEntries, e.OfText P := by
  intro e he
  rw [versionedEntries, symbologyEntries] at he
  cases hv : m.version with
  | v1 =>
    rw [hv] at he
    simp only [List.cons_append, List.nil_append, List.mem_cons, List.not_mem_nil,
      or_false] at he
    rcases he with rfl | rfl | rfl | rfl | rfl <;> exact trivial
  | v2 =>
    rw [hv] at he
    simp only [List.cons_append, List.nil_append, List.mem_cons, List.not_mem_nil,
      or_false] at he
    rcases he with rfl | rfl | rfl | rfl | rfl <;> exact trivial

/-- What holds of all texts of a frame, each with its width. -/
theorem ofText_entries (m : Metadata) :
    (∀ e ∈ m.entries, e.OfText P) ↔
      P datasetWidth m.dataset ∧ ∀ s ∈ m.symbolTexts, P m.version.symbolWidth s := by
  have word (w : Word) (v : w.Val) : (∀ e ∈ [Entry.word w v], e.OfText P) ↔ True :=
    List.forall_mem_singleton
  have dataset : (∀ e ∈ [Entry.text "dataset" datasetWidth m.dataset], e.OfText P) ↔
      P datasetWidth m.dataset := List.forall_mem_singleton
  have versioned : (∀ e ∈ m.versionedEntries, e.OfText P) ↔ True :=
    iff_true_intro (ofText_versionedEntries P m)
  have mappings : (∀ e ∈ countEntry m.mappings ::
        m.mappings.flatMap (mappingEntries m.version.symbolWidth), e.OfText P) ↔
      ∀ s ∈ m.mappings.flatMap fun s => s.symbol :: s.intervals.map MappingInterval.symbol,
        P m.version.symbolWidth s := by
    rw [List.forall_mem_cons]
    refine (and_iff_right trivial).trans ?_
    simp only [List.forall_mem_flatMap, ofText_mappingEntries]
  rw [entries_eq, symbolTexts]
  simp only [List.forall_mem_append, word, dataset, versioned, ofText_symbolEntries, mappings,
    true_and, and_assoc]

end

theorem fits_entries (m : Metadata) : (∀ e ∈ m.entries, e.Fits) ↔ m.TextsFit := by
  refine (ofText_entries _ m).trans ⟨?_, ?_⟩
  · rintro ⟨hdataset, hsymbols⟩
    exact ⟨hdataset, hsymbols⟩
  · rintro ⟨hdataset, hsymbols⟩
    exact ⟨hdataset, hsymbols⟩

theorem encode_isOk (m : Metadata) : (∃ bs, m.encode = .ok bs) ↔ m.TextsFit := by
  rw [← m.fits_entries, ← encodeAll_isOk]
  constructor
  · rintro ⟨bs, h⟩
    obtain ⟨body, hbody, -⟩ := encode_eq_ok.1 h
    exact ⟨body, hbody⟩
  · rintro ⟨body, hbody⟩
    exact ⟨_, encode_eq_ok.2 ⟨body, hbody, rfl⟩⟩

/-! ## What a frame gives back -/

theorem decode_of_encodesTo {m : Metadata} {head : Bytes} (hm : m.EncodesTo head)
    (htexts : m.TextsPlain) (rest : Bytes) : decode (head ++ rest) = .ok m := by
  obtain ⟨body, hbody, hcount, rfl⟩ := hm.exists_body
  have hfront := length_front m.version body.length
  have hprefix : Reader.run (take prefixSize "metadata prefix")
      ((front m.version body.length ++ body) ++ rest) 0 = .ok (front m.version body.length) := by
    rw [List.append_assoc]
    exact (takes_take hfront _).run_eq (body ++ rest) 0
  have hdrop : ((front m.version body.length ++ body) ++ rest).drop prefixSize = body ++ rest := by
    rw [List.append_assoc, ← hfront, List.drop_left]
  have hbytes : Reader.run (take body.length "metadata body") (body ++ rest) prefixSize =
      .ok body := (takes_take rfl _).run_eq rest prefixSize
  have hdecode : decodeBody m.version body = .ok m := by
    have := (readBy_body htexts body hbody hcount).run_eq [] prefixSize
    rwa [List.append_nil] at this
  rw [← hdrop] at hbytes
  exact bind_eq_ok.2 ⟨_, hprefix, bind_eq_ok.2 ⟨_, decodePrefix_front m.version hcount,
    bind_eq_ok.2 ⟨_, hbytes, hdecode⟩⟩⟩

/-! ## The two versions -/

theorem length_of_encode {m : Metadata} {head : Bytes} (h : m.encode = .ok head) :
    head.length = prefixSize + widthAll m.entries := by
  obtain ⟨body, hbody, rfl⟩ := encode_eq_ok.1 h
  rw [List.length_append, length_front, length_encodeAll hbody]

theorem widthAll_symbolEntries_le {w w' : Nat} (h : w ≤ w') (field : String)
    (symbols : List String) :
    widthAll (symbolEntries w field symbols) ≤ widthAll (symbolEntries w' field symbols) := by
  have hone (s : String) : widthAll [Entry.text field w s] ≤ widthAll [Entry.text field w' s] := h
  have hall := widthAll_flatMap_le hone symbols
  rw [symbolEntries, symbolEntries, widthAll_cons, widthAll_cons, List.map_eq_flatMap,
    List.map_eq_flatMap]
  omega

theorem widthAll_mappingEntries_le {w w' : Nat} (h : w ≤ w') (s : SymbolMapping) :
    widthAll (mappingEntries w s) ≤ widthAll (mappingEntries w' s) := by
  have hone (i : MappingInterval) :
      widthAll (intervalEntries w i) ≤ widthAll (intervalEntries w' i) := by
    show 4 + (4 + (w + 0)) ≤ 4 + (4 + (w' + 0))
    omega
  have hall := widthAll_flatMap_le hone s.intervals
  have hsymbol : (Entry.text "mapping raw_symbol" w s.symbol).width ≤
      (Entry.text "mapping raw_symbol" w' s.symbol).width := h
  rw [mappingEntries, mappingEntries, widthAll_cons, widthAll_cons, widthAll_cons, widthAll_cons]
  omega

theorem widthAll_versionedEntries (m : Metadata) : widthAll m.versionedEntries = 58 := by
  rw [versionedEntries]
  cases m.version <;> rfl

/-- The headers of the two versions are of one size, and symbols take less room in the first. -/
theorem widthAll_entries_le (m : Metadata) :
    widthAll (m.withVersion .v1).entries ≤ widthAll (m.withVersion .v2).entries := by
  have hwidth : Version.symbolWidth .v1 ≤ Version.symbolWidth .v2 := by decide
  have hmappings := widthAll_flatMap_le (widthAll_mappingEntries_le hwidth) m.mappings
  have hsymbols := widthAll_symbolEntries_le hwidth "symbols" m.symbols
  have hpartly := widthAll_symbolEntries_le hwidth "partial" m.partly
  have hnotFound := widthAll_symbolEntries_le hwidth "not_found" m.notFound
  rw [entries_eq, entries_eq]
  simp only [widthAll_append, widthAll_cons, widthAll_versionedEntries]
  dsimp only [withVersion]
  omega

theorem TextsFit.in_second {m : Metadata} (h : (m.withVersion .v1).TextsFit) :
    (m.withVersion .v2).TextsFit := by
  refine ⟨h.dataset, fun s hs => ?_⟩
  have hshort : (Bytes.ofString s).length < 22 := h.symbols s hs
  show (Bytes.ofString s).length < 71
  omega

/-- Metadata that fits the first version has frames in both, and they say the same. -/
theorem versions_agree {m : Metadata} (hfit : (m.withVersion .v1).TextsFit)
    (hplain : m.TextsPlain) :
    ∃ bs₁ bs₂, (m.withVersion .v1).encode = .ok bs₁ ∧ (m.withVersion .v2).encode = .ok bs₂ ∧
      (bs₂.length < prefixSize + UInt32.size →
        decode bs₁ = .ok (m.withVersion .v1) ∧ decode bs₂ = .ok (m.withVersion .v2)) := by
  obtain ⟨bs₁, h₁⟩ := (m.withVersion .v1).encode_isOk.2 hfit
  obtain ⟨bs₂, h₂⟩ := (m.withVersion .v2).encode_isOk.2 hfit.in_second
  refine ⟨bs₁, bs₂, h₁, h₂, fun hlen₂ => ?_⟩
  have hlen₁ : bs₁.length < prefixSize + UInt32.size := by
    have hle := m.widthAll_entries_le
    rw [length_of_encode h₂] at hlen₂
    rw [length_of_encode h₁]
    omega
  have hd₁ := decode_of_encodesTo ⟨h₁, hlen₁⟩ hplain []
  have hd₂ := decode_of_encodesTo ⟨h₂, hlen₂⟩ hplain []
  rw [List.append_nil] at hd₁ hd₂
  exact ⟨hd₁, hd₂⟩

/-- Metadata and its frames, in both versions. -/
theorem encoded_round_trip (m : Metadata) :
    ((∃ bs, m.encode = .ok bs) ↔ m.TextsFit) ∧
    (∀ bs, m.encode = .ok bs → m.TextsPlain → bs.length < prefixSize + UInt32.size →
      ∀ rest, decode (bs ++ rest) = .ok m) ∧
    ((m.withVersion .v1).TextsFit → m.TextsPlain →
      ∃ bs₁ bs₂, (m.withVersion .v1).encode = .ok bs₁ ∧ (m.withVersion .v2).encode = .ok bs₂ ∧
        (bs₂.length < prefixSize + UInt32.size →
          ∃ m₁ m₂, decode bs₁ = .ok m₁ ∧ decode bs₂ = .ok m₂ ∧ m₁.withVersion .v2 = m₂)) := by
  refine ⟨m.encode_isOk, fun bs hbs hplain hlen rest => ?_, fun hfit hplain => ?_⟩
  · exact decode_of_encodesTo ⟨hbs, hlen⟩ hplain rest
  · obtain ⟨bs₁, bs₂, h₁, h₂, hboth⟩ := versions_agree hfit hplain
    refine ⟨bs₁, bs₂, h₁, h₂, fun hlen => ?_⟩
    obtain ⟨hd₁, hd₂⟩ := hboth hlen
    exact ⟨_, _, hd₁, hd₂, rfl⟩

/-- Metadata with a mapping over two intervals, in both versions. -/
theorem encoded_round_trip_mapping :
    let m : Metadata := ⟨.v2, "GLBX.MDP3", none, 60, 120, 2, none, .instrumentId, true,
      ["ESH1"], [], ["ZZZ9"],
      [⟨"ESH1", [⟨20201228, 20201229, "5482"⟩, ⟨20201229, 20201231, "5483"⟩]⟩]⟩
    ∃ bs bs₁ m₁, m.encode = .ok bs ∧ decode (bs ++ [7, 7]) = .ok m ∧
      (m.withVersion .v1).encode = .ok bs₁ ∧ decode bs₁ = .ok m₁ ∧ m₁.withVersion .v2 = m := by
  intro m
  have hplain : m.TextsPlain := by decide
  have hlen : ∀ bs, m.encode = .ok bs → bs.length < prefixSize + UInt32.size := by
    intro bs hbs
    rw [length_of_encode hbs]
    decide
  obtain ⟨hfits, hback, hversions⟩ := encoded_round_trip m
  obtain ⟨bs, hbs⟩ := hfits.2 (by decide)
  obtain ⟨bs₁, bs₂, h₁, h₂, hboth⟩ := hversions (by decide) hplain
  obtain ⟨m₁, m₂, hd₁, hd₂, hsame⟩ := hboth (hlen bs₂ h₂)
  have hm₂ : m₂ = m := by
    have := hback bs₂ h₂ hplain (hlen bs₂ h₂) []
    rw [List.append_nil, hd₂] at this
    injection this
  exact ⟨bs, bs₁, m₁, hbs, hback bs hbs hplain (hlen bs hbs) [7, 7], h₁, hd₁, hsame.trans hm₂⟩

end Metadata
end TickStream
