import TickStream.Metadata.Codec
import TickStream.Proofs.Bytes.Takes
/-
Metadata frames read back as they were written.  Main statement: if no text has a zero
character and the length of the frame can be stated, the frame gives the metadata back,
whatever follows it.  The lists are then countable as well, since every item has bytes.
-/
namespace TickStream
namespace Metadata

open Entry Reader

def texts (m : Metadata) : List String :=
  m.dataset :: (m.symbols ++ m.partly ++ m.notFound ++
    m.mappings.flatMap fun s => s.symbol :: s.intervals.map MappingInterval.symbol)

def TextsPlain (m : Metadata) : Prop := ∀ s ∈ m.texts, Text.ZeroFree s

instance (m : Metadata) : Decidable m.TextsPlain := inferInstanceAs (Decidable (∀ s ∈ _, _))

/-! ## The header -/

theorem readBy_schema (s : Option Schema) :
    ReadBy [.word .u16 (schemaCode s)] readSchema s := by
  refine readBy_one fun bs h => takes_offset fun start => ?_
  injection h with h
  rw [← h, ← List.append_nil (Word.encode _ _)]
  refine (takes_word .u16 (schemaCode s) "schema").andThen ?_
  cases s with
  | none => exact takes_pure none
  | some s =>
    have hne : schemaCode (some s) ≠ mixedSchema := by cases s <;> decide
    have hcode : Schema.ofCode? (schemaCode (some s)) = some s := Schema.ofCode?_code s
    show Takes (if schemaCode (some s) = mixedSchema then _ else _) _ _
    rw [if_neg hne, hcode]
    exact takes_pure (some s)

theorem readBy_symbology (s : Option Symbology) (field : String) :
    ReadBy [.word .u8 (symbologyCode s)] (readSymbology field) s := by
  refine readBy_one fun bs h => takes_offset fun start => ?_
  injection h with h
  rw [← h, ← List.append_nil (Word.encode _ _)]
  refine (takes_word .u8 (symbologyCode s) field).andThen ?_
  cases s with
  | none => exact takes_pure none
  | some s =>
    have hne : symbologyCode (some s) ≠ mixedSymbology := by cases s <;> decide
    have hcode : Symbology.ofCode? (symbologyCode (some s)) = some s := Symbology.ofCode?_code s
    show Takes (if symbologyCode (some s) = mixedSymbology then _ else _) _ _
    rw [if_neg hne, hcode]
    exact takes_pure (some s)

theorem readBy_symbologies (m : Metadata) :
    ReadBy m.symbologyEntries readSymbologies (m.stypeIn, m.stypeOut, m.tsOut) := by
  have hflag : Scalar.flagOfByte (Scalar.byteOfFlag m.tsOut) = m.tsOut := by
    cases m.tsOut <;> rfl
  refine (readBy_symbology m.stypeIn "stype_in").append
    (x := [_]) (y := [_, _]) fun bs h hlen => takes_offset fun start => ?_
  have hlast := (readBy_word .u8 (Scalar.byteOfFlag m.tsOut) "ts_out").giving
    fun b => (m.stypeIn, m.stypeOut, Scalar.flagOfByte b)
  rw [hflag] at hlast
  exact (readBy_symbology (some m.stypeOut) "stype_out").append (x := [_]) (y := [_])
    hlast bs h hlen

/-- The part of the header that the versions lay out in their own ways. -/
def versionedEntries (m : Metadata) : List Entry :=
  match m.version with
  | .v1 => .word .u64 (0 : UInt64) :: (m.symbologyEntries ++ [.zeros 47])
  | .v2 =>
    m.symbologyEntries ++ [.word .u16 (UInt16.ofNat (Version.symbolWidth .v2)), .zeros 53]

theorem readBy_versioned (m : Metadata) :
    ReadBy m.versionedEntries (readVersioned m.version) (m.stypeIn, m.stypeOut, m.tsOut) := by
  rw [versionedEntries]
  cases m.version with
  | v1 =>
    refine (readBy_skip_word .u64 (0 : UInt64) "record_count").append (x := [_]) ?_
    refine m.readBy_symbologies.append ?_
    exact (readBy_skip_zeros 47 "reserved").giving fun _ => (m.stypeIn, m.stypeOut, m.tsOut)
  | v2 =>
    refine m.readBy_symbologies.append ?_
    refine (readBy_word .u16 _ "symbol_cstr_len").append (x := [_]) (y := [_]) ?_
    exact (readBy_skip_zeros 53 "reserved").giving fun _ => (m.stypeIn, m.stypeOut, m.tsOut)

/-! ## Counted lists -/

variable {α : Type}

/-- A list is read back if its items are and each of them has bytes. -/
theorem readBy_counted {f : α → List Entry} {r : Reader α} {items : List α} (context : String)
    (h : ∀ x ∈ items, ReadBy (f x) r x)
    (hne : ∀ x ∈ items, ∀ xs, encodeAll (f x) = .ok xs → 0 < xs.length) :
    ReadBy (countEntry items :: items.flatMap f)
      (do Reader.times (← readCount context) r) items := by
  intro bs hbs hlen
  obtain ⟨front, back, hfront, hback, rfl⟩ := encodeAll_cons.1 hbs
  rw [List.length_append] at hlen
  have hcount : (UInt32.ofNat items.length).toNat = items.length := by
    have := length_le_length_encodeAll hne hback
    exact UInt32.toNat_ofNat_of_lt' (by omega)
  injection hfront with hfront
  have hn : Takes (readCount context) front items.length := by
    have hw := (takes_word .u32 (UInt32.ofNat items.length) context).giving UInt32.toNat
    rw [hcount] at hw
    rw [← hfront]
    exact hw
  exact hn.andThen (readBy_times h back hback (by omega))

theorem length_pos_of_text {written : String} {width : Nat} {s : String} {es : List Entry}
    {bs : Bytes} (h : encodeAll (.text written width s :: es) = .ok bs) : 0 < bs.length := by
  obtain ⟨front, back, hfront, -, rfl⟩ := encodeAll_cons.1 h
  have hlt := PaddedText.encode_isOk_iff.1 ⟨front, hfront⟩
  rw [List.length_append, PaddedText.length_encode hfront]
  omega

theorem readBy_symbols {symbols : List String} (h : ∀ s ∈ symbols, Text.ZeroFree s)
    (width : Nat) (field : String) :
    ReadBy (symbolEntries width field symbols) (readSymbols width field) symbols := by
  rw [symbolEntries, List.map_eq_flatMap]
  exact readBy_counted field (fun s hs => readBy_text (h s hs) field width field)
    fun s _ bs hbs => length_pos_of_text hbs

theorem readBy_interval {i : MappingInterval} (h : Text.ZeroFree i.symbol) (width : Nat) :
    ReadBy (intervalEntries width i) (readInterval width) i := by
  refine (readBy_word .u32 i.first "interval start_date").append (x := [_]) (y := [_, _]) ?_
  refine (readBy_word .u32 i.last "interval end_date").append (x := [_]) (y := [_]) ?_
  exact (readBy_text h _ width "mapping symbol").giving
    fun s => (⟨i.first, i.last, s⟩ : MappingInterval)

theorem readBy_mapping {s : SymbolMapping} (hs : Text.ZeroFree s.symbol)
    (hi : ∀ i ∈ s.intervals, Text.ZeroFree i.symbol) (width : Nat) :
    ReadBy (mappingEntries width s) (readMapping width) s := by
  have hlist := readBy_counted (f := intervalEntries width) "mapping intervals"
    (fun i h => readBy_interval (hi i h) width) fun i _ bs hbs => by
      obtain ⟨front, back, hfront, -, rfl⟩ := encodeAll_cons.1 hbs
      injection hfront with hfront
      rw [List.length_append, ← hfront, Word.length_encode]
      show 0 < 4 + back.length
      omega
  refine (readBy_text hs _ width "mapping raw_symbol").append (x := [_]) ?_
  have hlast := hlist.giving fun is => (⟨s.symbol, is⟩ : SymbolMapping)
  rwa [bind_assoc] at hlast

/-! ## The frame -/

theorem entries_eq (m : Metadata) :
    m.entries = [.text "dataset" datasetWidth m.dataset] ++
      ([.word .u16 (schemaCode m.schema)] ++ ([.word .u64 m.start] ++ ([.word .u64 m.stop] ++
      ([.word .u64 m.limit] ++ (m.versionedEntries ++ ([.word .u32 (0 : UInt32)] ++
      (symbolEntries m.version.symbolWidth "symbols" m.symbols ++
      (symbolEntries m.version.symbolWidth "partial" m.partly ++
      (symbolEntries m.version.symbolWidth "not_found" m.notFound ++
      (countEntry m.mappings :: m.mappings.flatMap (mappingEntries m.version.symbolWidth)))))))))))
      := by
  simp only [entries, headerEntries, List.append_assoc, List.cons_append, List.nil_append]
  rfl

/-- The definition of a schema that is never written. -/
theorem readBy_no_definition :
    ReadBy [.word .u32 (0 : UInt32)]
      (do Reader.skip (← readCount "schema_definition length") "schema_definition") () := by
  have hcount : ReadBy [.word .u32 (0 : UInt32)] (readCount "schema_definition length") 0 :=
    (readBy_word .u32 (0 : UInt32) _).giving UInt32.toNat
  exact hcount.append (y := []) fun bs hbs _ => by
    injection hbs with hbs
    exact takes_skip (by rw [← hbs]; rfl) _

theorem readBy_body {m : Metadata} (h : m.TextsPlain) :
    ReadBy m.entries (readBody m.version) m := by
  have hdataset : Text.ZeroFree m.dataset := h _ (by simp [texts])
  have hsymbols : ∀ s ∈ m.symbols, Text.ZeroFree s := fun s hs => h s (by simp [texts, hs])
  have hpartly : ∀ s ∈ m.partly, Text.ZeroFree s := fun s hs => h s (by simp [texts, hs])
  have hnotFound : ∀ s ∈ m.notFound, Text.ZeroFree s := fun s hs => h s (by simp [texts, hs])
  have hmapping : ∀ s ∈ m.mappings, Text.ZeroFree s.symbol ∧
      ∀ i ∈ s.intervals, Text.ZeroFree i.symbol := by
    intro s hs
    refine ⟨h _ ?_, fun i hi => h _ ?_⟩
    · simp only [texts, List.mem_cons, List.mem_append, List.mem_flatMap]
      exact .inr (.inr ⟨s, hs, .inl rfl⟩)
    · simp only [texts, List.mem_cons, List.mem_append, List.mem_flatMap, List.mem_map]
      exact .inr (.inr ⟨s, hs, .inr ⟨i, hi, rfl⟩⟩)
  have hmappings := readBy_counted (f := mappingEntries m.version.symbolWidth) "mappings"
    (fun s hs => readBy_mapping (hmapping s hs).1 (hmapping s hs).2 m.version.symbolWidth)
    fun s _ bs hbs => length_pos_of_text hbs
  rw [entries_eq]
  refine (readBy_text hdataset _ _ "dataset").append ?_
  refine (readBy_schema m.schema).append ?_
  refine (readBy_word .u64 m.start "start").append ?_
  refine (readBy_word .u64 m.stop "end").append ?_
  refine (readBy_word .u64 m.limit "limit").append ?_
  refine m.readBy_versioned.append ?_
  dsimp only
  rw [← bind_assoc]
  refine readBy_no_definition.append ?_
  refine (readBy_symbols hsymbols _ "symbols").append ?_
  refine (readBy_symbols hpartly _ "partial").append ?_
  refine (readBy_symbols hnotFound _ "not_found").append ?_
  have hlast := hmappings.giving fun mappings => { m with mappings := mappings }
  rwa [bind_assoc] at hlast

end Metadata
end TickStream
