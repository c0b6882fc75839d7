import TickStream.Proofs.Bytes.Regions
import TickStream.Proofs.Metadata.Agreement
/-
Where the texts and the codes of a metadata frame stand.  The positions are told from the bytes
alone: the fields of the header stand at fixed positions, and every list begins with the number
of its items, so that it is known where the next one begins.  Main statement: whatever is wrong
with a frame, the error that a decoder gives says truly where it is.
-/
namespace TickStream
namespace Metadata

open Step Reader Region

/-! ## Positions -/

def countAt (b : Bytes) (p : Nat) : Nat := Bytes.toNat (Bytes.part b p 4)

/-- Where a list ends that begins at position `p`: a number, then as many items of `size` bytes. -/
def listEnd (b : Bytes) (size p : Nat) : Nat := p + 4 + size * countAt b p

def symbologiesAt : Version → Nat
  | .v1 => 58
  | .v2 => 50

/-- Where the symbols begin: behind the definition of a schema, which is a list of bytes. -/
def symbolsAt (b : Bytes) : Nat := listEnd b 1 108

def partlyAt (v : Version) (b : Bytes) : Nat := listEnd b v.symbolWidth (symbolsAt b)

def notFoundAt (v : Version) (b : Bytes) : Nat := listEnd b v.symbolWidth (partlyAt v b)

def mappingsAt (v : Version) (b : Bytes) : Nat := listEnd b v.symbolWidth (notFoundAt v b)

/-- Where the `k`-th mapping begins.  A mapping is a symbol and a list of intervals. -/
def mappingAt (v : Version) (b : Bytes) : Nat → Nat
  | 0 => mappingsAt v b + 4
  | k + 1 => listEnd b (8 + v.symbolWidth) (mappingAt v b k + v.symbolWidth)

/-- The texts of a frame.  The text of an interval stands behind two dates. -/
inductive TextAt (v : Version) (b : Bytes) : String → Nat → Nat → Prop where
  | dataset : TextAt v b "dataset" prefixSize datasetWidth
  | symbol {i : Nat} (h : i < countAt b (symbolsAt b)) :
    TextAt v b "symbols" (symbolsAt b + 4 + v.symbolWidth * i) v.symbolWidth
  | partly {i : Nat} (h : i < countAt b (partlyAt v b)) :
    TextAt v b "partial" (partlyAt v b + 4 + v.symbolWidth * i) v.symbolWidth
  | notFound {i : Nat} (h : i < countAt b (notFoundAt v b)) :
    TextAt v b "not_found" (notFoundAt v b + 4 + v.symbolWidth * i) v.symbolWidth
  | mapping {k : Nat} (h : k < countAt b (mappingsAt v b)) :
    TextAt v b "mapping raw_symbol" (mappingAt v b k) v.symbolWidth
  | interval {k j : Nat} (h : k < countAt b (mappingsAt v b))
      (hj : j < countAt b (mappingAt v b k + v.symbolWidth)) :
    TextAt v b "mapping symbol"
      (mappingAt v b k + v.symbolWidth + 4 + (8 + v.symbolWidth) * j + 8) v.symbolWidth

/-- The codes of a frame. -/
inductive CodeAt (v : Version) : String → Nat → Nat → Prop where
  | schema : CodeAt v "schema" 24 2
  | stypeIn : CodeAt v "stype_in" (symbologiesAt v) 1
  | stypeOut : CodeAt v "stype_out" (symbologiesAt v + 1) 1

/-- What is read of bytes that begin with a frame: the frame, or all of them if it is cut off.
The fourth byte states the version. -/
def region (b : Bytes) : Region where
  bytes := b
  stop := min b.length (prefixSize + declaredLength b)
  stop_le := Nat.min_le_left ..
  text field start width := ∃ v : Version, b[3]? = some v.code ∧ TextAt v b field start width
  code field start width := ∃ v : Version, b[3]? = some v.code ∧ CodeAt v field start width

/-! ## Parts of a frame -/

variable {P : Region} {p width : Nat} {field : String} {v : Version} {b : Bytes} {e : Error}

theorem reaches_schema (h : P.code "schema" p 2) :
    P.Reaches p (p + 2) readSchema fun _ => True := by
  rw [readSchema]
  refine reaches_offset ((P.reaches_word p .u16 "schema").bind fun n hn => ?_)
  split
  · exact reaches_pure trivial
  · split
    · exact reaches_pure trivial
    · exact reaches_throw ⟨2, h, hn.1, hn.2.symm⟩

/-- Where no symbology is read, there is the code for a mix. -/
theorem reaches_symbology (h : P.code field p 1) :
    P.Reaches p (p + 1) (readSymbology field) fun s => s = none →
      P.Truthful (.unknownValue field mixedSymbology.toNat p) := by
  rw [readSymbology]
  refine reaches_offset ((P.reaches_word p .u8 field).bind fun n hn => ?_)
  have hcode : P.Truthful (.unknownValue field n.toNat p) := ⟨1, h, hn.1, hn.2.symm⟩
  split
  · rename_i hmixed
    exact reaches_pure fun _ => hmixed ▸ hcode
  · split
    · exact reaches_pure fun hnone => by cases hnone
    · exact reaches_throw hcode

theorem reaches_symbologies (hin : P.code "stype_in" p 1) (hout : P.code "stype_out" (p + 1) 1) :
    P.Reaches p (p + 3) readSymbologies fun _ => True := by
  rw [readSymbologies]
  refine (reaches_symbology hin).bind fun stypeIn _ => reaches_offset ?_
  refine (reaches_symbology hout).bind fun stypeOut hnone => ?_
  cases stypeOut with
  | none => exact reaches_throw (hnone rfl)
  | some stypeOut => exact (P.reaches_word _ .u8 "ts_out").giving fun _ _ => trivial

theorem reaches_versioned (hin : P.code "stype_in" (symbologiesAt v) 1)
    (hout : P.code "stype_out" (symbologiesAt v + 1) 1) :
    P.Reaches 50 108 (readVersioned v) fun _ => True := by
  cases v with
  | v1 =>
    refine (P.reaches_skip 50 8 "record_count").bind fun _ _ => ?_
    refine (reaches_symbologies hin hout).bind fun fields _ => ?_
    exact (P.reaches_skip 61 47 "reserved").giving fun _ _ => trivial
  | v2 =>
    refine (reaches_symbologies hin hout).bind fun fields _ => ?_
    refine (P.reaches_word 53 .u16 "symbol_cstr_len").bind fun width _ => ?_
    split
    · refine Reaches.bind (q := 55) (Q := fun _ => False) (reaches_throw ?_) fun _ h => h.elim
      trivial
    · exact (P.reaches_skip 55 53 "reserved").giving fun _ _ => trivial

/-- A reader that counts as many items as a number says. -/
theorem reaches_count {α : Type} {f : Nat → Reader α} {q : Nat} {Q : α → Prop}
    (h : P.Reaches (p + 4) q (f (countAt P.bytes p)) Q) (context : String) :
    P.Reaches p q (readCount context >>= f) Q := by
  have hcount : P.Reaches p (p + 4) (readCount context) fun n => n = countAt P.bytes p :=
    (P.reaches_word p .u32 context).giving fun _ hn => hn.2
  exact hcount.bind fun n hn => hn ▸ h

theorem reaches_symbols (h : ∀ i < countAt P.bytes p, P.text field (p + 4 + width * i) width) :
    P.Reaches p (listEnd P.bytes width p) (readSymbols width field) fun _ => True :=
  reaches_count (reaches_times_of_size fun i hi => reaches_text (h i hi)) field

theorem reaches_interval (h : P.text "mapping symbol" (p + 8) width) :
    P.Reaches p (p + (8 + width)) (readInterval width) fun _ => True := by
  rw [← Nat.add_assoc]
  refine (P.reaches_word p .u32 "interval start_date").bind fun first _ => ?_
  refine (P.reaches_word (p + 4) .u32 "interval end_date").bind fun last _ => ?_
  exact (reaches_text h).giving fun _ _ => trivial

theorem reaches_mapping (h : P.text "mapping raw_symbol" p width)
    (hintervals : ∀ j < countAt P.bytes (p + width),
      P.text "mapping symbol" (p + width + 4 + (8 + width) * j + 8) width) :
    P.Reaches p (listEnd P.bytes (8 + width) (p + width)) (readMapping width) fun _ => True := by
  refine (reaches_text h).bind fun symbol _ => reaches_count ?_ "mapping intervals"
  refine (reaches_times_of_size fun j hj => ?_).giving fun _ _ => trivial
  exact reaches_interval (hintervals j hj)

/-! ## Whole frames -/

/-- The parts of a frame stand one behind the other. -/
theorem reaches_body (hv : b[3]? = some v.code) :
    (region b).Reaches prefixSize (mappingAt v b (countAt b (mappingsAt v b))) (readBody v)
      fun _ => True := by
  have htext {field : String} {start width : Nat} (h : TextAt v b field start width) :
      (region b).text field start width := ⟨v, hv, h⟩
  have hcode {field : String} {start width : Nat} (h : CodeAt v field start width) :
      (region b).code field start width := ⟨v, hv, h⟩
  have hdataset : (region b).Reaches prefixSize 24 (Reader.text datasetWidth "dataset")
      fun _ => True := reaches_text (htext .dataset)
  have hschema : (region b).Reaches 24 26 readSchema fun _ => True :=
    reaches_schema (hcode .schema)
  have hversioned : (region b).Reaches 50 108 (readVersioned v) fun _ => True :=
    reaches_versioned (hcode .stypeIn) (hcode .stypeOut)
  have hdefinition : (region b).Reaches 112 (symbolsAt b)
      (Reader.skip (countAt b 108) "schema_definition") fun _ => True := by
    rw [symbolsAt, listEnd, Nat.one_mul]
    exact (region b).reaches_skip 112 (countAt b 108) "schema_definition"
  have hsymbols : (region b).Reaches (symbolsAt b) (partlyAt v b)
      (readSymbols v.symbolWidth "symbols") fun _ => True :=
    reaches_symbols fun i hi => htext (.symbol hi)
  have hpartly : (region b).Reaches (partlyAt v b) (notFoundAt v b)
      (readSymbols v.symbolWidth "partial") fun _ => True :=
    reaches_symbols fun i hi => htext (.partly hi)
  have hnotFound : (region b).Reaches (notFoundAt v b) (mappingsAt v b)
      (readSymbols v.symbolWidth "not_found") fun _ => True :=
    reaches_symbols fun i hi => htext (.notFound hi)
  have hmappings : (region b).Reaches (mappingsAt v b + 4)
      (mappingAt v b (countAt b (mappingsAt v b)))
      (times (countAt b (mappingsAt v b)) (readMapping v.symbolWidth)) fun _ => True :=
    reaches_times (g := mappingAt v b) fun k hk =>
      reaches_mapping (htext (.mapping hk)) fun j hj => htext (.interval hk hj)
  refine hdataset.bind fun dataset _ => hschema.bind fun schema _ => ?_
  refine ((region b).reaches_word 26 .u64 "start").bind fun start _ => ?_
  refine ((region b).reaches_word 34 .u64 "end").bind fun stop _ => ?_
  refine ((region b).reaches_word 42 .u64 "limit").bind fun limit _ => ?_
  refine hversioned.bind fun fields _ => ?_
  obtain ⟨stypeIn, stypeOut, tsOut⟩ := fields
  refine reaches_count ?_ "schema_definition length"
  refine hdefinition.bind fun _ _ => hsymbols.bind fun symbols _ => hpartly.bind fun partly _ => ?_
  refine hnotFound.bind fun notFound _ => reaches_count ?_ "mappings"
  exact hmappings.giving fun _ _ => trivial

theorem getElem?_of_decodePrefix {n : Nat} (hlen : prefixSize ≤ b.length)
    (h : decodePrefix (b.take prefixSize) = .ok (v, n)) : b[3]? = some v.code := by
  have hfour := ((decodePrefix_eq_ok hlen).1 h).1
  rw [← List.getElem?_take_of_lt (show 3 < 4 by decide), hfour]
  rfl

/-- What is wrong with a prefix has no offset. -/
theorem truthful_decodePrefix (P : Region) (bs : Bytes) :
    ErrsAs P.Truthful (decodePrefix bs) := by
  rw [decodePrefix]
  refine (errsAs_error ?_).ite (ErrsAs.bind ?_ fun v => errsAs_ok _)
  · trivial
  · exact (errsAs_ok _).ite ((errsAs_ok _).ite (errsAs_error trivial))

/-- Bytes that are missing from a frame are missing at the end of the input. -/
theorem stop_of_cut (h : b.length < prefixSize + declaredLength b) : (region b).stop = b.length :=
  Nat.min_eq_left (Nat.le_of_lt h)

theorem stop_of_whole (h : prefixSize + declaredLength b ≤ b.length) :
    (region b).stop = prefixSize + declaredLength b :=
  Nat.min_eq_right h

/-- Whatever a decoder says of bytes that are no frame is said truly. -/
theorem truthful_of_decode (h : decode b = .error e) : (region b).Truthful e := by
  by_cases hlen : prefixSize ≤ b.length
  · cases hp : decodePrefix (b.take prefixSize) with
    | error e' =>
      rw [decode_of_prefix_error hlen hp] at h
      injection h with h
      exact h ▸ truthful_decodePrefix (region b) (b.take prefixSize) hp
    | ok found =>
      obtain ⟨v, n⟩ := found
      obtain ⟨-, rfl⟩ := (decodePrefix_eq_ok hlen).1 hp
      rw [decode_of_prefix_ok hlen hp] at h
      have hdrop : (b.drop prefixSize).length = b.length - prefixSize := List.length_drop
      by_cases hbody : declaredLength b ≤ (b.drop prefixSize).length
      · have hstop := stop_of_whole (b := b) (by omega)
        rw [run_take hbody] at h
        refine (reaches_body (getElem?_of_decodePrefix hlen hp)).truthful ?_ ?_ h
        · rw [hstop]
          exact Nat.le_add_right ..
        · rw [hstop, List.drop_take, Nat.add_sub_cancel_left]
          rfl
      · rw [run_take_short (Nat.lt_of_not_le hbody)] at h
        injection h with h
        rw [← h]
        refine ⟨Nat.lt_of_not_le hbody, ?_⟩
        rw [stop_of_cut (by omega), hdrop]
        omega
  · rw [decode, run_take_short (Nat.lt_of_not_le hlen)] at h
    injection h with h
    rw [← h]
    refine ⟨Nat.lt_of_not_le hlen, ?_⟩
    rw [stop_of_cut (by omega), Nat.zero_add]

end Metadata
end TickStream
