import TickStream.Live.Message
import TickStream.Metadata.Codec
import TickStream.Proofs.OneRun
import TickStream.Record.Json
/-
Failures that the caller has no part in.  Main statement: whatever bytes there are, reading
metadata, records and control messages from them does not fail as if the caller were at fault.
-/
namespace TickStream

open Step

/-- The failure is not one of the caller. -/
def Error.IsExternal (e : Error) : Prop := e.category ≠ .usage

/-- The category of a failure during a phase of a session is that of the failure. -/
theorem Error.category_during (phase : Live.Phase) (e : Error) :
    (e.during phase).category = e.category := by
  cases e <;> rfl

/-- Wherever the step fails, the failure is not one of the caller. -/
abbrev Step.External {σ α : Type} (x : EStateM Error σ α) : Prop := FailsAs Error.IsExternal x

/-- A failure in place of the result is not one of the caller. -/
abbrev Step.ExternalIn {α : Type} (x : Except Error α) : Prop := ErrsAs Error.IsExternal x

theorem Version.external_ofCode (n : UInt8) : ExternalIn (Version.ofCode n) := by
  refine (errsAs_ok _).ite ((errsAs_ok _).ite (errsAs_error ?_))
  nofun

/-! ## Bytes -/

theorem PaddedText.external_decode (field : String) (offset : Nat) (bs : Bytes) :
    ExternalIn (decode field offset bs) := by
  rw [decode]
  split
  · exact errsAs_error nofun
  · split
    · exact errsAs_ok _
    · exact errsAs_error nofun

namespace Reader

variable {α : Type}

theorem external_offset : External offset := failsAs_get.bind fun c => failsAs_pure c.offset

theorem external_take (n : Nat) (context : String) : External (take n context) := by
  intro c c' e h
  replace h : (if (c.rest.take n).length < n then
      EStateM.Result.error (Error.truncated context c.offset n (c.rest.take n).length) c
    else .ok (c.rest.take n) ⟨c.rest.drop n, c.offset + n⟩) = .error e c' := h
  split at h
  · injection h with he
    rw [← he]
    nofun
  · cases h

theorem external_skip (n : Nat) (context : String) : External (skip n context) :=
  (external_take n context).bind fun _ => failsAs_pure ()

theorem external_word (w : Word) (context : String) : External (word w context) :=
  (external_take w.width context).bind fun bs => failsAs_pure (w.decode bs)

theorem external_text (width : Nat) (field : String) : External (text width field) := by
  refine external_offset.bind fun start => (external_take width field).bind fun bs => ?_
  have hdecode := PaddedText.external_decode field start bs
  split
  · exact failsAs_pure _
  · rename_i e he
    exact failsAs_throw (hdecode he)

theorem external_times {r : Reader α} (h : External r) (n : Nat) : External (times n r) := by
  induction n with
  | zero => exact failsAs_pure []
  | succ n ih => exact h.bind fun a => ih.bind fun as => failsAs_pure (a :: as)

theorem errsAs_run {E : Error → Prop} {r : Reader α} (h : FailsAs E r) (bs : Bytes)
    (offset : Nat) : ErrsAs E (Reader.run r bs offset) := by
  intro e he
  obtain ⟨c, hrun⟩ := run_eq_error.1 he
  exact h hrun

end Reader

/-! ## Records -/

theorem Row.external_read {κ : Type} [FieldKind κ]
    (h : ∀ (k : κ) (name : String), External (FieldKind.read k name)) (slots : List (Slot κ)) :
    External (Row.read slots) := by
  induction slots with
  | nil => exact failsAs_pure ()
  | cons slot slots ih =>
    cases slot with
    | gap n => exact (Reader.external_skip n "reserved").bind fun _ => ih
    | field name k => exact (h k name).bind fun v => ih.bind fun row => failsAs_pure (v, row)
    | optional name k unset =>
      exact (h k name).bind fun v => ih.bind fun row => failsAs_pure (v, row)

theorem Scalar.external_read (s : Scalar) (name : String) : External (FieldKind.read s name) :=
  (Reader.external_word s.carrier name).bind fun v => failsAs_pure (s.ofWord v)

theorem LevelKind.external_read (k : LevelKind) : External k.read :=
  (Row.external_read Scalar.external_read k.slots).bind fun row => failsAs_pure (k.ofRow row)

theorem LevelKind.external_readAll (k : LevelKind) (n : Nat) : External (k.readAll n) := by
  induction n with
  | zero => exact failsAs_pure #v[]
  | succ n ih =>
    exact ih.bind fun front => k.external_read.bind fun v => failsAs_pure (front.push v)

theorem Field.external_read (f : Field) (name : String) : External (FieldKind.read f name) := by
  cases f with
  | scalar s => exact s.external_read name
  | text n => exact Reader.external_text n name
  | levels k n => exact k.external_readAll n

theorem Header.external_read : External Header.read := by
  refine (Reader.external_word _ _).bind fun length => ?_
  refine (Reader.external_word _ _).bind fun tag => ?_
  refine (Reader.external_word _ _).bind fun publisherId => ?_
  refine (Reader.external_word _ _).bind fun instrumentId => ?_
  exact (Reader.external_word _ _).bind fun tsEvent => failsAs_pure _

theorem Header.external_decode (frame : Bytes) : ExternalIn (Header.decode frame) := by
  refine (Reader.errsAs_run Header.external_read frame 0).bind fun h => ?_
  refine ErrsAs.ite ?_ (errsAs_ok h)
  exact (errsAs_error nofun).bind fun _ => errsAs_ok h

namespace Codec

theorem external_decodeBody (c : Codec) (h : Header) (body : Bytes) :
    ExternalIn (c.decodeBody h body) := by
  rw [decodeBody]
  refine (errsAs_error nofun).ite ?_
  split
  · exact errsAs_ok _
  · rename_i k _
    refine (errsAs_error nofun).ite ?_
    have hrow := Row.external_read Field.external_read (k.layout c.version)
    exact (Reader.errsAs_run hrow body Header.size).bind fun row => errsAs_ok _

theorem external_decodeJson (c : Codec) (line : String) : ExternalIn (c.decodeJson line) := by
  rw [decodeJson]
  split
  · exact errsAs_ok _
  · rename_i fault _
    cases fault <;> exact errsAs_error nofun

end Codec

/-! ## Metadata -/

namespace Metadata

open Reader (external_offset external_word external_skip external_text external_times)

theorem external_readSchema : External readSchema := by
  refine external_offset.bind fun start => (external_word .u16 "schema").bind fun n => ?_
  split
  · exact failsAs_pure none
  · split
    · exact failsAs_pure _
    · exact failsAs_throw nofun

theorem external_readSymbology (field : String) : External (readSymbology field) := by
  refine external_offset.bind fun start => (external_word .u8 field).bind fun n => ?_
  split
  · exact failsAs_pure none
  · split
    · exact failsAs_pure _
    · exact failsAs_throw nofun

theorem external_readSymbologies : External readSymbologies := by
  refine (external_readSymbology "stype_in").bind fun stypeIn => ?_
  refine external_offset.bind fun start => ?_
  refine (external_readSymbology "stype_out").bind fun stypeOut => ?_
  cases stypeOut with
  | none => exact failsAs_throw nofun
  | some stypeOut => exact (external_word .u8 "ts_out").bind fun tsOut => failsAs_pure _

theorem external_readVersioned (v : Version) : External (readVersioned v) := by
  cases v with
  | v1 =>
    refine (external_skip 8 "record_count").bind fun _ => ?_
    refine external_readSymbologies.bind fun fields => ?_
    exact (external_skip 47 "reserved").bind fun _ => failsAs_pure fields
  | v2 =>
    refine external_readSymbologies.bind fun fields => ?_
    refine (external_word .u16 "symbol_cstr_len").bind fun width => FailsAs.ite ?_ ?_
    · refine FailsAs.bind (failsAs_throw nofun) fun _ => ?_
      exact (external_skip 53 "reserved").bind fun _ => failsAs_pure fields
    · exact (external_skip 53 "reserved").bind fun _ => failsAs_pure fields

theorem external_readCount (context : String) : External (readCount context) :=
  (external_word .u32 context).bind fun n => failsAs_pure n.toNat

theorem external_readSymbols (width : Nat) (field : String) :
    External (readSymbols width field) :=
  (external_readCount field).bind fun n => external_times (external_text width field) n

theorem external_readInterval (width : Nat) : External (readInterval width) := by
  refine (external_word .u32 "interval start_date").bind fun first => ?_
  refine (external_word .u32 "interval end_date").bind fun last => ?_
  exact (external_text width "mapping symbol").bind fun symbol => failsAs_pure _

theorem external_readMapping (width : Nat) : External (readMapping width) := by
  refine (external_text width "mapping raw_symbol").bind fun symbol => ?_
  refine (external_readCount "mapping intervals").bind fun n => ?_
  exact (external_times (external_readInterval width) n).bind fun intervals => failsAs_pure _

theorem external_readBody (v : Version) : External (readBody v) := by
  refine (external_text datasetWidth "dataset").bind fun dataset => ?_
  refine external_readSchema.bind fun schema => ?_
  refine (external_word .u64 "start").bind fun start => ?_
  refine (external_word .u64 "end").bind fun stop => ?_
  refine (external_word .u64 "limit").bind fun limit => ?_
  refine (external_readVersioned v).bind fun (stypeIn, stypeOut, tsOut) => ?_
  refine (external_readCount "schema_definition length").bind fun length => ?_
  refine (external_skip length "schema_definition").bind fun _ => ?_
  refine (external_readSymbols v.symbolWidth "symbols").bind fun symbols => ?_
  refine (external_readSymbols v.symbolWidth "partial").bind fun partly => ?_
  refine (external_readSymbols v.symbolWidth "not_found").bind fun notFound => ?_
  refine (external_readCount "mappings").bind fun n => ?_
  exact (external_times (external_readMapping v.symbolWidth) n).bind fun mappings =>
    failsAs_pure _

theorem external_decodePrefix (bs : Bytes) : ExternalIn (decodePrefix bs) := by
  refine (errsAs_error nofun).ite ?_
  exact (Version.external_ofCode _).bind fun version => errsAs_ok _

end Metadata

namespace Intake

theorem external_ofRead (read : Source → Except IoFault Bytes × Source) :
    External (ofRead read) := by
  intro s t e h
  replace h : ofRead read s = .error e t := h
  rw [ofRead] at h
  split at h
  · cases h
  · injection h with he
    rw [← he]
    nofun

theorem external_exactly (n : Nat) (context : String) (offset : Nat) :
    External (exactly n context offset) := by
  refine (external_ofRead _).bind fun bs => FailsAs.ite ?_ (failsAs_pure bs)
  exact FailsAs.bind (failsAs_throw nofun) fun _ => failsAs_pure bs

end Intake

theorem Metadata.external_read : External Metadata.read := by
  refine (Intake.external_exactly prefixSize "metadata prefix" 0).bind fun front => ?_
  refine (failsAs_ofExcept (external_decodePrefix front)).bind fun (version, length) => ?_
  refine (Intake.external_exactly length "metadata body" prefixSize).bind fun body => ?_
  have hbody : ExternalIn (decodeBody version body) :=
    Reader.errsAs_run (external_readBody version) body prefixSize
  exact (failsAs_ofExcept hbody).bind fun m => failsAs_pure (m, prefixSize + length)

/-! ## Control messages -/

namespace Live

theorem external_value (message key : String) (fields : List (String × String)) :
    ExternalIn (value message key fields) := by
  rw [value]
  split
  · exact errsAs_ok _
  · exact errsAs_error nofun

theorem Verdict.external_parse (line : String) : ExternalIn (Verdict.parse line) := by
  refine (external_value _ _ _).bind fun text => ?_
  have hflag : ExternalIn (flag text) :=
    (errsAs_ok true).ite ((errsAs_ok false).ite (errsAs_error nofun))
  exact hflag.bind fun success => errsAs_ok _

theorem Verdict.external_accept (v : Verdict) : ExternalIn v.accept :=
  (errsAs_ok _).ite (errsAs_error nofun)

end Live
end TickStream
