import TickStream.Proofs.OneRun
import TickStream.Proofs.Record.RoundTrip
import TickStream.Proofs.Scan.Discipline
/-
What a frame can be refused for.  Main statement: for its lengths, exactly when these do not fit
together; otherwise for a text, and for nothing else.  The lengths are settled before any field is
read, so a scanner that has a frame is past all of it.
-/
namespace TickStream

open Step

/-- The failure is one of a text in the field `name`. -/
def Error.SpoilsText (name : String) : Error → Prop
  | .badPadding field _ => field = name
  | .badUtf8 field _ => field = name
  | _ => False

theorem Error.SpoilsText.category {name : String} {e : Error} (h : e.SpoilsText name) :
    e.category = .format := by
  cases e with
  | badPadding => rfl
  | badUtf8 => rfl
  | _ => exact h.elim

theorem PaddedText.spoilsText_of_decode (field : String) (offset : Nat) (bs : Bytes) :
    ErrsAs (Error.SpoilsText field) (PaddedText.decode field offset bs) := by
  rw [PaddedText.decode]
  split
  · exact errsAs_error rfl
  · split
    · exact errsAs_ok _
    · exact errsAs_error rfl

/-! ## Readers that have the bytes they ask for -/

namespace Reader

variable {α β : Type} {n m : Nat} {E F : Error → Prop}

/-- With `n` bytes before it `r` takes just these, or fails as `E` says. -/
def Suffices (n : Nat) (r : Reader α) (E : Error → Prop) : Prop :=
  ∀ c : Cursor, n ≤ c.rest.length → Ensures c r (fun _ c' => c'.rest = c.rest.drop n) fun e _ => E e

theorem Suffices.mono {r : Reader α} (h : Suffices n r E) (hEF : ∀ e, E e → F e) :
    Suffices n r F := fun c hc => (h c hc).mono (fun _ _ h => h) fun e _ => hEF e

theorem suffices_pure (a : α) : Suffices 0 (pure a) E := fun _ _ => ensures_pure rfl

theorem Suffices.andThen {r : Reader α} {f : α → Reader β} (hr : Suffices n r E)
    (hf : ∀ a, Suffices m (f a) E) : Suffices (n + m) (r >>= f) E := by
  intro c hc
  refine (hr c (by omega)).bind (fun _ _ h => h) fun a c' hc' => ?_
  have hleft : m ≤ c'.rest.length := by
    rw [hc', List.length_drop]
    omega
  refine (hf a c' hleft).mono (fun _ c'' h => ?_) fun _ _ h => h
  rw [h, hc', List.drop_drop]

theorem Suffices.giving {r : Reader α} (hr : Suffices n r E) (g : α → β) :
    Suffices n (do return g (← r)) E := hr.andThen fun a => suffices_pure (g a)

theorem suffices_take (n : Nat) (context : String) : Suffices n (take n context) E := by
  intro c hc
  have hlen : ¬ (c.rest.take n).length < n := by
    rw [List.length_take]
    omega
  show EndsIn _ _ (if (c.rest.take n).length < n then
      EStateM.Result.error (Error.truncated context c.offset n (c.rest.take n).length) c
    else .ok (c.rest.take n) ⟨c.rest.drop n, c.offset + n⟩)
  rw [if_neg hlen]
  exact .ok rfl

theorem suffices_skip (n : Nat) (context : String) : Suffices n (skip n context) E :=
  (suffices_take n context).giving fun _ => ()

theorem suffices_word (w : Word) (context : String) : Suffices w.width (word w context) E :=
  (suffices_take w.width context).giving w.decode

/-- A text that has its bytes can only be refused for what they are. -/
theorem suffices_text (n : Nat) (field : String) :
    Suffices n (text n field) (Error.SpoilsText field) := by
  intro c hc
  refine Ensures.bind (Q := fun start c' => start = c.offset ∧ c' = c) (.ok ⟨rfl, rfl⟩)
    (fun _ _ h => h) ?_
  rintro _ _ ⟨rfl, rfl⟩
  refine (suffices_take n field _ hc).bind (fun _ _ h => h) fun bs c' hc' => ?_
  split
  · exact ensures_pure hc'
  · rename_i e he
    exact .error (PaddedText.spoilsText_of_decode field _ bs he)

theorem Suffices.errsAs {r : Reader α} (h : Suffices n r E) {bs : Bytes} (hlen : n ≤ bs.length)
    (offset : Nat) : ErrsAs E (Reader.run r bs offset) := by
  intro e he
  obtain ⟨c, hrun⟩ := run_eq_error.1 he
  exact (h ⟨bs, offset⟩ hlen).of_error hrun

end Reader

open Reader

/-! ## Rows and fields -/

/-- The failure is one that a field of the slot's kind and name can have. -/
def Slot.Blames {κ : Type} [FieldKind κ] (E : κ → String → Error → Prop) (e : Error) :
    Slot κ → Prop
  | .gap _ => False
  | .field name k => E k name e
  | .optional name k _ => E k name e

theorem Row.suffices_read {κ : Type} [FieldKind κ] {E : κ → String → Error → Prop}
    (h : ∀ k name, Suffices (FieldKind.width k) (FieldKind.read k name) (E k name))
    (slots : List (Slot κ)) :
    Suffices (width slots) (read slots) fun e => ∃ slot ∈ slots, slot.Blames E e := by
  induction slots with
  | nil => exact suffices_pure ()
  | cons slot slots ih =>
    have hrest : Suffices (width slots) (read slots) fun e => ∃ s ∈ slot :: slots, s.Blames E e :=
      ih.mono fun e ⟨s, hs, he⟩ => ⟨s, List.mem_cons_of_mem slot hs, he⟩
    have hfirst (k : κ) (name : String) (he : ∀ e, E k name e → slot.Blames E e) :
        Suffices (FieldKind.width k) (FieldKind.read k name)
          fun e => ∃ s ∈ slot :: slots, s.Blames E e :=
      (h k name).mono fun e hE => ⟨slot, List.mem_cons_self, he e hE⟩
    cases slot with
    | gap n => exact (suffices_skip n "reserved").andThen fun _ => hrest
    | field name k => exact (hfirst k name fun _ h => h).andThen fun v => hrest.giving (v, ·)
    | optional name k unset =>
      exact (hfirst k name fun _ h => h).andThen fun v => hrest.giving (v, ·)

theorem Scalar.suffices_read {E : Error → Prop} (s : Scalar) (name : String) :
    Suffices (FieldKind.width s) (FieldKind.read s name) E :=
  (suffices_word s.carrier name).giving s.ofWord

namespace LevelKind

theorem suffices_read {E : Error → Prop} (k : LevelKind) : Suffices 32 k.read E := by
  have hr :=
    (Row.suffices_read (E := fun _ _ _ => False) Scalar.suffices_read k.slots).giving k.ofRow
  rw [width_slots] at hr
  refine hr.mono fun e ⟨slot, _, he⟩ => ?_
  cases slot <;> exact he.elim

theorem suffices_readAll {E : Error → Prop} (k : LevelKind) (n : Nat) :
    Suffices (32 * n) (k.readAll n) E := by
  induction n with
  | zero => exact suffices_pure #v[]
  | succ n ih => exact ih.andThen fun us => k.suffices_read.giving us.push

end LevelKind

/-- Only a text can be refused. -/
def Field.Faulty : Field → String → Error → Prop
  | .text _, name, e => e.SpoilsText name
  | _, _, _ => False

theorem Field.suffices_read (f : Field) (name : String) :
    Suffices (FieldKind.width f) (FieldKind.read f name) (f.Faulty name) := by
  cases f with
  | scalar s => exact s.suffices_read name
  | text n => exact suffices_text n name
  | levels k n => exact k.suffices_readAll n

/-! ## Frames -/

/-- The slot is a text field of the given name. -/
def Slot.IsText (name : String) : Slot Field → Prop
  | .field n (.text _) => n = name
  | .optional n (.text _) _ => n = name
  | _ => False

theorem Slot.exists_isText {slot : Slot Field} {e : Error} (h : slot.Blames Field.Faulty e) :
    ∃ name, slot.IsText name ∧ e.SpoilsText name := by
  cases slot with
  | gap n => exact h.elim
  | field name f =>
    cases f with
    | text n => exact ⟨name, rfl, h⟩
    | _ => exact h.elim
  | optional name f unset =>
    cases f with
    | text n => exact ⟨name, rfl, h⟩
    | _ => exact h.elim

namespace Header

/-- A header can only be cut off. -/
theorem failsAs_read : FailsAs (fun e => e.category = .framing) read := by
  have hword (w : Word) :
      FailsAs (fun e => e.category = .framing) (Reader.word w "record header") := by
    refine FailsAs.bind (fun c c' e h => ?_) fun bs => failsAs_pure _
    by_cases hshort : c.rest.length < w.width
    · have htake : EStateM.run (Reader.take w.width "record header") c = _ :=
        Reader.take_short hshort "record header"
      rw [htake] at h
      injection h with h
      exact h ▸ rfl
    · exact ((suffices_take (E := fun _ => False) w.width _ c (Nat.le_of_not_lt hshort)).of_error
        h).elim
  refine (hword .u8).bind fun _ => (hword .u8).bind fun _ => (hword .u16).bind fun _ => ?_
  exact (hword .u32).bind fun _ => (hword .u64).bind fun _ => failsAs_pure _

theorem errsAs_decode (f : Bytes) : ErrsAs (fun e => e.category = .framing) (decode f) := by
  exact (errsAs_run failsAs_read f 0).bind fun h => ErrsAs.ite (errsAs_error rfl) (errsAs_ok h)

end Header

namespace Codec

variable {c : Codec} {h : Header} {body : Bytes}

/-- The lengths of a frame do not fit together. -/
inductive Misframed (c : Codec) (f : Bytes) : Prop where
  /-- There is no whole header. -/
  | short (hlen : f.length < 16)
  /-- The record has no room for its header. -/
  | noRoom {words : UInt8} (hwords : f[0]? = some words) (hsmall : words.toNat < 4)
  /-- The frame is not as long as it states. -/
  | stated {words : UInt8} (hwords : f[0]? = some words) (hne : 4 * words.toNat ≠ f.length)
  /-- The layout of the tag is not as long as the frame. -/
  | layout {tag : UInt8} {n : Nat} (htag : f[1]? = some tag) (hsize : c.expectedSize? tag = some n)
    (hne : f.length ≠ n)

/-- The failure is one of a text in the layout of the tag. -/
def SpoilsText (c : Codec) (tag : UInt8) (e : Error) : Prop :=
  ∃ k name, Kind.ofTag? tag = some k ∧ (∃ slot ∈ k.layout c.version, slot.IsText name) ∧
    e.SpoilsText name

theorem SpoilsText.category {tag : UInt8} {e : Error} (h : c.SpoilsText tag e) :
    e.category = .format := by
  obtain ⟨k, name, -, -, he⟩ := h
  exact he.category

theorem misframed_iff : c.Misframed (h.encode ++ body) ↔ ¬ c.Framed h body := by
  have hwords := h.getElem?_zero_encode_append body
  have htag := h.getElem?_one_encode_append body
  have hlen : (h.encode ++ body).length = Header.size + body.length := by
    rw [List.length_append, h.length_encode]
  constructor
  · intro hmis hf
    have hsize := hf.length_eq
    rw [Header.recordSize] at hsize
    rw [Header.size] at hlen
    cases hmis with
    | short hshort => omega
    | noRoom hwords' hsmall =>
      obtain rfl := Option.some.inj (hwords.symm.trans hwords')
      omega
    | stated hwords' hne =>
      obtain rfl := Option.some.inj (hwords.symm.trans hwords')
      omega
    | layout htag' hexpected hne =>
      obtain rfl := Option.some.inj (htag.symm.trans htag')
      obtain ⟨k, hk, rfl⟩ := Option.map_eq_some_iff.1 hexpected
      exact hne (hf.length_eq.trans (hf.layout k hk))
  · intro hf
    by_cases hsize : Header.size + body.length = h.recordSize
    · obtain ⟨k, hk, hne⟩ : ∃ k, Kind.ofTag? h.tag = some k ∧ h.recordSize ≠ c.size k := by
        by_contra hall
        refine hf ⟨hsize, fun k hk => ?_⟩
        by_contra hne
        exact hall ⟨k, hk, hne⟩
      refine .layout htag (n := c.size k) ?_ ?_
      · rw [expectedSize?, hk]
        rfl
      · rw [hlen, hsize]
        exact hne
    · refine .stated hwords ?_
      rw [hlen, Nat.mul_comm]
      exact fun heq => hsize heq.symm

theorem decodeBody_of_not_framed (hf : ¬ c.Framed h body) :
    ∃ expected got, c.decodeBody h body = .error (.recordLength h.tag expected got) := by
  simp only [decodeBody]
  by_cases hsize : body.length + Header.size = h.recordSize
  · rw [if_neg (fun hne => hne hsize)]
    split
    · rename_i htag
      refine absurd ⟨by omega, fun k hk => ?_⟩ hf
      rw [htag] at hk
      cases hk
    · rename_i k htag
      have hne : h.recordSize ≠ c.size k := fun heq => by
        refine hf ⟨by omega, fun k' hk' => ?_⟩
        rw [htag] at hk'
        injection hk' with hk'
        rw [← hk', heq]
      rw [if_pos hne]
      exact ⟨_, _, rfl⟩
  · rw [if_pos hsize]
    exact ⟨_, _, rfl⟩

/-- Behind a header whose lengths are right, nothing but a text is refused. -/
theorem decodeBody_of_framed (hf : c.Framed h body) :
    ErrsAs (c.SpoilsText h.tag) (c.decodeBody h body) := by
  cases htag : Kind.ofTag? h.tag with
  | none =>
    have hsize := hf.size
    simp only [decodeBody, htag]
    rw [if_neg (by omega)]
    exact errsAs_ok _
  | some k =>
    rw [decodeBody_of_tag hf htag]
    have hlen : Row.width (k.layout c.version) ≤ body.length := by
      have hsize := hf.size
      have hlayout := hf.layout k htag
      rw [size, Kind.size] at hlayout
      rw [Header.size] at hsize
      omega
    have hrow := (Row.suffices_read Field.suffices_read (k.layout c.version)).errsAs hlen
      Header.size
    refine ErrsAs.bind (fun e he => ?_) fun row => errsAs_ok _
    obtain ⟨slot, hslot, hblames⟩ := hrow he
    obtain ⟨name, hname, hspoils⟩ := slot.exists_isText hblames
    exact ⟨k, name, htag, ⟨slot, hslot, hname⟩, hspoils⟩

theorem decode_of_misframed {f : Bytes} (hmis : c.Misframed f) :
    ∃ e, c.decode f = .error e ∧ e.category = .framing := by
  cases hh : Header.decode f with
  | error e =>
    refine ⟨e, ?_, Header.errsAs_decode f hh⟩
    rw [decode, hh]
    rfl
  | ok h =>
    obtain ⟨body, rfl⟩ := Header.exists_of_decode hh
    have hd : c.decode (h.encode ++ body) = c.decodeBody h body := by
      rw [decode, hh]
      show c.decodeBody h ((h.encode ++ body).drop Header.size) = _
      rw [h.drop_encode_append]
    obtain ⟨expected, got, he⟩ := decodeBody_of_not_framed (misframed_iff.1 hmis)
    exact ⟨_, hd.trans he, rfl⟩

theorem decode_of_not_misframed {f : Bytes} (hmis : ¬ c.Misframed f) :
    ErrsAs (fun e => ∃ tag, f[1]? = some tag ∧ c.SpoilsText tag e) (c.decode f) := by
  have hlen : Header.size ≤ f.length := Nat.le_of_not_lt fun hshort => hmis (.short hshort)
  obtain ⟨h, body, rfl⟩ := Header.exists_encode hlen
  have hf : c.Framed h body := not_not.1 fun hne => hmis (misframed_iff.2 hne)
  rw [decode_encode_append hf.size_le]
  exact fun e he => ⟨h.tag, h.getElem?_one_encode_append body, decodeBody_of_framed hf he⟩

theorem decode_eq_framing_iff {f : Bytes} :
    (∃ e, c.decode f = .error e ∧ e.category = .framing) ↔ c.Misframed f := by
  refine ⟨fun ⟨e, he, hcategory⟩ => ?_, decode_of_misframed⟩
  by_contra hmis
  obtain ⟨tag, -, hspoils⟩ := decode_of_not_misframed hmis he
  rw [hspoils.category] at hcategory
  cases hcategory

theorem decodeBody_not_truncated (context : String) (offset expected got : Nat) :
    c.decodeBody h body ≠ .error (.truncated context offset expected got) := by
  intro he
  by_cases hf : c.Framed h body
  · have hcategory := (decodeBody_of_framed hf he).category
    cases hcategory
  · obtain ⟨_, _, he'⟩ := decodeBody_of_not_framed hf
    rw [he'] at he
    cases he

/-- A known record that has a frame has one of the size that its header and its tag state. -/
theorem length_of_encodeAt {k : Kind} {b : k.Body} {t : UInt64} {bs : Bytes}
    (hbs : c.encodeAt (.known h k b) t = .ok bs) :
    bs.length = h.recordSize ∧ c.expectedSize? h.tag = some bs.length := by
  obtain ⟨htag, hsize, row, hrow, rfl⟩ := encodeAt_eq_ok.1 hbs
  have hlen := (framed_append_trailer htag hsize hrow t).length_eq
  rw [hlen, expectedSize?, htag, hsize]
  exact ⟨rfl, rfl⟩

end Codec

/-! ## Scanners -/

namespace FrameScanner

variable {s t : FrameScanner} {m : Metadata} {h : Header} {body : Bytes} {source : Source}

theorem Advanced.decodeCurrent (ha : s.Advanced t m h body) :
    t.decodeCurrent = m.codec.decodeBody h body := by
  have hbytes := ha.bytes
  rw [currentBytes, currentSize, ha.header] at hbytes
  have hbytes : t.scratch.take h.recordSize = h.encode ++ body := hbytes
  rw [FrameScanner.decodeCurrent, ha.header, ha.opened.codec]
  show m.codec.decodeBody h ((t.scratch.take h.recordSize).drop Header.size) = _
  rw [hbytes, h.drop_encode_append]

/-- An advance that gives a frame takes one off the source, wherever the scanner stands. -/
theorem Stands.exists_advanced (hs : s.Stands source)
    (hr : EStateM.run nextFrame s = .ok true t) :
    ∃ u m h body, Advanced u t m h body := by
  obtain rfl | ⟨m?, hpast⟩ := hs
  · cases hread : EStateM.run Metadata.read source with
    | error e u =>
      rw [nextFrame_fresh_error rfl (readHead_error (s := ofSource source) rfl hread)] at hr
      cases hr
    | ok head u =>
      have hrun := readHead_ok (s := ofSource source) rfl hread
      rw [nextFrame_fresh rfl rfl hrun] at hr
      exact ⟨_, _, nextFrame_eq_true ⟨rfl, rfl, Bytes.length_zeros capacity⟩ hr⟩
  · cases hpast with
    | opened hm h => exact ⟨s, _, nextFrame_eq_true h hr⟩
    | ended _ hphase =>
      rw [run_nextFrame_finished hphase] at hr
      cases hr
    | failed hphase =>
      rw [run_nextFrame_failed hphase] at hr
      cases hr

/-- A frame that has been taken is past all checks of lengths. -/
theorem Advanced.errsAs_decodeCurrent (ha : s.Advanced t m h body) :
    ErrsAs (fun e => e.category = .format) t.decodeCurrent := by
  rw [ha.decodeCurrent]
  exact fun e he => (Codec.decodeBody_of_framed ha.framed he).category

end FrameScanner

namespace Codec

open FrameScanner Scan

/-- A frame is refused for its lengths exactly when they do not fit together; of the others none is
refused but for a text.  So no read behind a header runs out of bytes, and none of this is left
for a scanner that has its frame.  What is written for a record has just the length that is
checked. -/
theorem framing_exact :
    (∀ (c : Codec) (f : Bytes),
      ((∃ e, c.decode f = .error e ∧ e.category = .framing) ↔ c.Misframed f) ∧
      (¬ c.Misframed f → (∃ r, c.decode f = .ok r) ∨
        ∃ tag e, f[1]? = some tag ∧ c.decode f = .error e ∧ c.SpoilsText tag e)) ∧
    (∀ (c : Codec) (h : Header) (body : Bytes) (context : String) (offset expected got : Nat),
      c.decodeBody h body ≠ .error (.truncated context offset expected got)) ∧
    (∀ (source : Source) (ops : List Operation) (t : FrameScanner),
      EStateM.run nextFrame (after answer ops (ofSource source)) = .ok true t →
        ∀ e, t.decodeCurrent = .error e → e.category ≠ .framing) ∧
    (∀ (c : Codec) (h : Header) (k : Kind) (b : k.Body) (bs : Bytes),
      (c.encode (.known h k b) = .ok bs ∨ ∃ t, c.encodeWithTsOut (.known h k b) t = .ok bs) →
        bs.length = h.recordSize ∧ c.expectedSize? h.tag = some bs.length) := by
  refine ⟨fun c f => ⟨decode_eq_framing_iff, fun hmis => ?_⟩,
    fun c h body => decodeBody_not_truncated, fun source ops t hr e he hcategory => ?_, ?_⟩
  · cases hd : c.decode f with
    | ok r => exact .inl ⟨r, rfl⟩
    | error e =>
      obtain ⟨tag, htag, hspoils⟩ := decode_of_not_misframed hmis hd
      exact .inr ⟨tag, e, htag, rfl, hspoils⟩
  · have hs := ((lawful_stands source).run (.inl rfl) ops).1
    obtain ⟨u, m, h, body, ha⟩ := hs.exists_advanced hr
    rw [ha.errsAs_decodeCurrent he] at hcategory
    cases hcategory
  · rintro c h k b bs (hbs | ⟨t, hbs⟩)
    · exact length_of_encodeAt hbs
    · rw [encodeWithTsOut] at hbs
      split at hbs
      · exact length_of_encodeAt hbs
      · cases hbs

/-- A message with a byte behind the end of its text, in memory and as the first frame of a stream,
and a bar that is written. -/
theorem framing_exact_message :
    let m : Metadata := ⟨.v1, "XNAS.ITCH", none, 0, 0, 0, some .rawSymbol, .instrumentId, false,
      [], [], [], []⟩
    let h : Header := ⟨20, Tag.error, 1, 0, 7⟩
    let body : Bytes := [0x41, 0, 0x42] ++ Bytes.zeros 61
    let source := Source.ofBytes (m.encode.toOption.getD [] ++ (h.encode ++ (body ++ [])))
    let bar : Record := .known ⟨14, Tag.ohlcv1m, 2, 10888, 60⟩ .ohlcv ⟨⟨5⟩, ⟨9⟩, ⟨4⟩, ⟨7⟩, 200⟩
    ¬ m.codec.Misframed (h.encode ++ body) ∧
      m.codec.decode (h.encode ++ body) = .error (.badPadding "err" 18) ∧
      m.codec.SpoilsText Tag.error (.badPadding "err" 18) ∧
      (∃ t, EStateM.run nextFrame (ofSource source) = .ok true t ∧
        ∀ e, t.decodeCurrent = .error e → e.category ≠ .framing) ∧
      ∃ bs, m.codec.encode bar = .ok bs ∧ bs.length = 56 := by
  intro m h body source bar
  obtain ⟨hframes, -, hscanner, hencode⟩ := framing_exact
  have hdecode : m.codec.decode (h.encode ++ body) = .error (.badPadding "err" 18) := rfl
  have hmis : ¬ m.codec.Misframed (h.encode ++ body) := fun hmis => by
    obtain ⟨e, he, hcategory⟩ := (hframes m.codec (h.encode ++ body)).1.2 hmis
    rw [hdecode] at he
    injection he with he
    subst he
    cases hcategory
  have hspoils : m.codec.SpoilsText Tag.error (.badPadding "err" 18) := by
    obtain ⟨r, hr⟩ | ⟨tag, e, htag, he, hspoils⟩ := (hframes m.codec (h.encode ++ body)).2 hmis
    · rw [hdecode] at hr
      cases hr
    · injection htag with htag
      rw [hdecode] at he
      injection he with he
      subst htag he
      exact hspoils
  have hm : m.EncodesTo (m.encode.toOption.getD []) := ⟨by decide +kernel, by decide +kernel⟩
  obtain ⟨u, hu, hrest⟩ := Metadata.read_of_encodesTo hm (by decide)
    (Source.delivers_ofBytes (m.encode.toOption.getD [] ++ (h.encode ++ (body ++ []))))
  obtain ⟨s, hstreams, -, -, -, hnext⟩ := opens hu hrest
  obtain ⟨t, ht, -⟩ := nextFrame_framed (not_not.1 fun hf => hmis (misframed_iff.2 hf)) hstreams
  have hbar : m.codec.encode bar = .ok ((m.codec.encode bar).toOption.getD []) := by
    decide +kernel
  obtain ⟨hlen, -⟩ := hencode _ _ _ _ _ (.inl hbar)
  exact ⟨hmis, hdecode, hspoils, ⟨t, hnext.trans ht, hscanner source [] t (hnext.trans ht)⟩, _,
    hbar, hlen⟩

end Codec
end TickStream
