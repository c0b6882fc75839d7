import Mathlib.Control.Monad.Basic
import TickStream.Proofs.Metadata.Places
import TickStream.Proofs.Record.Framing
/-
Offsets in the errors of decoders.  Main statement: whatever the bytes are that a decoder of
metadata or of records refuses, the offset in its error is where the failure is: at a byte that is
not zero behind the zero that ends a text, at the start of a text that is not UTF-8, at a number
that stands for nothing, or where bytes begin to be missing.
-/
namespace TickStream

open Step Reader Region

/-! ## Fields of layouts -/

section
variable {κ : Type} [FieldKind κ]

/-- Where a field stands in a layout that begins at a position. -/
inductive Row.FieldAt (name : String) (kind : κ) : List (Slot κ) → Nat → Nat → Prop where
  | field {slots : List (Slot κ)} {p : Nat} : FieldAt name kind (.field name kind :: slots) p p
  | optional {slots : List (Slot κ)} {p : Nat} {unset : FieldKind.Val kind} :
    FieldAt name kind (.optional name kind unset :: slots) p p
  | later {slot : Slot κ} {slots : List (Slot κ)} {p q : Nat}
      (h : FieldAt name kind slots (p + slot.width) q) : FieldAt name kind (slot :: slots) p q

variable {P : Region} {p : Nat}

/-- A layout is read if its fields are, each where it stands. -/
theorem Row.reaches_read {slots : List (Slot κ)}
    (h : ∀ name kind q, FieldAt name kind slots p q →
      P.Reaches q (q + FieldKind.width kind) (FieldKind.read kind name) fun _ => True) :
    P.Reaches p (p + width slots) (read slots) fun _ => True := by
  induction slots generalizing p with
  | nil => exact reaches_pure trivial
  | cons slot slots ih =>
    have hrest := ih fun name kind q hq => h name kind q (.later hq)
    rw [width, ← Nat.add_assoc]
    cases slot with
    | gap n => exact (P.reaches_skip p n "reserved").bind fun _ _ => hrest
    | field name kind =>
      exact (h name kind p .field).bind fun v _ => hrest.giving fun _ _ => trivial
    | optional name kind unset =>
      exact (h name kind p .optional).bind fun v _ => hrest.giving fun _ _ => trivial

end

section
variable {P : Region} {p : Nat}

theorem Scalar.reaches_read (P : Region) (p : Nat) (s : Scalar) (name : String) :
    P.Reaches p (p + FieldKind.width s) (FieldKind.read s name) fun _ => True :=
  (P.reaches_word p s.carrier name).giving fun _ _ => trivial

namespace LevelKind

theorem reaches_read (P : Region) (p : Nat) (k : LevelKind) :
    P.Reaches p (p + 32) k.read fun _ => True := by
  rw [← width_slots k]
  refine (Row.reaches_read fun name s q _ => ?_).giving fun _ _ => trivial
  exact s.reaches_read P q name

theorem reaches_readAll (P : Region) (p : Nat) (k : LevelKind) (n : Nat) :
    P.Reaches p (p + 32 * n) (k.readAll n) fun _ => True := by
  induction n with
  | zero => exact reaches_pure trivial
  | succ n ih =>
    refine ih.bind fun front _ => ?_
    exact (k.reaches_read P (p + 32 * n)).giving fun _ _ => trivial

end LevelKind

/-- Of the fields of a record only the texts can be refused for what they hold. -/
theorem Field.reaches_read {f : Field} {name : String}
    (h : ∀ width, f = .text width → P.text name p width) :
    P.Reaches p (p + FieldKind.width f) (FieldKind.read f name) fun _ => True := by
  cases f with
  | scalar s => exact s.reaches_read P p name
  | text width => exact reaches_text (h width rfl)
  | levels k n => exact k.reaches_readAll P p n

theorem Header.reaches_read (P : Region) : P.Reaches 0 size read fun _ => True := by
  refine (P.reaches_word 0 .u8 "record header").bind fun length _ => ?_
  refine (P.reaches_word 1 .u8 "record header").bind fun tag _ => ?_
  refine (P.reaches_word 2 .u16 "record header").bind fun publisherId _ => ?_
  refine (P.reaches_word 4 .u32 "record header").bind fun instrumentId _ => ?_
  exact (P.reaches_word 8 .u64 "record header").giving fun _ _ => trivial

end

/-! ## Records -/

namespace Codec

variable {c : Codec} {f : Bytes} {e : Error}

/-- What is read of a frame: all of it.  The second byte is the tag, and tells the layout.  The
numbers of a record are taken as they are, whatever they stand for. -/
def region (c : Codec) (f : Bytes) : Region where
  bytes := f
  stop := f.length
  stop_le := Nat.le_refl _
  text field start width := ∃ tag k, f[1]? = some tag ∧ Kind.ofTag? tag = some k ∧
    Row.FieldAt field (.text width) (k.layout c.version) Header.size start
  code _ _ _ := False

theorem errsAs_header (c : Codec) (f : Bytes) :
    ErrsAs (c.region f).Truthful (Header.decode f) := by
  have hread : ErrsAs (c.region f).Truthful (Reader.run Header.read f 0) := fun e he =>
    (Header.reaches_read (c.region f)).truthful (Nat.zero_le _) List.take_length he
  refine hread.bind fun h => ErrsAs.ite ?_ (errsAs_ok h)
  exact ErrsAs.bind (errsAs_error trivial) fun _ => errsAs_ok h

/-- Sizes are settled before any field is read, and what is wrong with them has no offset. -/
theorem errsAs_body (c : Codec) (h : Header) (body : Bytes) :
    ErrsAs (c.region (h.encode ++ body)).Truthful (c.decodeBody h body) := by
  rw [decodeBody]
  refine ErrsAs.ite (errsAs_error trivial) ?_
  split
  · exact errsAs_ok _
  · rename_i k hk
    refine ErrsAs.ite (errsAs_error trivial) (ErrsAs.bind (fun e he => ?_) fun row => errsAs_ok _)
    have hrow : (c.region (h.encode ++ body)).Reaches Header.size
        (Header.size + Row.width (k.layout c.version)) (Row.read (k.layout c.version))
        fun _ => True := by
      refine Row.reaches_read fun name kind q hq => Field.reaches_read fun width hwidth => ?_
      subst hwidth
      exact ⟨h.tag, k, h.getElem?_one_encode_append body, hk, hq⟩
    refine hrow.truthful ?_ ?_ he
    · show Header.size ≤ (h.encode ++ body).length
      rw [List.length_append, h.length_encode]
      exact Nat.le_add_right ..
    · show ((h.encode ++ body).take (h.encode ++ body).length).drop Header.size = body
      rw [List.take_length, h.drop_encode_append]

/-- Whatever a decoder says of bytes that are no frame is said truly. -/
theorem truthful_of_decode (he : c.decode f = .error e) : (c.region f).Truthful e := by
  rw [decode] at he
  cases hd : Header.decode f with
  | error e' =>
    rw [hd] at he
    injection he with he
    exact he ▸ c.errsAs_header f hd
  | ok h =>
    obtain ⟨body, rfl⟩ := Header.exists_of_decode hd
    rw [hd] at he
    replace he : c.decodeBody h ((h.encode ++ body).drop Header.size) = .error e := he
    rw [h.drop_encode_append] at he
    exact c.errsAs_body h body he

end Codec

/-- The offsets in the errors of both decoders are where the failures are, and none is behind the
end of the input. -/
theorem offsets_truthful :
    (∀ (b : Bytes) (e : Error), Metadata.decode b = .error e →
      (Metadata.region b).Truthful e ∧ ∀ offset, e.offset? = some offset → offset ≤ b.length) ∧
    (∀ (c : Codec) (f : Bytes) (e : Error), c.decode f = .error e →
      (c.region f).Truthful e ∧ ∀ offset, e.offset? = some offset → offset ≤ f.length) := by
  constructor
  · intro b e h
    have htrue := Metadata.truthful_of_decode h
    exact ⟨htrue, fun offset ho => Nat.le_trans (htrue.offset_le ho) (Nat.min_le_left ..)⟩
  · intro c f e h
    have htrue := Codec.truthful_of_decode h
    exact ⟨htrue, fun offset ho => htrue.offset_le ho⟩

/-- A frame with two intervals, the second of which has a letter behind a zero; the same frame,
cut off; and a message that is no UTF-8. -/
theorem offsets_truthful_interval :
    let b : Bytes := Metadata.front .v1 206 ++ (Bytes.ofString "XNAS.ITCH" ++ Bytes.zeros 107 ++
      [1, 0, 0, 0, 0x41] ++ Bytes.zeros 21 ++ [2, 0, 0, 0] ++ Bytes.zeros 38 ++
      [0x42, 0, 0, 0x43] ++ Bytes.zeros 18 ++ [7])
    let f : Bytes := Header.encode ⟨20, Tag.system, 1, 5482, 7⟩ ++ (0xff :: Bytes.zeros 63)
    (Metadata.decode b = .error (.badPadding "mapping symbol" 195) ∧
      (Metadata.region b).Truthful (.badPadding "mapping symbol" 195)) ∧
    (Metadata.decode (b.take 200) = .error (.truncated "metadata body" 8 206 192) ∧
      (Metadata.region (b.take 200)).Truthful (.truncated "metadata body" 8 206 192)) ∧
    (Codec.decode ⟨.v1, false⟩ f = .error (.badUtf8 "msg" 16) ∧
      (Codec.region ⟨.v1, false⟩ f).Truthful (.badUtf8 "msg" 16)) := by
  intro b f
  obtain ⟨hmetadata, hrecord⟩ := offsets_truthful
  have hspoilt : Metadata.decode b = .error (.badPadding "mapping symbol" 195) := by decide +kernel
  have hcut : Metadata.decode (b.take 200) = .error (.truncated "metadata body" 8 206 192) := by
    decide +kernel
  have hmessage : Codec.decode ⟨.v1, false⟩ f = .error (.badUtf8 "msg" 16) := by decide +kernel
  exact ⟨⟨hspoilt, (hmetadata b _ hspoilt).1⟩, ⟨hcut, (hmetadata _ _ hcut).1⟩, hmessage,
    (hrecord _ f _ hmessage).1⟩

end TickStream
