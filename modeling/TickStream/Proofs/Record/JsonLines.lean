import TickStream.Print
import TickStream.Proofs.Json.Values
import TickStream.Proofs.Record.Renders
import TickStream.Proofs.Record.RoundTrip
/-
Records on lines of JSON.  Main statement: from every line that renders a record, the record is
read that its frame decodes to, and the line that it is printed on is one of them.
-/
namespace TickStream

open Json Step

/-! ## Headers -/

namespace Header

/-- The members render the header: its fields in any order, with no length or with any. -/
def Renders (h : Header) (ms : List (String × Json)) : Prop :=
  Distinct ms ∧ ∃ n : UInt8, Row.Renders slots (toRow { h with length := n }) ms

theorem nodup_names : (Row.names slots).Nodup := by decide

theorem renders_toMembers (h : Header) : h.Renders (Row.toMembers slots h.toRow) := by
  refine ⟨?_, h.length, Row.renders_toMembers fun _ hm => hm⟩
  rw [Distinct, Row.map_fst_toMembers]
  exact nodup_names

theorem ofJson_of_renders {h : Header} {ms : List (String × Json)} (hr : h.Renders ms) :
    ∃ n : UInt8, ofJson (object ms).sorted = .ok { h with length := n } := by
  obtain ⟨hd, n, hrow⟩ := hr
  refine ⟨n, ?_⟩
  show (Row.ofObject slots (sortMembers (sortedMembers ms))).map ofRow = _
  rw [Row.ofObject_of_renders hd hrow]
  rfl

theorem integral_toJson (h : Header) : h.toJson.Integral :=
  Row.integral_toMembers Scalar.integral_toJson slots h.toRow

theorem depth_toJson (h : Header) : h.toJson.depth ≤ 1 := by
  have hrow := Row.depth_toMembers (fun s v => Nat.le_of_eq (Scalar.depth_toJson s v)) slots
    h.toRow
  exact Nat.succ_le_succ hrow

end Header

/-! ## Records -/

namespace Record

/-- The members render the record: its header under a key of its own, and the fields of its
body.  They may stand in any order and among others, but none of their keys twice. -/
def Renders : Record → List (String × Json) → Prop
  | known h k b, ms =>
    Distinct ms ∧ (∃ hd, ("hd", .object hd) ∈ ms ∧ h.Renders hd) ∧
      Row.Renders (k.layout .v2) (k.toRow .v2 b) ms
  | unrecognized _ _, _ => False

/-- The line is an object that renders the record, in any of its texts. -/
def WrittenOn (r : Record) (line : String) : Prop :=
  ∃ ms, Spells (.spaced (.object ms)) line.toList ∧ (Json.object ms).depth < depthLimit ∧
    r.Renders ms

theorem nodup_names (k : Kind) : ("hd" :: Row.names (k.layout .v2)).Nodup := by
  cases k <;> decide +kernel

theorem renders_toJson (h : Header) (k : Kind) (b : k.Body) :
    (known h k b).Renders
      (("hd", h.toJson) :: Row.toMembers (k.layout .v2) (k.toRow .v2 b)) := by
  refine ⟨?_, ⟨_, List.mem_cons_self, h.renders_toMembers⟩, ?_⟩
  · rw [Distinct, List.map_cons, Row.map_fst_toMembers]
    exact nodup_names k
  · exact Row.renders_toMembers fun _ hm => List.mem_cons_of_mem _ hm

theorem integral_toJson (h : Header) (k : Kind) (b : k.Body) :
    (known h k b).toJson.Integral :=
  ⟨h.integral_toJson, Row.integral_toMembers Field.integral_toJson (k.layout .v2) (k.toRow .v2 b)⟩

theorem depth_toJson (h : Header) (k : Kind) (b : k.Body) : (known h k b).toJson.depth ≤ 3 := by
  have hhead := h.depth_toJson
  have hbody := Row.depth_toMembers Field.depth_toJson (k.layout .v2) (k.toRow .v2 b)
  exact Nat.succ_le_succ (Nat.max_le.2 ⟨by omega, hbody⟩)

/-- A record is written on the line that it is printed on. -/
theorem writtenOn_compact (h : Header) (k : Kind) (b : k.Body) :
    (known h k b).WrittenOn (known h k b).toJson.compact := by
  have hdepth := depth_toJson h k b
  refine ⟨_, spells_compact (integral_toJson h k b), ?_, renders_toJson h k b⟩
  show (known h k b).toJson.depth < 128
  omega

theorem bodyOfMembers_of_renders {k : Kind} {b : k.Body} {ms : List (String × Json)}
    (hd : Distinct ms) (h : Row.Renders (k.layout .v2) (k.toRow .v2 b) ms) :
    bodyOfMembers k (sortMembers (sortedMembers ms)) = .ok b := by
  rw [bodyOfMembers, Row.ofObject_of_renders hd h]
  show Except.ok (k.ofRow .v2 (k.toRow .v2 b)) = _
  rw [k.ofRow_toRow_v2]

end Record

/-! ## Lines and frames -/

namespace Codec

/-- From members that render a record the record is read, if its header states the length that
its kind has in the stream. -/
theorem recordOfJson_of_renders {c : Codec} {h : Header} {k : Kind} {b : k.Body}
    {ms : List (String × Json)} (htag : Kind.ofTag? h.tag = some k) (hlen : h.length = c.words k)
    (hr : (Record.known h k b).Renders ms) (line : String) :
    c.recordOfJson line (object ms).sorted = .ok (.known h k b) := by
  obtain ⟨hd, ⟨hms, hmem, hheader⟩, hbody⟩ := hr
  obtain ⟨n, hread⟩ := Header.ofJson_of_renders hheader
  have hlookup : (object ms).sorted.member? "hd" = some (object hms).sorted := lookup_sorted hd hmem
  rw [recordOfJson, hlookup]
  refine bind_eq_ok.2 ⟨_, rfl, bind_eq_ok.2 ⟨_, hread, ?_⟩⟩
  have htag' : Kind.ofTag? { h with length := n }.tag = some k := htag
  rw [htag']
  refine bind_eq_ok.2 ⟨b, Record.bodyOfMembers_of_renders hd hbody, ?_⟩
  show Except.ok (Record.known { h with length := c.words k } k b) = _
  rw [← hlen]

theorem decodeJson_of_writtenOn {c : Codec} {h : Header} {k : Kind} {b : k.Body} {line : String}
    (htag : Kind.ofTag? h.tag = some k) (hlen : h.length = c.words k)
    (hw : (Record.known h k b).WrittenOn line) : c.decodeJson line = .ok (.known h k b) := by
  obtain ⟨ms, hspells, hdepth, hr⟩ := hw
  have hread : (Json.parse line).bind (c.recordOfJson line) = .ok (.known h k b) :=
    bind_eq_ok.2 ⟨_, parse_of_spells hspells hdepth, recordOfJson_of_renders htag hlen hr line⟩
  rw [decodeJson, hread]

/-- The header of a record that was decoded states the length of its kind. -/
theorem length_eq_words {c : Codec} {h : Header} {k : Kind} {body : Bytes} (hf : c.Framed h body)
    (htag : Kind.ofTag? h.tag = some k) : h.length = c.words k := by
  have hsize : h.length.toNat * 4 = c.size k := hf.layout k htag
  rw [words, ← hsize, Nat.mul_div_cancel _ (by omega), UInt8.ofNat_toNat]

theorem exists_body_of_decodeBody {c : Codec} {h : Header} {k : Kind} {body : Bytes} {r : Record}
    (hf : c.Framed h body) (htag : Kind.ofTag? h.tag = some k)
    (hd : c.decodeBody h body = .ok r) : ∃ b, r = .known h k b := by
  rw [decodeBody_of_tag hf htag] at hd
  obtain ⟨row, -, hr⟩ := bind_eq_ok.1 hd
  injection hr with hr
  exact ⟨_, hr.symm⟩

/-- A record that a frame decodes to is read from all its lines, and printed on one of them. -/
theorem json_agrees {c : Codec} {f : Bytes} {tag : UInt8} {k : Kind} {r : Record}
    (ht : f[1]? = some tag) (hk : Kind.ofTag? tag = some k) (hd : c.decode f = .ok r) :
    (∀ line, r.WrittenOn line → c.decodeJson line = .ok r) ∧
      r.WrittenOn r.toJson.compact ∧ Print.recordLine? r = some (r.toJson.compact ++ "\n") := by
  obtain ⟨body, rfl, hf, hbody⟩ := exists_of_decode hd
  have htag : Kind.ofTag? r.header.tag = some k := by
    obtain ⟨tail, htail⟩ := r.header.encode_eq_cons
    rw [htail] at ht
    injection ht with ht
    rw [ht, hk]
  have hlen := length_eq_words hf htag
  obtain ⟨b, hr⟩ := exists_body_of_decodeBody hf htag hbody
  generalize r.header = h at hr htag hlen
  subst hr
  exact ⟨fun line hw => decodeJson_of_writtenOn htag hlen hw, Record.writtenOn_compact h k b, rfl⟩

/-- A trade from a stream with send times, on a line of another order and other forms. -/
theorem json_agrees_trade :
    let c : Codec := ⟨.v1, true⟩
    let h : Header := ⟨14, Tag.mbp0, 1, 5482, 1609160400000429831⟩
    let b : Trade :=
      ⟨⟨3720500000000⟩, 1, 0x54, 0x42, 128, 0, 1609160400000711344, -17214, 1170362⟩
    let hd : List (String × Json) := [("ts_event", .string "1609160400000429831"),
      ("rtype", .ofNat 0), ("instrument_id", .ofNat 5482), ("publisher_id", .ofNat 1)]
    let ms : List (String × Json) := [("sequence", .ofNat 1170362), ("action", .string "T"),
      ("ts_recv", .string "1609160400000711344"), ("price", .string "3720.500000000"),
      ("note", .array [.null, .object hd]), ("side", .ofNat 66), ("flags", .ofNat 128),
      ("hd", .object hd), ("depth", .ofNat 0), ("ts_in_delta", .ofInt (-17214)), ("size", .ofNat 1)]
    ∃ f, c.encode (.known h .trade b) = .ok f ∧ c.decode f = .ok (.known h .trade b) ∧
      c.decodeJson (Json.object ms).compact = .ok (.known h .trade b) := by
  intro c h b hd ms
  have hholds : c.Holds h .trade b := ⟨by decide, by decide, by decide⟩
  obtain ⟨f, hf⟩ := (c.encodeAt_isOk h .trade b Timestamp.undefined).2 hholds
  have hdecode : c.decode f = .ok (.known h .trade b) := decode_of_encodeAt hf ⟨by decide, trivial⟩
  have htag : f[1]? = some Tag.mbp0 := by
    obtain ⟨-, -, row, -, rfl⟩ := encodeAt_eq_ok.1 hf
    rfl
  have found {ms : List (String × Json)} {name : String} {j : Json} {P : Json → Prop} (i : Nat)
      (hj : ms[i]? = some (name, j)) (hp : P j) : ∃ j, (name, j) ∈ ms ∧ P j :=
    ⟨j, List.mem_of_getElem? hj, hp⟩
  have hheader : h.Renders hd := by
    refine ⟨by decide, 0, .inr ⟨rfl, by simp [hd]⟩, found 1 rfl rfl, found 3 rfl rfl,
      found 2 rfl rfl, found 0 rfl (.inr (congrArg Json.string ?_)), trivial⟩
    decide +kernel
  have hbody : Row.Renders (Kind.layout .trade .v2) (Kind.toRow .trade .v2 b) ms := by
    refine ⟨found 3 rfl (.inr (.inr ⟨by decide, congrArg Json.string ?_⟩)), found 10 rfl rfl,
      found 1 rfl (.inl rfl), found 5 rfl (.inr (.inl rfl)), found 6 rfl rfl, found 8 rfl rfl,
      found 2 rfl (.inr (congrArg Json.string ?_)), found 9 rfl rfl, found 0 rfl rfl, trivial⟩
    · decide +kernel
    · decide +kernel
  have hhd : (Json.object hd).Integral := ⟨trivial, trivial, trivial, trivial, trivial⟩
  have hms : (Json.object ms).Integral :=
    ⟨trivial, trivial, trivial, trivial, ⟨trivial, hhd, trivial⟩, trivial, trivial, hhd, trivial,
      integral_ofInt (by decide) (by decide), trivial, trivial⟩
  have hmem : ("hd", Json.object hd) ∈ ms := List.mem_of_getElem? (i := 7) rfl
  have hwritten : (Record.known h .trade b).WrittenOn (Json.object ms).compact :=
    ⟨ms, spells_compact hms, by decide, by decide, ⟨hd, hmem, hheader⟩, hbody⟩
  exact ⟨f, hf, hdecode, (json_agrees htag rfl hdecode).1 _ hwritten⟩

end Codec
end TickStream
