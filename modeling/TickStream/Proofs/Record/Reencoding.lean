import Mathlib.Control.Monad.Basic
import TickStream.Proofs.Record.Roles
import TickStream.Proofs.Record.RoundTrip
/-
Frames that are decoded and written again.  Main statement: the frame of an unknown record comes
out as it was; that of a known one with its reserved bytes zero and its truth value 0 or 1, and
otherwise as it was, unless a text fills its field.  So a record keeps all that its frame says,
but for these bytes and the send time.
-/
namespace TickStream

open Step Reader

namespace Kind

variable {k : Kind} {v : Version}

/-- What the bytes of a record are for, up to the send time. -/
def roles (k : Kind) (v : Version) : List Role :=
  List.replicate Header.size .kept ++ Row.roles (k.layout v)

theorem length_roles (k : Kind) (v : Version) : (k.roles v).length = k.size v := by
  rw [roles, List.length_append, List.length_replicate, Row.length_roles]
  rfl

/-- Only one kind has a truth value, and only in the second version. -/
theorem roles_eq_flag_iff {i : Nat} :
    (k.roles v)[i]? = some .flag ↔ k = .error ∧ v = .v2 ∧ i = 319 := by
  by_cases hk : k = .error ∧ v = .v2
  · obtain ⟨rfl, rfl⟩ := hk
    have hroles : Kind.error.roles .v2 = List.replicate 319 .kept ++ [.flag] := by decide +kernel
    rw [hroles, List.getElem?_append, List.length_replicate, List.getElem?_replicate]
    split
    · simp only [Option.some.injEq, reduceCtorEq, true_and, false_iff]
      omega
    · rw [List.getElem?_singleton]
      split
      · simp only [true_and, true_iff]
        omega
      · simp only [reduceCtorEq, true_and, false_iff]
        omega
  · have hnot : Role.flag ∉ k.roles v := by
      revert hk
      cases k <;> cases v <;> decide +kernel
    constructor
    · exact fun h => absurd (List.mem_of_getElem? h) hnot
    · exact fun h => absurd ⟨h.1, h.2.1⟩ hk

/-- A frame with its reserved bytes zero and its truth values 0 or 1. -/
def normal (k : Kind) (v : Version) (f : Bytes) : Bytes :=
  Role.settleAll (k.roles v) f ++ f.drop (k.size v)

/-- Every text of a frame has a zero in its field. -/
def TextsEnd (k : Kind) (v : Version) (f : Bytes) : Prop :=
  Row.TextsEnd (k.layout v) ((f.drop Header.size).take (Row.width (k.layout v)))

instance (k : Kind) (v : Version) (f : Bytes) : Decidable (k.TextsEnd v f) :=
  inferInstanceAs (Decidable (Row.TextsEnd _ _))

end Kind

namespace Codec

variable {c : Codec} {f g : Bytes} {h h' : Header} {k : Kind} {r r' : Record}

/-- The parts of a frame of known tag: its header, its fields, which read as `row`, and its send
time. -/
structure Parts (c : Codec) (f : Bytes) (h : Header) (k : Kind) (row : Row (k.layout c.version))
    (fields sent : Bytes) : Prop where
  frame : f = h.encode ++ (fields ++ sent)
  tag : Kind.ofTag? h.tag = some k
  stated : h.recordSize = c.size k
  length_fields : fields.length = Row.width (k.layout c.version)
  length_sent : sent.length = if c.tsOut then tsOutSize else 0
  takes : Takes (Row.read (k.layout c.version)) (Row.image (k.layout c.version) row) row
  image : Role.settleAll (Row.roles (k.layout c.version)) fields =
    Row.image (k.layout c.version) row
  fits : Row.TextsEnd (k.layout c.version) fields →
    Row.Forall LawfulFieldKind.Fits (k.layout c.version) row

theorem exists_parts (hd : c.decode f = .ok r) (htag : Kind.ofTag? r.header.tag = some k) :
    ∃ row fields sent, r = .known r.header k (k.ofRow c.version row) ∧
      c.Parts f r.header k row fields sent := by
  obtain ⟨body, hbody, hframed, hd⟩ := exists_of_decode hd
  have hstated := hframed.layout k htag
  rw [decodeBody_of_tag hframed htag] at hd
  obtain ⟨row, hread, hr⟩ := bind_eq_ok.1 hd
  injection hr with hr
  obtain ⟨c', hrun⟩ := run_eq_ok.1 hread
  obtain ⟨fields, hfields, hrest, htakes, himage, hfits⟩ :=
    Row.settles_read (k.layout c.version) hrun
  rw [Row.length_roles] at hfields
  have hbody' : body = fields ++ c'.rest := hrest
  refine ⟨row, fields, c'.rest, hr.symm, hbody' ▸ hbody, htag, hstated, hfields, ?_,
    himage ▸ htakes, himage, hfits⟩
  have hsize := hframed.size
  rw [hbody', List.length_append, hstated, size, Kind.size, hfields, Header.size] at hsize
  omega

section
variable {row : Row (k.layout c.version)} {fields sent : Bytes}

/-- Up to the send time a frame is settled into its header and what is written for its fields. -/
theorem Parts.settleAll (hp : c.Parts f h k row fields sent) :
    Role.settleAll (k.roles c.version) f = h.encode ++ Row.image (k.layout c.version) row := by
  rw [hp.frame, Kind.roles, Role.settleAll_append (by rw [h.length_encode, List.length_replicate]),
    Role.settleAll_kept h.length_encode,
    Role.settleAll_front sent (by rw [Row.length_roles, hp.length_fields]), hp.image]

theorem Parts.normal (hp : c.Parts f h k row fields sent) :
    k.normal c.version f = h.encode ++ (Row.image (k.layout c.version) row ++ sent) := by
  have hcore : (h.encode ++ fields).length = k.size c.version := by
    rw [List.length_append, h.length_encode, hp.length_fields]
    rfl
  have hdrop : f.drop (k.size c.version) = sent := by
    rw [hp.frame, ← List.append_assoc, ← hcore, List.drop_left]
  rw [Kind.normal, hp.settleAll, hdrop, List.append_assoc]

theorem Parts.length_eq (hp : c.Parts f h k row fields sent) : f.length = c.size k := by
  rw [hp.frame, List.length_append, List.length_append, h.length_encode, hp.length_fields,
    hp.length_sent, size, Kind.size, Header.size, Nat.add_assoc]

theorem Parts.encodeAt (hp : c.Parts f h k row fields sent) (hends : k.TextsEnd c.version f)
    {t : UInt64} (ht : c.trailer t = sent) :
    c.encodeAt (.known h k (k.ofRow c.version row)) t = .ok (k.normal c.version f) := by
  rw [Kind.TextsEnd, hp.frame, h.drop_encode_append, ← hp.length_fields, List.take_left] at hends
  obtain ⟨bs, hbs⟩ := (Row.encode_isOk (k.layout c.version) row).2 (hp.fits hends)
  rw [hp.normal, encodeAt_eq_ok, Kind.toRow_ofRow]
  exact ⟨hp.tag, hp.stated, bs, hbs, by rw [ht, Row.encode_eq_image hbs]⟩

theorem Parts.encode (hp : c.Parts f h k row fields sent) (hends : k.TextsEnd c.version f)
    (hc : c.tsOut = false) :
    c.encode (.known h k (k.ofRow c.version row)) = .ok (k.normal c.version f) := by
  have hsent := hp.length_sent
  rw [hc] at hsent
  refine hp.encodeAt hends ?_
  rw [trailer, hc, List.eq_nil_of_length_eq_zero hsent]
  rfl

theorem Parts.encodeWithTsOut (hp : c.Parts f h k row fields sent)
    (hends : k.TextsEnd c.version f) (hc : c.tsOut = true) : ∃ t, c.tsOut? f = some t ∧
      c.encodeWithTsOut (.known h k (k.ofRow c.version row)) t = .ok (k.normal c.version f) := by
  have hsent := hp.length_sent
  rw [if_pos hc] at hsent
  refine ⟨Word.u64.decode sent, ?_, ?_⟩
  · have hfront : Header.size ≤ (h.encode ++ fields).length := by
      rw [List.length_append, h.length_encode]
      omega
    rw [hp.frame, ← List.append_assoc, tsOut?_append hc hfront hsent]
  · rw [Codec.encodeWithTsOut, if_pos hc]
    refine hp.encodeAt hends ?_
    rw [trailer, if_pos hc]
    exact Word.u64.encode_decode sent hsent

end

/-! ## Two frames -/

theorem encode_unrecognized_of_decode (hd : c.decode f = .ok r)
    (htag : Kind.ofTag? r.header.tag = none) (c' : Codec) : c'.encode r = .ok f := by
  obtain ⟨body, hf, hframed, -⟩ := exists_of_decode hd
  have hlen := hframed.length_eq
  rw [hf, decode_of_unknown htag hlen] at hd
  injection hd with hd
  rw [hf, ← hd]
  show (if (r.header.encode ++ body).length ≠ r.header.recordSize then _ else _) = _
  rw [if_neg fun hne => hne hlen]
  rfl

/-- Frames that agree where a record is kept have the same header. -/
theorem header_eq_of_agree {body body' : Bytes} (hf : f = h.encode ++ body)
    (hg : g = h'.encode ++ body') (hagree : ∀ i, i < Header.size → f[i]? = g[i]?) : h = h' := by
  have hfront : f.take Header.size = g.take Header.size := by
    refine List.ext_getElem? fun i => ?_
    rw [List.getElem?_take, List.getElem?_take]
    split
    · exact hagree i ‹_›
    · rfl
  rw [hf, hg, h.take_encode_append, h'.take_encode_append] at hfront
  have htakes := h.takes_read
  rw [hfront] at htakes
  exact htakes.value_eq h'.takes_read

theorem Parts.row_eq {row row' : Row (k.layout c.version)} {fields sent fields' sent' : Bytes}
    (hp : c.Parts f h k row fields sent) (hp' : c.Parts g h k row' fields' sent')
    (hset : Role.settleAll (k.roles c.version) f = Role.settleAll (k.roles c.version) g) :
    row = row' := by
  rw [hp.settleAll, hp'.settleAll] at hset
  have htakes := hp.takes
  rw [List.append_cancel_left hset] at htakes
  exact htakes.value_eq hp'.takes

/-- Frames that differ only in bytes that are passed over decode to the same record. -/
theorem decode_eq_of_agree (hd : c.decode f = .ok r) (hd' : c.decode g = .ok r')
    (htag : Kind.ofTag? r.header.tag = some k)
    (hagree : ∀ i, f[i]? ≠ g[i]? →
      (k.roles c.version)[i]? = some .reserved ∨ k.size c.version ≤ i) : r = r' := by
  obtain ⟨row, fields, sent, hr, hp⟩ := exists_parts hd htag
  obtain ⟨body', hg, -⟩ := exists_of_decode hd'
  have hheader : r.header = r'.header := by
    refine header_eq_of_agree hp.frame hg fun i hi => ?_
    by_cases heq : f[i]? = g[i]?
    · exact heq
    · rcases hagree i heq with hrole | hle
      · rw [Kind.roles, List.getElem?_append_left (by rwa [List.length_replicate]),
          List.getElem?_replicate, if_pos hi] at hrole
        cases hrole
      · rw [Kind.size] at hle
        rw [Header.size] at hi
        omega
  rw [hheader] at htag
  obtain ⟨row', fields', sent', hr', hp'⟩ := exists_parts hd' htag
  rw [hheader] at hp hr
  have hlong {x : Bytes} (hx : x.length = c.size k) : (k.roles c.version).length ≤ x.length := by
    rw [hx, k.length_roles, size]
    omega
  have hset := Role.settleAll_congr (hlong hp.length_eq) (hlong hp'.length_eq)
    (by rwa [k.length_roles])
  rw [hp.row_eq hp' hset] at hr
  exact hr.trans hr'.symm

/-- A record keeps every byte of its frame that is part of a value. -/
theorem not_kept_of_decode_eq (hd : c.decode f = .ok r) (hd' : c.decode g = .ok r)
    (htag : Kind.ofTag? r.header.tag = some k) {i : Nat} (hne : f[i]? ≠ g[i]?) :
    (k.roles c.version)[i]? ≠ some .kept := by
  obtain ⟨row, fields, sent, hr, hp⟩ := exists_parts hd htag
  obtain ⟨row', fields', sent', hr', hp'⟩ := exists_parts hd' htag
  rw [hr] at hr'
  injection hr' with _ _ hbody
  have hrow : row = row' := by
    rw [← k.toRow_ofRow c.version row, hbody, k.toRow_ofRow]
  refine Role.not_kept_of_settleAll_eq ?_ hne
  rw [hp.settleAll, hp'.settleAll, hrow]

/-- A frame that is decoded and written again is settled, and nothing else is lost of it. -/
theorem reencoded_settled (hd : c.decode f = .ok r) : ∃ tag, f[1]? = some tag ∧
    (Kind.ofTag? tag = none → ∀ c' : Codec, c'.encode r = .ok f) ∧
    ∀ k, Kind.ofTag? tag = some k →
      (k.TextsEnd c.version f →
        (c.tsOut = false → c.encode r = .ok (k.normal c.version f)) ∧
        (c.tsOut = true → ∃ t, c.tsOut? f = some t ∧
          c.encodeWithTsOut r t = .ok (k.normal c.version f))) ∧
      (∀ i, (k.roles c.version)[i]? = some .flag ↔ k = .error ∧ c.version = .v2 ∧ i = 319) ∧
      ∀ g r', c.decode g = .ok r' →
        ((∀ i, f[i]? ≠ g[i]? →
          (k.roles c.version)[i]? = some .reserved ∨ k.size c.version ≤ i) → r = r') ∧
        ((∃ i : Nat, f[i]? ≠ g[i]? ∧ (k.roles c.version)[i]? = some Role.kept) → r ≠ r') := by
  obtain ⟨body, hf, -⟩ := exists_of_decode hd
  have htag : f[1]? = some r.header.tag := by rw [hf, Header.getElem?_one_encode_append]
  refine ⟨r.header.tag, htag, encode_unrecognized_of_decode hd, fun k hk => ?_⟩
  obtain ⟨row, fields, sent, hr, hp⟩ := exists_parts hd hk
  refine ⟨fun hends => ?_, fun i => Kind.roles_eq_flag_iff, fun g r' hd' => ⟨fun hagree => ?_, ?_⟩⟩
  · rw [hr]
    exact ⟨hp.encode hends, hp.encodeWithTsOut hends⟩
  · exact decode_eq_of_agree hd hd' hk hagree
  · rintro ⟨i, hne, hkept⟩ rfl
    exact not_kept_of_decode_eq hd hd' hk hne hkept

/-- A mapping with stray bytes in its reserved ones; the same with other stray bytes and another
send time, and with another symbol. -/
theorem reencoded_settled_mapping :
    let c : Codec := ⟨.v1, true⟩
    let h : Header := ⟨22, Tag.symbolMapping, 1, 5482, 7⟩
    let frame (letter stray : UInt8) (t : UInt64) : Bytes :=
      h.encode ++ ((letter :: Bytes.zeros 21) ++ (0x5a :: Bytes.zeros 21) ++ [0, stray, 0, stray] ++
        Bytes.zeros 16 ++ Word.u64.encode t)
    let mapping (symbol : String) : Record :=
      .known h .symbolMapping ⟨unsetSymbology, symbol, unsetSymbology, "Z", 0, 0⟩
    c.decode (frame 0x41 9 5) = .ok (mapping "A") ∧
      c.encodeWithTsOut (mapping "A") 5 = .ok (frame 0x41 0 5) ∧
      (∃ r, c.decode (frame 0x41 8 6) = .ok r ∧ mapping "A" = r) ∧
      ∃ r, c.decode (frame 0x42 9 5) = .ok r ∧ mapping "A" ≠ r := by
  intro c h frame mapping
  have hd : c.decode (frame 0x41 9 5) = .ok (mapping "A") := by decide +kernel
  obtain ⟨tag, htag, -, hknown⟩ := reencoded_settled hd
  injection htag with htag
  subst htag
  obtain ⟨hencode, -, hpairs⟩ := hknown .symbolMapping (by decide)
  have hends : Kind.symbolMapping.TextsEnd .v1 (frame 0x41 9 5) := by decide +kernel
  obtain ⟨t, ht, hagain⟩ := (hencode hends).2 rfl
  have hsent : c.tsOut? (frame 0x41 9 5) = some 5 := rfl
  rw [hsent] at ht
  injection ht with ht
  subst ht
  have hnormal : Kind.symbolMapping.normal .v1 (frame 0x41 9 5) = frame 0x41 0 5 := by
    decide +kernel
  have hstray : ∀ i < 80, (frame 0x41 9 5)[i]? ≠ (frame 0x41 8 6)[i]? →
      (Kind.symbolMapping.roles .v1)[i]? = some .reserved := by decide +kernel
  have hsame : c.decode (frame 0x41 8 6) = .ok (mapping "A") := by decide +kernel
  have hother : c.decode (frame 0x42 9 5) = .ok (mapping "B") := by decide +kernel
  refine ⟨hd, hagain.trans (congrArg Except.ok hnormal),
    ⟨_, hsame, (hpairs _ _ hsame).1 fun i hi => ?_⟩,
    ⟨_, hother, (hpairs _ _ hother).2 ⟨16, by decide, by decide⟩⟩⟩
  by_cases hlt : i < 80
  · exact .inl (hstray i hlt hi)
  · exact .inr (Nat.le_of_not_lt hlt)

end Codec
end TickStream
