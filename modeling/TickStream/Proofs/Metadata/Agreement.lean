import TickStream.Proofs.Metadata.Frame
/-
Metadata frames on a source and in memory.  Main statement: the two readers give the same
metadata or the same error, and the source has then lost the frame that its first bytes announce,
or as much of it as there was.
-/
namespace TickStream

open Step

namespace Reader

variable {n : Nat} {bs : Bytes}

theorem run_take (h : n ≤ bs.length) (context : String) (offset : Nat) :
    Reader.run (take n context) bs offset = .ok (bs.take n) := by
  have hlen : (bs.take n).length = n := by rw [List.length_take, Nat.min_eq_left h]
  have htakes := (takes_take hlen context).run_eq (bs.drop n) offset
  rwa [List.take_append_drop] at htakes

theorem run_take_short (h : bs.length < n) (context : String) (offset : Nat) :
    Reader.run (take n context) bs offset = .error (.truncated context offset n bs.length) := by
  have hshort : EStateM.run (take n context) ⟨bs, offset⟩ =
      .error (.truncated context offset n bs.length) ⟨bs, offset⟩ := take_short h context
  rw [Reader.run, hshort]

end Reader

/-- Taking bytes off a source is taking them off its content, and the source loses them. -/
theorem Intake.run_exactly {s : Source} {bs : Bytes} (h : s.Delivers bs) (n : Nat)
    (context : String) (offset : Nat) :
    ∃ t, EStateM.run (exactly n context offset) s =
        EStateM.run (ofExcept (Reader.run (Reader.take n context) bs offset)) t ∧
      t.Delivers (bs.drop n) := by
  obtain ⟨t, ht, hleft⟩ := upTo_of_delivers h n
  refine ⟨t, ?_, hleft⟩
  rw [exactly, bind_ok ht]
  by_cases hn : n ≤ bs.length
  · rw [Reader.run_take hn, List.length_take, Nat.min_eq_left hn, if_neg (Nat.lt_irrefl n)]
    rfl
  · have hshort := Nat.lt_of_not_le hn
    rw [Reader.run_take_short hshort, List.take_of_length_le (Nat.le_of_lt hshort), if_pos hshort]
    rfl

namespace Metadata

open Reader

/-- A whole prefix, of a stream in one of the versions. -/
def Announces (bs : Bytes) : Prop :=
  prefixSize ≤ bs.length ∧ bs.take 4 ∈ [Version.v1, .v2].map fun v => magic ++ [v.code]

instance (bs : Bytes) : Decidable (Announces bs) := inferInstanceAs (Decidable (_ ∧ _))

/-- The size of the frame that stands first in `bs`; of the prefix, if it does not announce one. -/
def announcedSize (bs : Bytes) : Nat :=
  if Announces bs then prefixSize + declaredLength bs else prefixSize

variable {bs : Bytes} {v : Version} {n : Nat}

/-! ## What a prefix says -/

theorem ofCode_eq_ok {code : UInt8} : Version.ofCode code = .ok v ↔ code = v.code := by
  constructor
  · intro h
    rw [Version.ofCode] at h
    split at h
    · injection h with h
      rw [← h]
      assumption
    · split at h
      · injection h with h
        rw [← h]
        assumption
      · cases h
  · rintro rfl
    exact Version.ofCode_code v

theorem decodePrefix_eq_ok (hlen : prefixSize ≤ bs.length) :
    decodePrefix (bs.take prefixSize) = .ok (v, n) ↔
      bs.take 4 = magic ++ [v.code] ∧ n = declaredLength bs := by
  -- The first four bytes are the three that every stream starts with, and one more.
  have hfour : bs.take 4 = bs.take 3 ++ (bs.drop 3).take 1 := by rw [← List.take_add]
  have hmagic : (bs.take prefixSize).take magic.length = bs.take 3 := by
    rw [List.take_take]
    rfl
  have hcode : ((bs.take prefixSize).drop 3).take 1 = (bs.drop 3).take 1 := by
    rw [List.drop_take, List.take_take]
    rfl
  have hlength : (bs.take prefixSize).drop 4 = (bs.drop 4).take 4 := List.drop_take
  obtain ⟨code, hone⟩ : ∃ code, (bs.drop 3).take 1 = [code] := by
    rw [← List.length_eq_one_iff, List.length_take, List.length_drop]
    unfold prefixSize at hlen
    omega
  have hdecode : Word.u8.decode [code] = code := by
    rw [← Word.encode_u8, Word.decode_encode]
  rw [decodePrefix, hmagic, hcode, hlength, hfour, hone, hdecode, declaredLength]
  constructor
  · intro h
    split at h
    · cases h
    · rename_i hmagic
      obtain ⟨v', hv, h⟩ := bind_eq_ok.1 h
      injection h with h
      injection h with hv' hn
      rw [Decidable.not_not.1 hmagic, ofCode_eq_ok.1 hv, hv']
      exact ⟨rfl, hn.symm⟩
  · rintro ⟨hfront, rfl⟩
    obtain ⟨hmagic, hv⟩ := List.append_inj' hfront rfl
    injection hv with hv
    rw [if_neg (fun hne => hne hmagic), ofCode_eq_ok.2 hv]
    rfl

theorem announces_iff (hlen : prefixSize ≤ bs.length) :
    Announces bs ↔ ∃ v, decodePrefix (bs.take prefixSize) = .ok (v, declaredLength bs) := by
  constructor
  · rintro ⟨-, hmem⟩
    obtain ⟨v, -, hv⟩ := List.mem_map.1 hmem
    exact ⟨v, (decodePrefix_eq_ok hlen).2 ⟨hv.symm, rfl⟩⟩
  · rintro ⟨v, hv⟩
    have hmem : v ∈ [Version.v1, .v2] := by cases v <;> decide
    exact ⟨hlen, List.mem_map.2 ⟨v, hmem, ((decodePrefix_eq_ok hlen).1 hv).1.symm⟩⟩

theorem announcedSize_of_prefix_error {e : Error} (hlen : prefixSize ≤ bs.length)
    (hp : decodePrefix (bs.take prefixSize) = .error e) : announcedSize bs = prefixSize := by
  refine if_neg fun h => ?_
  obtain ⟨v, hv⟩ := (announces_iff hlen).1 h
  rw [hp] at hv
  cases hv

theorem announcedSize_of_prefix_ok (hlen : prefixSize ≤ bs.length)
    (hp : decodePrefix (bs.take prefixSize) = .ok (v, declaredLength bs)) :
    announcedSize bs = prefixSize + declaredLength bs :=
  if_pos ((announces_iff hlen).2 ⟨v, hp⟩)

/-! ## Both readers -/

theorem decode_of_prefix_error {e : Error} (hlen : prefixSize ≤ bs.length)
    (hp : decodePrefix (bs.take prefixSize) = .error e) : decode bs = .error e := by
  rw [decode, run_take hlen]
  show (decodePrefix (bs.take prefixSize) >>= _) = _
  rw [hp]
  rfl

theorem decode_of_prefix_ok (hlen : prefixSize ≤ bs.length)
    (hp : decodePrefix (bs.take prefixSize) = .ok (v, n)) :
    decode bs =
      Reader.run (take n "metadata body") (bs.drop prefixSize) prefixSize >>= decodeBody v := by
  rw [decode, run_take hlen]
  show (decodePrefix (bs.take prefixSize) >>= _) = _
  rw [hp]
  rfl

/-- Behind a prefix both readers take the body and decode it. -/
theorem run_body {s : Source} (hs : s.Delivers bs) (v : Version) (n : Nat) :
    ∃ t, EStateM.run (do
        let body ← Intake.exactly n "metadata body" prefixSize
        let m ← ofExcept (decodeBody v body)
        return (m, prefixSize + n) : Intake (Metadata × Nat)) s =
      (match Reader.run (take n "metadata body") bs prefixSize >>= decodeBody v with
        | .ok m => .ok (m, prefixSize + n) t
        | .error e => .error e t) ∧
      t.Delivers (bs.drop n) := by
  obtain ⟨t, hbody, ht⟩ := Intake.run_exactly hs n "metadata body" prefixSize
  refine ⟨t, ?_, ht⟩
  rw [EStateM.run_bind, hbody]
  cases Reader.run (take n "metadata body") bs prefixSize with
  | error e => rfl
  | ok body =>
    show EStateM.run (ofExcept (decodeBody v body) >>= _) t = match decodeBody v body with
      | .ok m => .ok (m, prefixSize + n) t
      | .error e => .error e t
    cases decodeBody v body <;> rfl

theorem read_decodes {s : Source} (hs : s.Delivers bs) :
    ∃ t, EStateM.run read s = (match decode bs with
        | .ok m => .ok (m, prefixSize + declaredLength bs) t
        | .error e => .error e t) ∧
      t.Delivers (bs.drop (announcedSize bs)) := by
  obtain ⟨s₁, hprefix, hs₁⟩ := Intake.run_exactly hs prefixSize "metadata prefix" 0
  by_cases hlen : prefixSize ≤ bs.length
  · rw [run_take hlen] at hprefix
    rw [read, bind_ok hprefix]
    cases hp : decodePrefix (bs.take prefixSize) with
    | error e =>
      rw [decode_of_prefix_error hlen hp, announcedSize_of_prefix_error hlen hp]
      exact ⟨s₁, rfl, hs₁⟩
    | ok found =>
      obtain ⟨v, n⟩ := found
      obtain ⟨-, rfl⟩ := (decodePrefix_eq_ok hlen).1 hp
      rw [decode_of_prefix_ok hlen hp, announcedSize_of_prefix_ok hlen hp, ← List.drop_drop]
      exact run_body hs₁ v (declaredLength bs)
  · have hshort := Nat.lt_of_not_le hlen
    rw [run_take_short hshort] at hprefix
    rw [announcedSize, if_neg fun h => hlen h.1, read, bind_error hprefix, decode,
      run_take_short hshort]
    exact ⟨s₁, rfl, hs₁⟩

/-- A frame that is taken off a source is the frame that lies in memory. -/
theorem read_agrees {s : Source} (hs : s.Delivers bs) :
    ∃ t, EStateM.run read s = (match decode bs with
        | .ok m => .ok (m, prefixSize + declaredLength bs) t
        | .error e => .error e t) ∧
      t.Delivers (bs.drop (announcedSize bs)) ∧
      bs.length = min bs.length (announcedSize bs) + t.size := by
  obtain ⟨t, hread, hleft⟩ := read_decodes hs
  have hsize : t.size = bs.length - announcedSize bs := by
    rw [Source.size, hleft.content, List.length_drop]
  exact ⟨t, hread, hleft, by omega⟩

/-- A frame in pieces, with a body of two bytes that is no header: it is the body that both
readers find fault with, and the byte behind it stays. -/
theorem read_agrees_in_pieces :
    let s : Source := [.data [0x44, 0x42], .interrupted, .data [0x4e, 1, 2, 0, 0, 0, 0xff],
      .data [0xee, 7]]
    s.Delivers [0x44, 0x42, 0x4e, 1, 2, 0, 0, 0, 0xff, 0xee, 7] ∧
      ∃ t, EStateM.run read s = .error (.truncated "dataset" 8 16 2) t ∧ t.Delivers [7] := by
  intro s
  have hs : s.Delivers [0x44, 0x42, 0x4e, 1, 2, 0, 0, 0, 0xff, 0xee, 7] := ⟨rfl, rfl⟩
  obtain ⟨t, hread, hleft, -⟩ := read_agrees hs
  have hdecode : decode [0x44, 0x42, 0x4e, 1, 2, 0, 0, 0, 0xff, 0xee, 7] =
      .error (.truncated "dataset" 8 16 2) := rfl
  have hsize : announcedSize [0x44, 0x42, 0x4e, 1, 2, 0, 0, 0, 0xff, 0xee, 7] = 10 := by decide
  rw [hdecode] at hread
  rw [hsize] at hleft
  exact ⟨hs, t, hread, hleft⟩

end Metadata
end TickStream
