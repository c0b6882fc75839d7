import TickStream.Proofs.Bytes.Delivery
import TickStream.Proofs.Metadata.RoundTrip
/-
Metadata frames at the front of a source.  A frame is a prefix of eight bytes and as many bytes
as the prefix states; a reader takes just these, and says what is missing if they are cut off.
-/
namespace TickStream
namespace Metadata

open Step Reader

def front (v : Version) (n : Nat) : Bytes :=
  magic ++ Word.u8.encode v.code ++ Word.u32.encode (UInt32.ofNat n)

def declaredLength (bs : Bytes) : Nat := (Word.u32.decode ((bs.drop 4).take 4)).toNat

/-- `head` is the frame of `m`, and what follows its prefix is short enough for its length to be
stated. -/
structure EncodesTo (m : Metadata) (head : Bytes) : Prop where
  encode : m.encode = .ok head
  length : head.length < prefixSize + UInt32.size

theorem length_front (v : Version) (n : Nat) : (front v n).length = prefixSize := by
  rw [front, List.length_append, List.length_append, Word.length_encode, Word.length_encode]
  rfl

theorem encode_eq_ok {m : Metadata} {head : Bytes} :
    m.encode = .ok head ↔
      ∃ body, Entry.encodeAll m.entries = .ok body ∧
        head = front m.version body.length ++ body := by
  rw [encode, bind_eq_ok]
  constructor
  · rintro ⟨body, hbody, hhead⟩
    injection hhead with hhead
    exact ⟨body, hbody, hhead.symm⟩
  · rintro ⟨body, hbody, rfl⟩
    exact ⟨body, hbody, rfl⟩

/-- A frame is its prefix and a body that the prefix can count. -/
theorem EncodesTo.exists_body {m : Metadata} {head : Bytes} (hm : m.EncodesTo head) :
    ∃ body, Entry.encodeAll m.entries = .ok body ∧ body.length < UInt32.size ∧
      head = front m.version body.length ++ body := by
  obtain ⟨body, hbody, rfl⟩ := encode_eq_ok.1 hm.encode
  have hlen := hm.length
  rw [List.length_append, length_front] at hlen
  exact ⟨body, hbody, by omega, rfl⟩

theorem decodePrefix_front (v : Version) {n : Nat} (h : n < UInt32.size) :
    decodePrefix (front v n) = .ok (v, n) := by
  have hmagic : (front v n).take magic.length = magic := by
    rw [front, List.append_assoc, List.take_left]
  have hcode : ((front v n).drop 3).take 1 = Word.u8.encode v.code := by
    rw [front, List.append_assoc]
    show (Word.u8.encode v.code ++ Word.u32.encode (UInt32.ofNat n)).take 1 = _
    rw [Word.encode_u8]
    rfl
  have hlength : (front v n).drop 4 = Word.u32.encode (UInt32.ofNat n) := by
    rw [front, Word.encode_u8]
    rfl
  have hn : (UInt32.ofNat n).toNat = n := UInt32.toNat_ofNat_of_lt' h
  rw [decodePrefix, if_neg (fun hne => hne hmagic), hcode, hlength, Word.decode_encode,
    Word.decode_encode, hn]
  cases v <;> rfl

theorem length_of_decodePrefix {bs : Bytes} {v : Version} {n : Nat}
    (h : decodePrefix bs = .ok (v, n)) : n = (Word.u32.decode (bs.drop 4)).toNat := by
  rw [decodePrefix] at h
  split at h
  · exact absurd h (by simp)
  · obtain ⟨v', -, h⟩ := bind_eq_ok.1 h
    injection h with h
    injection h with _ h
    exact h.symm

/-! ## Taking a frame off a source -/

variable {s : Source} {m : Metadata} {head rest : Bytes}

/-- What is known once the prefix has been taken. -/
theorem read_after_prefix {bs : Bytes} {v : Version} {n : Nat} (hs : s.Delivers bs)
    (hlen : prefixSize ≤ bs.length) (hp : decodePrefix (bs.take prefixSize) = .ok (v, n)) :
    ∃ t, t.Delivers (bs.drop prefixSize) ∧ EStateM.run read s = EStateM.run (do
      let body ← Intake.exactly n "metadata body" prefixSize
      let m ← ofExcept (decodeBody v body)
      return (m, prefixSize + n)) t := by
  obtain ⟨t, ht, hleft⟩ := Intake.exactly_of_delivers hs hlen "metadata prefix" 0
  refine ⟨t, hleft, ?_⟩
  rw [read, bind_ok ht, hp]
  rfl

/-- A frame gives its metadata back unless a text has a zero character. -/
theorem read_of_encodesTo (hm : m.EncodesTo head) (htexts : m.TextsPlain)
    (hs : s.Delivers (head ++ rest)) :
    ∃ t, EStateM.run read s = .ok (m, head.length) t ∧ t.Delivers rest := by
  obtain ⟨body, hbody, hcount, rfl⟩ := hm.exists_body
  have hfront := length_front m.version body.length
  have htake : ((front m.version body.length ++ body) ++ rest).take prefixSize =
      front m.version body.length := by
    rw [List.append_assoc, ← hfront, List.take_left]
  have hdrop : ((front m.version body.length ++ body) ++ rest).drop prefixSize = body ++ rest := by
    rw [List.append_assoc, ← hfront, List.drop_left]
  obtain ⟨t, ht, hread⟩ := read_after_prefix hs
    (by rw [List.length_append, List.length_append, hfront]; omega)
    (by rw [htake]; exact decodePrefix_front m.version hcount)
  rw [hdrop] at ht
  obtain ⟨u, hu, hleft⟩ := Intake.exactly_of_delivers ht (n := body.length)
    (by rw [List.length_append]; omega) "metadata body" prefixSize
  rw [List.take_left] at hu
  rw [List.drop_left] at hleft
  have hdecode : decodeBody m.version body = .ok m := by
    have := (readBy_body htexts body hbody hcount).run_eq [] prefixSize
    rwa [List.append_nil] at this
  refine ⟨u, ?_, hleft⟩
  rw [hread, bind_ok hu, hdecode, List.length_append, hfront]
  rfl

/-- What is said of a frame of `n` bytes of which only `k` are there. -/
def cutOff (n k : Nat) : Error :=
  if k < prefixSize then .truncated "metadata prefix" 0 prefixSize k
  else .truncated "metadata body" prefixSize (n - prefixSize) (k - prefixSize)

/-- Whatever the bytes are, a frame read from them is as long as they state. -/
theorem read_eq_ok {bs : Bytes} {size : Nat} {t : Source} (hs : s.Delivers bs)
    (h : EStateM.run read s = .ok (m, size) t) :
    size = prefixSize + declaredLength bs ∧ size ≤ bs.length ∧ t.Delivers (bs.drop size) := by
  obtain ⟨front, s₁, hfront, h₁⟩ := run_bind_eq_ok.1 h
  obtain ⟨hlong, rfl, hs₁⟩ := Intake.exactly_eq_ok hs hfront
  obtain ⟨⟨v, n⟩, s₂, hread, h₂⟩ := run_bind_eq_ok.1 h₁
  obtain ⟨hstated, rfl⟩ := run_ofExcept_eq_ok.1 hread
  obtain ⟨body, s₃, hbody, h₃⟩ := run_bind_eq_ok.1 h₂
  obtain ⟨hrest, -, hs₃⟩ := Intake.exactly_eq_ok hs₁ hbody
  obtain ⟨m', s₄, hdecode, h₄⟩ := run_bind_eq_ok.1 h₃
  obtain ⟨-, rfl⟩ := run_ofExcept_eq_ok.1 hdecode
  injection h₄ with hsize ht
  injection hsize with _ hsize
  have hn : n = declaredLength bs := by
    rw [length_of_decodePrefix hstated, declaredLength, List.drop_take]
    rfl
  rw [List.length_drop] at hrest
  rw [List.drop_drop] at hs₃
  rw [← hsize, ← ht]
  exact ⟨by rw [hn], by omega, hs₃⟩

end Metadata
end TickStream
