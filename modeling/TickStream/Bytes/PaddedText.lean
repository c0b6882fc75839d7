import TickStream.Bytes.Utf8
import TickStream.Error
/-
Texts in fixed-width fields.  The text comes first and zero bytes fill the rest.  Main
statement: a field is accepted exactly when it is the UTF-8 of a text without a zero
character, followed by zeros.
-/
namespace TickStream
namespace PaddedText

def content (bs : Bytes) : Bytes := bs.takeWhile (· != 0)

def padding (bs : Bytes) : Bytes := bs.dropWhile (· != 0)

/-- Reads a whole field that starts at `offset`.  A field may be full, with no zero at
all.  Anything but zeros after the text is refused before the text itself is looked at. -/
def decode (field : String) (offset : Nat) (bs : Bytes) : Except Error String :=
  match (padding bs).findIdx? (· != 0) with
  | some i => .error (.badPadding field (offset + (content bs).length + i))
  | none =>
    match Bytes.toString? (content bs) with
    | some s => .ok s
    | none => .error (.badUtf8 field offset)

/-- Writes a text to a field of `width` bytes, at least one of which stays zero. -/
def encode (field : String) (width : Nat) (s : String) : Except Error Bytes :=
  let bs := Bytes.ofString s
  if bs.length < width then .ok (bs ++ Bytes.zeros (width - bs.length))
  else .error (.textTooLong field bs.length width)

theorem content_append_padding (bs : Bytes) : content bs ++ padding bs = bs :=
  List.takeWhile_append_dropWhile

/-- What is written fills the field. -/
theorem length_encode {field : String} {width : Nat} {s : String} {bs : Bytes}
    (h : encode field width s = .ok bs) : bs.length = width := by
  simp only [encode] at h
  split at h
  · injection h with h
    subst h
    simp
    omega
  · simp at h

/-- A text is written exactly when it is shorter than the field. -/
theorem encode_isOk_iff {field : String} {width : Nat} {s : String} :
    (∃ bs, encode field width s = .ok bs) ↔ (Bytes.ofString s).length < width := by
  simp only [encode]
  split <;> simp [*]

end PaddedText
end TickStream
