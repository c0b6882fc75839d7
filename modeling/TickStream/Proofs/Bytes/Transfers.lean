import TickStream.Proofs.Bytes.Fields
import TickStream.Proofs.OneRun
/-
Things that are written one after the other, and read in the same order.  Main statement: all of
them come back, wherever the bytes stand and whatever follows them, and the reading of each begins
behind the bytes of those before it; and a reading that lacks bytes moves nothing, and says how
many it needs and how many there are.
-/
namespace TickStream

open Step Reader

/-- One thing to read, with its name for errors. -/
inductive Reading where
  | word (w : Word) (context : String)
  | take (n : Nat) (context : String)
  | skip (n : Nat) (context : String)
  | text (width : Nat) (field : String)

namespace Reading

/-- What a reading gives. -/
inductive Value where
  | word (w : Word) (v : w.Val)
  | bytes (bs : Bytes)
  | text (s : String)
  | nothing

def width : Reading → Nat
  | word w _ => w.width
  | take n _ | skip n _ | text n _ => n

def context : Reading → String
  | word _ context | take _ context | skip _ context | text _ context => context

def read : Reading → Reader Value
  | word w context => do return .word w (← Reader.word w context)
  | take n context => do return .bytes (← Reader.take n context)
  | skip n context => do
    let _ ← Reader.skip n context
    return .nothing
  | text width field => do return .text (← Reader.text width field)

/-- Readings one after the other: where each begins, and what it gives. -/
def readAll : List Reading → Reader (List (Nat × Value))
  | [] => return []
  | r :: rs => do
    let start ← Reader.offset
    let v ← r.read
    return (start, v) :: (← readAll rs)

variable {r : Reading} {c c' : Cursor} {n : Nat}

/-! ## Readings that lack bytes -/

theorem read_short (h : c.rest.length < r.width) :
    EStateM.run r.read c = .error (.truncated r.context c.offset r.width c.rest.length) c := by
  have htake : EStateM.run (Reader.take r.width r.context) c =
      .error (.truncated r.context c.offset r.width c.rest.length) c := take_short h r.context
  cases r with
  | word w context => exact bind_error (bind_error htake)
  | take n context => exact bind_error htake
  | skip n context => exact bind_error (bind_error htake)
  | text width field =>
    -- A text looks where it stands before it is taken.
    have hstart : EStateM.run Reader.offset c = .ok c.offset c := rfl
    refine bind_error ?_
    rw [Reader.text, bind_ok hstart]
    exact bind_error htake

/-- What is said of bytes that are there. -/
def NotMissing (e : Error) : Prop :=
  ∀ context offset expected got, e ≠ .truncated context offset expected got

theorem ensures_take (h : n ≤ c.rest.length) (context : String) :
    Ensures c (Reader.take n context) (fun _ _ => True) fun e _ => NotMissing e := by
  have hlen : (c.rest.take n).length = n := by rw [List.length_take, Nat.min_eq_left h]
  have htaken := takes_take hlen context (c.rest.drop n) c.offset
  rw [List.take_append_drop] at htaken
  exact ensures_of_ok htaken trivial

theorem ensures_text (h : n ≤ c.rest.length) (field : String) :
    Ensures c (Reader.text n field) (fun _ _ => True) fun e _ => NotMissing e := by
  refine (ensures_take h field).andThen fun bs t _ => ?_
  split
  · exact ensures_pure trivial
  · rename_i e hdecode
    refine ensures_of_error rfl ?_
    rcases PaddedText.decode_eq_error_iff.1 hdecode with ⟨first, stray, -, rfl⟩ | ⟨-, -, rfl⟩
    · exact nofun
    · exact nofun

/-- Of bytes that are there, only those of a text can be refused. -/
theorem ensures_read (h : r.width ≤ c.rest.length) :
    Ensures c r.read (fun _ _ => True) fun e _ => NotMissing e := by
  cases r with
  | word w context => exact ((ensures_take h context).giving fun _ _ hx => hx).giving fun _ _ hx => hx
  | take n context => exact (ensures_take h context).giving fun _ _ hx => hx
  | skip n context => exact ((ensures_take h context).giving fun _ _ hx => hx).giving fun _ _ hx => hx
  | text width field => exact (ensures_text h field).giving fun _ _ hx => hx

/-- A reading says that bytes are missing exactly if there are fewer than it needs, and it is then
where it was. -/
theorem read_truncated_iff {context : String} {offset expected got : Nat} :
    EStateM.run r.read c = .error (.truncated context offset expected got) c' ↔
      c.rest.length < r.width ∧ c' = c ∧ context = r.context ∧ offset = c.offset ∧
        expected = r.width ∧ got = c.rest.length := by
  by_cases h : c.rest.length < r.width
  · rw [read_short h]
    constructor
    · intro he
      cases he
      exact ⟨h, rfl, rfl, rfl, rfl, rfl⟩
    · rintro ⟨-, rfl, rfl, rfl, rfl, rfl⟩
      rfl
  · refine ⟨fun he => ?_, fun he => absurd he.1 h⟩
    have hnone := (ensures_read (Nat.le_of_not_lt h)).of_error he
    exact absurd rfl (hnone context offset expected got)

end Reading

/-! ## What is written, and read back -/

/-- Texts have no zero character, and leave room in their fields. -/
def Entry.Returns (e : Entry) : Prop :=
  e.OfText fun width s => Text.ZeroFree s ∧ (Bytes.ofString s).length < width

instance : (e : Entry) → Decidable e.Returns
  | .word .. | .bytes _ | .zeros _ => .isTrue trivial
  | .text _ width s =>
    inferInstanceAs (Decidable (Text.ZeroFree s ∧ (Bytes.ofString s).length < width))

/-- One thing to write, together with how it is read.  Zeros are read as bytes or passed over. -/
inductive Transfer where
  | word (w : Word) (v : w.Val) (context : String)
  | bytes (bs : Bytes) (context : String)
  | zeros (n : Nat) (context : String)
  | gap (n : Nat) (context : String)
  | text (written : String) (width : Nat) (s : String) (field : String)

namespace Transfer

def entry : Transfer → Entry
  | word w v _ => .word w v
  | bytes bs _ => .bytes bs
  | zeros n _ | gap n _ => .zeros n
  | text written width s _ => .text written width s

def reading : Transfer → Reading
  | word w _ context => .word w context
  | bytes bs context => .take bs.length context
  | zeros n context => .take n context
  | gap n context => .skip n context
  | text _ width _ field => .text width field

def value : Transfer → Reading.Value
  | word w v _ => .word w v
  | bytes bs _ => .bytes bs
  | zeros n _ => .bytes (Bytes.zeros n)
  | gap _ _ => .nothing
  | text _ _ s _ => .text s

variable {x : Transfer} {xs : List Transfer} {bs : Bytes}

/-- One step: the reading takes the bytes of the entry, and no others. -/
theorem takes_read (hx : x.entry.Returns) (h : x.entry.encode = .ok bs) :
    Takes x.reading.read bs x.value := by
  cases x with
  | word w v context =>
    cases h
    exact (takes_word w v context).giving _
  | bytes front context =>
    cases h
    exact (takes_take rfl context).giving _
  | zeros n context =>
    cases h
    exact (takes_take (Bytes.length_zeros n) context).giving _
  | gap n context =>
    cases h
    exact (takes_skip (Bytes.length_zeros n) context).giving fun _ => Reading.Value.nothing
  | text written width s field => exact (takes_text h hx.1 field).giving _

def placed : Nat → List Transfer → List (Nat × Reading.Value)
  | _, [] => []
  | start, x :: xs => (start, x.value) :: placed (start + x.entry.width) xs

theorem length_placed (start : Nat) (xs : List Transfer) :
    (placed start xs).length = xs.length := by
  induction xs generalizing start with
  | nil => rfl
  | cons x xs ih => rw [placed, List.length_cons, List.length_cons, ih]

/-- Bytes begin behind those of the entries before. -/
theorem getElem?_placed {start i : Nat} (h : xs[i]? = some x) :
    (placed start xs)[i]? =
      some (start + Entry.widthAll ((xs.take i).map entry), x.value) := by
  induction xs generalizing start i with
  | nil => cases h
  | cons y xs ih =>
    cases i with
    | zero =>
      cases h
      rfl
    | succ i =>
      rw [List.getElem?_cons_succ] at h
      rw [placed, List.getElem?_cons_succ, ih h, List.take_succ_cons, List.map_cons,
        Entry.widthAll_cons, Nat.add_assoc]

/-- All steps: what was written is read from the front, entry by entry. -/
theorem run_readAll (hxs : ∀ x ∈ xs, x.entry.Returns) (h : Entry.encodeAll (xs.map entry) = .ok bs)
    (extra : Bytes) (base : Nat) :
    EStateM.run (Reading.readAll (xs.map reading)) ⟨bs ++ extra, base⟩ =
      .ok (placed base xs) ⟨extra, base + bs.length⟩ := by
  induction xs generalizing bs base with
  | nil =>
    cases h
    rfl
  | cons x xs ih =>
    obtain ⟨hx, hrest⟩ := List.forall_mem_cons.1 hxs
    obtain ⟨front, back, hfront, hback, rfl⟩ := Entry.encodeAll_cons.1 h
    have hstart : EStateM.run Reader.offset ⟨front ++ back ++ extra, base⟩ =
        .ok base ⟨front ++ back ++ extra, base⟩ := rfl
    have hfirst := takes_read hx hfront (back ++ extra) base
    rw [← List.append_assoc] at hfirst
    rw [List.map_cons, Reading.readAll, bind_ok hstart, bind_ok hfirst,
      bind_ok (ih hrest hback (base + front.length)), placed, Entry.length_encode hfront,
      List.length_append, Entry.length_encode hfront, Nat.add_assoc]
    rfl

end Transfer

/-- Entries that are written one after the other stand one behind the other. -/
theorem Writer.foldlM_put (es : List Entry) (written : Bytes) :
    es.foldlM put written = (Entry.encodeAll es).map (written ++ ·) := by
  induction es generalizing written with
  | nil => exact congrArg Except.ok (List.append_nil written).symm
  | cons e es ih =>
    rw [List.foldlM_cons, put, Entry.encodeAll]
    cases e.encode with
    | error fault => rfl
    | ok front =>
      refine (ih (written ++ front)).trans ?_
      cases Entry.encodeAll es with
      | error fault => rfl
      | ok back => exact congrArg Except.ok (List.append_assoc written front back)

theorem Entry.Returns.fits {e : Entry} (h : e.Returns) : e.Fits := by
  cases e with
  | text field width s => exact h.2
  | _ => trivial

/-- Whatever is written in some order is read back in that order from wherever it stands, each
thing from behind the bytes of those before it, and what follows the bytes is left.  Of any bytes,
a reading says that some are missing exactly if there are fewer than it needs, tells how many that
is and how many there are, and stays where it is. -/
theorem Transfer.all_read_back :
    (∀ xs : List Transfer, (∀ x ∈ xs, x.entry.Returns) →
      ∃ bs, (xs.map entry).foldlM Writer.put [] = .ok bs ∧
        ∀ (extra : Bytes) (base : Nat), ∃ found,
          EStateM.run (Reading.readAll (xs.map reading)) ⟨bs ++ extra, base⟩ =
            .ok found ⟨extra, base + bs.length⟩ ∧
          found.length = xs.length ∧
          ∀ i x, xs[i]? = some x → ∃ front,
            ((xs.take i).map entry).foldlM Writer.put [] = .ok front ∧
            found[i]? = some (base + front.length, x.value)) ∧
    (∀ (r : Reading) (c c' : Cursor) (context : String) (offset expected got : Nat),
      EStateM.run r.read c = .error (.truncated context offset expected got) c' ↔
        c.rest.length < r.width ∧ c' = c ∧ context = r.context ∧ offset = c.offset ∧
          expected = r.width ∧ got = c.rest.length) := by
  have hwritten (xs : List Transfer) (hxs : ∀ x ∈ xs, x.entry.Returns) :
      ∃ bs, Entry.encodeAll (xs.map entry) = .ok bs ∧
        (xs.map entry).foldlM Writer.put [] = .ok bs := by
    obtain ⟨bs, hbs⟩ : ∃ bs, Entry.encodeAll (xs.map entry) = .ok bs :=
      (Entry.encodeAll_isOk _).2 (List.forall_mem_map.2 fun x hx => (hxs x hx).fits)
    refine ⟨bs, hbs, ?_⟩
    rw [Writer.foldlM_put, hbs]
    rfl
  refine ⟨fun xs hxs => ?_, fun r c c' context offset expected got => Reading.read_truncated_iff⟩
  obtain ⟨bs, hbs, hput⟩ := hwritten xs hxs
  refine ⟨bs, hput, fun extra base => ?_⟩
  refine ⟨placed base xs, run_readAll hxs hbs extra base, length_placed base xs, fun i x hx => ?_⟩
  obtain ⟨front, hfront, hputs⟩ := hwritten (xs.take i) fun y hy => hxs y (List.mem_of_mem_take hy)
  refine ⟨front, hputs, ?_⟩
  rw [getElem?_placed hx, Entry.length_encodeAll hfront]

/-- A negative number, a gap, a text and bytes that stand at position 100, with one byte behind
them, of which there would have to be two. -/
theorem Transfer.all_read_back_and_one_missing :
    let xs : List Transfer := [.word .i16 (-2) "size", .gap 3 "reserved",
      .text "symbol" 4 "é" "symbol", .bytes [7, 8] "tail"]
    let bs : Bytes := [0xfe, 0xff, 0, 0, 0, 0xc3, 0xa9, 0, 0, 7, 8]
    (xs.map entry).foldlM Writer.put [] = .ok bs ∧
      (∃ found, EStateM.run (Reading.readAll (xs.map reading)) ⟨bs ++ [1], 100⟩ =
          .ok found ⟨[1], 111⟩ ∧ found[2]? = some (105, .text "é")) ∧
      EStateM.run (Reading.word .u16 "count").read ⟨[1], 111⟩ =
        .error (.truncated "count" 111 2 1) ⟨[1], 111⟩ := by
  intro xs bs
  obtain ⟨hread, hmissing⟩ := all_read_back
  have hbytes : (xs.map entry).foldlM Writer.put [] = .ok bs := rfl
  have hbefore : ((xs.take 2).map entry).foldlM Writer.put [] = .ok [0xfe, 0xff, 0, 0, 0] := rfl
  obtain ⟨bs', hput, hback⟩ := hread xs (by decide)
  obtain rfl : bs = bs' := Except.ok.inj (hbytes.symm.trans hput)
  obtain ⟨found, hrun, -, hplaced⟩ := hback [1] 100
  obtain ⟨front, hfront, hfound⟩ := hplaced 2 _ rfl
  obtain rfl : [0xfe, 0xff, 0, 0, 0] = front := Except.ok.inj (hbefore.symm.trans hfront)
  refine ⟨hbytes, ⟨found, hrun, hfound⟩, ?_⟩
  exact (hmissing _ _ _ _ _ _ _).2 ⟨by decide, rfl, rfl, rfl, rfl, rfl⟩

end TickStream
