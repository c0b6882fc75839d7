import TickStream.Proofs.Bytes.Covers
import TickStream.Proofs.Record.Rows
/-
What the bytes of a layout are for.  A byte belongs to a value, or it is passed over, or it is a
truth value in which only zero and not zero are told apart.  Main statement: what was read from
some bytes is written as these bytes with every byte settled by its role, and reads back from
them; so nothing else of the bytes is lost.
-/
namespace TickStream

open Step Reader

/-- What a byte of a layout is for. -/
inductive Role where
  /-- It is part of a value. -/
  | kept
  | reserved
  /-- It is a truth value, and false if it is zero. -/
  | flag
  deriving DecidableEq, Repr

namespace Role

/-- The byte that is written where `b` was read. -/
def settle : Role → UInt8 → UInt8
  | kept, b => b
  | reserved, _ => 0
  | flag, b => Scalar.byteOfFlag (Scalar.flagOfByte b)

/-- The bytes that are written where `bs` was read. -/
def settleAll (ρ : List Role) (bs : Bytes) : Bytes := List.zipWith settle ρ bs

theorem settleAll_append {ρ σ : List Role} {xs ys : Bytes} (h : xs.length = ρ.length) :
    settleAll (ρ ++ σ) (xs ++ ys) = settleAll ρ xs ++ settleAll σ ys :=
  List.zipWith_append h.symm

theorem settleAll_kept {n : Nat} {bs : Bytes} (h : bs.length = n) :
    settleAll (List.replicate n kept) bs = bs := by
  subst h
  induction bs with
  | nil => rfl
  | cons b bs ih => exact congrArg (b :: ·) ih

theorem settleAll_reserved {n : Nat} {bs : Bytes} (h : bs.length = n) :
    settleAll (List.replicate n reserved) bs = Bytes.zeros n := by
  subst h
  induction bs with
  | nil => rfl
  | cons b bs ih => exact congrArg (0 :: ·) ih

theorem settleAll_front {ρ : List Role} {xs : Bytes} (ys : Bytes) (h : xs.length = ρ.length) :
    settleAll ρ (xs ++ ys) = settleAll ρ xs := by
  have happend : settleAll (ρ ++ []) (xs ++ ys) = settleAll ρ xs ++ settleAll [] ys :=
    settleAll_append h
  have hnil : settleAll [] ys = [] := rfl
  rwa [List.append_nil, hnil, List.append_nil] at happend

theorem getElem?_settleAll {ρ : List Role} {bs : Bytes} {i : Nat} {role : Role}
    (h : ρ[i]? = some role) : (settleAll ρ bs)[i]? = bs[i]?.map role.settle := by
  rw [settleAll, List.getElem?_zipWith, h]
  cases bs[i]? <;> rfl

/-- Bytes that are written alike are alike where they are kept. -/
theorem not_kept_of_settleAll_eq {ρ : List Role} {xs ys : Bytes}
    (h : settleAll ρ xs = settleAll ρ ys) {i : Nat} (hi : xs[i]? ≠ ys[i]?) :
    ρ[i]? ≠ some kept := by
  intro hkept
  have hset : (settleAll ρ xs)[i]? = (settleAll ρ ys)[i]? := by rw [h]
  rw [getElem?_settleAll hkept, getElem?_settleAll hkept] at hset
  have hid : kept.settle = id := rfl
  rw [hid, Option.map_id, id, id] at hset
  exact hi hset

/-- Bytes that differ only where they are passed over are written alike. -/
theorem settleAll_congr {ρ : List Role} {xs ys : Bytes} (hx : ρ.length ≤ xs.length)
    (hy : ρ.length ≤ ys.length)
    (h : ∀ i, xs[i]? ≠ ys[i]? → ρ[i]? = some reserved ∨ ρ.length ≤ i) :
    settleAll ρ xs = settleAll ρ ys := by
  refine List.ext_getElem? fun i => ?_
  by_cases hi : i < ρ.length
  · have hrole : ρ[i]? = some ρ[i] := List.getElem?_eq_getElem hi
    rw [getElem?_settleAll hrole, getElem?_settleAll hrole]
    by_cases heq : xs[i]? = ys[i]?
    · rw [heq]
    · have hreserved : ρ[i] = reserved := by
        rcases h i heq with hr | hle
        · rw [hrole] at hr
          injection hr
        · omega
      rw [hreserved, List.getElem?_eq_getElem (Nat.lt_of_lt_of_le hi hx),
        List.getElem?_eq_getElem (Nat.lt_of_lt_of_le hi hy)]
      rfl
  · have hout (bs : Bytes) : (settleAll ρ bs)[i]? = none := by
      rw [settleAll, List.getElem?_zipWith, List.getElem?_eq_none (Nat.le_of_not_lt hi)]
    rw [hout, hout]

end Role

namespace Reader

variable {α β : Type} {ρ σ : List Role} {Q Q' : α → Bytes → Prop}

/-- `r` reads bytes with these roles: what it gives, it also gives of the settled bytes, and `Q`
holds of it and the bytes. -/
def Settles (r : Reader α) (ρ : List Role) (Q : α → Bytes → Prop) : Prop :=
  ∀ ⦃c c' : Cursor⦄ ⦃a : α⦄, EStateM.run r c = .ok a c' →
    ∃ bs, bs.length = ρ.length ∧ c.rest = bs ++ c'.rest ∧
      Takes r (Role.settleAll ρ bs) a ∧ Q a bs

theorem Settles.mono {r : Reader α} (h : Settles r ρ Q)
    (hQ : ∀ a bs, bs.length = ρ.length → Q a bs → Q' a bs) : Settles r ρ Q' := by
  intro c c' a hr
  obtain ⟨bs, hlen, hrest, htakes, hq⟩ := h hr
  exact ⟨bs, hlen, hrest, htakes, hQ a bs hlen hq⟩

theorem settles_pure {a : α} (h : Q a []) : Settles (pure a) [] Q := by
  intro c c' b hr
  injection hr with ha hc
  rw [← ha, ← hc]
  exact ⟨[], rfl, rfl, takes_pure a, h⟩

/-- Bytes that are read one part after the other. -/
theorem Settles.andThen {r : Reader α} {f : α → Reader β} {R : α → β → Bytes → Prop}
    (hr : Settles r ρ Q) (hf : ∀ a, Settles (f a) σ (R a)) :
    Settles (r >>= f) (ρ ++ σ) fun b bs =>
      ∃ a xs ys, bs = xs ++ ys ∧ xs.length = ρ.length ∧ Q a xs ∧ R a b ys := by
  intro c c' b h
  obtain ⟨a, t, ha, hb⟩ := run_bind_eq_ok.1 h
  obtain ⟨xs, hxs, hrest, hx, hq⟩ := hr ha
  obtain ⟨ys, hys, hrest', hy, hR⟩ := hf a hb
  refine ⟨xs ++ ys, ?_, ?_, ?_, a, xs, ys, rfl, hxs, hq, hR⟩
  · rw [List.length_append, List.length_append, hxs, hys]
  · rw [hrest, hrest', List.append_assoc]
  · rw [Role.settleAll_append hxs]
    exact hx.andThen hy

theorem Settles.giving {r : Reader α} (hr : Settles r ρ Q) (g : α → β) :
    Settles (do return g (← r)) ρ fun b bs => ∃ a, b = g a ∧ Q a bs := by
  intro c c' b h
  obtain ⟨a, t, ha, hb⟩ := run_bind_eq_ok.1 h
  injection hb with hb hc
  obtain ⟨bs, hlen, hrest, htakes, hq⟩ := hr ha
  rw [← hb, ← hc]
  exact ⟨bs, hlen, hrest, htakes.giving g, a, rfl, hq⟩

theorem settles_skip (n : Nat) (context : String) :
    Settles (skip n context) (List.replicate n .reserved)
      fun _ bs => Role.settleAll (List.replicate n .reserved) bs = Bytes.zeros n := by
  intro c c' a h
  obtain ⟨bs, hlen, hrest, -⟩ := spans_skip n context h
  have hzeros := Role.settleAll_reserved hlen
  refine ⟨bs, by rw [hlen, List.length_replicate], hrest, ?_, hzeros⟩
  rw [hzeros]
  exact takes_skip (Bytes.length_zeros n) context

/-- A number has all of its bytes. -/
theorem settles_word (w : Word) (context : String) :
    Settles (word w context) (List.replicate w.width .kept) fun v bs => bs = w.encode v := by
  intro c c' v h
  have hlen := w.length_encode v
  refine ⟨w.encode v, by rw [hlen, List.length_replicate], word_eq_ok h, ?_, rfl⟩
  rw [Role.settleAll_kept hlen]
  exact takes_word w v context

end Reader

/-! ## Layouts -/

/-- A family of fields with bytes of known roles. -/
class SettledFieldKind (κ : Type) [FieldKind κ] [LawfulFieldKind κ] where
  /-- What the bytes of a field are for. -/
  roles : κ → List Role
  /-- The bytes of a value.  A text that fills its field has them, too. -/
  image : (k : κ) → FieldKind.Val k → Bytes
  /-- If the field is a text, it ends within these bytes. -/
  Ends : κ → Bytes → Prop
  length_roles : ∀ k, (roles k).length = FieldKind.width k
  encode_eq : ∀ {k : κ} {name : String} {v : FieldKind.Val k} {bs : Bytes},
    FieldKind.encode k name v = .ok bs → bs = image k v
  settles_read : ∀ (k : κ) (name : String),
    Settles (FieldKind.read k name) (roles k) fun v bs =>
      Role.settleAll (roles k) bs = image k v ∧ (Ends k bs → LawfulFieldKind.Fits k v)

open SettledFieldKind

namespace Row

variable {κ : Type} [FieldKind κ] [LawfulFieldKind κ] [SettledFieldKind κ]

def roles : List (Slot κ) → List Role
  | [] => []
  | .gap n :: slots => List.replicate n .reserved ++ roles slots
  | .field _ k :: slots => SettledFieldKind.roles k ++ roles slots
  | .optional _ k _ :: slots => SettledFieldKind.roles k ++ roles slots

/-- The bytes of a row, whether or not all of it can be written. -/
def image : (slots : List (Slot κ)) → Row slots → Bytes
  | [], _ => []
  | .gap n :: slots, row => Bytes.zeros n ++ image slots row
  | .field _ k :: slots, (v, row) => SettledFieldKind.image k v ++ image slots row
  | .optional _ k _ :: slots, (v, row) => SettledFieldKind.image k v ++ image slots row

/-- Every text among these bytes ends within its field. -/
def TextsEnd : List (Slot κ) → Bytes → Prop
  | [], _ => True
  | .gap n :: slots, bs => TextsEnd slots (bs.drop n)
  | .field _ k :: slots, bs =>
    Ends k (bs.take (FieldKind.width k)) ∧ TextsEnd slots (bs.drop (FieldKind.width k))
  | .optional _ k _ :: slots, bs =>
    Ends k (bs.take (FieldKind.width k)) ∧ TextsEnd slots (bs.drop (FieldKind.width k))

theorem length_roles (slots : List (Slot κ)) : (roles slots).length = width slots := by
  induction slots with
  | nil => rfl
  | cons slot slots ih =>
    cases slot with
    | gap n => rw [roles, List.length_append, List.length_replicate, ih]; rfl
    | field name k => rw [roles, List.length_append, SettledFieldKind.length_roles, ih]; rfl
    | optional name k unset =>
      rw [roles, List.length_append, SettledFieldKind.length_roles, ih]; rfl

theorem encode_eq_image {slots : List (Slot κ)} {row : Row slots} {bs : Bytes}
    (h : encode slots row = .ok bs) : bs = image slots row := by
  induction slots generalizing bs with
  | nil =>
    injection h with h
    exact h.symm
  | cons slot slots ih =>
    cases slot with
    | gap n =>
      obtain ⟨ys, hy, hbs⟩ := bind_eq_ok.1 h
      injection hbs with hbs
      rw [← hbs, ih hy]
      rfl
    | field name k =>
      obtain ⟨xs, ys, hx, hy, rfl⟩ := append_eq_ok.1 h
      rw [encode_eq hx, ih hy]
      rfl
    | optional name k unset =>
      obtain ⟨xs, ys, hx, hy, rfl⟩ := append_eq_ok.1 h
      rw [encode_eq hx, ih hy]
      rfl

/-- A row keeps all of the bytes that it is read from, but for what their roles let go. -/
theorem settles_read (slots : List (Slot κ)) :
    Settles (read slots) (roles slots) fun row bs =>
      Role.settleAll (roles slots) bs = image slots row ∧
        (TextsEnd slots bs → Forall LawfulFieldKind.Fits slots row) := by
  induction slots with
  | nil => exact settles_pure ⟨rfl, fun _ => trivial⟩
  | cons slot slots ih =>
    have value (k : κ) (name : String) : Settles
        (do let v ← FieldKind.read k name; return (v, ← read slots))
        (SettledFieldKind.roles k ++ roles slots) fun row bs =>
          Role.settleAll (SettledFieldKind.roles k ++ roles slots) bs =
              SettledFieldKind.image k row.1 ++ image slots row.2 ∧
            (Ends k (bs.take (FieldKind.width k)) ∧
                TextsEnd slots (bs.drop (FieldKind.width k)) →
              LawfulFieldKind.Fits k row.1 ∧ Forall LawfulFieldKind.Fits slots row.2) := by
      refine ((SettledFieldKind.settles_read k name).andThen fun v => ih.giving (v, ·)).mono ?_
      rintro _ _ - ⟨v, xs, ys, rfl, hxs, ⟨himage, hfits⟩, row, rfl, himages, hall⟩
      refine ⟨?_, fun ⟨hends, hmore⟩ => ⟨hfits ?_, hall ?_⟩⟩
      · rw [Role.settleAll_append hxs, himage, himages]
      · rwa [← SettledFieldKind.length_roles k, ← hxs, List.take_left] at hends
      · rwa [← SettledFieldKind.length_roles k, ← hxs, List.drop_left] at hmore
    cases slot with
    | gap n =>
      refine ((settles_skip n "reserved").andThen fun _ => ih).mono ?_
      rintro row _ - ⟨_, xs, ys, rfl, hxs, hzeros, himage, hends⟩
      rw [List.length_replicate] at hxs
      refine ⟨?_, fun h => hends ?_⟩
      · rw [roles, Role.settleAll_append (by rw [hxs, List.length_replicate]), hzeros, himage]
        rfl
      · have h : TextsEnd slots ((xs ++ ys).drop n) := h
        rwa [← hxs, List.drop_left] at h
    | field name k => exact value k name
    | optional name k unset => exact value k name

end Row

/-! ## Numbers, levels and texts -/

/-- Every byte of a number is kept, but that of a truth value. -/
def Scalar.roles : Scalar → List Role
  | .flag => [.flag]
  | s => List.replicate s.carrier.width .kept

theorem Scalar.settles_read (s : Scalar) (name : String) :
    Settles (FieldKind.read s name) s.roles fun v bs =>
      Role.settleAll s.roles bs = s.carrier.encode (s.toWord v) := by
  have hword := (settles_word s.carrier name).giving s.ofWord
  have hkept (hroles : s.roles = List.replicate s.carrier.width .kept)
      (hback : ∀ w, s.toWord (s.ofWord w) = w) : Settles (FieldKind.read s name) s.roles fun v bs =>
        Role.settleAll s.roles bs = s.carrier.encode (s.toWord v) := by
    rw [hroles]
    refine hword.mono ?_
    rintro _ bs hlen ⟨w, rfl, rfl⟩
    rw [List.length_replicate] at hlen
    rw [Role.settleAll_kept hlen, hback]
  cases s with
  | flag =>
    intro c c' v h
    obtain ⟨bs, hlen, hrest, -, w, rfl, rfl⟩ := hword h
    have hset (b : UInt8) : Role.settleAll Scalar.flag.roles (Word.u8.encode b) =
        Word.u8.encode (Scalar.byteOfFlag (Scalar.flagOfByte b)) := by
      rw [Word.encode_u8, Word.encode_u8]
      rfl
    refine ⟨Word.u8.encode w, hlen, hrest, ?_, hset w⟩
    rw [hset w]
    exact LawfulFieldKind.takes_read (k := Scalar.flag) rfl trivial
  | _ => exact hkept rfl fun _ => rfl

instance : SettledFieldKind Scalar where
  roles := Scalar.roles
  image s v := s.carrier.encode (s.toWord v)
  Ends _ _ := True
  length_roles s := by
    cases s with
    | flag => rfl
    | _ => exact List.length_replicate
  encode_eq h := by
    injection h with h
    exact h.symm
  settles_read s name := (s.settles_read name).mono fun _ _ _ h => ⟨h, fun _ => trivial⟩

namespace LevelKind

def roles (k : LevelKind) : List Role := Row.roles k.slots

def image (k : LevelKind) (v : k.Val) : Bytes := Row.image k.slots (k.toRow v)

theorem length_roles (k : LevelKind) : k.roles.length = 32 := by
  rw [roles, Row.length_roles, width_slots]

theorem encodeAll_eq_image {k : LevelKind} {vs : List k.Val} {bs : Bytes}
    (h : k.encodeAll vs = .ok bs) : bs = vs.flatMap k.image := by
  induction vs generalizing bs with
  | nil =>
    injection h with h
    exact h.symm
  | cons v vs ih =>
    obtain ⟨xs, ys, hx, hy, rfl⟩ := append_eq_ok.1 h
    rw [Row.encode_eq_image hx, ih hy]
    rfl

theorem settles_read (k : LevelKind) :
    Settles k.read k.roles fun v bs => Role.settleAll k.roles bs = k.image v := by
  refine ((Row.settles_read k.slots).giving k.ofRow).mono ?_
  rintro _ bs - ⟨row, rfl, hrow, -⟩
  rw [image, toRow_ofRow]
  exact hrow

theorem settles_readAll (k : LevelKind) (n : Nat) :
    Settles (k.readAll n) (List.replicate n k.roles).flatten fun vs bs =>
      Role.settleAll (List.replicate n k.roles).flatten bs = vs.toList.flatMap k.image := by
  induction n with
  | zero => exact settles_pure rfl
  | succ n ih =>
    have hflat : (List.replicate (n + 1) k.roles).flatten =
        (List.replicate n k.roles).flatten ++ k.roles := by
      rw [List.replicate_succ', List.flatten_append, List.flatten_singleton]
    rw [hflat]
    refine (ih.andThen fun us => k.settles_read.giving us.push).mono ?_
    rintro _ _ - ⟨us, xs, ys, rfl, hxs, hus, v, rfl, hv⟩
    rw [Role.settleAll_append hxs, hus, hv, Vector.toList_push, List.flatMap_append,
      List.flatMap_singleton]

end LevelKind

namespace Field

def roles : Field → List Role
  | scalar s => s.roles
  | text n => List.replicate n .kept
  | levels k n => (List.replicate n k.roles).flatten

def image : (f : Field) → f.Val → Bytes
  | scalar s, v => s.carrier.encode (s.toWord v)
  | text n, s => Bytes.ofString s ++ Bytes.zeros (n - (Bytes.ofString s).length)
  | levels k _, v => (Vector.toList v).flatMap k.image

/-- A text ends at its first zero. -/
def Ends : Field → Bytes → Prop
  | text _, bs => 0 ∈ bs
  | _, _ => True

theorem settles_text (n : Nat) (name : String) :
    Settles (Reader.text n name) (List.replicate n .kept) fun s bs =>
      Role.settleAll (List.replicate n .kept) bs = image (.text n) s ∧
        (0 ∈ bs → (Bytes.ofString s).length < n) := by
  intro c c' s h
  obtain ⟨start, t, hstart, h⟩ := run_bind_eq_ok.1 h
  injection hstart with _ hc
  rw [← hc] at h
  obtain ⟨bs, u, hbs, h⟩ := run_bind_eq_ok.1 h
  obtain ⟨hrest, hlen⟩ := take_eq_ok hbs
  split at h
  · rename_i s' hdecode
    injection h with hs hu
    rw [hs] at hdecode
    rw [← hu]
    have hkept := Role.settleAll_kept hlen
    have hfill := PaddedText.eq_of_decode hdecode
    refine ⟨bs, by rw [hlen, List.length_replicate], hrest, ?_, ?_, fun hzero => ?_⟩
    · rw [hkept]
      exact takes_field hlen (PaddedText.decode_anywhere hdecode)
    · rw [hkept, image, ← hlen]
      exact hfill
    · -- A full field has no byte but those of its text, and none of these is zero.
      have hle := PaddedText.length_le_of_decode hdecode
      have hne : (Bytes.ofString s).length ≠ bs.length := by
        intro heq
        rw [heq, Nat.sub_self, Bytes.zeros, List.replicate_zero, List.append_nil] at hfill
        rw [hfill] at hzero
        exact Bytes.zero_not_mem_ofString (PaddedText.zeroFree_of_decode hdecode) hzero
      omega
  · injection h

end Field

instance : SettledFieldKind Field where
  roles := Field.roles
  image := Field.image
  Ends := Field.Ends
  length_roles f := by
    cases f with
    | scalar s => exact SettledFieldKind.length_roles s
    | text n => exact List.length_replicate
    | levels k n =>
      show (List.replicate n k.roles).flatten.length = 32 * n
      rw [List.length_flatten, List.map_replicate, List.sum_replicate_nat, k.length_roles]
      exact Nat.mul_comm n 32
  encode_eq {f name v bs} h := by
    cases f with
    | scalar s =>
      have h : FieldKind.encode s name v = .ok bs := h
      exact SettledFieldKind.encode_eq h
    | text n =>
      have h : PaddedText.encode name n v = .ok bs := h
      rw [PaddedText.encode] at h
      split at h
      · injection h with h
        exact h.symm
      · cases h
    | levels k n => exact LevelKind.encodeAll_eq_image h
  settles_read f name := by
    cases f with
    | scalar s => exact SettledFieldKind.settles_read s name
    | text n => exact Field.settles_text n name
    | levels k n => exact (k.settles_readAll n).mono fun _ _ _ h => ⟨h, fun _ => trivial⟩

instance Field.decidableEnds : (f : Field) → (bs : Bytes) → Decidable (f.Ends bs)
  | .scalar _, _ => .isTrue trivial
  | .text _, bs => inferInstanceAs (Decidable (0 ∈ bs))
  | .levels _ _, _ => .isTrue trivial

instance Row.decidableTextsEnd : (slots : Layout) → (bs : Bytes) → Decidable (TextsEnd slots bs)
  | [], _ => .isTrue trivial
  | .gap n :: slots, bs => decidableTextsEnd slots (bs.drop n)
  | .field _ f :: slots, bs =>
    @instDecidableAnd _ _ (f.decidableEnds (bs.take f.width))
      (decidableTextsEnd slots (bs.drop f.width))
  | .optional _ f _ :: slots, bs =>
    @instDecidableAnd _ _ (f.decidableEnds (bs.take f.width))
      (decidableTextsEnd slots (bs.drop f.width))

end TickStream
