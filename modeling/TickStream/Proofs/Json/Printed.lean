import TickStream.Json.Printer
import TickStream.Proofs.Json.Grammar
/-
The compact text of a value is one of its texts, if its numbers are integers.
-/
namespace TickStream
namespace Json

/-! ## Strings -/

theorem hexDigit?_digitChar {d : Nat} (h : d < 16) : hexDigit? (Nat.digitChar d) = some d := by
  have hall : ∀ e : Fin 16, hexDigit? (Nat.digitChar e) = some e.val := by decide
  exact hall ⟨d, h⟩

theorem spells_escapeChar (c : Char) : SpellsChar c (escapeChar c) := by
  unfold escapeChar
  split
  · exact .letter rfl
  · exact .letter rfl
  · exact .letter rfl
  · exact .letter rfl
  · exact .letter rfl
  · exact .letter rfl
  · exact .letter rfl
  · rename_i quote backslash _ _ _ _ _
    split
    · rename_i hcontrol
      have hhex : SpellsHex c.toNat
          ['0', '0', Nat.digitChar (c.toNat / 16), Nat.digitChar (c.toNat % 16)] := by
        refine ⟨_, _, _, _, 0, 0, _, _, rfl, rfl, rfl, hexDigit?_digitChar (by omega),
          hexDigit?_digitChar (by omega), by omega⟩
      have hchar : SpellsChar (Char.ofNat c.toNat) ('\\' :: 'u' ::
          ['0', '0', Nat.digitChar (c.toNat / 16), Nat.digitChar (c.toNat % 16)]) := by
        refine .numbered hhex ?_ ?_
        · rw [isLowSurrogate, Bool.and_eq_false_iff, decide_eq_false_iff_not]
          omega
        · rw [isHighSurrogate, Bool.and_eq_false_iff, decide_eq_false_iff_not]
          omega
      rwa [Char.ofNat_toNat] at hchar
    · rename_i hcontrol
      exact .plain quote backslash (Nat.le_of_not_lt hcontrol)

theorem spells_flatMap (s : List Char) : SpellsChars s (s.flatMap escapeChar) := by
  induction s with
  | nil => exact .nil
  | cons c s ih =>
    rw [List.flatMap_cons]
    exact .cons (spells_escapeChar c) ih

theorem spells_renderString (s : String) : SpellsString s (renderString s) :=
  ⟨_, spells_flatMap s.toList, rfl⟩

/-! ## Values -/

mutual
/-- All numbers of a value are integers, and only those below zero are written with a sign. -/
def Integral : Json → Prop
  | number (.real _) => False
  | number (.negative n) => n < 0
  | array vs => IntegralItems vs
  | object ms => IntegralMembers ms
  | _ => True

def IntegralItems : List Json → Prop
  | [] => True
  | v :: vs => v.Integral ∧ IntegralItems vs

def IntegralMembers : List (String × Json) → Prop
  | [] => True
  | (_, v) :: ms => v.Integral ∧ IntegralMembers ms
end

theorem gap_nil : Gap [] := fun _ h => absurd h List.not_mem_nil

theorem Spells.unspaced {v : Json} {cs : List Char} (h : Spells (.value v) cs) :
    Spells (.spaced v) cs := by
  have hs := Spells.spaced gap_nil gap_nil h
  rwa [List.nil_append, List.append_nil] at hs

theorem Spells.plainMember {k : String} {v : Json} {cs : List Char} (h : Spells (.value v) cs) :
    Spells (.member k v) (renderString k ++ ':' :: cs) :=
  .member gap_nil gap_nil (spells_renderString k) h.unspaced

mutual
theorem spells_render : (v : Json) → v.Integral → Spells (.value v) (render v)
  | null, _ => .null
  | bool true, _ => .true
  | bool false, _ => .false
  | number (.natural _), _ => .natural _
  | number (.negative _), h => .negative h
  | number (.real _), h => h.elim
  | string s, _ => .string (spells_renderString s)
  | array [], _ => .emptyArray gap_nil
  | array (v :: vs), h => .array (spells_renderItems (v :: vs) (List.cons_ne_nil v vs) h)
  | object [], _ => .emptyObject gap_nil
  | object (m :: ms), h => .object (spells_renderMembers (m :: ms) (List.cons_ne_nil m ms) h)

theorem spells_renderItems : (vs : List Json) → vs ≠ [] → IntegralItems vs →
    Spells (.items vs) (renderItems vs)
  | [], hne, _ => absurd rfl hne
  | [v], _, h => .lastItem (spells_render v h.1).unspaced
  | v :: w :: vs, _, h =>
    .moreItems (spells_render v h.1).unspaced
      (spells_renderItems (w :: vs) (List.cons_ne_nil w vs) h.2)

theorem spells_renderMembers : (ms : List (String × Json)) → ms ≠ [] → IntegralMembers ms →
    Spells (.members ms) (renderMembers ms)
  | [], hne, _ => absurd rfl hne
  | [(k, v)], _, h => .lastMember (spells_render v h.1).plainMember
  | (k, v) :: m :: ms, _, h => by
    have hs := Spells.moreMembers (spells_render v h.1).plainMember
      (spells_renderMembers (m :: ms) (List.cons_ne_nil m ms) h.2) (k := k)
    rwa [List.append_assoc, List.cons_append] at hs
end

theorem spells_compact {v : Json} (h : v.Integral) : Spells (.spaced v) v.compact.toList := by
  rw [compact, String.toList_ofList]
  exact (spells_render v h).unspaced

end Json
end TickStream
