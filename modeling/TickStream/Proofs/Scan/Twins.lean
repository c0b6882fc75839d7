import TickStream.Proofs.Bytes.Reading
/-
Two scanners whose sources hand out the same bytes in pieces of their own.  As long as they read
on, the sources are alike.  A failure of the stream can leave the sources at different places,
but a scanner that has failed reads no more.
-/
namespace TickStream

open Step

/-- What reads a source, and stops for good when it fails. -/
class Scanner (σ : Type) where
  source : σ → Source
  onto : σ → Source → σ
  phase : σ → Scan.Phase
  source_onto : ∀ s u, source (onto s u) = u
  phase_onto : ∀ s u, phase (onto s u) = phase s

namespace Scan

variable {σ α : Type} [Scanner σ] {s t : σ}

open Scanner

/-- The scanners differ in their sources at most. -/
inductive Twins (s : σ) : σ → Prop where
  | mk (u : Source) : Twins s (onto s u)

/-- The scanners differ in how their sources cut the same bytes at most. -/
inductive Alike (s : σ) : σ → Prop where
  | mk {u : Source} (h : (source s).Alike u) : Alike s (onto s u)

/-- The scanners have failed, and differ in what is left of their sources at most. -/
inductive Spent (s : σ) : σ → Prop where
  | mk {u : Source} (h : phase s = .failed) : Spent s (onto s u)

/-- The scanners are alike, or both have failed. -/
inductive Matches (s t : σ) : Prop where
  | alike (h : Alike s t)
  | spent (h : Spent s t)

theorem Alike.twins (h : Alike s t) : Twins s t := by
  cases h
  exact ⟨_⟩

theorem Matches.twins (h : Matches s t) : Twins s t := by
  cases h with
  | alike h => exact h.twins
  | spent h =>
    cases h
    exact ⟨_⟩

theorem Spent.failed (h : Spent s t) : phase s = .failed ∧ phase t = .failed := by
  cases h with
  | mk h => exact ⟨h, (phase_onto s _).trans h⟩

/-! ## Steps -/

variable {step : EStateM Error σ α}

theorem respects_throw_twins (e : Error) :
    Respects Alike Alike Twins (throw e : EStateM Error σ α) :=
  (respects_throw e).mono (fun _ _ h => h) fun _ _ h => h.twins

theorem respects_ofExcept_twins (x : Except Error α) :
    Respects Alike Alike Twins (ofExcept x : EStateM Error σ α) :=
  (respects_ofExcept x).mono (fun _ _ h => h) fun _ _ h => h.twins

/-- A step has two cases: it reads on, or it is refused by scanners that have failed. -/
theorem respects_matches (h : Respects Alike Alike Matches step)
    (hspent : Respects Spent Spent Spent step) : Respects Matches Matches Matches step := by
  intro s t hst
  cases hst with
  | alike hst => exact (h s t hst).mono (fun _ _ => .alike) fun _ _ h => h
  | spent hst => exact (hspent s t hst).mono (fun _ _ => .spent) fun _ _ => .spent

/-- A step that scanners refuse once they have failed. -/
def Refused (step : EStateM Error σ α) : Prop :=
  ∀ s : σ, phase s = .failed → EStateM.run step s = .error .scannerFailed s

theorem Refused.respects (h : Refused step) : Respects Spent Spent Spent step := by
  intro s t hst
  obtain ⟨hs, ht⟩ := hst.failed
  rw [h s hs, h t ht]
  exact .error hst

/-- A step whose failure is final leaves nothing to tell the scanners apart by. -/
theorem respects_final {P Q : σ → σ → Prop} {final : EStateM Error σ α} (fail : σ → σ)
    (hrun : ∀ s, EStateM.run final s = match EStateM.run step s with
      | .ok a t => .ok a t
      | .error e t => .error e (fail t))
    (hfail : ∀ s t, Twins s t → Spent (fail s) (fail t)) (h : Respects P Q Twins step) :
    Respects P Q Spent final := by
  intro s t hst
  have hstep := h s t hst
  rw [hrun, hrun]
  generalize EStateM.run step s = out at hstep
  generalize EStateM.run step t = out' at hstep
  cases hstep with
  | ok h => exact .ok h
  | error h => exact .error (hfail _ _ h)

/-- An advance, and then what it came to is decoded. -/
theorem respects_advance_decode {advance : EStateM Error σ Bool}
    {guarded : EStateM Error σ α → EStateM Error σ α} {decode : σ → Except Error α}
    (hadvance : Respects Matches Matches Matches advance)
    (hguarded : ∀ step, Respects Matches Matches Twins step →
      Respects Matches Matches Spent (guarded step))
    (hdecode : ∀ s t, Twins s t → decode s = decode t) :
    Respects Matches Matches Matches (do
      if ← advance then
        let s ← get
        return some (← guarded (ofExcept (decode s)))
      else return none) := by
  refine hadvance.bind fun more => Respects.ite ?_ (respects_pure none)
  refine respects_get_bind (fun s t h => by rw [hdecode s t h.twins]) fun s => ?_
  have hx : Respects Matches Matches Twins (ofExcept (decode s) : EStateM Error σ α) :=
    (respects_ofExcept _).mono (fun _ _ h => h) fun _ _ => Matches.twins
  have hstep := (hguarded _ hx).mono (fun _ _ h => h) fun _ _ => Matches.spent
  exact hstep.bind fun a => respects_pure _

/-- Everything that is left is read in as many turns from both scanners. -/
theorem respects_collect_all {next : EStateM Error σ (Option α)}
    (h : Respects Matches Matches Matches next) (hrefused : Refused next) {bound : σ → Nat}
    (hbound : ∀ s : σ, bound s = (source s).size + 1) :
    Respects Matches Matches Matches (do collect next (bound (← get))) := by
  have hcollect := respects_collect h
  intro s t hst
  cases hst with
  | alike hst =>
    have hturns : ∀ s t : σ, Alike s t → bound s = bound t := by
      rintro s _ ⟨hsource⟩
      rw [hbound, hbound, source_onto, hsource.size_eq]
    refine respects_get_bind (fun s t hst => ?_) (fun s => ?_) s t hst
    · rw [hturns s t hst]
    · exact (hcollect (bound s)).of_pre fun _ _ => .alike
  | spent hst =>
    have hfailed : Refused (do collect next (bound (← get))) := by
      intro s hs
      show EStateM.run (collect next (bound s)) s = _
      rw [hbound]
      exact run_collect_error (hrefused s hs) _
    exact (hfailed.respects s t hst).mono (fun _ _ => .spent) fun _ _ => .spent

/-! ## What is told of a scanner -/

theorem keeps_query {β : Type} {g : σ → β} (h : ∀ s t, Twins s t → g s = g t) :
    Keeps Matches fun s => (g s, s) :=
  fun s t hst => ⟨h s t hst.twins, hst⟩

theorem keeps_counted {β γ : Type} {f : σ → β × σ} {count : σ → γ} (hf : Keeps Matches f)
    (hcount : ∀ s t, Twins s t → count s = count t) :
    Keeps Matches fun s => (((f s).1, count (f s).2), (f s).2) := by
  intro s t hst
  obtain ⟨hvalue, hstates⟩ := hf s t hst
  exact ⟨Prod.ext hvalue (hcount _ _ hstates.twins), hstates⟩

end Scan
end TickStream
