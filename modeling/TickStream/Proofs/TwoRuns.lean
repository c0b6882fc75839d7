import TickStream.Proofs.Step
import TickStream.Scan.Phase
/-
Two runs of one step from two states.  A step respects a relation of states if it gives the same
value or the same failure from both, and if the states it leaves are in a relation again.  What
a sequence of steps respects comes from its steps, and what a loop respects from one turn.
-/
namespace TickStream
namespace Step

variable {ε σ α β : Type} {P Q R E F : σ → σ → Prop}

/-- The same value and states in `Q`, or the same failure and states in `E`. -/
inductive Agree (Q E : σ → σ → Prop) : EStateM.Result ε σ α → EStateM.Result ε σ α → Prop where
  | ok {a : α} {s t : σ} (h : Q s t) : Agree Q E (.ok a s) (.ok a t)
  | error {e : ε} {s t : σ} (h : E s t) : Agree Q E (.error e s) (.error e t)

/-- From states in `P` the step agrees with itself. -/
def Respects (P Q E : σ → σ → Prop) (x : EStateM ε σ α) : Prop :=
  ∀ s t, P s t → Agree Q E (EStateM.run x s) (EStateM.run x t)

theorem Agree.mono {x y : EStateM.Result ε σ α} (h : Agree Q E x y)
    (hok : ∀ s t, Q s t → R s t) (herror : ∀ s t, E s t → F s t) : Agree R F x y := by
  cases h with
  | ok h => exact .ok (hok _ _ h)
  | error h => exact .error (herror _ _ h)

theorem Respects.mono {x : EStateM ε σ α} (h : Respects P Q E x)
    (hok : ∀ s t, Q s t → R s t) (herror : ∀ s t, E s t → F s t) : Respects P R F x :=
  fun s t hst => (h s t hst).mono hok herror

theorem Respects.of_pre {x : EStateM ε σ α} (h : Respects Q R E x)
    (hpre : ∀ s t, P s t → Q s t) : Respects P R E x :=
  fun s t hst => h s t (hpre s t hst)

theorem respects_pure (a : α) : Respects P P E (pure a : EStateM ε σ α) :=
  fun _ _ h => .ok h

theorem respects_throw (e : ε) : Respects P Q P (throw e : EStateM ε σ α) :=
  fun _ _ h => .error h

theorem respects_modify {g : σ → σ} (h : ∀ s t, P s t → Q (g s) (g t)) :
    Respects P Q E (modify g : EStateM ε σ PUnit) :=
  fun s t hst => .ok (h s t hst)

theorem respects_ofExcept (x : Except ε α) : Respects P P P (ofExcept x : EStateM ε σ α) := by
  intro s t h
  cases x with
  | ok a => exact .ok h
  | error e => exact .error h

theorem Respects.bind {x : EStateM ε σ α} {f : α → EStateM ε σ β} (hx : Respects P Q E x)
    (hf : ∀ a, Respects Q R E (f a)) : Respects P R E (x >>= f) := by
  intro s t h
  have first := hx s t h
  rw [EStateM.run_bind, EStateM.run_bind]
  generalize EStateM.run x s = out at first
  generalize EStateM.run x t = out' at first
  cases first with
  | ok hst => exact hf _ _ _ hst
  | error hst => exact .error hst

/-- A step may look at the state if it goes on in the same way from both states. -/
theorem respects_get_bind {f : σ → EStateM ε σ β} (h : ∀ s t, P s t → f s = f t)
    (hf : ∀ s, Respects P R E (f s)) : Respects P R E (get >>= f) := by
  intro s t hst
  show Agree R E (EStateM.run (f s) s) (EStateM.run (f t) t)
  rw [← h s t hst]
  exact hf s s t hst

theorem Respects.ite {p : Prop} [Decidable p] {x y : EStateM ε σ α} (hx : Respects P Q E x)
    (hy : Respects P Q E y) : Respects P Q E (if p then x else y) := by
  by_cases hp : p
  · rw [if_pos hp]
    exact hx
  · rw [if_neg hp]
    exact hy

/-! ## Functions that give a value and a state -/

/-- The value or the failure of a step, and the state it leaves. -/
def outcome (x : EStateM ε σ α) (s : σ) : Except ε α × σ :=
  match EStateM.run x s with
  | .ok a t => (.ok a, t)
  | .error e t => (.error e, t)

theorem run_of_outcome {x : EStateM ε σ α} {s : σ} {a : α} (h : (outcome x s).1 = .ok a) :
    EStateM.run x s = .ok a (outcome x s).2 := by
  unfold outcome at h ⊢
  cases hr : EStateM.run x s with
  | ok b t =>
    rw [hr] at h
    injection h with h
    rw [h]
  | error e t =>
    rw [hr] at h
    cases h

theorem run_of_outcome_error {x : EStateM ε σ α} {s : σ} {e : ε}
    (h : (outcome x s).1 = .error e) : EStateM.run x s = .error e (outcome x s).2 := by
  unfold outcome at h ⊢
  cases hr : EStateM.run x s with
  | ok a t =>
    rw [hr] at h
    cases h
  | error e' t =>
    rw [hr] at h
    injection h with h
    rw [h]

/-- From states in `P` the function gives the same value, and states in `P` again. -/
def Keeps (P : σ → σ → Prop) (f : σ → β × σ) : Prop :=
  ∀ s t, P s t → (f s).1 = (f t).1 ∧ P (f s).2 (f t).2

theorem Respects.outcome {x : EStateM ε σ α} (h : Respects P P P x) : Keeps P (outcome x) := by
  intro s t hst
  have run := h s t hst
  rw [Step.outcome, Step.outcome]
  generalize EStateM.run x s = out at run
  generalize EStateM.run x t = out' at run
  cases run with
  | ok hst => exact ⟨rfl, hst⟩
  | error hst => exact ⟨rfl, hst⟩

theorem Keeps.map {γ : Type} {f : σ → β × σ} (h : Keeps P f) (g : β → γ) :
    Keeps P fun s => (g (f s).1, (f s).2) :=
  fun s t hst => ⟨congrArg g (h s t hst).1, (h s t hst).2⟩

def trace {ω : Type} (perform : ω → σ → β × σ) : List ω → σ → List β
  | [], _ => []
  | op :: ops, s => (perform op s).1 :: trace perform ops (perform op s).2

/-- Sequences of operations give the same if single ones do, of states in a relation that lasts. -/
theorem trace_eq_of {τ ω : Type} {K : σ → τ → Prop} {f : ω → σ → β × σ} {g : ω → τ → β × τ}
    (h : ∀ op s t, K s t → (f op s).1 = (g op t).1 ∧ K (f op s).2 (g op t).2) (ops : List ω)
    {s : σ} {t : τ} (hst : K s t) : trace f ops s = trace g ops t := by
  induction ops generalizing s t with
  | nil => rfl
  | cons op ops ih =>
    obtain ⟨hvalue, hstates⟩ := h op s t hst
    rw [trace, trace, hvalue, ih hstates]

theorem trace_eq {ω : Type} {perform : ω → σ → β × σ} (h : ∀ op, Keeps P (perform op))
    (ops : List ω) {s t : σ} (hst : P s t) : trace perform ops s = trace perform ops t :=
  trace_eq_of h ops hst

end Step

namespace Scan

open Step

variable {σ α : Type} {P : σ → σ → Prop} {next : EStateM Error σ (Option α)}

theorem keeps_results (h : Respects P P P next) (n : Nat) : Keeps P (results next n) := by
  induction n with
  | zero => exact fun _ _ hst => ⟨rfl, hst⟩
  | succ n ih =>
    intro s t hst
    have turn := h s t hst
    rw [results_succ, results_succ]
    generalize EStateM.run next s = out at turn
    generalize EStateM.run next t = out' at turn
    cases turn with
    | error hst => exact ⟨rfl, hst⟩
    | @ok a s t hst =>
      cases a with
      | none => exact ⟨rfl, hst⟩
      | some a =>
        obtain ⟨hmore, hstates⟩ := ih s t hst
        exact ⟨congrArg (Except.ok a :: ·) hmore, hstates⟩

theorem run_collect (next : EStateM Error σ (Option α)) (n : Nat) (s : σ) :
    EStateM.run (collect next n) s = match (results next n s).1.mapM id with
      | .ok as => .ok as (results next n s).2
      | .error e => .error e (results next n s).2 := rfl

/-- A failure of the first turn takes the place of everything. -/
theorem run_collect_error {s t : σ} {e : Error} (h : EStateM.run next s = .error e t) (n : Nat) :
    EStateM.run (collect next (n + 1)) s = .error e t := by
  have hresults : results next (n + 1) s = ([.error e], t) := by
    rw [results_succ, h]
  rw [run_collect, hresults]
  rfl

theorem respects_collect (h : Respects P P P next) (n : Nat) :
    Respects P P P (collect next n) := by
  intro s t hst
  obtain ⟨hvalues, hstates⟩ := keeps_results h n s t hst
  rw [run_collect, run_collect, ← hvalues]
  cases List.mapM id (results next n s).1 with
  | ok as => exact .ok hstates
  | error e => exact .error hstates

end Scan
end TickStream
