import TickStream.Proofs.Step
/-
One run of a step from one state.  A step ensures a property of the values that it gives, and one
of its failures, each with the state that it leaves.  What a sequence of steps ensures comes from
its steps; of the failures it is enough to say once what holds of all of them.
-/
namespace TickStream
namespace Step

variable {ε σ α β : Type} {s t : σ} {a : α} {e : ε} {Q Q' : α → σ → Prop} {R : β → σ → Prop}
  {E F : ε → σ → Prop}

/-- The run gave a value with `Q`, or failed with `E`. -/
inductive EndsIn (Q : α → σ → Prop) (E : ε → σ → Prop) : EStateM.Result ε σ α → Prop where
  | ok {a : α} {s : σ} (h : Q a s) : EndsIn Q E (.ok a s)
  | error {e : ε} {s : σ} (h : E e s) : EndsIn Q E (.error e s)

/-- From `s` the step gives a value with `Q`, or fails with `E`. -/
def Ensures (s : σ) (x : EStateM ε σ α) (Q : α → σ → Prop) (E : ε → σ → Prop) : Prop :=
  EndsIn Q E (EStateM.run x s)

section
variable {x : EStateM ε σ α}

theorem ensures_of_ok (hr : EStateM.run x s = .ok a t) (h : Q a t) : Ensures s x Q E := by
  rw [Ensures, hr]
  exact .ok h

theorem ensures_of_error (hr : EStateM.run x s = .error e t) (h : E e t) : Ensures s x Q E := by
  rw [Ensures, hr]
  exact .error h

theorem Ensures.of_ok (h : Ensures s x Q E) (hr : EStateM.run x s = .ok a t) : Q a t := by
  rw [Ensures, hr] at h
  cases h with
  | ok h => exact h

theorem Ensures.of_error (h : Ensures s x Q E) (hr : EStateM.run x s = .error e t) : E e t := by
  rw [Ensures, hr] at h
  cases h with
  | error h => exact h

theorem Ensures.mono (h : Ensures s x Q E) (hok : ∀ a t, Q a t → Q' a t)
    (herror : ∀ e t, E e t → F e t) : Ensures s x Q' F := by
  cases hr : EStateM.run x s with
  | ok a t => exact ensures_of_ok hr (hok a t (h.of_ok hr))
  | error e t => exact ensures_of_error hr (herror e t (h.of_error hr))

theorem Ensures.bind {f : α → EStateM ε σ β} (hx : Ensures s x Q E)
    (herror : ∀ e t, E e t → F e t) (hf : ∀ a t, Q a t → Ensures t (f a) R F) :
    Ensures s (x >>= f) R F := by
  cases hr : EStateM.run x s with
  | ok a t =>
    rw [Ensures, bind_ok hr]
    exact hf a t (hx.of_ok hr)
  | error e t => exact ensures_of_error (bind_error hr) (herror e t (hx.of_error hr))

/-- Two steps that fail in one way. -/
theorem Ensures.andThen {f : α → EStateM ε σ β} (hx : Ensures s x Q E)
    (hf : ∀ a t, Q a t → Ensures t (f a) R E) : Ensures s (x >>= f) R E :=
  hx.bind (fun _ _ he => he) hf

end

theorem ensures_pure (h : Q a s) : Ensures s (pure a) Q E := .ok h

/-- A step that makes its result of another one's. -/
theorem Ensures.giving {x : EStateM ε σ α} {g : α → β} (hx : Ensures s x Q E)
    (hg : ∀ a t, Q a t → R (g a) t) : Ensures s (do return g (← x)) R E :=
  hx.andThen fun a t ha => ensures_pure (hg a t ha)

theorem ensures_modify {g : σ → σ} {Q : PUnit → σ → Prop} (h : Q ⟨⟩ (g s)) :
    Ensures s (modify g) Q E := .ok h

theorem ensures_get_bind {f : σ → EStateM ε σ β} (h : Ensures s (f s) R F) :
    Ensures s (get >>= f) R F := h

theorem ensures_modify_bind {g : σ → σ} {f : PUnit → EStateM ε σ β}
    (h : Ensures (g s) (f ⟨⟩) R F) : Ensures s (modify g >>= f) R F := h

theorem ensures_ofExcept_bind {x : Except ε α} {f : α → EStateM ε σ β}
    (herror : ∀ e, x = .error e → F e s) (hok : ∀ a, x = .ok a → Ensures s (f a) R F) :
    Ensures s (ofExcept x >>= f) R F := by
  cases x with
  | ok a => exact hok a rfl
  | error e => exact .error (herror e rfl)

theorem ensures_ofExcept {x : Except ε α} (hok : ∀ a, x = .ok a → Q a s)
    (herror : ∀ e, x = .error e → E e s) : Ensures s (ofExcept x) Q E := by
  cases x with
  | ok a => exact .ok (hok a rfl)
  | error e => exact .error (herror e rfl)

/-! ## Failures alone -/

/-- Wherever the step fails, it fails with `E`. -/
def FailsAs (E : ε → Prop) (x : EStateM ε σ α) : Prop :=
  ∀ ⦃s t : σ⦄ ⦃e : ε⦄, EStateM.run x s = .error e t → E e

/-- If there is a failure in place of a result, it has `E`. -/
def ErrsAs (E : ε → Prop) (x : Except ε α) : Prop := ∀ ⦃e : ε⦄, x = .error e → E e

section
variable {E : ε → Prop}

theorem errsAs_ok (a : α) : ErrsAs E (.ok a : Except ε α) := by
  intro e h
  cases h

theorem errsAs_error {e : ε} (h : E e) : ErrsAs E (.error e : Except ε α) := by
  intro e' he
  injection he with he
  exact he ▸ h

theorem ErrsAs.bind {x : Except ε α} {f : α → Except ε β} (hx : ErrsAs E x)
    (hf : ∀ a, ErrsAs E (f a)) : ErrsAs E (x >>= f) := by
  cases x with
  | ok a => exact hf a
  | error e => exact errsAs_error (hx rfl)

theorem ErrsAs.ite {p : Prop} [Decidable p] {x y : Except ε α} (hx : ErrsAs E x)
    (hy : ErrsAs E y) : ErrsAs E (if p then x else y) := by
  by_cases hp : p
  · rw [if_pos hp]
    exact hx
  · rw [if_neg hp]
    exact hy

end

section
variable {E : ε → Prop} {x y : EStateM ε σ α}

theorem failsAs_pure (a : α) : FailsAs E (pure a : EStateM ε σ α) := by
  intro s t e h
  cases h

theorem failsAs_get : FailsAs E (get : EStateM ε σ σ) := by
  intro s t e h
  cases h

theorem failsAs_modify (g : σ → σ) : FailsAs E (modify g : EStateM ε σ PUnit) := by
  intro s t e h
  cases h

theorem failsAs_throw {e : ε} (h : E e) : FailsAs E (throw e : EStateM ε σ α) := by
  intro s t e' hr
  injection hr with he
  exact he ▸ h

theorem failsAs_ofExcept {x : Except ε α} (h : ErrsAs E x) :
    FailsAs E (ofExcept x : EStateM ε σ α) := by
  cases x with
  | ok a => exact failsAs_pure a
  | error e => exact failsAs_throw (h rfl)

theorem FailsAs.bind {f : α → EStateM ε σ β} (hx : FailsAs E x) (hf : ∀ a, FailsAs E (f a)) :
    FailsAs E (x >>= f) := by
  intro s t e h
  cases hr : EStateM.run x s with
  | ok a u =>
    rw [bind_ok hr] at h
    exact hf a h
  | error e' u =>
    rw [bind_error hr] at h
    injection h with he
    exact he ▸ hx hr

theorem FailsAs.ite {p : Prop} [Decidable p] (hx : FailsAs E x) (hy : FailsAs E y) :
    FailsAs E (if p then x else y) := by
  by_cases hp : p
  · rw [if_pos hp]
    exact hx
  · rw [if_neg hp]
    exact hy

end

end Step
end TickStream
