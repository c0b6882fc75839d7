/-
Opening one step of a sequence of steps that can fail.
-/
namespace TickStream
namespace Step

variable {ε σ α β : Type}

theorem bind_ok {x : EStateM ε σ α} {f : α → EStateM ε σ β} {s t : σ} {a : α}
    (h : EStateM.run x s = .ok a t) : EStateM.run (x >>= f) s = EStateM.run (f a) t := by
  rw [EStateM.run_bind, h]

theorem bind_error {x : EStateM ε σ α} {f : α → EStateM ε σ β} {s t : σ} {e : ε}
    (h : EStateM.run x s = .error e t) : EStateM.run (x >>= f) s = .error e t := by
  rw [EStateM.run_bind, h]

theorem run_get (s : σ) : EStateM.run (get : EStateM ε σ σ) s = .ok s s := rfl

theorem run_modify_bind (g : σ → σ) (f : PUnit → EStateM ε σ β) (s : σ) :
    EStateM.run (modify g >>= f) s = EStateM.run (f ⟨⟩) (g s) := rfl

theorem run_throw_bind (e : ε) (f : α → EStateM ε σ β) (s : σ) :
    EStateM.run (throw e >>= f) s = .error e s := rfl

/-- A sequence that succeeds has steps that all do. -/
theorem run_bind_eq_ok {x : EStateM ε σ α} {f : α → EStateM ε σ β} {s u : σ} {b : β} :
    EStateM.run (x >>= f) s = .ok b u ↔
      ∃ a t, EStateM.run x s = .ok a t ∧ EStateM.run (f a) t = .ok b u := by
  rw [EStateM.run_bind]
  cases EStateM.run x s with
  | error e t => simp
  | ok a t =>
    constructor
    · exact fun h => ⟨a, t, rfl, h⟩
    · rintro ⟨a', t', hx, hf⟩
      injection hx with ha ht
      rw [ha, ht]
      exact hf

/-! ## The same step for each item of a list -/

section
variable {f : α → EStateM ε σ PUnit} {a : α} {as : List α} {s t u : σ} {e : ε}

theorem run_forM_ok (h : EStateM.run (f a) s = .ok () t) :
    EStateM.run ((a :: as).forM f) s = EStateM.run (as.forM f) t := bind_ok h

theorem run_forM_error (h : EStateM.run (f a) s = .error e t) :
    EStateM.run ((a :: as).forM f) s = .error e t := bind_error h

theorem run_forM_eq_ok :
    EStateM.run ((a :: as).forM f) s = .ok () u ↔
      ∃ t, EStateM.run (f a) s = .ok () t ∧ EStateM.run (as.forM f) t = .ok () u := by
  have hsplit : EStateM.run ((a :: as).forM f) s = .ok () u ↔
      ∃ x t, EStateM.run (f a) s = .ok x t ∧ EStateM.run (as.forM f) t = .ok () u := run_bind_eq_ok
  rw [hsplit]
  constructor
  · rintro ⟨⟨⟩, t, ha, has⟩
    exact ⟨t, ha, has⟩
  · rintro ⟨t, ha, has⟩
    exact ⟨⟨⟩, t, ha, has⟩

/-- A list of steps that fails has a first one that does. -/
theorem run_forM_eq_error :
    EStateM.run (as.forM f) s = .error e u ↔ ∃ done a rest t, as = done ++ a :: rest ∧
      EStateM.run (done.forM f) s = .ok () t ∧ EStateM.run (f a) t = .error e u := by
  induction as generalizing s with
  | nil => simp [List.forM]
  | cons b as ih =>
    constructor
    · intro h
      cases hb : EStateM.run (f b) s with
      | error e' t =>
        rw [run_forM_error hb] at h
        exact ⟨[], b, as, s, rfl, rfl, hb.trans h⟩
      | ok x t =>
        rw [run_forM_ok hb] at h
        obtain ⟨done, a, rest, t', has, hdone, ha⟩ := ih.1 h
        exact ⟨b :: done, a, rest, t', congrArg (b :: ·) has, (run_forM_ok hb).trans hdone, ha⟩
    · intro h
      obtain ⟨done, a, rest, t, has, hdone, ha⟩ := h
      cases done with
      | nil =>
        injection has with hb _
        injection hdone with _ ht
        subst hb ht
        exact run_forM_error ha
      | cons c done =>
        injection has with hb has
        subst hb
        obtain ⟨t', hb, hdone⟩ := run_forM_eq_ok.1 hdone
        rw [run_forM_ok hb]
        exact ih.2 ⟨done, a, rest, t, has, hdone, ha⟩

end

/-! ## Results as steps -/

theorem run_ofExcept_ok {x : Except ε α} {a : α} (h : x = .ok a) (s : σ) :
    EStateM.run (ofExcept x : EStateM ε σ α) s = .ok a s := by
  rw [h]
  rfl

theorem run_ofExcept_error {x : Except ε α} {e : ε} (h : x = .error e) (s : σ) :
    EStateM.run (ofExcept x : EStateM ε σ α) s = .error e s := by
  rw [h]
  rfl

theorem run_ofExcept_eq_ok {x : Except ε α} {s t : σ} {a : α} :
    EStateM.run (ofExcept x : EStateM ε σ α) s = .ok a t ↔ x = .ok a ∧ t = s := by
  cases x with
  | error e =>
    rw [run_ofExcept_error rfl]
    simp
  | ok b =>
    rw [run_ofExcept_ok rfl]
    simp [eq_comm]

theorem run_ofExcept_eq_error {x : Except ε α} {s t : σ} {e : ε} :
    EStateM.run (ofExcept x : EStateM ε σ α) s = .error e t ↔ x = .error e ∧ t = s := by
  cases x with
  | ok a =>
    rw [run_ofExcept_ok rfl]
    simp
  | error e' =>
    rw [run_ofExcept_error rfl]
    simp [eq_comm]

theorem bind_eq_ok {x : Except ε α} {f : α → Except ε β} {b : β} :
    (x >>= f) = .ok b ↔ ∃ a, x = .ok a ∧ f a = .ok b := by
  cases x with
  | error e => simp [bind, Except.bind]
  | ok a => simp [bind, Except.bind]

theorem exists_of_isOk {x : Except ε α} (h : x.isOk = true) : ∃ a, x = .ok a := by
  cases x with
  | error e => cases h
  | ok a => exact ⟨a, rfl⟩

/-- What is written in two parts. -/
theorem append_eq_ok {γ : Type} {x y : Except ε (List γ)} {zs : List γ} :
    (do let xs ← x; return xs ++ (← y)) = .ok zs ↔
      ∃ xs ys, x = .ok xs ∧ y = .ok ys ∧ zs = xs ++ ys := by
  cases x with
  | error e => simp [bind, Except.bind]
  | ok xs =>
    cases y with
    | error e => simp [bind, Except.bind]
    | ok ys => simp [bind, Except.bind, pure, Except.pure, eq_comm]

end Step
end TickStream
