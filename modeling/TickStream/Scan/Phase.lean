import TickStream.Error
/-
What scanners have in common: the phases they go through, and the ways to take more than
one thing from them.
-/
namespace TickStream
namespace Scan

/-- What a scanner has come to. -/
inductive Phase where
  /-- Nothing has been read. -/
  | fresh
  | streaming
  /-- The stream ended between two records. -/
  | finished
  /-- The stream could not be read further. -/
  | failed
  deriving DecidableEq, Repr

namespace Phase

def name : Phase → String
  | fresh => "Fresh"
  | streaming => "Streaming"
  | finished => "Finished"
  | failed => "Failed"

end Phase

variable {σ α : Type}

/-- What is left in a scanner, taken one result at a time. -/
structure Items (σ : Type) where
  scanner : σ
  /-- The end has been met, or a failure. -/
  done : Bool

namespace Items

def ofScanner (s : σ) : Items σ := ⟨s, false⟩

/-- The next result: none at the end, and none behind a failure.  From then on the scanner is
left alone. -/
def next (step : EStateM Error σ (Option α)) (it : Items σ) :
    Option (Except Error α) × Items σ :=
  if it.done then (none, it)
  else match step it.scanner with
    | .ok (some a) s => (some (.ok a), ⟨s, false⟩)
    | .ok none s => (none, ⟨s, true⟩)
    | .error e s => (some (.error e), ⟨s, true⟩)

/-- Up to `n` results, until there is none. -/
def take (step : EStateM Error σ (Option α)) :
    Nat → Items σ → List (Except Error α) × Items σ
  | 0, it => ([], it)
  | n + 1, it =>
    match it.next step with
    | (none, it) => ([], it)
    | (some r, it) =>
      let (more, it) := take step n it
      (r :: more, it)

end Items

/-- Up to `n` results of a step that is repeated until it ends or fails.  A failure is
the last result. -/
def results (next : EStateM Error σ (Option α)) (n : Nat) (s : σ) : List (Except Error α) × σ :=
  let (rs, it) := Items.take next n (.ofScanner s)
  (rs, it.scanner)

/-- The results of a step that is repeated until it ends, `n` times at most.  A failure
takes their place. -/
def collect (next : EStateM Error σ (Option α)) (n : Nat) : EStateM Error σ (List α) := fun s =>
  let (rs, s) := results next n s
  match rs.mapM id with
  | .ok as => .ok as s
  | .error e => .error e s

/-! ## What repeating a step gives -/

section
variable {step : EStateM Error σ (Option α)}

theorem Items.take_done (n : Nat) (s : σ) : Items.take step n ⟨s, true⟩ = ([], ⟨s, true⟩) := by
  cases n with
  | zero => rfl
  | succ n => rfl

theorem results_succ (n : Nat) (s : σ) : results step (n + 1) s =
    match EStateM.run step s with
    | .ok none t => ([], t)
    | .error e t => ([.error e], t)
    | .ok (some a) t => (.ok a :: (results step n t).1, (results step n t).2) := by
  rw [results, Items.take, Items.next, EStateM.run]
  simp only [Items.ofScanner, Bool.false_eq_true, if_false]
  cases step s with
  | error e t => simp only [Items.take_done]
  | ok a? t => cases a? <;> rfl

end

end Scan
end TickStream
