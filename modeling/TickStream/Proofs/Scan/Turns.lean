import Mathlib.Data.List.ReduceOption
import TickStream.Proofs.OneRun
import TickStream.Proofs.Scan.Twins
import TickStream.Record.Basic
/-
The advances that a scanner has made.  Main statement: a scanner that obeys a few laws, whatever
callers do with it, counts what it has taken, shows the last of it and no other, and stays as it is
once it has failed or met the end.
-/
namespace TickStream

open Step

namespace Scan

/-! ## Turns -/

/-- What a scanner made of a call that advances it. -/
structure Turn where
  /-- A frame or a line was taken off the source. -/
  accepted : Bool
  /-- The call ended in an error. -/
  failed : Bool

def Turn.shown (turn : Turn) : Bool := turn.accepted && !turn.failed

/-- A scanner that advances, and can decode what it advances to. -/
class Advancer (σ : Type) extends Scanner σ where
  advance : EStateM Error σ Bool
  next : EStateM Error σ (Option Record)
  /-- What has been taken off the source, by the scanner's own count. -/
  taken : σ → Nat
  /-- Whether there is something to look at. -/
  shows : σ → Bool

variable {σ β ω : Type}

def after (answer : ω → σ → β × σ) : List ω → σ → σ
  | [], s => s
  | op :: ops, s => after answer ops (answer op s).2

def history (answer : ω → σ → β × σ) (turns : ω → σ → List Turn) : List ω → σ → List Turn
  | [], _ => []
  | op :: ops, s => turns op s ++ history answer turns ops (answer op s).2

theorem after_eq_self {answer : ω → σ → β × σ} {s : σ} (h : ∀ op, (answer op s).2 = s)
    (ops : List ω) : after answer ops s = s := by
  induction ops with
  | nil => rfl
  | cons op ops ih => rw [after, h op, ih]

section

variable [Advancer σ] {s t u : σ} {turn : Turn} {log more : List Turn} {n : Nat}
  {P : σ → Prop} {answer : ω → σ → β × σ} {turns : ω → σ → List Turn}

open Advancer (advance next taken shows)
open Scanner (phase)

def accepts (s : σ) : Bool :=
  match EStateM.run advance s with
  | .ok b _ => b
  | .error _ _ => false

def fails {α : Type} (step : EStateM Error σ α) (s : σ) : Bool :=
  match EStateM.run step s with
  | .ok _ _ => false
  | .error _ _ => true

def turnOf {α : Type} (step : EStateM Error σ α) (s : σ) : Turn := ⟨accepts s, fails step s⟩

/-- The turns of up to `n` calls for the next record, the last of which is the first one that
gives none. -/
def turnsOf : Nat → σ → List Turn
  | 0, _ => []
  | n + 1, s => turnOf next s :: match EStateM.run next s with
    | .ok (some _) t => turnsOf n t
    | .ok none _ => []
    | .error _ _ => []

structure Turned (s : σ) (turn : Turn) (t : σ) : Prop where
  taken : taken t = taken s + turn.accepted.toNat
  shows : shows t = turn.shown
  phase : phase t =
    if turn.failed then .failed else if turn.accepted then .streaming else .finished

/-- What some turns leave behind. -/
structure Follows (s : σ) (log : List Turn) (t : σ) : Prop where
  taken : taken t = taken s + log.countP (·.accepted)
  shows : shows t = (log.getLast?.map Turn.shown).getD (shows s)

theorem Follows.refl (s : σ) : Follows s [] s := ⟨rfl, rfl⟩

theorem Turned.follows (h : Turned s turn t) : Follows s [turn] t := by
  refine ⟨?_, h.shows⟩
  rw [h.taken]
  cases hturn : turn.accepted <;> simp [hturn]

theorem Follows.trans (h : Follows s log t) (h' : Follows t more u) :
    Follows s (log ++ more) u := by
  constructor
  · rw [h'.taken, h.taken, List.countP_append, Nat.add_assoc]
  · rw [h'.shows, h.shows, List.getLast?_append]
    cases more.getLast? <;> rfl

/-! ## What every advance obeys -/

/-- The scanner goes on from `s` by the advance, as the properties `P` of scanners allow. -/
def Advances (P : σ → Prop) (s : σ) : Prop :=
  Ensures s advance (fun more t => P t ∧ Turned s ⟨more, false⟩ t)
    fun _ t => P t ∧ Turned s ⟨false, true⟩ t

/-- The same for the next record.  What does not decode has been taken nevertheless. -/
def Decodes (P : σ → Prop) (s : σ) : Prop :=
  Ensures s next (fun r? t => P t ∧ accepts s = r?.isSome ∧ Turned s ⟨r?.isSome, false⟩ t)
    fun _ t => P t ∧ Turned s ⟨accepts s, true⟩ t

theorem Advances.turned (h : Advances P s) :
    P (outcome advance s).2 ∧ Turned s (turnOf advance s) (outcome advance s).2 := by
  cases hr : EStateM.run advance s with
  | ok more t =>
    rw [turnOf, accepts, fails, outcome, hr]
    exact h.of_ok hr
  | error e t =>
    rw [turnOf, accepts, fails, outcome, hr]
    exact h.of_error hr

theorem Decodes.turned (h : Decodes P s) :
    P (outcome next s).2 ∧ Turned s (turnOf next s) (outcome next s).2 := by
  cases hr : EStateM.run next s with
  | ok r? t =>
    obtain ⟨ht, haccepts, hturned⟩ := h.of_ok hr
    rw [turnOf, haccepts, fails, outcome, hr]
    exact ⟨ht, hturned⟩
  | error e t =>
    rw [turnOf, fails, outcome, hr]
    exact h.of_error hr

theorem Advances.decodes {guarded : EStateM Error σ Record → EStateM Error σ Record}
    {decode : σ → Except Error Record} (h : Advances P s) (fail : σ → σ)
    (hnext : EStateM.run next s = EStateM.run (do
      if ← advance then
        let s ← get
        return some (← guarded (ofExcept (decode s)))
      else return none) s)
    (hguarded : ∀ step s, EStateM.run (guarded step) s = match EStateM.run step s with
      | .ok a t => .ok a t
      | .error e t => .error e (fail t))
    (hfail : ∀ t, P t → P (fail t) ∧ phase (fail t) = .failed ∧ shows (fail t) = false ∧
      taken (fail t) = taken t) : Decodes P s := by
  rw [Decodes, Ensures, hnext]
  cases hr : EStateM.run advance s with
  | error e t =>
    obtain ⟨ht, hturned⟩ := h.of_error hr
    have haccepts : accepts s = false := by rw [accepts, hr]
    rw [bind_error hr, haccepts]
    exact .error ⟨ht, hturned⟩
  | ok more t =>
    obtain ⟨ht, hturned⟩ := h.of_ok hr
    have haccepts : accepts s = more := by rw [accepts, hr]
    rw [bind_ok hr, haccepts]
    cases more with
    | false => exact .ok ⟨ht, rfl, hturned⟩
    | true =>
      rw [if_pos rfl, bind_ok (run_get t)]
      cases hdecode : decode t with
      | ok r =>
        have hrun : EStateM.run (guarded (ofExcept (.ok r))) t = .ok r t := by
          rw [hguarded]
          rfl
        rw [bind_ok hrun]
        exact .ok ⟨ht, rfl, hturned⟩
      | error e =>
        have hrun : EStateM.run (guarded (ofExcept (.error e))) t = .error e (fail t) := by
          rw [hguarded]
          rfl
        obtain ⟨hP, hphase, hshows, htaken⟩ := hfail t ht
        rw [bind_error hrun]
        exact .error ⟨hP, htaken.trans hturned.taken, hshows, hphase⟩

/-! ## Calls for many records -/

theorem outcome_collect_snd (n : Nat) (s : σ) :
    (outcome (collect next n) s).2 = (results next n s).2 := by
  rw [outcome, run_collect]
  cases (results next n s).1.mapM id <;> rfl

theorem results_follow (h : ∀ s, P s → Decodes P s) (hs : P s) (n : Nat) :
    P (results next n s).2 ∧ Follows s (turnsOf n s) (results next n s).2 := by
  induction n generalizing s with
  | zero => exact ⟨hs, .refl s⟩
  | succ n ih =>
    obtain ⟨ht, hturned⟩ := (h s hs).turned
    rw [outcome] at ht hturned
    rw [results_succ, turnsOf]
    cases hr : EStateM.run next s with
    | error e t =>
      rw [hr] at ht hturned
      exact ⟨ht, hturned.follows⟩
    | ok r? t =>
      rw [hr] at ht hturned
      cases r? with
      | none => exact ⟨ht, hturned.follows⟩
      | some r =>
        obtain ⟨hP, hfollows⟩ := ih ht
        exact ⟨hP, hturned.follows.trans hfollows⟩

/-! ## Calls for one record after the other -/

/-- What `n` calls for the next record give, whatever the ones before them gave. -/
def calls : Nat → Items σ → List (Option (Except Error Record)) × Items σ
  | 0, it => ([], it)
  | n + 1, it =>
    let (r?, it) := it.next next
    let (more, it) := calls n it
    (r? :: more, it)

theorem calls_done (n : Nat) (s : σ) :
    calls n ⟨s, true⟩ = (List.replicate n none, ⟨s, true⟩) := by
  induction n with
  | zero => rfl
  | succ n ih =>
    show (none :: (calls n ⟨s, true⟩).1, (calls n ⟨s, true⟩).2) = _
    rw [ih]
    rfl

theorem calls_succ (n : Nat) (s : σ) : calls (n + 1) (.ofScanner s) =
    match EStateM.run next s with
    | .ok none t => (List.replicate (n + 1) none, ⟨t, true⟩)
    | .error e t => (some (.error e) :: List.replicate n none, ⟨t, true⟩)
    | .ok (some r) t =>
      (some (.ok r) :: (calls n (.ofScanner t)).1, (calls n (.ofScanner t)).2) := by
  rw [calls, Items.next, EStateM.run]
  simp only [Items.ofScanner, Bool.false_eq_true, if_false]
  cases next s with
  | error e t => simp only [calls_done]
  | ok r? t =>
    cases r? with
    | none => simp only [calls_done, List.replicate_succ]
    | some r => rfl

/-- The results are what the calls give before the first one that gives none. -/
theorem results_eq_calls (n : Nat) (s : σ) : results next n s =
    ((calls n (.ofScanner s)).1.reduceOption, (calls n (.ofScanner s)).2.scanner) := by
  induction n generalizing s with
  | zero => rfl
  | succ n ih =>
    rw [results_succ, calls_succ]
    cases EStateM.run next s with
    | error e t =>
      simp only [List.reduceOption_cons_of_some, List.reduceOption_replicate_none]
    | ok r? t =>
      cases r? with
      | none => simp only [List.reduceOption_replicate_none]
      | some r => simp only [ih, List.reduceOption_cons_of_some]

/-- The calls give records, then a failure if there is one, and then nothing. -/
theorem calls_cases (h : ∀ s, P s → Decodes P s) (hs : P s) (n : Nat) :
    ∃ (rs : List Record) (tail : List (Except Error Record)) (k : Nat),
      (calls n (.ofScanner s)).1 = (rs.map Except.ok ++ tail).map some ++ List.replicate k none ∧
      P (calls n (.ofScanner s)).2.scanner ∧
      (tail = [] ∧ (0 < k → phase (calls n (.ofScanner s)).2.scanner = .finished) ∨
        ∃ e, tail = [.error e] ∧ phase (calls n (.ofScanner s)).2.scanner = .failed) := by
  induction n generalizing s with
  | zero => exact ⟨[], [], 0, rfl, hs, .inl ⟨rfl, nofun⟩⟩
  | succ n ih =>
    rw [calls_succ]
    cases hr : EStateM.run next s with
    | error e t =>
      obtain ⟨ht, hturned⟩ := (h s hs).of_error hr
      exact ⟨[], [.error e], n, rfl, ht, .inr ⟨e, rfl, hturned.phase⟩⟩
    | ok r? t =>
      obtain ⟨ht, -, hturned⟩ := (h s hs).of_ok hr
      cases r? with
      | none => exact ⟨[], [], n + 1, rfl, ht, .inl ⟨rfl, fun _ => hturned.phase⟩⟩
      | some r =>
        obtain ⟨rs, tail, k, hcalls, hend⟩ := ih ht
        exact ⟨r :: rs, tail, k, congrArg (some (.ok r) :: ·) hcalls, hend⟩

theorem reduceOption_listed (xs : List (Except Error Record)) (k : Nat) :
    (xs.map some ++ List.replicate k none).reduceOption = xs := by
  rw [List.reduceOption_append, List.reduceOption_replicate_none, List.append_nil,
    List.reduceOption, List.filterMap_map]
  exact List.filterMap_some

/-- The next record is none or a failure, and the scanner is left as it is. -/
def Stuck (s : σ) : Prop :=
  EStateM.run next s = .ok none s ∨ ∃ e, EStateM.run next s = .error e s

theorem Stuck.outcome (h : Stuck s) : (outcome next s).2 = s := by
  obtain h | ⟨e, h⟩ := h
  · rw [Step.outcome, h]
  · rw [Step.outcome, h]

theorem Stuck.results (h : Stuck s) (n : Nat) : (results next n s).2 = s := by
  cases n with
  | zero => rfl
  | succ n =>
    rw [results_succ]
    obtain h | ⟨e, h⟩ := h
    · rw [h]
    · rw [h]

/-! ## Scanners that are disciplined -/

/-- The scanner has failed, and stays as it is whatever callers do. -/
structure Refuses (answer : ω → σ → β × σ) (s : σ) : Prop where
  failed : phase s = .failed
  kept : ∀ ops, after answer ops s = s
  no_advance : (outcome advance s).1 = .error .scannerFailed
  no_next : (outcome next s).1 = .error .scannerFailed
  hidden : shows s = false

/-- The scanner has met the end, and stays as it is whatever callers do. -/
structure Over (answer : ω → σ → β × σ) (s : σ) : Prop where
  kept : ∀ ops, after answer ops s = s
  no_advance : (outcome advance s).1 = .ok false
  no_next : (outcome next s).1 = .ok none

theorem refuses_of_run (hphase : phase s = .failed)
    (hadvance : EStateM.run advance s = .error .scannerFailed s)
    (hnext : EStateM.run next s = .error .scannerFailed s) (hshows : shows s = false)
    (hkept : (outcome advance s).2 = s → Stuck s → ∀ op, (answer op s).2 = s) :
    Refuses answer s := by
  have hstays : (outcome advance s).2 = s := by rw [outcome, hadvance]
  refine ⟨hphase, after_eq_self (hkept hstays (.inr ⟨_, hnext⟩)), ?_, ?_, hshows⟩
  · rw [outcome, hadvance]
  · rw [outcome, hnext]

theorem over_of_run (hadvance : EStateM.run advance s = .ok false s)
    (hnext : EStateM.run next s = .ok none s)
    (hkept : (outcome advance s).2 = s → Stuck s → ∀ op, (answer op s).2 = s) :
    Over answer s := by
  have hstays : (outcome advance s).2 = s := by rw [outcome, hadvance]
  refine ⟨after_eq_self (hkept hstays (.inl hnext)), ?_, ?_⟩
  · rw [outcome, hadvance]
  · rw [outcome, hnext]

/-- What callers can rely on after the turns `log`: a failure or the end is final, the count and
what is shown tell of these turns, and of the records that are left none comes after a failure. -/
structure Disciplined (answer : ω → σ → β × σ) (s : σ) (log : List Turn) : Prop where
  advance_failed : ∀ e, (outcome advance s).1 = .error e → Refuses answer (outcome advance s).2
  next_failed : ∀ e, (outcome next s).1 = .error e → Refuses answer (outcome next s).2
  advance_over : (outcome advance s).1 = .ok false → Over answer (outcome advance s).2
  next_over : (outcome next s).1 = .ok none → Over answer (outcome next s).2
  counted : taken s = log.countP (·.accepted)
  shown : shows s = true ↔
    ∃ turn, log.getLast? = some turn ∧ turn.accepted = true ∧ turn.failed = false
  records : ∀ n, ∃ (rs : List Record) (tail : List (Except Error Record)),
    (results next n s).1 = rs.map .ok ++ tail ∧
      (tail = [] ∨ ∃ e, tail = [.error e] ∧ Refuses answer (results next n s).2)
  /-- The same call by call. -/
  items : ∀ n, ∃ (rs : List Record) (tail : List (Except Error Record)) (k : Nat),
    (calls n (.ofScanner s)).1 = (rs.map Except.ok ++ tail).map some ++ List.replicate k none ∧
      (tail = [] ∧ (0 < k → Over answer (calls n (.ofScanner s)).2.scanner) ∨
        ∃ e, tail = [.error e] ∧ Refuses answer (calls n (.ofScanner s)).2.scanner)

/-- What a scanner obeys as long as it has the property `P`. -/
structure Lawful (P : σ → Prop) (answer : ω → σ → β × σ) (turns : ω → σ → List Turn) :
    Prop where
  advances : ∀ s, P s → Advances P s
  decodes : ∀ s, P s → Decodes P s
  follows : ∀ op s, P s → P (answer op s).2 ∧ Follows s (turns op s) (answer op s).2
  refuses : ∀ s, P s → phase s = .failed → Refuses answer s
  ends : ∀ s, P s → phase s = .finished → Over answer s

theorem Lawful.run (h : Lawful P answer turns) (hs : P s) (ops : List ω) :
    P (after answer ops s) ∧ Follows s (history answer turns ops s) (after answer ops s) := by
  induction ops generalizing s with
  | nil => exact ⟨hs, .refl s⟩
  | cons op ops ih =>
    obtain ⟨ht, hfollows⟩ := h.follows op s hs
    obtain ⟨hu, hmore⟩ := ih ht
    exact ⟨hu, hfollows.trans hmore⟩

theorem Lawful.items (h : Lawful P answer turns) (hs : P s) (n : Nat) :
    ∃ (rs : List Record) (tail : List (Except Error Record)) (k : Nat),
      (calls n (.ofScanner s)).1 = (rs.map Except.ok ++ tail).map some ++ List.replicate k none ∧
      (tail = [] ∧ (0 < k → Over answer (calls n (.ofScanner s)).2.scanner) ∨
        ∃ e, tail = [.error e] ∧ Refuses answer (calls n (.ofScanner s)).2.scanner) := by
  obtain ⟨rs, tail, k, hcalls, ht, hend⟩ := calls_cases h.decodes hs n
  refine ⟨rs, tail, k, hcalls, ?_⟩
  obtain ⟨htail, hphase⟩ | ⟨e, htail, hphase⟩ := hend
  · exact .inl ⟨htail, fun hk => h.ends _ ht (hphase hk)⟩
  · exact .inr ⟨e, htail, h.refuses _ ht hphase⟩

theorem Lawful.disciplined (h : Lawful P answer turns) (hs : P s) (htaken : taken s = 0)
    (hshows : shows s = false) (ops : List ω) :
    Disciplined answer (after answer ops s) (history answer turns ops s) := by
  obtain ⟨ht, hfollows⟩ := h.run hs ops
  generalize after answer ops s = t at ht hfollows
  generalize history answer turns ops s = log at hfollows
  have hadvance := h.advances t ht
  have hnext := h.decodes t ht
  refine ⟨fun e he => ?_, fun e he => ?_, fun hend => ?_, fun hend => ?_, ?_, ?_, fun n => ?_,
    h.items ht⟩
  · obtain ⟨hu, hturned⟩ := hadvance.of_error (run_of_outcome_error he)
    exact h.refuses _ hu hturned.phase
  · obtain ⟨hu, hturned⟩ := hnext.of_error (run_of_outcome_error he)
    exact h.refuses _ hu hturned.phase
  · obtain ⟨hu, hturned⟩ := hadvance.of_ok (run_of_outcome hend)
    exact h.ends _ hu hturned.phase
  · obtain ⟨hu, -, hturned⟩ := hnext.of_ok (run_of_outcome hend)
    exact h.ends _ hu hturned.phase
  · rw [hfollows.taken, htaken, Nat.zero_add]
  · rw [hfollows.shows, hshows]
    cases log.getLast? with
    | none => simp
    | some turn => simp [Turn.shown]
  · obtain ⟨rs, tail, k, hcalls, hend⟩ := h.items ht n
    rw [results_eq_calls, hcalls, reduceOption_listed]
    exact ⟨rs, tail, rfl, hend.imp_left And.left⟩

end
end Scan
end TickStream
