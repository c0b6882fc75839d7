import TickStream.Live.Relay
import TickStream.Proofs.Live.Standing
/-
The loop of a relay.  Main statements: it passes on all that the session shows, in order, and
counts what it passes on; and it comes to the end that the session comes to.
-/
namespace TickStream

open Step

namespace Live

/-! ## Counts -/

namespace Counts

variable {counts : Counts} {tags more : List UInt8}

/-- Every tag has its number in `tags`, and only tags that are there have an entry. -/
structure Tallies (counts : Counts) (tags : List UInt8) : Prop where
  get : ∀ tag, counts.get tag = tags.count tag
  positive : ∀ entry ∈ counts.entries, 0 < entry.2

def addAll (counts : Counts) (tags : List UInt8) : Counts :=
  tags.foldl (fun counts tag => counts.add tag) counts

theorem positive_bump (tag : UInt8) {entries : List (UInt8 × Nat)}
    (h : ∀ entry ∈ entries, 0 < entry.2) : ∀ entry ∈ bump tag entries, 0 < entry.2 := by
  induction entries with
  | nil =>
    intro entry hentry
    rw [List.mem_singleton.1 hentry]
    exact Nat.one_pos
  | cons c rest ih =>
    obtain ⟨hc, hrest⟩ := List.forall_mem_cons.1 h
    unfold bump
    split
    · exact List.forall_mem_cons.2 ⟨Nat.one_pos, h⟩
    · split
      · exact List.forall_mem_cons.2 ⟨Nat.succ_pos _, hrest⟩
      · exact List.forall_mem_cons.2 ⟨hc, ih hrest⟩

theorem tallies_empty : empty.Tallies [] := ⟨fun _ => rfl, fun _ h => absurd h List.not_mem_nil⟩

theorem Tallies.add (h : counts.Tallies tags) (tag : UInt8) :
    (counts.add tag).Tallies (tags ++ [tag]) := by
  refine ⟨fun t => ?_, positive_bump tag h.positive⟩
  rw [get_add, h.get, List.count_append, List.count_singleton]
  by_cases ht : t = tag
  · rw [if_pos ht, if_pos (by simp [ht])]
  · rw [if_neg ht, if_neg (by simpa using fun heq => ht heq.symm)]

theorem Tallies.addAll (h : counts.Tallies tags) (more : List UInt8) :
    (counts.addAll more).Tallies (tags ++ more) := by
  induction more generalizing counts tags with
  | nil =>
    rw [List.append_nil]
    exact h
  | cons tag more ih =>
    have hall := ih (h.add tag)
    rwa [List.append_assoc] at hall

end Counts

/-! ## Sinks -/

namespace Sink

variable {sink : Sink}

def Accepts (sink : Sink) : Prop := ∀ taken bs, sink.refusal taken bs = none

def after (sink : Sink) (writes : List Bytes) : Sink :=
  { sink with taken := sink.taken ++ writes }

theorem content_after (sink : Sink) (writes : List Bytes) :
    (sink.after writes).content = sink.content ++ writes.flatten :=
  List.flatten_append

theorem after_nil (sink : Sink) : sink.after [] = sink := by
  rw [after, List.append_nil]

theorem after_after (sink : Sink) (writes more : List Bytes) :
    (sink.after writes).after more = sink.after (writes ++ more) := by
  rw [after, after, after, List.append_assoc]

/-- The sink takes the writes, one after the other. -/
def Takes (sink : Sink) (writes : List Bytes) : Prop :=
  EStateM.run (writes.forM write) sink = .ok () (sink.after writes)

/-- One of the writes fails with `e`, and the writes in front of it have filled the sink. -/
def Refuses (sink : Sink) (writes : List Bytes) (e : Error) (filled : Sink) : Prop :=
  EStateM.run (writes.forM write) sink = .error e filled

theorem run_write (sink : Sink) (bs : Bytes) : EStateM.run (write bs) sink =
    match sink.refusal sink.taken bs with
    | some fault => .error (.io fault) sink
    | none => .ok () (sink.after [bs]) := by
  show write bs sink = _
  rw [write]
  cases sink.refusal sink.taken bs <;> rfl

theorem takes_nil (sink : Sink) : sink.Takes [] := by
  rw [Takes, after_nil]
  rfl

theorem takes_cons {bs : Bytes} {writes : List Bytes} : sink.Takes (bs :: writes) ↔
    sink.refusal sink.taken bs = none ∧ (sink.after [bs]).Takes writes := by
  have hwrite := run_write sink bs
  rw [Takes, run_forM_eq_ok, hwrite, Takes, after_after]
  cases sink.refusal sink.taken bs <;> simp

theorem refuses_cons {bs : Bytes} {writes : List Bytes} {e : Error} {filled : Sink} :
    sink.Refuses (bs :: writes) e filled ↔
      (∃ fault, sink.refusal sink.taken bs = some fault ∧ e = .io fault ∧ filled = sink) ∨
        sink.refusal sink.taken bs = none ∧ (sink.after [bs]).Refuses writes e filled := by
  have hwrite := run_write sink bs
  cases hfault : sink.refusal sink.taken bs with
  | some fault =>
    rw [hfault] at hwrite
    rw [Refuses, run_forM_error hwrite]
    simp [eq_comm]
  | none =>
    rw [hfault] at hwrite
    rw [Refuses, run_forM_ok hwrite, Refuses]
    simp

theorem takes_append {writes more : List Bytes} :
    sink.Takes (writes ++ more) ↔ sink.Takes writes ∧ (sink.after writes).Takes more := by
  induction writes generalizing sink with
  | nil =>
    rw [List.nil_append, after_nil]
    exact (and_iff_right (takes_nil sink)).symm
  | cons bs writes ih =>
    rw [List.cons_append, takes_cons, takes_cons, ih, after_after, and_assoc]
    rfl

theorem refuses_append {writes more : List Bytes} {e : Error} {filled : Sink} :
    sink.Refuses (writes ++ more) e filled ↔ sink.Refuses writes e filled ∨
      sink.Takes writes ∧ (sink.after writes).Refuses more e filled := by
  induction writes generalizing sink with
  | nil =>
    have hnone : ¬ sink.Refuses [] e filled := nofun
    rw [List.nil_append, after_nil, or_iff_right hnone]
    exact (and_iff_right (takes_nil sink)).symm
  | cons bs writes ih =>
    rw [List.cons_append, refuses_cons, refuses_cons, takes_cons, ih, after_after, or_assoc,
      and_or_left, and_assoc]
    rfl

/-- A sink takes the writes or refuses one of them. -/
theorem takes_or_refuses (sink : Sink) (writes : List Bytes) :
    sink.Takes writes ∨ ∃ fault filled, sink.Refuses writes (.io fault) filled := by
  induction writes generalizing sink with
  | nil => exact .inl (takes_nil sink)
  | cons bs writes ih =>
    cases hfault : sink.refusal sink.taken bs with
    | some fault => exact .inr ⟨fault, sink, refuses_cons.2 (.inl ⟨fault, hfault, rfl, rfl⟩)⟩
    | none =>
      obtain h | ⟨fault, filled, h⟩ := ih (sink.after [bs])
      · exact .inl (takes_cons.2 ⟨hfault, h⟩)
      · exact .inr ⟨fault, filled, refuses_cons.2 (.inr ⟨hfault, h⟩)⟩

theorem Accepts.takes (h : sink.Accepts) (writes : List Bytes) : sink.Takes writes := by
  induction writes generalizing sink with
  | nil => exact takes_nil sink
  | cons bs writes ih =>
    have hmore : (sink.after [bs]).Accepts := h
    exact takes_cons.2 ⟨h _ _, ih hmore⟩

end Sink

def Output.content : Output → Bytes
  | .opened sink => sink.content
  | .unopened => []
  | .refused => []

/-! ## What a session shows -/

namespace Session

variable {s t : Session}

/-- What a relay writes for the current frame or line. -/
def written (s : Session) : List Bytes :=
  match s.feed with
  | some (.frames scanner) => [scanner.currentBytes]
  | some (.lines scanner) => [Bytes.ofString scanner.current, [LineScanner.newline]]
  | none => []

def tag? (s : Session) : Option UInt8 :=
  match s.feed with
  | some (.frames scanner) => scanner.current.map fun frame => frame.header.tag
  | some (.lines scanner) => scanner.decodeCurrent.toOption.map fun r => r.header.tag
  | none => none

/-- From `s` on, frames or lines are asked for until there is none: the session goes through
`shown`, each time with a frame or a line, and the last call gives `result` and leaves `t`. -/
inductive Drives : Session → List Session → Except Error Bool → Session → Prop where
  | ended {s t : Session} : EStateM.run nextFrame s = .ok false t → Drives s [] (.ok false) t
  | failed {s t : Session} {e : Error} :
    EStateM.run nextFrame s = .error e t → Drives s [] (.error e) t
  | frame {s t u : Session} {shown : List Session} {result : Except Error Bool} :
    EStateM.run nextFrame s = .ok true t → Drives t shown result u →
      Drives s (t :: shown) result u

end Session

/-! ## Steps of a relay -/

namespace Relay

open Session (Drives)

variable {α : Type} {a : α} {e : Error} {r r' : Relay} {s t : Session} {sink filled : Sink}
  {counts : Counts} {bs : Bytes} {shown : List Session} {result : Except Error Bool}

theorem run_inSession_ok {step : Session.Step α} (h : EStateM.run step r.session = .ok a t) :
    EStateM.run (inSession step) r = .ok a { r with session := t } := by
  show inSession step r = _
  rw [inSession, show step r.session = .ok a t from h]

theorem run_inSession_error {step : Session.Step α}
    (h : EStateM.run step r.session = .error e t) :
    EStateM.run (inSession step) r = .error e { r with session := t } := by
  show inSession step r = _
  rw [inSession, show step r.session = .error e t from h]

theorem run_write (h : sink.Takes [bs]) :
    EStateM.run (inOutput (Sink.write bs)) ⟨s, .opened sink, counts⟩ =
      .ok () ⟨s, .opened (sink.after [bs]), counts⟩ := by
  have hwrite : Sink.write bs sink = .ok () (sink.after [bs]) := by
    have hrun := Sink.run_write sink bs
    rw [(Sink.takes_cons.1 h).1] at hrun
    exact hrun
  show inOutput (Sink.write bs) ⟨s, .opened sink, counts⟩ = _
  simp only [inOutput, hwrite]

theorem run_write_refused (h : sink.Refuses [bs] e filled) :
    EStateM.run (inOutput (Sink.write bs)) ⟨s, .opened sink, counts⟩ =
      .error e ⟨s, .opened filled, counts⟩ := by
  have hwrite : Sink.write bs sink = .error e filled := by
    have hrun := Sink.run_write sink bs
    obtain ⟨fault, hfault, rfl, rfl⟩ | ⟨-, hnone⟩ := Sink.refuses_cons.1 h
    · rw [hfault] at hrun
      exact hrun
    · cases hnone
  show inOutput (Sink.write bs) ⟨s, .opened sink, counts⟩ = _
  simp only [inOutput, hwrite]

theorem run_flush : EStateM.run (inOutput Sink.flush) ⟨s, .opened sink, counts⟩ =
    match sink.flushing sink.taken with
    | some fault => .error (.io fault) ⟨s, .opened sink, counts⟩
    | none => .ok () ⟨s, .opened sink, counts⟩ := by
  show inOutput Sink.flush ⟨s, .opened sink, counts⟩ = _
  simp only [inOutput, Sink.flush]
  cases sink.flushing sink.taken <;> rfl

theorem run_attempt_ok {step : Step α} (h : EStateM.run step r = .ok a r') :
    EStateM.run (attempt step) r = .ok (.ok a) r' := by
  show attempt step r = _
  rw [attempt, show step r = .ok a r' from h]

theorem run_attempt_error {step : Step α} (h : EStateM.run step r = .error e r') :
    EStateM.run (attempt step) r = .ok (.error e) r' := by
  show attempt step r = _
  rw [attempt, show step r = .error e r' from h]

/-- What is shown is written and counted. -/
theorem run_passOn (h : sink.Takes s.written) :
    EStateM.run passOn ⟨s, .opened sink, counts⟩ =
      .ok () ⟨s, .opened (sink.after s.written), counts.addAll s.tag?.toList⟩ := by
  rw [passOn, bind_ok (run_get _)]
  unfold Session.written at h ⊢
  unfold Session.tag?
  show EStateM.run (match s.feed with
    | some (.frames _) => _ | some (.lines _) => _ | none => _) _ = _
  cases hfeed : s.feed with
  | none =>
    rw [Sink.after_nil]
    rfl
  | some feed =>
    rw [hfeed] at h
    cases feed with
    | frames scanner =>
      simp only at h ⊢
      rw [bind_ok (run_write h)]
      cases scanner.current <;> rfl
    | lines scanner =>
      simp only at h ⊢
      have hboth : sink.Takes ([Bytes.ofString scanner.current] ++ [[LineScanner.newline]]) := h
      obtain ⟨hfirst, hmore⟩ := Sink.takes_append.1 hboth
      rw [bind_ok (run_write hfirst), bind_ok (run_write hmore), Sink.after_after]
      cases scanner.decodeCurrent <;> rfl

/-- What cannot be written is not counted. -/
theorem run_passOn_refused (h : sink.Refuses s.written e filled) :
    EStateM.run passOn ⟨s, .opened sink, counts⟩ = .error e ⟨s, .opened filled, counts⟩ := by
  rw [passOn, bind_ok (run_get _)]
  unfold Session.written at h
  show EStateM.run (match s.feed with
    | some (.frames _) => _ | some (.lines _) => _ | none => _) _ = _
  cases hfeed : s.feed with
  | none =>
    rw [hfeed] at h
    cases h
  | some feed =>
    rw [hfeed] at h
    cases feed with
    | frames scanner => exact bind_error (run_write_refused h)
    | lines scanner =>
      have hboth : sink.Refuses
          ([Bytes.ofString scanner.current] ++ [[LineScanner.newline]]) e filled := h
      obtain hfirst | ⟨hfirst, hmore⟩ := Sink.refuses_append.1 hboth
      · exact bind_error (run_write_refused hfirst)
      · simp only
        rw [bind_ok (run_write hfirst)]
        exact bind_error (run_write_refused hmore)

/-- The relay once all of `shown` is passed on. -/
def passed (sink : Sink) (counts : Counts) (shown : List Session) (t : Session) : Relay :=
  ⟨t, .opened (sink.after (shown.flatMap Session.written)),
    counts.addAll (shown.filterMap Session.tag?)⟩

theorem passed_nil : passed sink counts [] t = ⟨t, .opened sink, counts⟩ := by
  show Relay.mk t (.opened (sink.after [])) counts = _
  rw [Sink.after_nil]

theorem passed_cons : passed sink counts (s :: shown) t =
    passed (sink.after s.written) (counts.addAll s.tag?.toList) shown t := by
  rw [passed, passed, Sink.after_after, List.flatMap_cons, List.filterMap_cons]
  cases s.tag? <;> rfl

/-- How the loop ends: with the end of the session, or with its failure unless that comes of an
interruption. -/
def ending (interrupted : Bool) (r : Relay) : Except Error Bool → EStateM.Result Error Relay Unit
  | .ok _ => .ok () r
  | .error e => if interrupted then .ok () r else .error e r

/-- All that is shown is passed on, and the loop ends as the session does. -/
theorem run_copy (hd : s.Drives shown result t)
    (h : sink.Takes (shown.flatMap Session.written)) (interrupted : Bool) {n : Nat}
    (hn : shown.length < n) :
    EStateM.run (copy interrupted n) ⟨s, .opened sink, counts⟩ =
      ending interrupted (passed sink counts shown t) result := by
  -- By induction on what is shown, with a turn of the loop for each.
  induction hd generalizing sink counts n with
  | ended hr =>
    obtain ⟨k, rfl⟩ := Nat.exists_eq_succ_of_ne_zero (Nat.ne_zero_of_lt hn)
    rw [copy, bind_ok (run_attempt_ok (run_inSession_ok hr)), passed_nil]
    rfl
  | @failed s t e hr =>
    obtain ⟨k, rfl⟩ := Nat.exists_eq_succ_of_ne_zero (Nat.ne_zero_of_lt hn)
    rw [copy, bind_ok (run_attempt_error (run_inSession_error hr)), passed_nil]
    cases interrupted with
    | true => rfl
    | false =>
      show EStateM.run (do let _ ← attempt (inOutput Sink.flush); throw e) _ = _
      have hflush : ∃ result, EStateM.run (attempt (inOutput Sink.flush))
          ⟨t, .opened sink, counts⟩ = .ok result ⟨t, .opened sink, counts⟩ := by
        cases hfault : sink.flushing sink.taken with
        | none => exact ⟨_, run_attempt_ok (by rw [run_flush, hfault])⟩
        | some fault => exact ⟨_, run_attempt_error (by rw [run_flush, hfault])⟩
      obtain ⟨_, hflush⟩ := hflush
      rw [bind_ok hflush]
      rfl
  | @frame s t u shown result hr _ ih =>
    obtain ⟨k, rfl⟩ := Nat.exists_eq_succ_of_ne_zero (Nat.ne_zero_of_lt hn)
    obtain ⟨hfirst, hmore⟩ := Sink.takes_append.1 h
    rw [copy, bind_ok (run_attempt_ok (run_inSession_ok hr)), passed_cons]
    show EStateM.run (do passOn; copy interrupted k) _ = _
    rw [bind_ok (run_passOn hfirst)]
    exact ih hmore (Nat.lt_of_succ_lt_succ hn)

/-- The loop ends with the first write that fails. -/
theorem run_copy_refused (counts : Counts) (hd : s.Drives shown result t)
    (h : sink.Refuses (shown.flatMap Session.written) e filled) (interrupted : Bool) {n : Nat}
    (hn : shown.length < n) :
    ∃ u counts', EStateM.run (copy interrupted n) ⟨s, .opened sink, counts⟩ =
      .error e ⟨u, .opened filled, counts'⟩ := by
  induction hd generalizing sink counts n with
  | ended => cases h
  | failed => cases h
  | @frame s t u shown result hr _ ih =>
    obtain ⟨k, rfl⟩ := Nat.exists_eq_succ_of_ne_zero (Nat.ne_zero_of_lt hn)
    rw [copy, bind_ok (run_attempt_ok (run_inSession_ok hr))]
    show ∃ u counts', EStateM.run (do passOn; copy interrupted k) _ = _
    obtain hfirst | ⟨hfirst, hmore⟩ := Sink.refuses_append.1 h
    · exact ⟨t, counts, bind_error (run_passOn_refused hfirst)⟩
    · rw [bind_ok (run_passOn hfirst)]
      exact ih _ hmore (Nat.lt_of_succ_lt_succ hn)

/-! ## A whole relay -/

/-- What stands in front of the records of a relay. -/
inductive Heads : Option Metadata → List Bytes → Prop where
  | frames {m : Metadata} {head : Bytes} (h : m.encode = .ok head) : Heads (some m) [head]
  | lines : Heads none []

/-- A relay takes its steps as it would alone, and `beside` is the state that it leaves. -/
def Beside {σ : Type} (inRelay : {α : Type} → Step α → EStateM Error σ α) (beside : Relay → σ) :
    Prop :=
  ∀ {α : Type} (step : Step α) (r : Relay), EStateM.run (inRelay step) (beside r) =
    match EStateM.run step r with
    | .ok a r => .ok a (beside r)
    | .error e r => .error e (beside r)

theorem beside_self : Beside (fun step => step) id := by
  intro α step r
  show EStateM.run step r = _
  cases EStateM.run step r <;> rfl

section
variable {σ : Type} {inRelay : {α : Type} → Step α → EStateM Error σ α} {beside : Relay → σ}
  {subs : List Subscription} {f : Subscription → Session.Step PUnit}

theorem Beside.ok {α : Type} {a : α} {step : Session.Step α} (hin : Beside inRelay beside)
    (hr : EStateM.run step r.session = .ok a t) :
    EStateM.run (inRelay (inSession step)) (beside r) = .ok a (beside { r with session := t }) := by
  rw [hin, run_inSession_ok hr]

theorem Beside.error {α : Type} {step : Session.Step α} (hin : Beside inRelay beside)
    (hr : EStateM.run step r.session = .error e t) :
    EStateM.run (inRelay (inSession step)) (beside r) =
      .error e (beside { r with session := t }) := by
  rw [hin, run_inSession_error hr]

theorem Beside.forM_ok (hin : Beside inRelay beside)
    (hr : EStateM.run (subs.forM f) r.session = .ok () t) :
    EStateM.run (subs.forM fun sub => inRelay (inSession (f sub))) (beside r) =
      .ok () (beside { r with session := t }) := by
  induction subs generalizing r with
  | nil =>
    injection hr with _ ht
    rw [← ht]
    rfl
  | cons sub subs ih =>
    obtain ⟨u, hfirst, hrest⟩ := run_forM_eq_ok.1 hr
    rw [run_forM_ok (f := fun sub => inRelay (inSession (f sub))) (hin.ok hfirst)]
    exact ih hrest

theorem Beside.forM_error (hin : Beside inRelay beside)
    (hr : EStateM.run (subs.forM f) r.session = .error e t) :
    EStateM.run (subs.forM fun sub => inRelay (inSession (f sub))) (beside r) =
      .error e (beside { r with session := t }) := by
  obtain ⟨done, sub, rest, u, hsubs, hdone, hfails⟩ := run_forM_eq_error.1 hr
  refine run_forM_eq_error.2 ⟨done, sub, rest, beside { r with session := u }, hsubs, ?_, ?_⟩
  · exact hin.forM_ok hdone
  · exact hin.error (r := { r with session := u }) hfails

end

/-- What a relay gives once its loop has come to an end: its counts, if all can be flushed. -/
def finish (interrupted : Bool) (sink : Sink) (counts : Counts) :
    Except Error Bool → Except Error Counts
  | .ok _ => flushed
  | .error e => if interrupted then flushed else .error e
where
  flushed := match sink.flushing sink.taken with
    | none => .ok counts
    | some fault => .error (.io fault)

/-- The session `s` is authenticated, makes all of its subscriptions and starts. -/
inductive Starts (s : Session) (subs : List Subscription) : Option Metadata → Session → Prop where
  | mk {id : String} {s₁ s₂ started : Session} {metadata : Option Metadata}
    (hauthenticate : EStateM.run Session.authenticate s = .ok id s₁)
    (hsubscribe : EStateM.run (subs.forM Session.subscribe) s₁ = .ok () s₂)
    (hstart : EStateM.run Session.start s₂ = .ok metadata started) :
    Starts s subs metadata started

section
variable {subs : List Subscription} {started : Session} {metadata : Option Metadata}
  {heads : List Bytes}

/-- The output is asked for when the session has started. -/
theorem run_transferAsking {σ : Type} {inRelay : {α : Type} → Step α → EStateM Error σ α}
    {beside : Relay → σ} (hin : Beside inRelay beside) (hs : Starts s subs metadata started)
    (ask : EStateM Error σ Unit) (interrupted : Bool) :
    EStateM.run (transferAsking inRelay ask subs interrupted) (beside ⟨s, .unopened, .empty⟩) =
      EStateM.run (do ask; inRelay (passAll metadata interrupted))
        (beside ⟨started, .unopened, .empty⟩) := by
  obtain ⟨hauthenticate, hsubscribe, hstart⟩ := hs
  rw [transferAsking, bind_ok (hin.ok hauthenticate), bind_ok (hin.forM_ok hsubscribe),
    bind_ok (hin.ok hstart)]

theorem run_transfer (hs : Starts s subs metadata started) (output : Except Error Sink)
    (interrupted : Bool) :
    EStateM.run (transfer subs output interrupted) ⟨s, .unopened, .empty⟩ =
      match output with
      | .ok sink => EStateM.run (passAll metadata interrupted) ⟨started, .opened sink, .empty⟩
      | .error e => .error e ⟨started, .refused, .empty⟩ := by
  refine (run_transferAsking beside_self hs (openOutput output) interrupted).trans ?_
  cases output with
  | ok sink =>
    have hopen : EStateM.run (openOutput (.ok sink)) ⟨started, .unopened, .empty⟩ =
        .ok () ⟨started, .opened sink, .empty⟩ := rfl
    exact bind_ok hopen
  | error e =>
    have hopen : EStateM.run (openOutput (.error e)) ⟨started, .unopened, .empty⟩ =
        .error e ⟨started, .refused, .empty⟩ := rfl
    exact bind_error hopen

/-- Metadata is written in front of what the session shows. -/
theorem run_passAll (hheads : Heads metadata heads) (h : sink.Takes heads) (interrupted : Bool) :
    EStateM.run (passAll metadata interrupted) ⟨started, .opened sink, .empty⟩ =
      EStateM.run (passAll none interrupted) ⟨started, .opened (sink.after heads), .empty⟩ := by
  cases hheads with
  | lines => rw [Sink.after_nil]
  | frames hm =>
    rw [passAll]
    simp only
    rw [bind_ok (run_ofExcept_ok hm _), bind_ok (run_write h)]
    rfl

theorem run_passAll_refused (hheads : Heads metadata heads) (h : sink.Refuses heads e filled)
    (interrupted : Bool) :
    EStateM.run (passAll metadata interrupted) ⟨started, .opened sink, .empty⟩ =
      .error e ⟨started, .opened filled, .empty⟩ := by
  cases hheads with
  | lines => cases h
  | frames hm =>
    rw [passAll]
    simp only
    rw [bind_ok (run_ofExcept_ok hm _)]
    exact bind_error (run_write_refused h)

/-- A relay passes on all that the session shows, and flushes the output. -/
theorem outcome_passAll (hd : started.Drives shown result t)
    (h : sink.Takes (shown.flatMap Session.written))
    (hn : shown.length < (started.feed.map Feed.bound).getD 0) (interrupted : Bool) :
    let last := passed sink .empty shown t
    let all := sink.after (shown.flatMap Session.written)
    outcome (passAll none interrupted) ⟨started, .opened sink, .empty⟩ =
      (finish interrupted all last.counts result, last) := by
  intro last all
  have hcopy : EStateM.run (copy interrupted (bound ⟨started, .opened sink, .empty⟩))
      ⟨started, .opened sink, .empty⟩ = ending interrupted last result :=
    run_copy hd h interrupted hn
  have hflush : outcome (do inOutput Sink.flush; return (← get).counts) last =
      (finish.flushed all last.counts, last) := by
    show outcome _ (passed _ _ _ _) = _
    unfold passed outcome finish.flushed
    rw [EStateM.run_bind, run_flush]
    show _ = (match all.flushing all.taken with | none => _ | some fault => _, _)
    cases all.flushing all.taken <;> rfl
  rw [passAll]
  show outcome (do
    copy interrupted (bound (← get))
    inOutput Sink.flush
    return (← get).counts) _ = _
  rw [outcome, bind_ok (run_get _), EStateM.run_bind, hcopy]
  cases result with
  | ok more => exact hflush
  | error e =>
    cases interrupted with
    | true => exact hflush
    | false => rfl

/-- A relay whose session starts passes on all that it shows. -/
theorem outcome_transfer (hs : Starts s subs metadata started) (hheads : Heads metadata heads)
    (hd : started.Drives shown result t) (h : sink.Accepts)
    (hn : shown.length < (started.feed.map Feed.bound).getD 0) (interrupted : Bool) :
    let last := passed (sink.after heads) .empty shown t
    let all := (sink.after heads).after (shown.flatMap Session.written)
    outcome (transfer subs (.ok sink) interrupted) ⟨s, .unopened, .empty⟩ =
      (finish interrupted all last.counts result, last) := by
  intro last all
  have hmore : (sink.after heads).Accepts := h
  have htransfer : outcome (transfer subs (.ok sink) interrupted) ⟨s, .unopened, .empty⟩ =
      outcome (passAll none interrupted) ⟨started, .opened (sink.after heads), .empty⟩ := by
    rw [outcome, run_transfer hs]
    simp only
    rw [run_passAll hheads (h.takes heads)]
    rfl
  rw [htransfer]
  exact outcome_passAll hd (hmore.takes _) hn interrupted

end

/-! ## The stop at the end -/

/-- What a relay had come to when its session was stopped. -/
def tried (s : Session) (subs : List Subscription) (output : Except Error Sink)
    (interrupted : Bool) : Except Error Counts × Relay :=
  outcome (transfer subs output interrupted) ⟨s, .unopened, .empty⟩

/-- What a relay comes to when its session is stopped.  A failure of its own comes first. -/
def stopped (result : Except Error Counts) (r : Relay) : Outcome where
  result := match result with
    | .ok counts => (outcome Session.stop r.session).1.map fun _ => counts
    | .error e => .error e
  session := (outcome Session.stop r.session).2
  output := r.output

theorem run_eq (s : Session) (subs : List Subscription) (output : Except Error Sink)
    (interrupted : Bool) : run s subs output interrupted =
      stopped (tried s subs output interrupted).1 (tried s subs output interrupted).2 := by
  have htransfer (r : Relay) : EStateM.run (transfer subs output interrupted) r =
      transfer subs output interrupted r := rfl
  have hstop (s : Session) : EStateM.run Session.stop s = Session.stop s := rfl
  rw [run, tried, outcome, htransfer]
  cases transfer subs output interrupted ⟨s, .unopened, .empty⟩ with
  | ok counts r =>
    simp only [stopped, outcome, hstop]
    cases Session.stop r.session <;> rfl
  | error e r =>
    simp only [stopped, outcome, hstop]
    cases Session.stop r.session <;> rfl

/-- If the connection can be closed, the stop adds nothing to what the relay gives. -/
theorem result_stopped {result : Except Error Counts} {r : Relay}
    (h : r.session.connection.closing = none) : (stopped result r).result = result := by
  cases result with
  | error e => rfl
  | ok counts =>
    show (outcome Session.stop r.session).1.map _ = _
    rw [outcome, Session.run_stop, h]
    by_cases hstate : r.session.state = .stopped
    · rw [if_pos hstate]
      rfl
    · rw [if_neg hstate]
      rfl

end Relay
end Live
end TickStream
