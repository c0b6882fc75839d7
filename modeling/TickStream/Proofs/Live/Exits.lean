import TickStream.Proofs.Live.LineRelay
/-
The ways out of a relay.  Main statement: whatever the gateway sends, whatever is subscribed to
and wherever the output fails, the session is stopped, the output is asked for once if the session
has started and never otherwise, and the error is that of the first step that failed.
-/
namespace TickStream

open Step

namespace Live
namespace Relay

open Session (Drives)

variable {s t started : Session} {subs : List Subscription} {metadata : Option Metadata}
  {output : Except Error Sink} {sink filled : Sink} {interrupted : Bool} {e : Error}

/-! ## Sessions that do not start -/

/-- The session `s` fails with `e` before its records begin, which leaves `t`. -/
inductive Balks (s : Session) (subs : List Subscription) (e : Error) (t : Session) : Prop where
  | authenticate (h : EStateM.run Session.authenticate s = .error e t)
  | subscribe {id : String} {s₁ s₂ : Session} {done rest : List Subscription}
    {sub : Subscription} (hauthenticate : EStateM.run Session.authenticate s = .ok id s₁)
    (hsubs : subs = done ++ sub :: rest)
    (hdone : EStateM.run (done.forM Session.subscribe) s₁ = .ok () s₂)
    (h : EStateM.run (Session.subscribe sub) s₂ = .error e t)
  | start {id : String} {s₁ s₂ : Session}
    (hauthenticate : EStateM.run Session.authenticate s = .ok id s₁)
    (hsubscribe : EStateM.run (subs.forM Session.subscribe) s₁ = .ok () s₂)
    (h : EStateM.run Session.start s₂ = .error e t)

theorem starts_or_balks (s : Session) (subs : List Subscription) :
    (∃ metadata started, Starts s subs metadata started) ∨ ∃ e t, Balks s subs e t := by
  cases hauthenticate : EStateM.run Session.authenticate s with
  | error e t => exact .inr ⟨e, t, .authenticate hauthenticate⟩
  | ok id s₁ =>
    cases hsubscribe : EStateM.run (subs.forM Session.subscribe) s₁ with
    | error e t =>
      obtain ⟨done, sub, rest, s₂, hsubs, hdone, h⟩ := run_forM_eq_error.1 hsubscribe
      exact .inr ⟨e, t, .subscribe hauthenticate hsubs hdone h⟩
    | ok _ s₂ =>
      cases hstart : EStateM.run Session.start s₂ with
      | error e t => exact .inr ⟨e, t, .start hauthenticate hsubscribe hstart⟩
      | ok metadata started => exact .inl ⟨metadata, started, .mk hauthenticate hsubscribe hstart⟩

/-- A session that does not start leaves the output alone. -/
theorem run_transferAsking_balks {σ : Type} {inRelay : {α : Type} → Step α → EStateM Error σ α}
    {beside : Relay → σ} (hin : Beside inRelay beside) (h : Balks s subs e t)
    (ask : EStateM Error σ Unit) (interrupted : Bool) :
    EStateM.run (transferAsking inRelay ask subs interrupted) (beside ⟨s, .unopened, .empty⟩) =
      .error e (beside ⟨t, .unopened, .empty⟩) := by
  cases h with
  | authenticate h =>
    rw [transferAsking]
    exact bind_error (hin.error h)
  | subscribe hauthenticate hsubs hdone h =>
    have hsubscribe := run_forM_eq_error.2 ⟨_, _, _, _, hsubs, hdone, h⟩
    rw [transferAsking, bind_ok (hin.ok hauthenticate)]
    exact bind_error (hin.forM_error hsubscribe)
  | start hauthenticate hsubscribe h =>
    rw [transferAsking, bind_ok (hin.ok hauthenticate), bind_ok (hin.forM_ok hsubscribe)]
    exact bind_error (hin.error h)

theorem run_transfer_balks (h : Balks s subs e t) (output : Except Error Sink)
    (interrupted : Bool) :
    EStateM.run (transfer subs output interrupted) ⟨s, .unopened, .empty⟩ =
      .error e ⟨t, .unopened, .empty⟩ :=
  run_transferAsking_balks beside_self h (openOutput output) interrupted

theorem Starts.not_balks (hs : Starts s subs metadata started) : ¬ Balks s subs e t := by
  intro h
  have hbalks := run_transfer_balks h (.error e) false
  rw [run_transfer hs] at hbalks
  injection hbalks with _ hrelay
  injection hrelay with _ houtput
  cases houtput

/-! ## How often the output is asked for -/

/-- A step that does not ask for the output, with a count of how often that was done. -/
def unasked {α : Type} (step : Step α) : EStateM Error (Relay × Nat) α := fun (r, n) =>
  match step r with
  | .ok a r => .ok a (r, n)
  | .error e r => .error e (r, n)

/-- Asks for the output.  The answer may depend on how often that was done before. -/
def ask (answers : Nat → Except Error Sink) : EStateM Error (Relay × Nat) Unit := fun (r, n) =>
  match openOutput (answers n) r with
  | .ok () r => .ok () (r, n + 1)
  | .error e r => .error e (r, n + 1)

theorem beside_unasked (n : Nat) : Beside unasked (·, n) := by
  intro α step r
  have hrun : EStateM.run step r = step r := rfl
  show unasked step (r, n) = _
  rw [hrun]
  cases hr : step r with
  | ok a t => simp only [unasked, hr]
  | error e t => simp only [unasked, hr]

theorem times_unasked {α : Type} (step : Step α) (r : Relay) (n : Nat) :
    (outcome (unasked step) (r, n)).2.2 = n := by
  rw [outcome, beside_unasked n step r]
  cases EStateM.run step r <;> rfl

/-- How often a relay of the session asks for its output. -/
def timesAsked (s : Session) (subs : List Subscription) (answers : Nat → Except Error Sink)
    (interrupted : Bool) : Nat :=
  (outcome (transferAsking unasked (ask answers) subs interrupted) (⟨s, .unopened, .empty⟩, 0)).2.2

/-- A session that starts asks once, and goes on with the answer. -/
theorem timesAsked_of_starts (hs : Starts s subs metadata started)
    (answers : Nat → Except Error Sink) (interrupted : Bool) :
    timesAsked s subs answers interrupted = 1 := by
  rw [timesAsked, outcome, run_transferAsking (beside_unasked 0) hs]
  cases hanswer : answers 0 with
  | ok sink =>
    have hask : EStateM.run (ask answers) (⟨started, .unopened, .empty⟩, 0) =
        .ok () (⟨started, .opened sink, .empty⟩, 1) := by
      show ask answers _ = _
      simp only [ask, openOutput, hanswer]
    rw [bind_ok hask]
    exact times_unasked (passAll metadata interrupted) _ 1
  | error e =>
    have hask : EStateM.run (ask answers) (⟨started, .unopened, .empty⟩, 0) =
        .error e (⟨started, .refused, .empty⟩, 1) := by
      show ask answers _ = _
      simp only [ask, openOutput, hanswer]
    rw [bind_error hask]

theorem timesAsked_of_balks (h : Balks s subs e t) (answers : Nat → Except Error Sink)
    (interrupted : Bool) : timesAsked s subs answers interrupted = 0 := by
  rw [timesAsked, outcome, run_transferAsking_balks (beside_unasked 0) h]

/-! ## The first failure -/

theorem Starts.drives (hs : Starts s subs metadata started) :
    ∃ shown result t, started.Drives shown result t ∧
      shown.length < (started.feed.map Feed.bound).getD 0 := by
  obtain ⟨-, -, hstart⟩ := hs
  obtain ⟨w, source, feed, rfl, hlines, hframes⟩ := Session.start_eq_ok hstart
  by_cases hjson : w.settings.encoding = .json
  · obtain ⟨rfl, rfl⟩ := hlines hjson
    obtain ⟨texts, ending, htexts⟩ := LineScanner.exists_lines source.failure 0 0 source.content
    obtain ⟨shown, hdrives, hshows⟩ := htexts.drives
      (s := .ofSource source (Session.lineCodec w.settings)) ⟨rfl, rfl, rfl, rfl, rfl, rfl⟩
    obtain ⟨t, hsession, -⟩ := Session.drives_listing
      (s := w.begun (.lines (.ofSource source (Session.lineCodec w.settings))) none) hdrives rfl
      (.inl rfl)
    refine ⟨_, _, t, hsession, ?_⟩
    rw [List.length_map, hshows.length_eq]
    exact Nat.lt_succ_of_le htexts.length_le
  · obtain ⟨m, scanner, rfl, rfl, hhead⟩ := hframes hjson
    have hopened := (FrameScanner.ensures_readHead source).of_ok hhead
    obtain ⟨shown, ending, hdrives⟩ := hopened.drives
    obtain ⟨t, hsession, -⟩ :=
      Session.drives_scanning (s := w.begun (.frames scanner) (some m)) hdrives rfl hopened
    refine ⟨_, _, t, hsession, ?_⟩
    rw [List.length_map]
    exact Nat.lt_succ_of_le (hdrives.length_le hopened)

/-- The first step of a relay that fails does so with `e`, and the output has come to `out`. -/
inductive FailsFirst (s : Session) (subs : List Subscription) (output : Except Error Sink)
    (interrupted : Bool) (e : Error) (out : Output) : Prop where
  /-- The session does not start. -/
  | before {t : Session} (h : Balks s subs e t) (hout : out = .unopened)
  | opening {metadata : Option Metadata} {started : Session}
    (hs : Starts s subs metadata started) (h : output = .error e) (hout : out = .refused)
  /-- The metadata has no bytes of its own. -/
  | encoding {m : Metadata} {started : Session} {sink : Sink} (hs : Starts s subs (some m) started)
    (hopen : output = .ok sink) (h : m.encode = .error e) (hout : out = .opened sink)
  /-- The output does not take all that there is to write. -/
  | writing {metadata : Option Metadata} {started t : Session} {sink filled : Sink}
    {heads : List Bytes} {shown : List Session} {result : Except Error Bool}
    (hs : Starts s subs metadata started) (hopen : output = .ok sink)
    (hheads : Heads metadata heads) (hd : started.Drives shown result t)
    (h : sink.Refuses (heads ++ shown.flatMap Session.written) e filled)
    (hout : out = .opened filled)
  /-- The session fails, and was not interrupted.  Whether the output can be flushed then plays
  no part. -/
  | streaming {metadata : Option Metadata} {started t : Session} {sink : Sink}
    {heads : List Bytes} {shown : List Session} (hs : Starts s subs metadata started)
    (hopen : output = .ok sink) (hheads : Heads metadata heads)
    (hd : started.Drives shown (.error e) t)
    (hwritten : sink.Takes (heads ++ shown.flatMap Session.written))
    (h : interrupted = false)
    (hout : out = .opened (sink.after (heads ++ shown.flatMap Session.written)))
  | flushing {metadata : Option Metadata} {started t : Session} {sink filled : Sink}
    {heads : List Bytes} {shown : List Session} {result : Except Error Bool} {fault : IoFault}
    (hs : Starts s subs metadata started) (hopen : output = .ok sink)
    (hheads : Heads metadata heads) (hd : started.Drives shown result t)
    (hwritten : sink.Takes (heads ++ shown.flatMap Session.written))
    (hended : (∃ more, result = .ok more) ∨ interrupted = true)
    (hfilled : filled = sink.after (heads ++ shown.flatMap Session.written))
    (h : filled.flushing filled.taken = some fault) (he : e = .io fault)
    (hout : out = .opened filled)

/-- No step of a relay fails, but for that of a session that was interrupted. -/
inductive Completes (s : Session) (subs : List Subscription) (output : Except Error Sink)
    (interrupted : Bool) (out : Output) : Prop where
  | mk {metadata : Option Metadata} {started t : Session} {sink filled : Sink}
    {heads : List Bytes} {shown : List Session} {result : Except Error Bool}
    (hs : Starts s subs metadata started) (hopen : output = .ok sink)
    (hheads : Heads metadata heads) (hd : started.Drives shown result t)
    (hwritten : sink.Takes (heads ++ shown.flatMap Session.written))
    (hended : (∃ more, result = .ok more) ∨ interrupted = true)
    (hfilled : filled = sink.after (heads ++ shown.flatMap Session.written))
    (h : filled.flushing filled.taken = none) (hout : out = .opened filled)

section
variable {t' : Session} {heads : List Bytes} {shown shown' : List Session}
  {result result' : Except Error Bool} {out : Output}

theorem drives_unique (hd : s.Drives shown result t) (hd' : s.Drives shown' result' t') :
    shown = shown' ∧ result = result' ∧ t = t' := by
  induction hd generalizing shown' with
  | ended hr =>
    cases hd' with
    | ended hr' => cases hr.symm.trans hr'; exact ⟨rfl, rfl, rfl⟩
    | failed hr' => cases hr.symm.trans hr'
    | frame hr' _ => cases hr.symm.trans hr'
  | failed hr =>
    cases hd' with
    | ended hr' => cases hr.symm.trans hr'
    | failed hr' => cases hr.symm.trans hr'; exact ⟨rfl, rfl, rfl⟩
    | frame hr' _ => cases hr.symm.trans hr'
  | frame hr _ ih =>
    cases hd' with
    | ended hr' => cases hr.symm.trans hr'
    | failed hr' => cases hr.symm.trans hr'
    | frame hr' hmore =>
      cases hr.symm.trans hr'
      obtain ⟨hshown, hend⟩ := ih hmore
      exact ⟨congrArg _ hshown, hend⟩

theorem Starts.length_lt (hs : Starts s subs metadata started)
    (hd : started.Drives shown result t) :
    shown.length < (started.feed.map Feed.bound).getD 0 := by
  obtain ⟨shown', result', t', hd', hbound⟩ := hs.drives
  rw [(drives_unique hd hd').1]
  exact hbound

/-- The relay of a session that starts, when the output takes all that there is to write. -/
theorem outcome_taken (hs : Starts s subs metadata started) (hheads : Heads metadata heads)
    (hd : started.Drives shown result t)
    (hwritten : sink.Takes (heads ++ shown.flatMap Session.written)) (interrupted : Bool) :
    ∃ counts, outcome (transfer subs (.ok sink) interrupted) ⟨s, .unopened, .empty⟩ =
      (finish interrupted (sink.after (heads ++ shown.flatMap Session.written)) counts result,
        ⟨t, .opened (sink.after (heads ++ shown.flatMap Session.written)), counts⟩) := by
  obtain ⟨hfirst, hmore⟩ := Sink.takes_append.1 hwritten
  have hall := outcome_passAll hd hmore (hs.length_lt hd) interrupted
  refine ⟨(passed (sink.after heads) .empty shown t).counts, ?_⟩
  rw [outcome, run_transfer hs]
  simp only
  rw [run_passAll hheads hfirst, ← Sink.after_after]
  exact hall

/-- When it does not, the relay ends with the first write that fails. -/
theorem outcome_refused (hs : Starts s subs metadata started) (hheads : Heads metadata heads)
    (hd : started.Drives shown result t)
    (h : sink.Refuses (heads ++ shown.flatMap Session.written) e filled) (interrupted : Bool) :
    ∃ u counts, outcome (transfer subs (.ok sink) interrupted) ⟨s, .unopened, .empty⟩ =
      (.error e, ⟨u, .opened filled, counts⟩) := by
  rw [outcome, run_transfer hs]
  simp only
  obtain hfirst | ⟨hfirst, hmore⟩ := Sink.refuses_append.1 h
  · rw [run_passAll_refused hheads hfirst]
    exact ⟨started, .empty, rfl⟩
  · obtain ⟨u, counts, hcopy⟩ :=
      run_copy_refused .empty hd hmore interrupted (hs.length_lt hd)
    have hall : EStateM.run (passAll none interrupted)
        ⟨started, .opened (sink.after heads), .empty⟩ = .error e ⟨u, .opened filled, counts⟩ := by
      rw [passAll]
      show EStateM.run (do
        copy interrupted (bound (← get))
        inOutput Sink.flush
        return (← get).counts) _ = _
      rw [bind_ok (run_get _)]
      exact bind_error hcopy
    rw [run_passAll hheads hfirst, hall]
    exact ⟨u, counts, rfl⟩

theorem finish_of_ended {counts : Counts}
    (hended : (∃ more, result = .ok more) ∨ interrupted = true) :
    finish interrupted sink counts result = finish.flushed sink counts := by
  cases result with
  | ok more => rfl
  | error e =>
    obtain ⟨more, hmore⟩ | hinterrupted := hended
    · cases hmore
    · subst hinterrupted
      rfl

/-- A relay fails as its first step that fails. -/
theorem FailsFirst.outcome_eq (h : FailsFirst s subs output interrupted e out) :
    ∃ t counts, outcome (transfer subs output interrupted) ⟨s, .unopened, .empty⟩ =
      (.error e, ⟨t, out, counts⟩) := by
  cases h with
  | @before t h hout =>
    subst hout
    refine ⟨t, .empty, ?_⟩
    rw [outcome, run_transfer_balks h]
  | @opening metadata started hs h hout =>
    subst h hout
    refine ⟨started, .empty, ?_⟩
    rw [outcome, run_transfer hs]
  | @encoding m started sink hs hopen h hout =>
    subst hopen hout
    have hall : EStateM.run (passAll (some m) interrupted) ⟨started, .opened sink, .empty⟩ =
        .error e ⟨started, .opened sink, .empty⟩ := by
      rw [passAll]
      exact bind_error (run_ofExcept_error h _)
    refine ⟨started, .empty, ?_⟩
    rw [outcome, run_transfer hs]
    simp only [hall]
  | writing hs hopen hheads hd h hout =>
    subst hopen hout
    exact outcome_refused hs hheads hd h interrupted
  | streaming hs hopen hheads hd hwritten h hout =>
    subst hopen hout h
    obtain ⟨counts, hall⟩ := outcome_taken hs hheads hd hwritten false
    exact ⟨_, counts, hall⟩
  | @flushing metadata started t sink filled heads shown result fault hs hopen hheads hd hwritten
      hended hfilled h he hout =>
    subst hopen he hout hfilled
    obtain ⟨counts, hall⟩ := outcome_taken hs hheads hd hwritten interrupted
    refine ⟨t, counts, hall.trans ?_⟩
    rw [finish_of_ended hended, finish.flushed, h]

theorem Completes.outcome_eq (h : Completes s subs output interrupted out) :
    ∃ t counts, outcome (transfer subs output interrupted) ⟨s, .unopened, .empty⟩ =
      (.ok counts, ⟨t, out, counts⟩) := by
  cases h with
  | @mk metadata started t sink filled heads shown result hs hopen hheads hd hwritten hended hfilled
      h hout =>
    subst hopen hout hfilled
    obtain ⟨counts, hall⟩ := outcome_taken hs hheads hd hwritten interrupted
    refine ⟨t, counts, hall.trans ?_⟩
    rw [finish_of_ended hended, finish.flushed, h]

theorem completes_or_failsFirst (s : Session) (subs : List Subscription)
    (output : Except Error Sink) (interrupted : Bool) :
    (∃ out, Completes s subs output interrupted out) ∨
      ∃ e out, FailsFirst s subs output interrupted e out := by
  obtain ⟨metadata, started, hs⟩ | ⟨e, t, hbalks⟩ := starts_or_balks s subs
  · cases output with
    | error e => exact .inr ⟨e, _, .opening hs rfl rfl⟩
    | ok sink =>
      obtain ⟨shown, result, t, hd, -⟩ := hs.drives
      -- The metadata has bytes, or cannot be written.
      obtain ⟨heads, hheads⟩ | ⟨m, e, rfl, hm⟩ :
          (∃ heads, Heads metadata heads) ∨ ∃ m e, metadata = some m ∧ m.encode = .error e := by
        cases metadata with
        | none => exact .inl ⟨[], .lines⟩
        | some m =>
          cases hm : m.encode with
          | ok head => exact .inl ⟨[head], .frames hm⟩
          | error e => exact .inr ⟨m, e, rfl, hm⟩
      · obtain hwritten | ⟨fault, filled, hrefused⟩ :=
          sink.takes_or_refuses (heads ++ shown.flatMap Session.written)
        · by_cases hended : (∃ more, result = .ok more) ∨ interrupted = true
          · cases hfault : (sink.after (heads ++ shown.flatMap Session.written)).flushing
                (sink.after (heads ++ shown.flatMap Session.written)).taken with
            | none => exact .inl ⟨_, hs, rfl, hheads, hd, hwritten, hended, rfl, hfault, rfl⟩
            | some fault =>
              exact .inr ⟨_, _, .flushing hs rfl hheads hd hwritten hended rfl hfault rfl rfl⟩
          · obtain ⟨hmore, hgoing⟩ := not_or.1 hended
            cases result with
            | ok more => exact absurd ⟨more, rfl⟩ hmore
            | error e =>
              have hno : interrupted = false := Bool.eq_false_iff.2 hgoing
              exact .inr ⟨e, _, .streaming hs rfl hheads hd hwritten hno rfl⟩
        · exact .inr ⟨_, _, .writing hs rfl hheads hd hrefused rfl⟩
      · exact .inr ⟨e, _, .encoding hs rfl hm rfl⟩
  · exact .inr ⟨e, _, .before hbalks rfl⟩

end

/-! ## Every relay -/

/-- The output is opened or refused if the session starts, and not asked for otherwise. -/
theorem output_eq_unopened_iff (s : Session) (subs : List Subscription)
    (output : Except Error Sink) (interrupted : Bool) :
    (tried s subs output interrupted).2.output = .unopened ↔
      ¬ ∃ metadata started, Starts s subs metadata started := by
  obtain ⟨out, h⟩ | ⟨e, out, h⟩ := completes_or_failsFirst s subs output interrupted
  · obtain ⟨t, counts, hall⟩ := h.outcome_eq
    obtain ⟨hs, -, -, -, -, -, -, -, hout⟩ := h
    rw [tried, hall, hout]
    simp only [reduceCtorEq, false_iff, not_not]
    exact ⟨_, _, hs⟩
  · obtain ⟨t, counts, hall⟩ := h.outcome_eq
    rw [tried, hall]
    have hstarts {metadata : Option Metadata} {started : Session}
        (hs : Starts s subs metadata started) (hout : out ≠ .unopened) :
        out = .unopened ↔ ¬ ∃ metadata started, Starts s subs metadata started :=
      ⟨fun h => absurd h hout, fun h => absurd ⟨metadata, started, hs⟩ h⟩
    cases h with
    | before h hout =>
      refine ⟨fun _ hs => ?_, fun _ => hout⟩
      obtain ⟨metadata, started, hs⟩ := hs
      exact hs.not_balks h
    | opening hs _ hout => exact hstarts hs (by rw [hout]; intro h; cases h)
    | encoding hs _ _ hout => exact hstarts hs (by rw [hout]; intro h; cases h)
    | writing hs _ _ _ _ hout => exact hstarts hs (by rw [hout]; intro h; cases h)
    | streaming hs _ _ _ _ _ hout => exact hstarts hs (by rw [hout]; intro h; cases h)
    | flushing hs _ _ _ _ _ _ _ _ hout => exact hstarts hs (by rw [hout]; intro h; cases h)

theorem timesAsked_eq (s : Session) (subs : List Subscription)
    (answers : Nat → Except Error Sink) (interrupted : Bool) :
    (∃ metadata started, Starts s subs metadata started) ∧
        timesAsked s subs answers interrupted = 1 ∨
      (¬ ∃ metadata started, Starts s subs metadata started) ∧
        timesAsked s subs answers interrupted = 0 := by
  obtain ⟨metadata, started, hs⟩ | ⟨e, t, hbalks⟩ := starts_or_balks s subs
  · exact .inl ⟨⟨metadata, started, hs⟩, timesAsked_of_starts hs answers interrupted⟩
  · refine .inr ⟨?_, timesAsked_of_balks hbalks answers interrupted⟩
    rintro ⟨metadata, started, hs⟩
    exact hs.not_balks hbalks

/-- Every relay, of a session in any state and with any answer to each time that the output is
asked for. -/
theorem stopped_and_opened_late (s : Session) (subs : List Subscription)
    (answers : Nat → Except Error Sink) (interrupted : Bool) :
    let got := run s subs (answers 0) interrupted
    let before := tried s subs (answers 0) interrupted
    let asked := timesAsked s subs answers interrupted
    got.session.state = .stopped ∧
      asked ≤ 1 ∧
      (asked = 1 ↔ ∃ metadata started, Starts s subs metadata started) ∧
      (got.output = .unopened ↔ asked = 0) ∧
      (∀ e out, FailsFirst s subs (answers 0) interrupted e out →
        got.result = .error e ∧ got.output = out) ∧
      ((∃ e out, FailsFirst s subs (answers 0) interrupted e out) ∨
        ∃ counts out, Completes s subs (answers 0) interrupted out ∧ got.output = out ∧
          before.1 = .ok counts ∧
          got.result = (outcome Session.stop before.2.session).1.map fun _ => counts) := by
  intro got before asked
  have hgot : got = stopped before.1 before.2 := run_eq s subs (answers 0) interrupted
  have houtput : got.output = before.2.output := by
    rw [hgot]
    rfl
  have hunopened := output_eq_unopened_iff s subs (answers 0) interrupted
  refine ⟨?_, ?_, ?_, ?_, ?_, ?_⟩
  · rw [hgot]
    exact Session.state_stop before.2.session
  · obtain ⟨-, hasked⟩ | ⟨-, hasked⟩ := timesAsked_eq s subs answers interrupted
    · exact Nat.le_of_eq hasked
    · exact Nat.le_trans (Nat.le_of_eq hasked) (Nat.zero_le 1)
  · obtain ⟨hs, hasked⟩ | ⟨hs, hasked⟩ := timesAsked_eq s subs answers interrupted
    · exact ⟨fun _ => hs, fun _ => hasked⟩
    · exact ⟨fun h => absurd (hasked.symm.trans h) (by decide), fun h => absurd h hs⟩
  · rw [houtput, hunopened]
    obtain ⟨hs, hasked⟩ | ⟨hs, hasked⟩ := timesAsked_eq s subs answers interrupted
    · exact ⟨fun h => absurd hs h, fun h => absurd (hasked.symm.trans h) (by decide)⟩
    · exact ⟨fun _ => hasked, fun _ => hs⟩
  · intro e out h
    obtain ⟨t, counts, hall⟩ := h.outcome_eq
    have hbefore : before = (.error e, ⟨t, out, counts⟩) := hall
    rw [hgot, hbefore]
    exact ⟨rfl, rfl⟩
  · obtain ⟨out, h⟩ | hfails := completes_or_failsFirst s subs (answers 0) interrupted
    · obtain ⟨t, counts, hall⟩ := h.outcome_eq
      have hbefore : before = (.ok counts, ⟨t, out, counts⟩) := hall
      refine .inr ⟨counts, out, h, ?_, ?_, ?_⟩
      · rw [houtput, hbefore]
      · rw [hbefore]
      · rw [hgot, hbefore]
        rfl
    · exact .inl hfails

end Relay
end Live
end TickStream
