import TickStream.Proofs.Live.Steps
import TickStream.Proofs.TwoRuns
/-
Calls of a session in any order.  Main statement: what is known of a session between two calls
depends on its state alone, and every call keeps it, whatever the gateway sends and whichever
writes fail.
-/
namespace TickStream

open Step

namespace Live

/-! ## Calls -/

/-- What callers do with a session. -/
inductive Call where
  | authenticate
  | subscribe (sub : Subscription)
  | start
  | nextRecord
  | nextFrame
  | stop

inductive Answer where
  | authenticated (id : String)
  | subscribed
  | started (metadata : Option Metadata)
  | record (r? : Option Record)
  | advanced (more : Bool)
  | stopped

namespace Call

def name : Call → String
  | authenticate => "authenticate"
  | subscribe _ => "subscribe"
  | start => "start"
  | nextRecord => "next_record"
  | nextFrame => "next_frame"
  | stop => "stop"

/-- The states that the call is meant for. -/
def allowed : Call → List SessionState
  | authenticate => [.awaitingGreeting]
  | subscribe _ => [.authenticated, .subscribing]
  | start => [.subscribing]
  | nextRecord => [.streaming]
  | nextFrame => [.streaming]
  | stop =>
    [.connected, .awaitingGreeting, .awaitingChallenge, .authenticating, .authenticated,
      .subscribing, .started, .streaming, .stopped, .failed]

def step : Call → Session.Step Answer
  | authenticate => do return .authenticated (← Session.authenticate)
  | subscribe sub => do
    Session.subscribe sub
    return .subscribed
  | start => do return .started (← Session.start)
  | nextRecord => do return .record (← Session.nextRecord)
  | nextFrame => do return .advanced (← Session.nextFrame)
  | stop => do
    Session.stop
    return .stopped

end Call

namespace Session

def perform (call : Call) (s : Session) : Except Error Answer × Session := outcome call.step s

def after (s : Session) (calls : List Call) : Session :=
  calls.foldl (fun s call => (s.perform call).2) s

/-- A call that is not for the state of the session is refused and changes nothing. -/
theorem perform_refused {s : Session} {call : Call} (h : s.state ∉ call.allowed) :
    s.perform call = (.error (.badState call.name s.state.name), s) := by
  have hrun : EStateM.run call.step s = .error (.badState call.name s.state.name) s := by
    cases call with
    | authenticate => exact bind_error (run_refused h _)
    | subscribe sub => exact bind_error (run_refused h _)
    | start => exact bind_error (run_refused h _)
    | nextRecord => exact bind_error (run_refused h _)
    | nextFrame => exact bind_error (run_refused h _)
    | stop =>
      refine absurd ?_ h
      rw [Call.allowed]
      cases s.state <;> decide
  rw [perform, outcome, hrun]

end Session

/-! ## What is known between two calls -/

theorem Subscription.line_eq_error {sub : Subscription} {e : Error} (h : sub.line = .error e) :
    e = .emptySubscription := by
  rw [line] at h
  split at h
  · injection h with h
    exact h.symm
  · cases h

/-- What a session has written, to a gateway that sends `heard`: nothing yet; the answer to its
challenge; after its consent the subscriptions as they were made; and last, if there are any, the
line that asks for the records. -/
inductive Said (settings : Settings) (heard : Bytes) : List Subscription → List Bytes → Prop where
  | nothing : Said settings heard [] []
  | answered {answer : String} {rest : Bytes} (h : Asked settings heard answer rest) :
    Said settings heard [] [Bytes.ofString answer]
  | subscribed {answer : String} {rest : Bytes} {subs : List Subscription} {lines : List String}
    (h : Accepted settings heard answer rest)
    (hlines : List.Forall₂ (fun sub line => sub.line = .ok line) subs lines) :
    Said settings heard subs ((answer :: lines).map Bytes.ofString)
  | started {answer : String} {rest : Bytes} {subs : List Subscription} {lines : List String}
    (h : Accepted settings heard answer rest)
    (hlines : List.Forall₂ (fun sub line => sub.line = .ok line) subs lines)
    (hsubs : subs ≠ []) :
    Said settings heard subs ((answer :: (lines ++ [startLine])).map Bytes.ofString)

namespace Session

variable {s t : Session} {settings : Settings} {heard : Bytes} {e : Error}

/-- Nothing has been said yet, and all that the gateway sends is still to be read. -/
structure Unheard (s : Session) (heard : Bytes) : Prop where
  incoming : ∃ u, s.connection.incoming = some u ∧ u.content = heard
  subscriptions : s.subscriptions = []
  sent : s.connection.sent = []

/-- The gateway has told its version and has named the session. -/
def Identified (s : Session) : Prop := s.gatewayVersion.isSome ∧ s.id.isSome

/-- The session is one that the gateway has accepted, and all of its subscriptions are sent. -/
structure Admitted (s : Session) (heard : Bytes) : Prop where
  identified : s.Identified
  incoming : ∃ u, s.connection.incoming = some u
  sent : ∃ answer rest lines, Accepted s.settings heard answer rest ∧
    List.Forall₂ (fun sub line => sub.line = .ok line) s.subscriptions lines ∧
    s.connection.sent = (answer :: lines).map Bytes.ofString

/-- The session has subscriptions, and its records come from a feed. -/
structure Streaming (s : Session) (heard : Bytes) : Prop where
  identified : s.Identified
  subscriptions : s.subscriptions ≠ []
  feed : ∃ feed : Feed, s.feed = some feed ∧ feed.Sound s.settings.encoding s.metadata
  said : Said s.settings heard s.subscriptions s.connection.sent

/-- What its state says of a session between two calls. -/
def Stage (s : Session) (heard : Bytes) : Prop :=
  match s.state with
  | .awaitingGreeting => s.Unheard heard
  | .authenticated => s.Admitted heard
  | .subscribing => s.Admitted heard ∧ s.subscriptions ≠ []
  | .streaming => s.Streaming heard
  | .stopped | .failed => Said s.settings heard s.subscriptions s.connection.sent
  | .connected | .awaitingChallenge | .authenticating | .started => False

/-- The session has the settings it was opened with, and its state tells the truth. -/
structure Standing (s : Session) (settings : Settings) (heard : Bytes) : Prop where
  settings : s.settings = settings
  valid : ∃ key, s.settings.validate = .ok key
  stage : s.Stage heard

theorem Unheard.said (hs : s.Unheard heard) :
    Said s.settings heard s.subscriptions s.connection.sent := by
  rw [hs.subscriptions, hs.sent]
  exact .nothing

theorem Admitted.said (hs : s.Admitted heard) :
    Said s.settings heard s.subscriptions s.connection.sent := by
  obtain ⟨answer, rest, lines, haccepted, hlines, hsent⟩ := hs.sent
  rw [hsent]
  exact .subscribed haccepted hlines

/-- The line that asks for the records comes last, if there are subscriptions. -/
theorem Admitted.said_start (hs : s.Admitted heard) (hsubs : s.subscriptions ≠ []) :
    Said s.settings heard s.subscriptions
      (s.connection.sent ++ [Bytes.ofString startLine]) := by
  obtain ⟨answer, rest, lines, haccepted, hlines, hsent⟩ := hs.sent
  rw [hsent]
  have hsaid := Said.started haccepted hlines hsubs
  rwa [← List.cons_append, List.map_append] at hsaid

theorem Stage.said (hs : s.Stage heard) :
    Said s.settings heard s.subscriptions s.connection.sent := by
  unfold Stage at hs
  split at hs
  · exact hs.said
  · exact hs.said
  · exact hs.1.said
  · exact hs.said
  · exact hs
  · exact hs
  all_goals exact hs.elim

/-- Subscriptions can be made once the gateway has accepted the session. -/
theorem Stage.admitted (hs : s.Stage heard)
    (hstate : s.state = .authenticated ∨ s.state = .subscribing) : s.Admitted heard := by
  unfold Stage at hs
  rcases hstate with hstate | hstate
  · rw [hstate] at hs
    exact hs
  · rw [hstate] at hs
    exact hs.1

/-- How a call can fail. -/
inductive Fails (s : Session) (settings : Settings) (heard : Bytes) (call : Call) (e : Error)
    (t : Session) : Prop where
  /-- It is not for the state, and nothing happens. -/
  | refused (hstate : s.state ∉ call.allowed) (he : e = .badState call.name s.state.name)
    (ht : t = s)
  /-- The subscription names no symbol, and nothing happens. -/
  | empty (he : e = .emptySubscription) (ht : t = s)
  /-- It ends the session. -/
  | ended (he : e.IsExternal) (ht : t.Standing settings heard)
    (hstate : t.state = .failed ∨ call = .stop ∧ t.state = .stopped)

/-- The caller is told of a wrong state or of an empty subscription, and nothing has happened. -/
theorem Fails.of_usage (h : s.Fails settings heard call e t) (he : e.category = .usage) :
    ((∃ operation state, e = .badState operation state) ∨ e = .emptySubscription) ∧ t = s := by
  cases h with
  | refused _ he ht => exact ⟨.inl ⟨_, _, he⟩, ht⟩
  | empty he ht => exact ⟨.inr he, ht⟩
  | ended hexternal => exact absurd he hexternal

/-! ## Every call -/

/-- A step that could not be finished has written no more than it may. -/
theorem Standing.fail {cause : String → Prop} {call : Call} (hs : s.Standing settings heard)
    (ht : s.Tried t cause) (he : e.IsExternal)
    (hcause : ∀ line, cause line →
      Said s.settings heard s.subscriptions (s.connection.sent ++ [Bytes.ofString line])) :
    s.Fails settings heard call e t.fail := by
  have hsaid : Said t.settings heard t.subscriptions t.connection.sent := by
    rw [ht.settings, ht.subscriptions]
    rcases ht.sent with hsent | ⟨line, hline, hsent⟩
    · rw [hsent]
      exact hs.stage.said
    · rw [hsent]
      exact hcause line hline
  refine .ended he ⟨ht.settings.trans hs.settings, ?_, hsaid⟩ (.inl rfl)
  show ∃ key, t.settings.validate = .ok key
  rw [ht.settings]
  exact hs.valid

theorem Standing.authenticate (hs : s.Standing settings heard) :
    Ensures s authenticate (fun _ t => t.Standing settings heard)
      (s.Fails settings heard .authenticate) := by
  refine ensures_expect (fun hno => .refused hno rfl rfl) fun hyes => ?_
  have hstate : s.state = .awaitingGreeting := List.mem_singleton.1 hyes
  have hopen : s.state ≠ .stopped := by
    rw [hstate]
    nofun
  have hstage := hs.stage
  rw [Stage, hstate] at hstage
  obtain ⟨key, hkey⟩ := hs.valid
  obtain ⟨⟨u, hincoming, rfl⟩, hsubs, hsent⟩ := hstage
  have hstep := ensures_handshake hincoming hopen hkey
  refine (ensures_guarded (fun t ht => ht.state) hstep).mono ?_ ?_
  · rintro id t ⟨writes, v, answer, version, haccepted, rfl⟩
    have hadmitted :
        (((s.saying writes answer).hearing v).welcomed version id).Admitted u.content := by
      refine ⟨⟨rfl, rfl⟩, ⟨v, rfl⟩, answer, _, [], haccepted, ?_, ?_⟩
      · show List.Forall₂ _ s.subscriptions []
        rw [hsubs]
        exact .nil
      · show s.connection.sent ++ [Bytes.ofString answer] = _
        rw [hsent]
        rfl
    exact ⟨hs.settings, ⟨key, hkey⟩, hadmitted⟩
  · rintro e t ⟨he, w, htried, rfl⟩
    refine hs.fail htried he ?_
    rintro line ⟨rest, hasked⟩
    rw [hsubs, hsent]
    exact .answered hasked

theorem Standing.subscribe (hs : s.Standing settings heard) (sub : Subscription) :
    Ensures s (subscribe sub) (fun _ t => t.Standing settings heard)
      (s.Fails settings heard (.subscribe sub)) := by
  refine ensures_expect (fun hno => .refused hno rfl rfl) fun hyes => ?_
  have hstate : s.state = .authenticated ∨ s.state = .subscribing := by
    simpa [Call.allowed] using hyes
  have hopen : s.state ≠ .stopped := by
    rcases hstate with h | h <;> rw [h] <;> nofun
  refine ensures_ofExcept_bind (fun e he => .empty (Subscription.line_eq_error he) rfl) ?_
  intro line hline
  have hsend : Ensures s (sendLine .sendingSubscription line)
      (fun _ t => ∃ writes, t = s.saying writes line)
      fun e t => e.IsExternal ∧ s.Tried t fun _ => False := by
    refine (ensures_sendLine s _ line).mono (fun _ _ h => h) ?_
    rintro e t ⟨he, writes, rfl⟩
    exact ⟨he, rfl, rfl, hopen, .inl rfl⟩
  refine (ensures_guarded (fun t ht => ht.state) hsend).bind ?_ ?_
  · rintro e t ⟨he, u, htried, rfl⟩
    exact hs.fail htried he fun _ h => h.elim
  rintro _ t ⟨writes, rfl⟩
  obtain ⟨hidentified, hincoming, answer, rest, lines, haccepted, hlines, hsent⟩ :=
    hs.stage.admitted hstate
  refine ensures_modify ⟨hs.settings, hs.valid, ⟨hidentified, hincoming, answer, rest,
    lines ++ [line], haccepted, List.rel_append hlines (.cons hline .nil), ?_⟩, ?_⟩
  · show s.connection.sent ++ [Bytes.ofString line] = _
    rw [hsent, ← List.cons_append, List.map_append]
    rfl
  · show s.subscriptions ++ [sub] ≠ []
    simp

theorem Standing.start (hs : s.Standing settings heard) :
    Ensures s start (fun _ t => t.Standing settings heard) (s.Fails settings heard .start) := by
  refine ensures_expect (fun hno => .refused hno rfl rfl) fun hyes => ?_
  have hstate : s.state = .subscribing := List.mem_singleton.1 hyes
  have hopen : s.state ≠ .stopped := by
    rw [hstate]
    nofun
  have hstage := hs.stage
  rw [Stage, hstate] at hstage
  obtain ⟨hadmitted, hsubs⟩ := hstage
  have hsaid := hadmitted.said_start hsubs
  obtain ⟨key, hkey⟩ := hs.valid
  obtain ⟨u, hincoming⟩ := hadmitted.incoming
  have hstep := ensures_beginRecords hincoming hopen hkey
  refine (ensures_guarded (fun t ht => ht.state) hstep).mono ?_ ?_
  · rintro metadata t ⟨writes, feed, hbegins, rfl⟩
    have hstreaming : ((s.saying writes startLine).begun feed metadata).Streaming heard :=
      ⟨hadmitted.identified, hsubs, ⟨feed, rfl, hbegins.sound⟩, hsaid⟩
    exact ⟨hs.settings, ⟨key, hkey⟩, hstreaming⟩
  · rintro e t ⟨he, v, htried, rfl⟩
    refine hs.fail htried he ?_
    rintro line rfl
    exact hsaid

/-- An advance of the feed. -/
theorem Standing.inFeed {α : Type} {call : Call} {step : EStateM Error Feed α}
    (hs : s.Standing settings heard) (hallowed : call.allowed = [.streaming])
    (hstep : ∀ {feed : Feed} {encoding : Encoding} {metadata : Option Metadata},
      feed.Sound encoding metadata →
        Ensures feed step (fun _ t => t.Sound encoding metadata) fun e _ => e.IsExternal) :
    Ensures s (inFeed call.name step) (fun _ t => t.Standing settings heard)
      (s.Fails settings heard call) := by
  by_cases hstate : s.state = .streaming
  · have hstage := hs.stage
    rw [Stage, hstate] at hstage
    obtain ⟨feed, hfeed, hsound⟩ := hstage.feed
    have hopen : s.state ≠ .stopped := by
      rw [hstate]
      nofun
    cases hr : EStateM.run step feed with
    | ok a next =>
      refine ensures_of_ok (run_inFeed_ok hstate hfeed hr) ⟨hs.settings, hs.valid, ?_⟩
      rw [Stage, hstate]
      exact ⟨hstage.identified, hstage.subscriptions, ⟨next, rfl, (hstep hsound).of_ok hr⟩,
        hstage.said⟩
    | error e next =>
      have he := (hstep hsound).of_error hr
      have htried : s.Tried { s with feed := some next } fun _ => False :=
        ⟨rfl, rfl, hopen, .inl rfl⟩
      refine ensures_of_error (run_inFeed_error hstate hfeed hr he) ?_
      rw [Error.IsExternal, ← Error.category_during .streaming] at he
      exact hs.fail htried he fun _ h => h.elim
  · refine ensures_expect (fun _ => .refused ?_ rfl rfl) fun hyes => ?_
    · rw [hallowed]
      simpa using hstate
    · exact absurd (List.mem_singleton.1 hyes) hstate

theorem run_stop (s : Session) : EStateM.run stop s =
    if s.state = .stopped then .ok () s
    else match s.connection.closing with
      | none => .ok () { s with state := .stopped, connection := s.connection.close }
      | some fault => .error (.transport .closing fault)
          { s with state := .stopped, connection := s.connection.close } := by
  rw [stop, bind_ok (run_get s)]
  by_cases h : s.state = .stopped
  · rw [if_pos h]
    simp only [h, if_true]
    rfl
  · rw [if_neg h]
    simp only [h, if_false]
    cases s.connection.closing <;> rfl

theorem state_stop (s : Session) : (outcome stop s).2.state = .stopped := by
  rw [outcome, run_stop]
  by_cases h : s.state = .stopped
  · rw [if_pos h]
    exact h
  · rw [if_neg h]
    cases s.connection.closing <;> rfl

theorem Standing.stop (hs : s.Standing settings heard) :
    Ensures s stop (fun _ t => t.Standing settings heard) (s.Fails settings heard .stop) := by
  rw [Ensures, run_stop]
  by_cases h : s.state = .stopped
  · rw [if_pos h]
    exact .ok hs
  · rw [if_neg h]
    have hover : Standing { s with state := .stopped, connection := s.connection.close }
        settings heard := ⟨hs.settings, hs.valid, hs.stage.said⟩
    cases s.connection.closing with
    | none => exact .ok hover
    | some fault => exact .error (.ended (fun h => by cases h) hover (.inr ⟨rfl, rfl⟩))

/-- Whatever the call gives, the session is in good standing after it. -/
theorem Standing.step (hs : s.Standing settings heard) (call : Call) :
    Ensures s call.step (fun _ t => t.Standing settings heard) (s.Fails settings heard call) := by
  cases call with
  | authenticate => exact hs.authenticate.bind (fun _ _ h => h) fun _ _ h => ensures_pure h
  | subscribe sub => exact (hs.subscribe sub).bind (fun _ _ h => h) fun _ _ h => ensures_pure h
  | start => exact hs.start.bind (fun _ _ h => h) fun _ _ h => ensures_pure h
  | nextRecord =>
    have hstep : Ensures s nextRecord _ (s.Fails settings heard .nextRecord) :=
      hs.inFeed rfl fun h => h.nextRecord
    exact hstep.bind (fun _ _ h => h) fun _ _ h => ensures_pure h
  | nextFrame =>
    have hstep : Ensures s nextFrame _ (s.Fails settings heard .nextFrame) :=
      hs.inFeed rfl fun h => h.nextFrame
    exact hstep.bind (fun _ _ h => h) fun _ _ h => ensures_pure h
  | stop => exact hs.stop.bind (fun _ _ h => h) fun _ _ h => ensures_pure h

/-! ## Every sequence of calls -/

theorem Standing.perform (hs : s.Standing settings heard) (call : Call) :
    (s.perform call).2.Standing settings heard ∧
      ∀ e, (s.perform call).1 = .error e → s.Fails settings heard call e (s.perform call).2 := by
  have hstep := hs.step call
  rw [Session.perform, outcome]
  cases hr : EStateM.run call.step s with
  | ok a t => exact ⟨hstep.of_ok hr, fun e h => by cases h⟩
  | error e t =>
    have hfails := hstep.of_error hr
    refine ⟨?_, fun e' he => ?_⟩
    · cases hfails with
      | refused _ _ ht => exact ht ▸ hs
      | empty _ ht => exact ht ▸ hs
      | ended _ ht => exact ht
    · injection he with he
      exact he ▸ hfails

theorem Standing.after (hs : s.Standing settings heard) (calls : List Call) :
    (s.after calls).Standing settings heard := by
  induction calls generalizing s with
  | nil => exact hs
  | cons call calls ih => exact ih (hs.perform call).1

/-- Good settings open a session over every connection. -/
theorem connect_of_validate {settings : Settings} {key : ApiKey}
    (h : settings.validate = .ok key) (connection : Connection) :
    connect settings (.ok connection) =
      .ok { ofConnection settings connection with state := .awaitingGreeting } := by
  rw [connect, h]
  rfl

/-- A session that has just been opened, and every sequence of calls of it. -/
theorem standing_after {key : ApiKey} (h : settings.validate = .ok key) (incoming : Source)
    (writes : List (Option IoFault)) (closing : Option IoFault) :
    ∃ s, connect settings (.ok (.opened incoming writes closing)) = .ok s ∧
      ∀ calls, (s.after calls).Standing settings incoming.content := by
  have hunheard : Unheard { ofConnection settings (.opened incoming writes closing) with
      state := .awaitingGreeting } incoming.content := ⟨⟨incoming, rfl, rfl⟩, rfl, rfl⟩
  exact ⟨_, connect_of_validate h _, Standing.after ⟨rfl, ⟨key, h⟩, hunheard⟩⟩

end Session
end Live
end TickStream
