import TickStream.Proofs.Live.ControlLines
import TickStream.Proofs.Scan.Outcomes
/-
What each step of a session does, if it is taken in its turn.  Main statements: a handshake
answers a challenge that the gateway has sent after its greeting, and succeeds on a response that
says so; the records begin behind one more line; and no step fails as if the caller were at fault.
-/
namespace TickStream

open Step

namespace Live

theorem Settings.validate_eq_ok {s : Settings} {key : ApiKey} (h : s.validate = .ok key) :
    ApiKey.parse s.key = .ok key ∧ s.encoding ≠ .csv := by
  rw [validate] at h
  split at h
  · cases h
  · obtain ⟨key', hkey, h⟩ := bind_eq_ok.1 h
    split at h
    · cases h
    · rename_i hencoding
      injection h with h
      exact ⟨h ▸ hkey, hencoding⟩

/-- A key that has been found good is found good again. -/
theorem Settings.authentication_of_validate {s : Settings} {key : ApiKey}
    (h : s.validate = .ok key) (token : String) :
    s.authentication token = .ok ⟨key.reply token, s.dataset, s.encoding, s.tsOut, s.client⟩ := by
  rw [authentication, (validate_eq_ok h).1]
  rfl

/-! ## What the gateway says -/

/-- What the gateway sends is a greeting, a challenge that `answer` answers, and `rest`. -/
def Asked (settings : Settings) (heard : Bytes) (answer : String) (rest : Bytes) : Prop :=
  ∃ hello ask version token auth, IsControl hello ∧ IsControl ask ∧
    heard = Bytes.ofString hello ++ (Bytes.ofString ask ++ rest) ∧
    greeting hello = .ok version ∧ challenge ask = .ok token ∧
    settings.authentication token = .ok auth ∧ answer = auth.line

/-- What the gateway sends is a greeting, a challenge that `answer` answers, a response that
accepts a session, and `rest`. -/
def Accepted (settings : Settings) (heard : Bytes) (answer : String) (rest : Bytes) : Prop :=
  ∃ response verdict, Asked settings heard answer (Bytes.ofString response ++ rest) ∧
    IsControl response ∧ Verdict.parse response = .ok verdict ∧ verdict.success = true

theorem Verdict.accept_eq_ok {v : Verdict} {id : String} (h : v.accept = .ok id) :
    v.success = true := by
  rw [accept] at h
  split at h
  · assumption
  · cases h

/-! ## Records -/

namespace Feed

/-- The records of a session: frames behind metadata, or lines with none. -/
inductive Sound : Feed → Encoding → Option Metadata → Prop where
  | frames {s : FrameScanner} {m : Metadata} (h : s.Sound m) : Sound (.frames s) .dbn (some m)
  | lines {s : LineScanner} (h : s.Sound) : Sound (.lines s) .json none

variable {α : Type} {onFrames : FrameScanner.Step α} {onLines : LineScanner.Step α}
  {feed : Feed} {encoding : Encoding} {metadata : Option Metadata}

/-- What a step of a scanner gave, with the feed of the scanner. -/
def fed {σ : Type} (wrap : σ → Feed) : EStateM.Result Error σ α → EStateM.Result Error Feed α
  | .ok a s => .ok a (wrap s)
  | .error e s => .error e (wrap s)

theorem run_step_frames (onFrames : FrameScanner.Step α) (onLines : LineScanner.Step α)
    (s : FrameScanner) : EStateM.run (step onFrames onLines) (.frames s) =
      fed .frames (EStateM.run onFrames s) := by
  rw [EStateM.run, EStateM.run, step]
  cases onFrames s <;> rfl

theorem run_step_lines (onFrames : FrameScanner.Step α) (onLines : LineScanner.Step α)
    (s : LineScanner) : EStateM.run (step onFrames onLines) (.lines s) =
      fed .lines (EStateM.run onLines s) := by
  rw [EStateM.run, EStateM.run, step]
  cases onLines s <;> rfl

theorem ensures_frames {s : FrameScanner} {Q : α → FrameScanner → Prop}
    (h : Ensures s onFrames Q Scan.Broken) :
    Ensures (.frames s) (step onFrames onLines) (fun a t => ∃ u, t = .frames u ∧ Q a u)
      fun e _ => e.IsExternal := by
  rw [Ensures, run_step_frames]
  cases hr : EStateM.run onFrames s with
  | ok a t => exact .ok ⟨t, rfl, h.of_ok hr⟩
  | error e t => exact .error (h.of_error hr).external

theorem ensures_lines {s : LineScanner} {Q : α → LineScanner → Prop}
    (h : Ensures s onLines Q Scan.Broken) :
    Ensures (.lines s) (step onFrames onLines) (fun a t => ∃ u, t = .lines u ∧ Q a u)
      fun e _ => e.IsExternal := by
  rw [Ensures, run_step_lines]
  cases hr : EStateM.run onLines s with
  | ok a t => exact .ok ⟨t, rfl, h.of_ok hr⟩
  | error e t => exact .error (h.of_error hr).external

theorem Sound.nextRecord (h : feed.Sound encoding metadata) :
    Ensures feed Feed.nextRecord (fun _ t => t.Sound encoding metadata)
      fun e _ => e.IsExternal := by
  cases h with
  | frames h =>
    refine (ensures_frames h.nextRecord).mono (fun _ t ht => ?_) fun _ _ he => he
    obtain ⟨u, rfl, hu⟩ := ht
    exact .frames hu
  | lines h =>
    refine (ensures_lines h.nextRecord).mono (fun _ t ht => ?_) fun _ _ he => he
    obtain ⟨u, rfl, hu⟩ := ht
    exact .lines hu

theorem Sound.nextFrame (h : feed.Sound encoding metadata) :
    Ensures feed Feed.nextFrame (fun _ t => t.Sound encoding metadata)
      fun e _ => e.IsExternal := by
  cases h with
  | frames h =>
    refine (ensures_frames h.nextFrame).mono (fun _ t ht => ?_) fun _ _ he => he
    obtain ⟨u, rfl, hu, -⟩ := ht
    exact .frames hu
  | lines h =>
    refine (ensures_lines h.nextLine).mono (fun _ t ht => ?_) fun _ _ he => he
    obtain ⟨u, rfl, hu, -⟩ := ht
    exact .lines hu

/-- The feed that a session begins with, and its metadata. -/
inductive Begins (u : Source) (settings : Settings) : Option Metadata → Feed → Prop where
  | frames {m : Metadata} {s : FrameScanner} (hencoding : settings.encoding = .dbn)
    (h : EStateM.run FrameScanner.readHead (.ofSource u) = .ok m s) :
    Begins u settings (some m) (.frames s)
  | lines (hencoding : settings.encoding = .json) :
    Begins u settings none (.lines (.ofSource u (Session.lineCodec settings)))

theorem Begins.sound {u : Source} {settings : Settings} (h : Begins u settings metadata feed) :
    feed.Sound settings.encoding metadata := by
  cases h with
  | frames hencoding h =>
    rw [hencoding]
    exact .frames (.opened ((FrameScanner.ensures_readHead u).of_ok h))
  | lines hencoding =>
    rw [hencoding]
    exact .lines (.inl rfl)

end Feed

/-! ## Steps -/

namespace Session

variable {s t : Session} {u : Source} {α : Type} {key : ApiKey}

def welcomed (s : Session) (version id : String) : Session :=
  { s with gatewayVersion := some version, id := some id, state := .authenticated }

def begun (s : Session) (feed : Feed) (metadata : Option Metadata) : Session :=
  { s with
    connection := { s.connection with incoming := none }, feed := some feed,
    metadata := metadata, state := .streaming }

/-- How far a step had come when it failed.  If it had written a line, that had `cause`. -/
structure Tried (s t : Session) (cause : String → Prop) : Prop where
  settings : t.settings = s.settings
  subscriptions : t.subscriptions = s.subscriptions
  state : t.state ≠ .stopped
  sent : t.connection.sent = s.connection.sent ∨
    ∃ line, cause line ∧ t.connection.sent = s.connection.sent ++ [Bytes.ofString line]

theorem run_expect (s : Session) (operation : String) (allowed : List SessionState) :
    EStateM.run (expect operation allowed) s =
      if s.state ∈ allowed then .ok () s else .error (.badState operation s.state.name) s := by
  rw [expect, bind_ok (run_get s)]
  by_cases h : s.state ∈ allowed
  · simp only [List.contains_iff_mem.2 h, h, if_true]
    rfl
  · simp only [Bool.eq_false_iff.2 fun hc => h (List.contains_iff_mem.1 hc), h, if_false]
    rfl

/-- An operation that is not for the state of the session changes nothing. -/
theorem run_refused {operation : String} {allowed : List SessionState} (h : s.state ∉ allowed)
    (x : Step α) : EStateM.run (do expect operation allowed; x) s =
      .error (.badState operation s.state.name) s := by
  refine bind_error ?_
  rw [run_expect, if_neg h]

theorem ensures_expect {operation : String} {allowed : List SessionState} {x : Step α}
    {Q : α → Session → Prop} {E : Error → Session → Prop}
    (hno : s.state ∉ allowed → E (.badState operation s.state.name) s)
    (hyes : s.state ∈ allowed → Ensures s x Q E) :
    Ensures s (do expect operation allowed; x) Q E := by
  by_cases h : s.state ∈ allowed
  · have hrun : EStateM.run (expect operation allowed) s = .ok () s := by
      rw [run_expect, if_pos h]
    rw [Ensures, bind_ok hrun]
    exact hyes h
  · exact ensures_of_error (run_refused h x) (hno h)

theorem run_guarded_ok {step : Step α} {a : α} (hr : EStateM.run step s = .ok a t) :
    EStateM.run (guarded step) s = .ok a t := by
  show guarded step s = _
  rw [guarded, show step s = .ok a t from hr]

theorem run_guarded_error {step : Step α} {e : Error} (hr : EStateM.run step s = .error e t)
    (he : e.IsExternal) (ht : t.state ≠ .stopped) :
    EStateM.run (guarded step) s = .error e t.fail := by
  have hclose : ¬ (decide (e.category = .usage) || decide (t.state = .stopped)) = true := by
    rw [Bool.or_eq_true, decide_eq_true_eq, decide_eq_true_eq]
    exact not_or_intro he ht
  show guarded step s = _
  rw [guarded, show step s = .error e t from hr]
  exact congrArg (EStateM.Result.error e) (if_neg hclose)

/-- A step that is not to fail halfway ends the session if it does. -/
theorem ensures_guarded {step : Step α} {Q : α → Session → Prop} {E : Session → Prop}
    (hE : ∀ t, E t → t.state ≠ .stopped)
    (h : Ensures s step Q fun e t => e.IsExternal ∧ E t) :
    Ensures s (guarded step) Q fun e t => e.IsExternal ∧ ∃ u, E u ∧ t = u.fail := by
  cases hr : EStateM.run step s with
  | ok a t => exact ensures_of_ok (run_guarded_ok hr) (h.of_ok hr)
  | error e t =>
    obtain ⟨he, ht⟩ := h.of_error hr
    exact ensures_of_error (run_guarded_error hr he (hE t ht)) ⟨he, t, ht, rfl⟩

/-- The failure that is told is the one of the step. -/
theorem ensures_guarded_failure {step : Step α} {Q : α → Session → Prop} {P : Error → Prop}
    (h : Ensures s step Q fun e _ => P e) : Ensures s (guarded step) Q fun e _ => P e := by
  show EndsIn Q _ (guarded step s)
  rw [guarded]
  cases hr : step s with
  | ok a t => exact .ok (h.of_ok hr)
  | error e t => exact .error (h.of_error hr)

/-- A handshake that begins with what the gateway sends. -/
theorem ensures_handshake (hs : s.connection.incoming = some u) (hstate : s.state ≠ .stopped)
    (hkey : s.settings.validate = .ok key) :
    Ensures s handshake
      (fun id t => ∃ writes v answer version, Accepted s.settings u.content answer v.content ∧
        t = ((s.saying writes answer).hearing v).welcomed version id)
      fun e t => e.IsExternal ∧
        s.Tried t fun answer => ∃ rest, Asked s.settings u.content answer rest := by
  -- The greeting.
  refine (ensures_readLine hs .readingGreeting).bind ?_ fun hello t₁ h₁ => ?_
  · rintro e t ⟨he, v, rfl⟩
    exact ⟨he, rfl, rfl, hstate, .inl rfl⟩
  obtain ⟨v₁, rfl, hhello, hfront, -⟩ := h₁
  refine ensures_ofExcept_bind (fun e he => ?_) fun version hversion => ?_
  · exact ⟨external_value _ _ _ he, rfl, rfl, hstate, .inl rfl⟩
  refine ensures_modify_bind ?_
  -- The challenge.
  refine (ensures_readLine (u := v₁) rfl .readingChallenge).bind ?_ fun ask t₂ h₂ => ?_
  · rintro e t ⟨he, v, rfl⟩
    exact ⟨he, rfl, rfl, nofun, .inl rfl⟩
  obtain ⟨v₂, rfl, hask, hnext, -⟩ := h₂
  refine ensures_ofExcept_bind (fun e he => ?_) fun token htoken => ?_
  · exact ⟨external_value _ _ _ he, rfl, rfl, nofun, .inl rfl⟩
  have hanswer := Settings.authentication_of_validate hkey token
  refine ensures_get_bind (ensures_ofExcept_bind (fun e he => ?_) fun answer ha => ?_)
  · replace he : s.settings.authentication token = .error e := he
    rw [hanswer] at he
    cases he
  replace ha : s.settings.authentication token = .ok answer := ha
  have hasked {rest : Bytes} (hrest : v₂.content = rest) :
      Asked s.settings u.content answer.line rest :=
    ⟨hello, ask, version, token, answer, hhello, hask, by rw [hfront, hnext, hrest], hversion,
      htoken, ha, rfl⟩
  refine (ensures_sendLine _ _ _).bind ?_ fun _ t₃ h₃ => ?_
  · rintro e t ⟨he, writes, rfl⟩
    exact ⟨he, rfl, rfl, nofun, .inl rfl⟩
  obtain ⟨writes, rfl⟩ := h₃
  refine ensures_modify_bind ?_
  -- The verdict.  From here on the answer has been written.
  have hsaid : ∃ line, (∃ rest, Asked s.settings u.content line rest) ∧
      s.connection.sent ++ [Bytes.ofString answer.line] =
        s.connection.sent ++ [Bytes.ofString line] := ⟨_, ⟨_, hasked rfl⟩, rfl⟩
  refine (ensures_readLine (u := v₂) rfl .readingResponse).bind ?_ fun response t₄ h₄ => ?_
  · rintro e t ⟨he, v, rfl⟩
    exact ⟨he, rfl, rfl, nofun, .inr hsaid⟩
  obtain ⟨v₃, rfl, hresponse, hlast, -⟩ := h₄
  refine ensures_ofExcept_bind (fun e he => ?_) fun verdict hverdict => ?_
  · exact ⟨Verdict.external_parse response he, rfl, rfl, nofun, .inr hsaid⟩
  refine ensures_ofExcept_bind (fun e he => ?_) fun id hid => ?_
  · exact ⟨verdict.external_accept he, rfl, rfl, nofun, .inr hsaid⟩
  have haccepted : Accepted s.settings u.content answer.line v₃.content :=
    ⟨response, verdict, hasked hlast, hresponse, hverdict, Verdict.accept_eq_ok hid⟩
  exact ensures_modify_bind (ensures_pure ⟨writes, v₃, answer.line, version, haccepted, rfl⟩)

theorem run_handOver (hs : s.connection.incoming = some u) : EStateM.run handOver s =
    .ok u { s with connection := { s.connection with incoming := none } } := by
  rw [handOver, bind_ok (run_get s), hs]
  rfl

/-- Once they are asked for, the records begin on all that is left of what the gateway sends. -/
theorem run_beginRecords (hsend : EStateM.run (sendLine .sendingStart startLine) s = .ok () t)
    (ht : t.connection.incoming = some u) : EStateM.run beginRecords s =
      if t.settings.encoding = .json then
        .ok none (t.begun (.lines (.ofSource u (lineCodec t.settings))) none)
      else match EStateM.run FrameScanner.readHead (.ofSource u) with
        | .ok m scanner => .ok (some m) (t.begun (.frames scanner) (some m))
        | .error e _ => .error (e.during .readingMetadata)
            { t with connection := { t.connection with incoming := none }, state := .started } := by
  have hhand := run_handOver (s := { t with state := .started }) ht
  rw [beginRecords, bind_ok hsend, enter, run_modify_bind, bind_ok hhand, bind_ok (run_get _)]
  show EStateM.run (if t.settings.encoding = .json then _ else _) _ = _
  by_cases hjson : t.settings.encoding = .json
  · rw [if_pos hjson, if_pos hjson]
    rfl
  · rw [if_neg hjson, if_neg hjson]
    have hhead : EStateM.run FrameScanner.readHead (.ofSource u) =
        FrameScanner.readHead (.ofSource u) := rfl
    rw [hhead]
    cases FrameScanner.readHead (.ofSource u) <;> rfl

/-- The records begin behind the line that asks for them. -/
theorem ensures_beginRecords (hs : s.connection.incoming = some u) (hstate : s.state ≠ .stopped)
    (hkey : s.settings.validate = .ok key) :
    Ensures s beginRecords
      (fun metadata t => ∃ writes feed, Feed.Begins u s.settings metadata feed ∧
        t = (s.saying writes startLine).begun feed metadata)
      fun e t => e.IsExternal ∧ s.Tried t (· = startLine) := by
  have hwritten := ensures_sendLine s .sendingStart startLine
  cases hsend : EStateM.run (sendLine .sendingStart startLine) s with
  | error e t =>
    obtain ⟨he, writes, rfl⟩ := hwritten.of_error hsend
    exact ensures_of_error (bind_error hsend) ⟨he, rfl, rfl, hstate, .inl rfl⟩
  | ok _ t =>
    obtain ⟨writes, rfl⟩ := hwritten.of_ok hsend
    rw [Ensures, run_beginRecords hsend hs]
    by_cases hjson : (s.saying writes startLine).settings.encoding = .json
    · rw [if_pos hjson]
      exact .ok ⟨writes, _, .lines hjson, rfl⟩
    · have hdbn : s.settings.encoding = .dbn := by
        have hcsv := (Settings.validate_eq_ok hkey).2
        cases hencoding : s.settings.encoding with
        | dbn => rfl
        | csv => exact absurd hencoding hcsv
        | json => exact absurd hencoding hjson
      rw [if_neg hjson]
      cases hr : EStateM.run FrameScanner.readHead (.ofSource u) with
      | ok m scanner => exact .ok ⟨writes, _, .frames hdbn hr, rfl⟩
      | error e scanner =>
        have hexternal := ((FrameScanner.ensures_readHead u).of_error hr).external
        rw [Error.IsExternal, ← Error.category_during .readingMetadata] at hexternal
        have hgoes : SessionState.started ≠ .stopped := by decide
        exact .error ⟨hexternal, rfl, rfl, hgoes, .inr ⟨startLine, rfl, rfl⟩⟩

theorem run_guarded_eq_ok {step : Step α} {a : α} (h : EStateM.run (guarded step) s = .ok a t) :
    EStateM.run step s = .ok a t := by
  cases hr : EStateM.run step s with
  | ok b u => rwa [run_guarded_ok hr] at h
  | error e u =>
    replace h : guarded step s = .ok a t := h
    rw [guarded, show step s = .error e u from hr] at h
    cases h

/-- The records of a session that has started are lines, or frames behind metadata. -/
theorem start_eq_ok {metadata : Option Metadata} (h : EStateM.run start s = .ok metadata t) :
    ∃ (w : Session) (u : Source) (feed : Feed), t = w.begun feed metadata ∧
      (w.settings.encoding = .json → metadata = none ∧
        feed = .lines (.ofSource u (lineCodec w.settings))) ∧
      (w.settings.encoding ≠ .json → ∃ m scanner, metadata = some m ∧ feed = .frames scanner ∧
        EStateM.run FrameScanner.readHead (.ofSource u) = .ok m scanner) := by
  obtain ⟨_, s', hexpect, h⟩ := run_bind_eq_ok.1 h
  replace h := run_guarded_eq_ok h
  obtain ⟨_, w, hsend, hrest⟩ := run_bind_eq_ok.1 h
  cases hincoming : w.connection.incoming with
  | none =>
    have hhand : EStateM.run handOver { w with state := .started } =
        .error (.badState "start" SessionState.started.name) { w with state := .started } := by
      rw [handOver, bind_ok (run_get _)]
      simp only [hincoming]
      rfl
    rw [enter, run_modify_bind, bind_error hhand] at hrest
    cases hrest
  | some u =>
    rw [run_beginRecords hsend hincoming] at h
    by_cases hjson : w.settings.encoding = .json
    · rw [if_pos hjson] at h
      injection h with hm ht
      subst hm ht
      exact ⟨w, u, _, rfl, fun _ => ⟨rfl, rfl⟩, fun hne => absurd hjson hne⟩
    · rw [if_neg hjson] at h
      cases hhead : EStateM.run FrameScanner.readHead (.ofSource u) with
      | error e scanner =>
        rw [hhead] at h
        cases h
      | ok m scanner =>
        rw [hhead] at h
        injection h with hm ht
        subst hm ht
        exact ⟨w, u, _, rfl, fun hyes => absurd hyes hjson, fun _ => ⟨m, scanner, rfl, rfl, hhead⟩⟩

/-! ### Advances -/

section
variable {operation : String} {step : EStateM Error Feed α} {feed next : Feed}

theorem run_inFeed (hstate : s.state = .streaming) : EStateM.run (inFeed operation step) s =
    EStateM.run (guarded fun s =>
      match s.feed with
      | none => .error (.badState operation SessionState.streaming.name) s
      | some feed =>
        match step feed with
        | .ok a feed => .ok a { s with feed := some feed }
        | .error e feed => .error (e.during .streaming) { s with feed := some feed }) s := by
  have hexpect : EStateM.run (expect operation [.streaming]) s = .ok () s := by
    rw [run_expect, if_pos (List.mem_singleton.2 hstate)]
  rw [inFeed]
  exact bind_ok hexpect

theorem run_inFeed_ok {a : α} (hstate : s.state = .streaming) (hs : s.feed = some feed)
    (hr : EStateM.run step feed = .ok a next) :
    EStateM.run (inFeed operation step) s = .ok a { s with feed := some next } := by
  rw [run_inFeed hstate]
  refine run_guarded_ok ?_
  show (match s.feed with | none => _ | some feed => _) = _
  rw [hs]
  simp only [show step feed = .ok a next from hr]

theorem run_inFeed_error {e : Error} (hstate : s.state = .streaming) (hs : s.feed = some feed)
    (hr : EStateM.run step feed = .error e next) (he : e.IsExternal) :
    EStateM.run (inFeed operation step) s =
      .error (e.during .streaming) { s with feed := some next }.fail := by
  rw [run_inFeed hstate]
  rw [Error.IsExternal, ← Error.category_during .streaming] at he
  refine run_guarded_error ?_ he ?_
  · show (match s.feed with | none => _ | some feed => _) = _
    rw [hs]
    simp only [show step feed = .error e next from hr]
  · show s.state ≠ .stopped
    rw [hstate]
    nofun

end

end Session
end Live
end TickStream
