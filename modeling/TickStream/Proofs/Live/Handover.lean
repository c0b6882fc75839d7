import TickStream.Proofs.Live.Handshake
import TickStream.Proofs.Live.Mirror
/-
The bytes behind the handshake.  Main statement: however the network cuts what a gateway sends, a
session shows of the data behind the control lines what a scanner of the data alone shows.
-/
namespace TickStream

open Step

namespace Live

/-- A greeting, a challenge and a response that accepts a session. -/
structure Accepting (hello ask response : String) (verdict : Verdict) : Prop where
  controls : IsControl hello ∧ IsControl ask ∧ IsControl response
  greeting : ∃ version, Live.greeting hello = .ok version
  challenge : ∃ token, Live.challenge ask = .ok token
  parsed : Verdict.parse response = .ok verdict
  success : verdict.success = true

/-- What the gateway sends is `hello`, `ask`, `response` and then what `alone` hands out. -/
structure Precedes (hello ask response : String) (incoming alone : Source) : Prop where
  content : incoming.content = Bytes.ofString hello ++ (Bytes.ofString ask ++
    (Bytes.ofString response ++ alone.content))
  failure : incoming.failure = alone.failure

namespace Session

variable {s t : Session} {settings : Settings} {id hello ask response : String}
  {verdict : Verdict} {alone u : Source} {key : ApiKey} {subs : List Subscription}

/-- The gateway has accepted the session, `subs` are sent, and all that is left of what the
gateway sends is what `alone` hands out. -/
structure Waits (s : Session) (settings : Settings) (id : String) (subs : List Subscription)
    (alone : Source) : Prop where
  settings : s.settings = settings
  clear : s.Clear
  id : s.id = some id
  subscriptions : s.subscriptions = subs
  state : s.state = if subs.isEmpty then .authenticated else .subscribing
  incoming : ∃ u, s.connection.incoming = some u ∧ u.Alike alone

/-! ## Up to the start -/

theorem handshake_of_accepting (hs : s.connection.incoming = some u) (hclear : s.Clear)
    (hsubs : s.subscriptions = []) (hkey : s.settings.validate = .ok key)
    (hlines : Accepting hello ask response verdict) (hu : Precedes hello ask response u alone) :
    ∃ t, EStateM.run handshake s = .ok (verdict.sessionId.getD "") t ∧
      t.Waits s.settings (verdict.sessionId.getD "") [] alone := by
  obtain ⟨version, hversion⟩ := hlines.greeting
  obtain ⟨token, htoken⟩ := hlines.challenge
  have hstart : s.Onward s _ _ :=
    ⟨rfl, rfl, rfl, fun h => h, hclear, u, hs, hu.content, hu.failure⟩
  obtain ⟨t₁, hrun₁, h₁⟩ := hstart.greeted hlines.controls.1 hversion
  obtain ⟨t₂, hrun₂, h₂⟩ := h₁.challenged hkey hlines.controls.2.1 htoken
  -- The response, behind which is the data.
  obtain ⟨v, hincoming, hcontent, hfailure⟩ := h₂.incoming
  obtain ⟨v₁, hread, hrest, hfailure₁⟩ :=
    readLine_of_line hincoming hcontent hlines.controls.2.2 .readingResponse
  have haccept : verdict.accept = .ok (verdict.sessionId.getD "") := if_pos hlines.success
  rw [hrun₁, hrun₂, hearVerdict, bind_ok hread, bind_ok (run_ofExcept_ok hlines.parsed _),
    bind_ok (run_ofExcept_ok haccept _), run_modify_bind]
  have hdata : v₁.Alike alone := ⟨hrest, hfailure₁.trans hfailure⟩
  exact ⟨_, rfl, h₂.settings, ⟨h₂.clear.opened, h₂.clear.writes⟩, rfl,
    h₂.subscriptions.trans hsubs, rfl, v₁, rfl, hdata⟩

theorem authenticate_of_accepting (hs : s.connection.incoming = some u) (hclear : s.Clear)
    (hsubs : s.subscriptions = []) (hkey : s.settings.validate = .ok key)
    (hlines : Accepting hello ask response verdict) (hu : Precedes hello ask response u alone)
    (hstate : s.state = .awaitingGreeting) :
    (s.perform .authenticate).1 = .ok (.authenticated (verdict.sessionId.getD "")) ∧
      (s.perform .authenticate).2.Waits s.settings (verdict.sessionId.getD "") [] alone := by
  obtain ⟨t, hrun, ht⟩ := handshake_of_accepting hs hclear hsubs hkey hlines hu
  have hauthenticate : EStateM.run authenticate s = .ok (verdict.sessionId.getD "") t := by
    rw [run_authenticate hstate, run_guarded_ok hrun]
  have hperform : s.perform .authenticate =
      (.ok (.authenticated (verdict.sessionId.getD "")), t) := by
    rw [perform, outcome, Call.step, bind_ok hauthenticate]
    rfl
  rw [hperform]
  exact ⟨rfl, ht⟩

theorem Waits.subscribe (hs : s.Waits settings id subs alone) {sub : Subscription}
    (hsub : sub.symbols ≠ []) :
    (s.perform (.subscribe sub)).2.Waits settings id (subs ++ [sub]) alone := by
  have hallowed : s.state ∈ [SessionState.authenticated, .subscribing] := by
    rw [hs.state]
    split
    · exact List.mem_cons_self
    · exact List.mem_cons_of_mem _ List.mem_cons_self
  have hexpect : EStateM.run (expect "subscribe" [.authenticated, .subscribing]) s = .ok () s := by
    rw [run_expect, if_pos hallowed]
  obtain ⟨line, hline⟩ : ∃ line, sub.line = .ok line := ⟨_, if_neg (by simpa using hsub)⟩
  obtain ⟨writes, hsend, hclear⟩ := sendLine_of_clear hs.clear .sendingSubscription line
  let t : Session := { s.saying writes line with
    subscriptions := s.subscriptions ++ [sub], state := .subscribing }
  have hsubscribe : EStateM.run (Session.subscribe sub) s = .ok () t := by
    rw [Session.subscribe, bind_ok hexpect, bind_ok (run_ofExcept_ok hline _),
      bind_ok (run_guarded_ok hsend)]
    rfl
  have hperform : s.perform (.subscribe sub) = (.ok .subscribed, t) := by
    rw [perform, outcome, Call.step, bind_ok hsubscribe]
    rfl
  rw [hperform]
  refine ⟨hs.settings, ⟨hclear.opened, hclear.writes⟩, hs.id, ?_, ?_, hs.incoming⟩
  · show s.subscriptions ++ [sub] = _
    rw [hs.subscriptions]
  · show SessionState.subscribing = _
    rw [if_neg (by simp)]

theorem Waits.after_subscribes (hs : s.Waits settings id subs alone) (more : List Subscription)
    (hmore : ∀ sub ∈ more, sub.symbols ≠ []) :
    (s.after (more.map .subscribe)).Waits settings id (subs ++ more) alone := by
  induction more generalizing s subs with
  | nil =>
    rw [List.append_nil]
    exact hs
  | cons sub more ih =>
    have hfirst := hs.subscribe (hmore sub List.mem_cons_self)
    have hall := ih hfirst fun sub hsub => hmore sub (List.mem_cons_of_mem _ hsub)
    rwa [List.append_assoc] at hall

/-! ## The start -/

theorem Waits.asks (hs : s.Waits settings id subs alone) :
    ∃ t u, EStateM.run (sendLine .sendingStart startLine) s = .ok () t ∧ t.settings = settings ∧
      t.connection.incoming = some u ∧ u.Alike alone := by
  obtain ⟨writes, hsend, -⟩ := sendLine_of_clear hs.clear .sendingStart startLine
  obtain ⟨u, hincoming, hdata⟩ := hs.incoming
  exact ⟨s.saying writes startLine, u, hsend, hs.settings, hincoming, hdata⟩

theorem Waits.run_start (hs : s.Waits settings id subs alone) (hsubs : subs ≠ []) :
    EStateM.run start s = EStateM.run (guarded beginRecords) s := by
  have hstate : s.state = .subscribing := by
    rw [hs.state, if_neg (by simpa using hsubs)]
  have hexpect : EStateM.run (expect "start" [.subscribing]) s = .ok () s := by
    rw [run_expect, if_pos (List.mem_singleton.2 hstate)]
  rw [start, bind_ok hexpect]

/-- A session of lines starts with what `alone` hands out. -/
theorem Waits.start_lines (hs : s.Waits settings id subs alone) (hsubs : subs ≠ [])
    (hjson : settings.encoding = .json) :
    (s.perform .start).1 = .ok (.started none) ∧
      Mirrors LineScanner.Sound .lines (s.perform .start).2
        (.ofSource alone (lineCodec settings)) := by
  obtain ⟨t, u, hsend, hsettings, hincoming, hdata⟩ := hs.asks
  have hrun := run_beginRecords hsend hincoming
  rw [hsettings, if_pos hjson] at hrun
  have hperform : s.perform .start = (.ok (.started none),
      t.begun (.lines (.ofSource u (lineCodec settings))) none) := by
    rw [perform, Call.step, outcome_giving, outcome, hs.run_start hsubs, run_guarded_ok hrun]
    rfl
  rw [hperform]
  exact ⟨rfl, .goes rfl rfl (.inl rfl) (.alike ⟨hdata⟩)⟩

/-- A session of frames starts as a scanner of what `alone` hands out does. -/
theorem Waits.start_frames (hs : s.Waits settings id subs alone) (hsubs : subs ≠ [])
    (hdbn : settings.encoding = .dbn) :
    let fresh := outcome FrameScanner.readHead (.ofSource alone)
    (s.perform .start).1 = toldAtStart fresh.1 ∧
      Mirrors (fun c => ∃ m, c.Sound m) .frames (s.perform .start).2 fresh.2 := by
  intro fresh
  obtain ⟨t, u, hsend, hsettings, hincoming, hdata⟩ := hs.asks
  have hrun := run_beginRecords hsend hincoming
  have hjson : ¬ t.settings.encoding = .json := by
    rw [hsettings, hdbn]
    decide
  rw [if_neg hjson] at hrun
  have hagree := FrameScanner.respects_readHead (.ofSource u) (.ofSource alone) (.alike ⟨hdata⟩)
  have hensures := FrameScanner.ensures_readHead u
  rw [Ensures] at hensures
  rw [perform, Call.step, outcome_giving, outcome, hs.run_start hsubs]
  show _ = toldAtStart (outcome FrameScanner.readHead (.ofSource alone)).1 ∧
    Mirrors _ _ _ (outcome FrameScanner.readHead (.ofSource alone)).2
  rw [outcome]
  generalize EStateM.run FrameScanner.readHead (.ofSource u) = out at hagree hensures hrun
  generalize EStateM.run FrameScanner.readHead (.ofSource alone) = out' at hagree
  cases hagree with
  | @ok m own c hnext =>
    rw [run_guarded_ok hrun]
    cases hensures with
    | ok hopened => exact ⟨rfl, .goes rfl rfl ⟨m, .opened hopened⟩ hnext⟩
  | @error e own c hnext =>
    cases hensures with
    | error hbroken =>
      have hexternal := hbroken.external
      rw [Error.IsExternal, ← Error.category_during .readingMetadata] at hexternal
      rw [run_guarded_error hrun hexternal fun h => by cases h]
      exact ⟨rfl, .failed rfl (hnext.phase_eq.trans hbroken.phase)⟩

/-! ## The whole session -/

/-- However the network cuts what a gateway sends, with the data behind the control lines, the
answers of a session are those of a scanner of the data alone; and the session is named as the
gateway's response names it. -/
theorem handover_loses_nothing (h : settings.validate = .ok key)
    (hlines : Accepting hello ask response verdict) {incoming : Source}
    (hincoming : Precedes hello ask response incoming alone) {writes : List (Option IoFault)}
    (hwrites : ∀ write ∈ writes, write = none) (closing : Option IoFault) (hsubs : subs ≠ [])
    (hsymbols : ∀ sub ∈ subs, sub.symbols ≠ []) :
    ∃ s, connect settings (.ok (.opened incoming writes closing)) = .ok s ∧
      (s.perform .authenticate).1 = .ok (.authenticated (verdict.sessionId.getD "")) ∧
      let t := s.after (.authenticate :: subs.map .subscribe)
      t.state = .subscribing ∧ t.subscriptions = subs ∧
      t.id = some (verdict.sessionId.getD "") ∧
      (settings.encoding = .dbn →
        let fresh := outcome FrameScanner.readHead (.ofSource alone)
        (t.perform .start).1 = toldAtStart fresh.1 ∧
        ∀ takes : List Take,
          (t.perform .start).2.answers takes =
            Take.answers FrameScanner.nextRecord FrameScanner.nextFrame takes fresh.2) ∧
      (settings.encoding = .json →
        (t.perform .start).1 = .ok (.started none) ∧
        ∀ takes : List Take,
          (t.perform .start).2.answers takes =
            Take.answers LineScanner.nextRecord LineScanner.nextLine takes
              (.ofSource alone ⟨.v2, settings.tsOut⟩)) := by
  refine ⟨_, connect_of_validate h _, ?_⟩
  generalize hs : ({ ofConnection settings (.opened incoming writes closing) with
    state := .awaitingGreeting } : Session) = s
  have hauthenticate : (s.perform .authenticate).1 =
        .ok (.authenticated (verdict.sessionId.getD "")) ∧
      (s.perform .authenticate).2.Waits settings (verdict.sessionId.getD "") [] alone := by
    subst hs
    exact authenticate_of_accepting rfl ⟨rfl, hwrites⟩ rfl h hlines hincoming rfl
  obtain ⟨hid, hwaits⟩ := hauthenticate
  replace hwaits := hwaits.after_subscribes subs hsymbols
  rw [List.nil_append] at hwaits
  have hstate := hwaits.state
  rw [if_neg (by simpa using hsubs)] at hstate
  refine ⟨hid, hstate, hwaits.subscriptions, hwaits.id, fun hdbn => ?_, fun hjson => ?_⟩
  · obtain ⟨hstart, hmirrors⟩ := hwaits.start_frames hsubs hdbn
    exact ⟨hstart, hmirrors.answers_eq advances_frames_nextRecord advances_frames_nextFrame⟩
  · obtain ⟨hstart, hmirrors⟩ := hwaits.start_lines hsubs hjson
    exact ⟨hstart, hmirrors.answers_eq advances_lines_nextRecord advances_lines_nextLine⟩

theorem accepting_plain : Accepting "lsg_version=0.4.2\n" "cram=abc123\n"
    "success=1|session_id=7\n" ⟨true, some "7", none⟩ where
  controls := by
    refine ⟨⟨⟨Bytes.ofString "lsg_version=0.4.2", ?_⟩, ?_⟩,
      ⟨⟨Bytes.ofString "cram=abc123", ?_⟩, ?_⟩,
      ⟨⟨Bytes.ofString "success=1|session_id=7", ?_⟩, ?_⟩⟩ <;> decide +kernel
  greeting := ⟨"0.4.2", by decide +kernel⟩
  challenge := ⟨"abc123", by decide +kernel⟩
  parsed := by decide +kernel
  success := rfl

/-- The end of the response comes with the first bytes of the data, and these in two pieces. -/
theorem handover_loses_nothing_cut :
    let settings : Settings :=
      { Settings.ofKey "db-0123456789abcdefghijklmnopqrs" "XNAS.ITCH" with encoding := .json }
    let incoming : Source := [.data (Bytes.ofString "lsg_version=0.4.2\ncr"), .interrupted,
      .data (Bytes.ofString "am=abc123\nsuccess=1|session_id=7\n\x7b"),
      .data (Bytes.ofString "\x7d\n")]
    let sub : Subscription := ⟨.trades, .rawSymbol, ["AAPL"], none, false⟩
    ∃ s, connect settings (.ok (.opened incoming [none] none)) = .ok s ∧
      let t := s.after [.authenticate, .subscribe sub]
      t.id = some "7" ∧ (t.perform .start).1 = .ok (.started none) ∧
      (t.perform .start).2.answers [.frame, .record] =
        Take.answers LineScanner.nextRecord LineScanner.nextLine [.frame, .record]
          (.ofSource (Source.ofBytes (Bytes.ofString "\x7b\x7d\n")) ⟨.v2, false⟩) := by
  intro settings incoming sub
  have hvalid : settings.validate.isOk = true := by decide +kernel
  obtain ⟨key, hkey⟩ := exists_of_isOk hvalid
  have hincoming : Precedes "lsg_version=0.4.2\n" "cram=abc123\n" "success=1|session_id=7\n"
      incoming (Source.ofBytes (Bytes.ofString "\x7b\x7d\n")) :=
    ⟨by decide +kernel, by decide +kernel⟩
  have hwrites : ∀ write ∈ [(none : Option IoFault)], write = none := by simp
  have hsymbols : ∀ s ∈ [sub], s.symbols ≠ [] := by simp [sub]
  obtain ⟨s, hopen, -, -, -, hid, -, hjson⟩ := handover_loses_nothing hkey accepting_plain
    hincoming hwrites none (List.cons_ne_nil sub []) hsymbols
  obtain ⟨hstart, htrace⟩ := hjson rfl
  exact ⟨s, hopen, hid, hstart, htrace _⟩

/-- Behind a line that does not decode, the scanner says that it has failed, and the session that
it is not in a state for records. -/
theorem handover_after_failure :
    let settings : Settings :=
      { Settings.ofKey "db-0123456789abcdefghijklmnopqrs" "XNAS.ITCH" with encoding := .json }
    let alone := Source.ofBytes (Bytes.ofString "\x7b\x7d\n")
    let incoming := Source.ofBytes
      (Bytes.ofString "lsg_version=0.4.2\ncram=abc123\nsuccess=1|session_id=7\n\x7b\x7d\n")
    let sub : Subscription := ⟨.trades, .rawSymbol, ["AAPL"], none, false⟩
    Accepting "lsg_version=0.4.2\n" "cram=abc123\n" "success=1|session_id=7\n"
        ⟨true, some "7", none⟩ ∧
      Precedes "lsg_version=0.4.2\n" "cram=abc123\n" "success=1|session_id=7\n" incoming alone ∧
      ∃ s, connect settings (.ok (.opened incoming [] none)) = .ok s ∧
        let t := s.after [.authenticate, .subscribe sub, .start, .nextRecord]
        (t.perform .nextRecord).1 = .error (.badState "next_record" "Failed") ∧
        let scanner := (outcome LineScanner.nextRecord (.ofSource alone ⟨.v2, false⟩)).2
        (outcome LineScanner.nextRecord scanner).1 = .error .scannerFailed := by
  intro settings alone incoming sub
  have hvalid : settings.validate.isOk = true := by decide +kernel
  obtain ⟨key, hkey⟩ := exists_of_isOk hvalid
  refine ⟨accepting_plain, ⟨by decide +kernel, by decide +kernel⟩, _,
    connect_of_validate hkey _, ?_, ?_⟩
  · let t := after { ofConnection settings (.opened incoming [] none) with
      state := .awaitingGreeting } [.authenticate, .subscribe sub, .start, .nextRecord]
    have hstate : t.state = .failed := by decide +kernel
    have hturn : t.state ∉ Call.nextRecord.allowed := by
      rw [hstate]
      decide
    show (t.perform .nextRecord).1 = _
    rw [perform_refused hturn, hstate]
    rfl
  · let scanner := (outcome LineScanner.nextRecord (.ofSource alone ⟨.v2, false⟩)).2
    have hphase : scanner.phase = .failed := by decide +kernel
    show (outcome LineScanner.nextRecord scanner).1 = _
    rw [outcome, LineScanner.refused_nextRecord scanner hphase]

end Session
end Live
end TickStream
