import TickStream.Proofs.Live.Standing
/-
How sessions fail.  Main statement: a failure that is the caller's leaves the session as it was,
and every other one ends it; an ended session can only be stopped, and a stopped one stays so; and
a session has what its state speaks of.
-/
namespace TickStream

open Step

namespace Live
namespace Session

variable {s t : Session} {settings : Settings} {heard : Bytes} {call : Call} {e : Error}

/-! ## One failure -/

/-- Any other failure of a call that goes on ends the session. -/
theorem Fails.of_external (h : s.Fails settings heard call e t) (he : e.category ≠ .usage)
    (hcall : call ≠ .stop) : t.state = .failed := by
  cases h with
  | refused _ hrefused =>
    rw [hrefused] at he
    exact absurd rfl he
  | empty hempty =>
    rw [hempty] at he
    exact absurd rfl he
  | ended _ _ hstate =>
    rcases hstate with hfailed | ⟨hstop, -⟩
    · exact hfailed
    · exact absurd hstop hcall

/-! ## After the end -/

theorem not_mem_allowed (hs : s.state = .failed ∨ s.state = .stopped) (hcall : call ≠ .stop) :
    s.state ∉ call.allowed := by
  cases call with
  | stop => exact absurd rfl hcall
  | _ => rcases hs with hs | hs <;> rw [hs, Call.allowed] <;> decide

theorem state_after_stop (s : Session) : (s.perform .stop).2.state = .stopped := by
  have hstop : (s.perform .stop).2 = (outcome stop s).2 := by
    rw [perform, Call.step, outcome, outcome, EStateM.run_bind]
    cases EStateM.run stop s <;> rfl
  rw [hstop, state_stop]

/-- A session that has been stopped stays as it is. -/
theorem perform_stopped (hs : s.state = .stopped) (call : Call) :
    (s.perform call).2 = s ∧ (call = .stop → (s.perform call).1 = .ok .stopped) := by
  by_cases hcall : call = .stop
  · subst hcall
    have hrun : EStateM.run Call.stop.step s = .ok .stopped s := by
      rw [Call.step, EStateM.run_bind, run_stop, if_pos hs]
      rfl
    rw [perform, outcome, hrun]
    exact ⟨rfl, fun _ => rfl⟩
  · rw [perform_refused (not_mem_allowed (.inr hs) hcall)]
    exact ⟨rfl, fun h => absurd h hcall⟩

/-! ## What the states speak of -/

/-- The records come in the encoding of the settings, and only frames have metadata. -/
def FeedFits (s : Session) : Prop :=
  (s.settings.encoding = .dbn ∧ (∃ scanner, s.feed = some (.frames scanner)) ∧
    s.metadata.isSome) ∨
  (s.settings.encoding = .json ∧ (∃ scanner, s.feed = some (.lines scanner)) ∧
    s.metadata = none)

theorem Streaming.feedFits (hs : s.Streaming heard) : s.FeedFits := by
  obtain ⟨feed, hfeed, hsound⟩ := hs.feed
  generalize hencoding : s.settings.encoding = encoding at hsound
  generalize hmetadata : s.metadata = metadata at hsound
  cases hsound with
  | frames => exact .inl ⟨hencoding, ⟨_, hfeed⟩, by rw [hmetadata]; rfl⟩
  | lines => exact .inr ⟨hencoding, ⟨_, hfeed⟩, hmetadata⟩

/-- The session has what its state speaks of. -/
structure Truthful (s : Session) : Prop where
  identified : s.state = .authenticated ∨ s.state = .subscribing ∨ s.state = .streaming →
    s.gatewayVersion.isSome ∧ s.id.isSome
  subscribed : s.state = .subscribing ∨ s.state = .streaming → s.subscriptions ≠ []
  fed : s.state = .streaming → s.FeedFits

theorem Stage.truthful (hs : s.Stage heard) : s.Truthful := by
  refine ⟨?_, ?_, ?_⟩
  · rintro (h | h | h)
    · exact (hs.admitted (.inl h)).identified
    · exact (hs.admitted (.inr h)).identified
    · rw [Stage, h] at hs
      exact hs.identified
  · rintro (h | h)
    · rw [Stage, h] at hs
      exact hs.2
    · rw [Stage, h] at hs
      exact hs.subscriptions
  · intro h
    rw [Stage, h] at hs
    exact hs.feedFits

/-! ## Every session -/

/-- Whatever a gateway sends and whichever writes fail, every call of every session fails in one
of two ways, and the session is what its state says. -/
theorem failures_disciplined {key : ApiKey} (h : settings.validate = .ok key) (incoming : Source)
    (writes : List (Option IoFault)) (closing : Option IoFault) :
    ∃ s, connect settings (.ok (.opened incoming writes closing)) = .ok s ∧
      ∀ calls : List Call,
        let t := s.after calls
        (∀ call e, (t.perform call).1 = .error e →
          (e.category = .usage →
            ((∃ operation state, e = .badState operation state) ∨ e = .emptySubscription) ∧
              (t.perform call).2 = t) ∧
          (e.category ≠ .usage → call ≠ .stop → (t.perform call).2.state = .failed)) ∧
        (t.state = .failed → (t.perform .stop).2.state = .stopped ∧ ∀ call, call ≠ .stop →
          (t.perform call).1 = .error (.badState call.name SessionState.failed.name)) ∧
        (t.state = .stopped → ∀ call, (t.perform call).2.state = .stopped ∧
          (call = .stop → (t.perform call).1 = .ok .stopped)) ∧
        t.settings = settings ∧ t.Truthful := by
  obtain ⟨s, hopen, hstanding⟩ := standing_after h incoming writes closing
  refine ⟨s, hopen, fun calls => ⟨fun call e he => ?_, fun hfailed => ?_, fun hstopped call => ?_,
    (hstanding calls).settings, (hstanding calls).stage.truthful⟩⟩
  · have hfails := ((hstanding calls).perform call).2 e he
    exact ⟨hfails.of_usage, hfails.of_external⟩
  · refine ⟨state_after_stop _, fun call hcall => ?_⟩
    rw [perform_refused (not_mem_allowed (.inl hfailed) hcall), hfailed]
  · obtain ⟨hsame, hok⟩ := perform_stopped hstopped call
    rw [hsame]
    exact ⟨hstopped, hok⟩

/-- The gateway refuses a session, which can be stopped then, though closing it fails. -/
theorem failures_disciplined_refused :
    let settings := Settings.ofKey "db-0123456789abcdefghijklmnopqrs" "XNAS.ITCH"
    let incoming : Source :=
      Source.ofBytes (Bytes.ofString "lsg_version=1\ncram=x\nsuccess=0|error=no\n")
    ∃ s, connect settings (.ok (.opened incoming [] (some .brokenPipe))) = .ok s ∧
      (s.after [.authenticate]).state = .failed ∧
      ((s.after [.authenticate]).perform .nextFrame).1 = .error (.badState "next_frame" "Failed") ∧
      (s.after [.authenticate, .stop]).state = .stopped ∧
      ((s.after [.authenticate, .stop]).perform .stop).1 = .ok .stopped := by
  intro settings incoming
  have hvalid : settings.validate.isOk = true := by decide +kernel
  obtain ⟨key, hkey⟩ := exists_of_isOk hvalid
  obtain ⟨s, hopen, hall⟩ := failures_disciplined hkey incoming [] (some .brokenPipe)
  have hs := (connect_of_validate hkey (.opened incoming [] (some .brokenPipe))).symm.trans hopen
  injection hs with hs
  have hfailed : (s.after [.authenticate]).state = .failed := by
    rw [← hs]
    decide +kernel
  obtain ⟨-, hover, -⟩ := hall [.authenticate]
  obtain ⟨hstop, hrefused⟩ := hover hfailed
  obtain ⟨-, -, hagain, -⟩ := hall [.authenticate, .stop]
  exact ⟨s, hopen, hfailed, hrefused .nextFrame nofun, hstop, (hagain hstop .stop).2 rfl⟩

end Session
end Live
end TickStream
