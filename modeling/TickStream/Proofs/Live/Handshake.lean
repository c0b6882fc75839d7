import TickStream.Proofs.Live.Steps
/-
A handshake one line at a time.  Main statement: a line of the gateway that can be understood
takes a session from one part of the handshake to the next, and changes nothing but what the next
part needs.
-/
namespace TickStream

open Step

namespace Live
namespace Session

variable {s t : Session} {settings : Settings} {key : ApiKey} {fault? : Option IoFault}
  {rest : Bytes} {hello ask version token : String}

/-! ## Parts -/

def hearVerdict : Step String := do
  let verdict ← ofExcept (Verdict.parse (← readLine .readingResponse))
  let id ← ofExcept verdict.accept
  modify fun s => { s with id := some id, state := .authenticated }
  return id

def answerChallenge : Step String := do
  let token ← ofExcept (challenge (← readLine .readingChallenge))
  let answer ← ofExcept ((← get).settings.authentication token)
  sendLine .sendingAuthentication answer.line
  enter .authenticating
  hearVerdict

theorem run_authenticate (hstate : s.state = .awaitingGreeting) :
    EStateM.run authenticate s = EStateM.run (guarded handshake) s := by
  have hexpect : EStateM.run (expect "authenticate" [.awaitingGreeting]) s = .ok () s := by
    rw [run_expect, if_pos (List.mem_singleton.2 hstate)]
  rw [authenticate, bind_ok hexpect]

/-- A handshake begins with the greeting. -/
theorem handshake_eq : handshake = (do
    let version ← ofExcept (greeting (← readLine .readingGreeting))
    modify fun s => { s with gatewayVersion := some version, state := .awaitingChallenge }
    answerChallenge) := rfl

/-! ## From one part to the next -/

/-- `t` is `s` further on in the handshake, with `rest` to be read. -/
structure Onward (s t : Session) (rest : Bytes) (fault? : Option IoFault) : Prop where
  settings : t.settings = s.settings
  id : t.id = s.id
  subscriptions : t.subscriptions = s.subscriptions
  running : s.state ≠ .stopped → t.state ≠ .stopped
  clear : t.Clear
  incoming : ∃ u, t.connection.incoming = some u ∧ u.content = rest ∧ u.failure = fault?

theorem Onward.greeted (h : s.Onward t (Bytes.ofString hello ++ rest) fault?)
    (hline : IsControl hello) (hversion : greeting hello = .ok version) :
    ∃ u, EStateM.run handshake t = EStateM.run answerChallenge u ∧ s.Onward u rest fault? := by
  obtain ⟨v, hincoming, hcontent, hfailure⟩ := h.incoming
  obtain ⟨v₁, hread, hrest, hfailure₁⟩ :=
    readLine_of_line hincoming hcontent hline .readingGreeting
  rw [handshake_eq, bind_ok hread, bind_ok (run_ofExcept_ok hversion _), run_modify_bind]
  have hrunning : SessionState.awaitingChallenge ≠ .stopped := by decide
  exact ⟨_, rfl, h.settings, h.id, h.subscriptions, fun _ => hrunning,
    ⟨h.clear.opened, h.clear.writes⟩, v₁, rfl, hrest, hfailure₁.trans hfailure⟩

theorem Onward.challenged (h : s.Onward t (Bytes.ofString ask ++ rest) fault?)
    (hkey : s.settings.validate = .ok key) (hline : IsControl ask)
    (htoken : challenge ask = .ok token) :
    ∃ u, EStateM.run answerChallenge t = EStateM.run hearVerdict u ∧ s.Onward u rest fault? := by
  obtain ⟨v, hincoming, hcontent, hfailure⟩ := h.incoming
  obtain ⟨v₁, hread, hrest, hfailure₁⟩ :=
    readLine_of_line hincoming hcontent hline .readingChallenge
  have hclear : (t.hearing v₁).Clear := ⟨h.clear.opened, h.clear.writes⟩
  obtain ⟨answer, hanswer⟩ : ∃ answer, (t.hearing v₁).settings.authentication token = .ok answer :=
    ⟨_, Settings.authentication_of_validate (h.settings ▸ hkey) token⟩
  obtain ⟨writes, hsend, hclear'⟩ := sendLine_of_clear hclear .sendingAuthentication answer.line
  rw [answerChallenge, bind_ok hread, bind_ok (run_ofExcept_ok htoken _), bind_ok (run_get _),
    bind_ok (run_ofExcept_ok hanswer _), bind_ok hsend, enter, run_modify_bind]
  have hrunning : SessionState.authenticating ≠ .stopped := by decide
  exact ⟨_, rfl, h.settings, h.id, h.subscriptions, fun _ => hrunning,
    ⟨hclear'.opened, hclear'.writes⟩, v₁, rfl, hrest, hfailure₁.trans hfailure⟩

end Session
end Live
end TickStream
