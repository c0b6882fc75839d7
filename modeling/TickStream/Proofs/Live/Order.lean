import TickStream.Proofs.Live.Standing
/-
What a session writes, and when.  Main statement: whatever callers do and whatever the gateway
sends, the messages on the wire are the answer to the challenge, the subscriptions and the line
that asks for the records, in this order; and each of them only once the gateway has sent what
calls for it.
-/
namespace TickStream
namespace Live

theorem Accepted.asked {settings : Settings} {heard : Bytes} {answer : String} {rest : Bytes}
    (h : Accepted settings heard answer rest) : ∃ rest, Asked settings heard answer rest := by
  obtain ⟨response, verdict, hasked, -⟩ := h
  exact ⟨_, hasked⟩

/-- The messages `sent` are the first ones of those that a session is made of: `answer`, a line
for each of `subs`, and the line that asks for the records. -/
structure InOrder (settings : Settings) (heard : Bytes) (subs : List Subscription)
    (sent : List Bytes) (answer : String) (lines : List String) : Prop where
  written : List.Forall₂ (fun sub line => sub.line = .ok line) subs lines
  front : sent <+: (answer :: (lines ++ [startLine])).map Bytes.ofString
  /-- There is an answer only to a challenge behind a greeting. -/
  asked : sent ≠ [] → ∃ rest, Asked settings heard answer rest
  /-- There is more only behind a response that accepts the session. -/
  accepted : 1 < sent.length → ∃ rest, Accepted settings heard answer rest
  /-- There is the last line only if there is a subscription. -/
  subscribed : sent = (answer :: (lines ++ [startLine])).map Bytes.ofString → subs ≠ []

theorem Said.inOrder {settings : Settings} {heard : Bytes} {subs : List Subscription}
    {sent : List Bytes} (h : Said settings heard subs sent) :
    ∃ answer lines, InOrder settings heard subs sent answer lines := by
  cases h with
  | nothing =>
    refine ⟨"", [], .nil, List.nil_prefix, fun hne => absurd rfl hne, nofun, ?_⟩
    intro hall
    cases hall
  | @answered answer rest h =>
    refine ⟨answer, [], .nil, ⟨[Bytes.ofString startLine], rfl⟩, fun _ => ⟨rest, h⟩, ?_, ?_⟩
    · intro hlong
      exact absurd hlong (Nat.lt_irrefl 1)
    · intro hall
      cases hall
  | @subscribed answer rest _ lines h hlines =>
    have hfront : (answer :: lines).map Bytes.ofString ++ [Bytes.ofString startLine] =
        (answer :: (lines ++ [startLine])).map Bytes.ofString := by
      rw [← List.cons_append, List.map_append]
      rfl
    refine ⟨answer, lines, hlines, ⟨_, hfront⟩, fun _ => h.asked, fun _ => ⟨rest, h⟩, ?_⟩
    intro hall
    rw [← hfront] at hall
    exact absurd hall (by simp)
  | @started answer rest _ lines h hlines hsubs =>
    exact ⟨answer, lines, hlines, List.prefix_rfl, fun _ => h.asked, fun _ => ⟨rest, h⟩,
      fun _ => hsubs⟩

namespace Session

/-- After any calls the messages are in order, and a call that is turned down adds none.  As this
holds of everything that a gateway may send, cut off or failing anywhere, no message is written
ahead of what calls for it. -/
theorem messages_in_order {settings : Settings} {key : ApiKey} (h : settings.validate = .ok key)
    (incoming : Source) (writes : List (Option IoFault)) (closing : Option IoFault) :
    ∃ s, connect settings (.ok (.opened incoming writes closing)) = .ok s ∧
      ∀ calls : List Call,
        let t := s.after calls
        (∃ answer lines,
          InOrder settings incoming.content t.subscriptions t.connection.sent answer lines) ∧
        ∀ call e, (t.perform call).1 = .error e →
          (∃ operation state, e = .badState operation state) ∨ e = .emptySubscription →
          (t.perform call).2.connection.sent = t.connection.sent := by
  obtain ⟨s, hopen, hstanding⟩ := standing_after h incoming writes closing
  refine ⟨s, hopen, fun calls => ⟨?_, fun call e he hturned => ?_⟩⟩
  · have hsaid := (hstanding calls).stage.said
    rw [(hstanding calls).settings] at hsaid
    exact hsaid.inOrder
  · have hfails := ((hstanding calls).perform call).2 e he
    have husage : e.category = .usage := by
      rcases hturned with ⟨operation, state, rfl⟩ | rfl <;> rfl
    rw [(hfails.of_usage husage).2]

/-- A start out of its turn and a subscription to nothing are turned down; the others are
written, cut off as the gateway is before any record. -/
theorem messages_in_order_early_start :
    let settings := Settings.ofKey "db-0123456789abcdefghijklmnopqrs" "XNAS.ITCH"
    let incoming : Source := [.data (Bytes.ofString "lsg_version=1\ncr"), .interrupted,
      .data (Bytes.ofString "am=x\nsuccess=1|session_id=7\n")]
    let sub : Subscription := ⟨.trades, .rawSymbol, ["AAPL"], none, false⟩
    let calls : List Call :=
      [.start, .authenticate, .subscribe { sub with symbols := [] }, .subscribe sub, .start]
    ∃ s, connect settings (.ok (.opened incoming [] none)) = .ok s ∧
      (s.after calls).connection.sent.length = 3 ∧ (s.after calls).subscriptions = [sub] ∧
      (∃ rest answer, Accepted settings incoming.content answer rest) := by
  intro settings incoming sub calls
  have hvalid : settings.validate.isOk = true := by decide +kernel
  obtain ⟨key, hkey⟩ := Step.exists_of_isOk hvalid
  obtain ⟨s, hopen, hall⟩ := messages_in_order hkey incoming [] none
  have hs := (connect_of_validate hkey (.opened incoming [] none)).symm.trans hopen
  injection hs with hs
  have hlen : (s.after calls).connection.sent.length = 3 := by
    rw [← hs]
    decide +kernel
  have hsubs : (s.after calls).subscriptions = [sub] := by
    rw [← hs]
    decide +kernel
  obtain ⟨⟨answer, lines, horder⟩, -⟩ := hall calls
  obtain ⟨rest, haccepted⟩ := horder.accepted (by rw [hlen]; decide)
  exact ⟨s, hopen, hlen, hsubs, rest, answer, haccepted⟩

end Session
end Live
end TickStream
