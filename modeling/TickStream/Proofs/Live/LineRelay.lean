import TickStream.Proofs.Live.FrameRelay
import TickStream.Proofs.Scan.LineTexts
/-
Relays of lines.  Main statement: the output is the text of every line that is not blank, each
with a newline behind it, whether or not it holds a record; scanned again, each text gives the
record that it gave; and the relay counts the texts that hold records.
-/
namespace TickStream

open Step

namespace Live

open LineScanner (Lines ended bare newline)

namespace Session

variable {s : Session} {c : LineScanner} {codec : Codec} {shown : List LineScanner}
  {texts : List String} {ending : Except Error Bool}

def listing (s : Session) (c : LineScanner) : Session := { s with feed := some (.lines c) }

/-- A session shows the lines of its scanner, and ends as that ends. -/
theorem drives_listing (hd : c.Drives shown ending) (hs : s.state = .streaming) (hc : c.Sound) :
    ∃ t, (s.listing c).Drives (shown.map s.listing) (ending.mapError (·.during .streaming)) t ∧
      t.connection.closing = s.connection.closing := by
  have hwraps := Feed.run_step_lines FrameScanner.nextFrame LineScanner.nextLine
  induction hd with
  | @ended c d hr =>
    refine ⟨s.listing d, .ended (run_inFeed_ok hs rfl ?_), rfl⟩
    exact (hwraps c).trans (congrArg _ hr)
  | @failed c d e hr =>
    have hexternal := (hc.nextLine.of_error hr).external
    refine ⟨(s.listing d).fail, .failed (run_inFeed_error hs rfl ?_ hexternal), rfl⟩
    exact (hwraps c).trans (congrArg _ hr)
  | @line c d shown ending hr _ ih =>
    obtain ⟨t, hdrives, hclosing⟩ := ih (hc.nextLine.of_ok hr).1
    refine ⟨t, .frame (run_inFeed_ok hs rfl ?_) hdrives, hclosing⟩
    exact (hwraps c).trans (congrArg _ hr)

/-- A text and its newline are written one after the other. -/
theorem written_listing (s : Session)
    (h : List.Forall₂ (fun t text => t.Shows codec text) shown texts) :
    ((shown.map s.listing).flatMap written).flatten = ended texts := by
  induction h with
  | nil => rfl
  | @cons t text shown texts hshows _ ih =>
    have hfirst : (s.listing t).written = [Bytes.ofString text, [newline]] := by
      show [Bytes.ofString t.current, [newline]] = _
      rw [hshows.current]
    rw [List.map_cons, List.flatMap_cons, List.flatten_append, hfirst, ih,
      LineScanner.ended_cons, List.append_cons]
    rfl

def tagOf (codec : Codec) (text : String) : Option UInt8 :=
  (codec.decodeJson text).toOption.map fun r => r.header.tag

theorem tags_listing (s : Session)
    (h : List.Forall₂ (fun t text => t.Shows codec text) shown texts) :
    (shown.map s.listing).filterMap tag? = texts.filterMap (tagOf codec) := by
  induction h with
  | nil => rfl
  | @cons t text shown texts hshows _ ih =>
    have hfirst : (s.listing t).tag? = tagOf codec text := by
      show t.decodeCurrent.toOption.map _ = _
      rw [hshows.decoded]
      rfl
    rw [List.map_cons, List.filterMap_cons, List.filterMap_cons, hfirst, ih]

end Session

namespace Relay

/-- A relay of a session of lines, into a sink that accepts every write: the output, read again,
and the result.  A carriage return at the end of a text is taken for part of what ends its line
when it is read again, and its record is the same without it. -/
theorem lines_relayed {s started : Session} {subs : List Subscription}
    {metadata : Option Metadata} {sink : Sink} (hs : Starts s subs metadata started)
    (hjson : started.settings.encoding = .json) (hsink : sink.Accepts) (interrupted : Bool) :
    let codec := Session.lineCodec started.settings
    ∃ (source : Source) (texts : List String) (ending : Except Error Bool),
      started.feed = some (.lines (.ofSource source codec)) ∧
      (LineScanner.ofSource source codec).Gives texts ending ∧
      Lines source.failure 0 0 source.content texts ending ∧
      let got := run s subs (.ok sink) interrupted
      (∃ filled, got.output = .opened filled ∧ filled.content = sink.content ++ ended texts) ∧
      (∀ again : Source, again.Delivers (ended texts) →
        (LineScanner.ofSource again codec).Gives (texts.map bare) (.ok false)) ∧
      (∀ text r, codec.decodeJson (bare text) = .ok r ↔ codec.decodeJson text = .ok r) ∧
      ((∀ taken, sink.flushing taken = none) → started.connection.closing = none →
        Reports interrupted ending (texts.filterMap (Session.tagOf codec)) got.result) := by
  intro codec
  obtain ⟨hauthenticate, hsubscribe, hstart⟩ := hs
  obtain ⟨w, source, feed, rfl, hlines, -⟩ := Session.start_eq_ok hstart
  obtain ⟨hnone, hfeed⟩ := hlines hjson
  subst hnone hfeed
  obtain ⟨texts, ending, htexts⟩ := LineScanner.exists_lines source.failure 0 0 source.content
  have hawaits : (LineScanner.ofSource source codec).Awaits codec source.failure 0 0
      source.content := ⟨rfl, rfl, rfl, rfl, rfl, rfl⟩
  obtain ⟨shown, hdrives, hshows⟩ := htexts.drives hawaits
  -- The session goes through the same lines, and the relay passes them on.
  obtain ⟨t, hsession, hclosing⟩ := Session.drives_listing
    (s := w.begun (.lines (.ofSource source codec)) none) hdrives rfl (.inl rfl)
  have hlength : shown.length = texts.length := hshows.length_eq
  have hbound : (shown.map (w.begun (.lines (.ofSource source codec)) none).listing).length <
      (LineScanner.ofSource source codec).bound := by
    rw [List.length_map, hlength]
    exact Nat.lt_succ_of_le htexts.length_le
  have htried := outcome_transfer (.mk hauthenticate hsubscribe hstart) .lines hsession hsink
    hbound interrupted
  rw [Sink.after_nil] at htried
  refine ⟨source, texts, ending, rfl, htexts.gives hawaits, htexts, ?_, ?_, ?_, ?_⟩
  · refine ⟨sink.after ((shown.map (w.begun (.lines (.ofSource source codec)) none).listing).flatMap
      Session.written), ?_, ?_⟩
    · rw [run_eq, tried, htried]
      rfl
    · rw [Sink.content_after, Session.written_listing _ hshows]
  · intro again hagain
    exact (LineScanner.lines_ended htexts.fits 0 0).gives
      ⟨rfl, rfl, hagain.content, hagain.failure, rfl, rfl⟩
  · intro text r
    exact Codec.decodeJson_bare
  · intro hflush hclose
    rw [run_eq, tried, htried, result_stopped (hclosing.trans hclose)]
    refine reports_finish htexts.result_cases (hflush _) ?_
    show (Counts.empty.addAll (List.filterMap _ _)).Tallies _
    rw [Session.tags_listing _ hshows]
    exact Counts.tallies_empty.addAll _

/-- Neither line holds a record, the first ends in two carriage returns and the last in nothing:
both are passed on, and the blank line between them is not. -/
theorem lines_relayed_undecodable :
    let settings : Settings :=
      { Settings.ofKey "db-0123456789abcdefghijklmnopqrs" "XNAS.ITCH" with encoding := .json }
    let incoming : Source := [
      .data (Bytes.ofString "lsg_version=0.4.2\ncram=abc123\nsuccess=1|session_id=7\n"),
      .data (Bytes.ofString "\x7b\x7d\r\r\n \t\r\nabc")]
    let sub : Subscription := ⟨.trades, .rawSymbol, ["AAPL"], none, false⟩
    ∃ s filled, Session.connect settings (.ok (.opened incoming [] none)) = .ok s ∧
      (run s [sub] (.ok .unlimited) false).output = .opened filled ∧
      filled.content = Bytes.ofString "\x7b\x7d\r\nabc\n" ∧
      ∃ counts, (run s [sub] (.ok .unlimited) true).result = .ok counts := by
  intro settings incoming sub
  have hvalid : settings.validate.isOk = true := by decide +kernel
  obtain ⟨key, hkey⟩ := exists_of_isOk hvalid
  let s : Session := { Session.ofConnection settings (.opened incoming [] none) with
    state := .awaitingGreeting }
  let s₁ := (outcome Session.authenticate s).2
  let s₂ := (outcome ([sub].forM Session.subscribe) s₁).2
  let started := (outcome Session.start s₂).2
  have hauthenticate : EStateM.run Session.authenticate s = .ok "7" s₁ :=
    run_of_outcome (by decide +kernel)
  have hsubscribe : EStateM.run ([sub].forM Session.subscribe) s₁ = .ok () s₂ :=
    run_of_outcome (by decide +kernel)
  have hstart : EStateM.run Session.start s₂ = .ok none started :=
    run_of_outcome (by decide +kernel)
  have haccepts : Sink.unlimited.Accepts := fun _ _ => rfl
  have hstarts : Starts s [sub] none started := .mk hauthenticate hsubscribe hstart
  obtain ⟨source, texts, ending, -, -, -, ⟨filled, hopened, -⟩, -⟩ :=
    lines_relayed hstarts (by decide +kernel) haccepts false
  obtain ⟨_, _, _, -, -, -, -, -, -, hresult⟩ :=
    lines_relayed hstarts (by decide +kernel) haccepts true
  have hcontent : (run s [sub] (.ok .unlimited) false).output.content =
      Bytes.ofString "\x7b\x7d\r\nabc\n" := by decide +kernel
  rw [hopened] at hcontent
  have hreports := hresult (fun _ => rfl) (by decide +kernel)
  exact ⟨s, filled, Session.connect_of_validate hkey _, hopened, hcontent,
    hreports.ok.2 (.inr rfl)⟩

end Relay
end Live
end TickStream
