import TickStream.Proofs.Live.Copying
import TickStream.Proofs.Scan.Bodies
/-
Relays of frames.  Main statement: the output is the metadata and every whole frame behind it,
whatever their bodies hold and however the session ends; it can be scanned again; and the relay
succeeds if the session ends between two frames or was interrupted.
-/
namespace TickStream

open Step

namespace Live

namespace Session

variable {s : Session} {c : FrameScanner} {m : Metadata} {shown : List FrameScanner}
  {ending : Except Error Bool}

def scanning (s : Session) (c : FrameScanner) : Session := { s with feed := some (.frames c) }

/-- A session shows the frames of its scanner, and ends as that ends. -/
theorem drives_scanning (hd : c.Drives shown ending) (hs : s.state = .streaming)
    (hc : c.Opened m) :
    ∃ t, (s.scanning c).Drives (shown.map s.scanning) (ending.mapError (·.during .streaming)) t ∧
      t.connection.closing = s.connection.closing := by
  have hwraps := Feed.run_step_frames FrameScanner.nextFrame LineScanner.nextLine
  induction hd with
  | @ended c d hr =>
    refine ⟨s.scanning d, .ended (run_inFeed_ok hs rfl ?_), rfl⟩
    exact (hwraps c).trans (congrArg _ hr)
  | @failed c d e hr =>
    have hexternal := ((FrameScanner.Sound.opened hc).nextFrame.of_error hr).external
    refine ⟨(s.scanning d).fail, .failed (run_inFeed_error hs rfl ?_ hexternal), rfl⟩
    exact (hwraps c).trans (congrArg _ hr)
  | @frame c d shown ending hr _ ih =>
    obtain ⟨h, body, hadvanced⟩ := FrameScanner.nextFrame_eq_true hc hr
    obtain ⟨t, hdrives, hclosing⟩ := ih hadvanced.opened
    refine ⟨t, .frame (run_inFeed_ok hs rfl ?_) hdrives, hclosing⟩
    exact (hwraps c).trans (congrArg _ hr)

theorem written_scanning (s : Session) (shown : List FrameScanner) :
    (shown.map s.scanning).flatMap written = shown.map FrameScanner.currentBytes := by
  rw [List.flatMap_map, List.map_eq_flatMap]
  rfl

theorem tags_scanning {frames : List Frame} (s : Session)
    (h : shown.map FrameScanner.current = frames.map some) :
    (shown.map s.scanning).filterMap tag? = frames.map fun f => f.header.tag := by
  have htags : (shown.map s.scanning).filterMap tag? =
      (shown.map FrameScanner.current).filterMap (Option.map fun f => f.header.tag) := by
    rw [List.filterMap_map, List.filterMap_map]
    rfl
  rw [htags, h, List.filterMap_map, ← List.filterMap_eq_map]
  rfl

end Session

namespace Relay

open FrameScanner (readHead ofSource)

/-- The result of a relay tells how the frames ended: it is their numbers if that was between two
of them or after an interruption, and the failure otherwise. -/
structure Reports (interrupted : Bool) (ending : Except Error Bool) (tags : List UInt8)
    (result : Except Error Counts) : Prop where
  ok : (∃ counts, result = .ok counts) ↔ ending = .ok false ∨ interrupted = true
  counts : ∀ counts, result = .ok counts → counts.Tallies tags
  error : ∀ e, result = .error e → ∃ fault, ending = .error fault ∧ e = fault.during .streaming

theorem reports_finish {ending : Except Error Bool} {interrupted : Bool} {sink : Sink}
    {counts : Counts} {tags : List UInt8} (hend : ending = .ok false ∨ ∃ e, ending = .error e)
    (hflush : sink.flushing sink.taken = none) (hcounts : counts.Tallies tags) :
    Reports interrupted ending tags
      (finish interrupted sink counts (ending.mapError (·.during .streaming))) := by
  have hflushed : finish.flushed sink counts = .ok counts := by
    rw [finish.flushed, hflush]
  have hreports (h : ending = .ok false ∨ interrupted = true) :
      Reports interrupted ending tags (finish.flushed sink counts) := by
    rw [hflushed]
    refine ⟨⟨fun _ => h, fun _ => ⟨counts, rfl⟩⟩, fun counts' hok => ?_, nofun⟩
    injection hok with hok
    exact hok ▸ hcounts
  rcases hend with rfl | ⟨e, rfl⟩
  · exact hreports (.inl rfl)
  · cases interrupted with
    | true => exact hreports (.inr rfl)
    | false =>
      refine ⟨⟨nofun, by simp⟩, nofun, fun fault hfault => ?_⟩
      injection hfault with hfault
      exact ⟨e, rfl, hfault.symm⟩

/-- A relay of a session of frames, into a sink that accepts every write: the output, read again,
and the result.  What bodies hold plays no part, for whole frames are told by their headers and
lengths alone, and end in the same way if they have other bodies. -/
theorem frames_relayed {s started : Session} {subs : List Subscription} {m : Metadata}
    {head : Bytes} {sink : Sink} (hs : Starts s subs (some m) started) (hm : m.encode = .ok head)
    (hsink : sink.Accepts) (interrupted : Bool) :
    ∃ (source : Source) (scanner : FrameScanner) (frames : List Frame)
        (ending : Except Error Bool) (rest : Bytes),
      EStateM.run readHead (ofSource source) = .ok m scanner ∧
      started.feed = some (.frames scanner) ∧ scanner.Gives frames ending ∧
      (∀ f ∈ frames, m.codec.Whole f) ∧
      scanner.source.content = (frames.map Frame.bytes).flatten ++ rest ∧
      (∀ f tail, m.codec.Whole f → rest ≠ f.bytes ++ tail) ∧
      (ending = .ok false ↔ rest = [] ∧ scanner.source.failure = none) ∧
      (∀ other others, scanner.Parallel other m frames others rest → other.Gives others ending) ∧
      let all := head ++ (frames.map Frame.bytes).flatten
      let got := run s subs (.ok sink) interrupted
      (∃ filled, got.output = .opened filled ∧ filled.content = sink.content ++ all) ∧
      (∀ again : Source, again.Delivers all →
        (∃ t, EStateM.run readHead (ofSource again) = .ok m t) ∧
        (ofSource again).Gives frames (.ok false)) ∧
      ((∀ taken, sink.flushing taken = none) → started.connection.closing = none →
        Reports interrupted ending (frames.map fun f => f.header.tag) got.result) := by
  obtain ⟨hauthenticate, hsubscribe, hstart⟩ := hs
  obtain ⟨w, source, feed, rfl, hlines, hframes⟩ := Session.start_eq_ok hstart
  have hdbn : w.settings.encoding ≠ .json := by
    intro hjson
    cases (hlines hjson).1
  obtain ⟨m', scanner, hm', rfl, hhead⟩ := hframes hdbn
  injection hm' with hm'
  subst hm'
  have hopened := (FrameScanner.ensures_readHead source).of_ok hhead
  obtain ⟨shown, ending, hdrives⟩ := hopened.drives
  obtain ⟨frames, rest, hshown, hwhole, hcontent, hmaximal, hend⟩ := hdrives.all_whole hopened
  -- The session goes through the same frames, and the relay passes them on.
  obtain ⟨t, hsession, hclosing⟩ :=
    Session.drives_scanning (s := w.begun (.frames scanner) (some m)) hdrives rfl hopened
  have hbound : (shown.map (w.begun (.frames scanner) (some m)).scanning).length <
      scanner.bound := by
    rw [List.length_map]
    exact Nat.lt_succ_of_le (hdrives.length_le hopened)
  have htried := outcome_transfer (.mk hauthenticate hsubscribe hstart) (.frames hm) hsession
    hsink hbound interrupted
  have hall : (sink.after [head]).after
      ((shown.map (w.begun (.frames scanner) (some m)).scanning).flatMap Session.written) =
        sink.after (head :: frames.map Frame.bytes) := by
    rw [Session.written_scanning, FrameScanner.flatten_of_current hshown, Sink.after_after]
    rfl
  refine ⟨source, scanner, frames, ending, rest, hhead, rfl, ⟨shown, hdrives, hshown⟩, hwhole,
    hcontent, hmaximal, hend, fun other others hp => hp.gives ⟨shown, hdrives, hshown⟩, ?_, ?_, ?_⟩
  · refine ⟨sink.after (head :: frames.map Frame.bytes), ?_, Sink.content_after _ _⟩
    rw [run_eq, tried, htried, ← hall]
    rfl
  · intro again hagain
    exact FrameScanner.gives_again hhead hm hwhole hagain
  · intro hflush hclose
    show Reports interrupted ending _ (run s subs (.ok sink) interrupted).result
    rw [run_eq, tried, htried, result_stopped (hclosing.trans hclose), hall]
    refine reports_finish hdrives.result_cases (hflush _) ?_
    show (Counts.empty.addAll (List.filterMap _ _)).Tallies _
    rw [Session.tags_scanning _ hshown]
    exact Counts.tallies_empty.addAll _

/-- A frame that does not decode is passed on, and two stray bytes behind it are not. -/
theorem frames_relayed_undecodable :
    let settings := Settings.ofKey "db-0123456789abcdefghijklmnopqrs" "XNAS.ITCH"
    let m : Metadata := ⟨.v1, "XNAS.ITCH", none, 0, 0, 0, none, .instrumentId, false,
      [], [], [], []⟩
    let head : Bytes := m.encode.toOption.getD []
    let h : Header := ⟨20, Tag.error, 1, 2, 3⟩
    let body : Bytes := List.replicate 64 0xff
    let incoming : Source := [
      .data (Bytes.ofString "lsg_version=0.4.2\ncram=abc123\nsuccess=1|session_id=7\n"),
      .data (head ++ (h.encode ++ (body ++ [7, 7])))]
    let sub : Subscription := ⟨.trades, .rawSymbol, ["AAPL"], none, false⟩
    (m.codec.decodeBody h body).isOk = false ∧
      ∃ s filled, Session.connect settings (.ok (.opened incoming [] none)) = .ok s ∧
        (run s [sub] (.ok .unlimited) true).output = .opened filled ∧
        filled.content = head ++ (h.encode ++ body) ∧
        ∃ counts, (run s [sub] (.ok .unlimited) true).result = .ok counts := by
  intro settings m head h body incoming sub
  have hvalid : settings.validate.isOk = true := by decide +kernel
  obtain ⟨key, hkey⟩ := exists_of_isOk hvalid
  let s : Session := { Session.ofConnection settings (.opened incoming [] none) with
    state := .awaitingGreeting }
  let s₁ := (outcome Session.authenticate s).2
  let s₂ := (outcome ([sub].forM Session.subscribe) s₁).2
  let started := (outcome Session.start s₂).2
  have hauthenticate : EStateM.run Session.authenticate s = .ok "7" s₁ :=
    run_of_outcome (by decide +kernel)
  have hsubscribe : EStateM.run ([sub].forM Session.subscribe) s₁ = .ok () s₂ :=
    run_of_outcome (by decide +kernel)
  have hstart : EStateM.run Session.start s₂ = .ok (some m) started :=
    run_of_outcome (by decide +kernel)
  have haccepts : Sink.unlimited.Accepts := fun _ _ => rfl
  have hm : m.encode = .ok head := by decide +kernel
  obtain ⟨source, scanner, frames, ending, rest, -, -, -, -, -, -, -, -, ⟨filled, hopened, -⟩, -,
    hresult⟩ := frames_relayed (.mk hauthenticate hsubscribe hstart) hm haccepts true
  have hcontent : (run s [sub] (.ok .unlimited) true).output.content =
      head ++ (h.encode ++ body) := by decide +kernel
  rw [hopened] at hcontent
  have hreports := hresult (fun _ => rfl) (by decide +kernel)
  exact ⟨by decide +kernel, s, filled, Session.connect_of_validate hkey _, hopened, hcontent,
    hreports.ok.2 (.inr rfl)⟩

end Relay
end Live
end TickStream
