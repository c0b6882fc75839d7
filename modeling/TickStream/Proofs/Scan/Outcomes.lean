import TickStream.Proofs.External
import TickStream.Proofs.Scan.FrameDeliveries
import TickStream.Proofs.Scan.LineDeliveries
import TickStream.Proofs.Scan.Progress
/-
What an advance leaves behind, for scanners of frames and of lines.  Main statement: a scanner
that goes on can be asked again or has met the end, or it has failed for good; and its failure is
not one of the caller.
-/
namespace TickStream

open Step

namespace Scan

variable {σ α : Type} [Scanner σ] {s : σ} {step : EStateM Error σ α}

/-- What an advance ends a scanner with when it fails. -/
structure Broken (e : Error) (t : σ) : Prop where
  external : e.IsExternal
  phase : Scanner.phase t = .failed

theorem ensures_final {final : EStateM Error σ α} {Q : α → σ → Prop} (fail : σ → σ)
    (hrun : ∀ s, EStateM.run final s = match EStateM.run step s with
      | .ok a t => .ok a t
      | .error e t => .error e (fail t))
    (hfail : ∀ s, Scanner.phase (fail s) = .failed)
    (h : Ensures s step Q fun e _ => e.IsExternal) : Ensures s final Q Broken := by
  rw [Ensures, hrun]
  cases hr : EStateM.run step s with
  | ok a t => exact .ok (h.of_ok hr)
  | error e t => exact .error ⟨h.of_error hr, hfail t⟩

/-- An advance, and then what it came to is decoded. -/
theorem ensures_advance_decode {advance : EStateM Error σ Bool}
    {guarded : EStateM Error σ α → EStateM Error σ α} {decode : σ → Except Error α} {P : σ → Prop}
    (hadvance : Ensures s advance
      (fun more t => P t ∧ (more = true → ExternalIn (decode t))) Broken)
    (hguarded : ∀ {t : σ} {step : EStateM Error σ α} {Q : α → σ → Prop},
      (Ensures t step Q fun e _ => e.IsExternal) → Ensures t (guarded step) Q Broken) :
    Ensures s (do
      if ← advance then
        let s ← get
        return some (← guarded (ofExcept (decode s)))
      else return none) (fun _ t => P t) Broken := by
  refine hadvance.bind (fun _ _ h => h) fun more t ht => ?_
  cases more with
  | false => exact ensures_pure ht.1
  | true =>
    have hdecode := ht.2 rfl
    refine ensures_get_bind ?_
    refine Ensures.bind (Q := fun _ u => u = t) (hguarded ?_) (fun _ _ h => h) ?_
    · exact ensures_ofExcept (fun _ _ => rfl) fun e he => hdecode he
    · intro a u hu
      exact ensures_pure (hu ▸ ht.1)

end Scan

namespace FrameScanner

open Scan (Broken)

variable {s t : FrameScanner} {m : Metadata} {α : Type}

/-! ## Frames -/

theorem external_intake {r : Intake α} (h : External r) : External (intake r) := by
  intro s t e hr
  rw [run_intake] at hr
  cases hread : EStateM.run r s.source with
  | ok a u =>
    rw [hread] at hr
    cases hr
  | error e' u =>
    rw [hread] at hr
    injection hr with he
    exact he ▸ h hread

theorem external_fill (position n : Nat) : External (fill position n) := by
  refine (external_intake (Intake.external_ofRead _)).bind fun bs => ?_
  exact (failsAs_modify _).bind fun _ => failsAs_pure bs.length

theorem external_fillExactly (position n : Nat) (context : String) (offset : Nat) :
    External (fillExactly position n context offset) := by
  refine (external_fill position n).bind fun got => FailsAs.ite ?_ (failsAs_pure ())
  exact failsAs_throw nofun

theorem external_checkSize (c : Option Codec) (h : Header) : ExternalIn (checkSize c h) := by
  rw [checkSize]
  split
  · exact ErrsAs.ite (errsAs_error fun h => by cases h) (errsAs_ok ())
  · exact errsAs_ok ()

theorem external_readBody : External readBody := by
  refine failsAs_get.bind fun s => ?_
  refine (failsAs_ofExcept (Header.external_decode _)).bind fun h => ?_
  refine (failsAs_ofExcept (external_checkSize _ h)).bind fun _ => ?_
  exact (external_fillExactly _ _ _ _).bind fun _ => failsAs_modify _

theorem external_readFrame : External readFrame := by
  refine failsAs_get.bind fun s => ?_
  refine (external_fill 0 Header.size).bind fun got => FailsAs.ite ?_ (FailsAs.ite ?_ ?_)
  · exact (failsAs_modify _).bind fun _ => failsAs_pure false
  · exact failsAs_throw nofun
  · exact external_readBody.bind fun _ => failsAs_pure true

/-- Decoding fails for what the frame holds, if there is a frame. -/
theorem external_decodeCurrent {h : Header} (hheader : s.header = some h)
    (hs : s.metadata = some m) : ExternalIn s.decodeCurrent := by
  rw [decodeCurrent, hheader, codec?, hs]
  exact Codec.external_decodeBody _ _ _

theorem ensures_guarded {step : Step α} {Q : α → FrameScanner → Prop}
    (h : Ensures s step Q fun e _ => e.IsExternal) : Ensures s (guarded step) Q Broken := by
  refine Scan.ensures_final (fun s => { s with phase := .failed, header := none }) (fun s => ?_)
    (fun _ => rfl) h
  rw [run_guarded]
  cases EStateM.run step s <;> rfl

/-- The metadata is decoded from the front of a stream, or the scanner has failed. -/
theorem ensures_readHead (source : Source) :
    Ensures (ofSource source) readHead (fun m t => t.Opened m) Broken := by
  cases hread : EStateM.run Metadata.read source with
  | ok head u =>
    have hhead := readHead_ok (s := ofSource source) rfl hread
    exact ensures_of_ok hhead ⟨rfl, rfl, Bytes.length_zeros capacity⟩
  | error e u =>
    have hhead := readHead_error (s := ofSource source) rfl hread
    exact ensures_of_error hhead ⟨Metadata.external_read hread, rfl⟩

/-- The metadata has been decoded, and the scanner goes on or has met the end. -/
inductive Sound (s : FrameScanner) (m : Metadata) : Prop where
  | opened (h : s.Opened m)
  | ended (hphase : s.phase = .finished) (hmetadata : s.metadata = some m)

/-- An advance to a frame shows what can be decoded. -/
theorem Sound.nextFrame (hs : s.Sound m) : Ensures s nextFrame
    (fun more t => t.Sound m ∧ (more = true → ExternalIn t.decodeCurrent)) Broken := by
  cases hs with
  | ended hphase hmetadata =>
    refine ensures_of_ok (run_nextFrame_finished hphase) ⟨.ended hphase hmetadata, ?_⟩
    intro hmore
    cases hmore
  | opened hs =>
    rw [Ensures, run_nextFrame_streaming hs.phase]
    refine ensures_guarded ?_
    cases hr : EStateM.run readFrame s with
    | error e t => exact ensures_of_error hr (external_readFrame hr)
    | ok more t =>
      refine ensures_of_ok hr ?_
      cases more with
      | true =>
        obtain ⟨h, body, hadvanced⟩ := readFrame_eq_true hs hr
        have hopened := hadvanced.opened
        exact ⟨.opened hopened, fun _ => external_decodeCurrent hadvanced.header hopened.metadata⟩
      | false =>
        obtain ⟨hended, -⟩ := readFrame_eq_false hr
        refine ⟨.ended hended.phase (hended.metadata.trans hs.metadata), ?_⟩
        intro hmore
        cases hmore

theorem Sound.nextRecord (hs : s.Sound m) : Ensures s nextRecord (fun _ t => t.Sound m) Broken :=
  Scan.ensures_advance_decode hs.nextFrame ensures_guarded

end FrameScanner

/-! ## Lines -/

namespace LineScanner

open Scan (Broken)

variable {s t : LineScanner} {α : Type}

/-- The scanner goes on or has met the end. -/
def Sound (s : LineScanner) : Prop := s.phase = .streaming ∨ s.phase = .finished

theorem ensures_guarded {step : Step α} {Q : α → LineScanner → Prop}
    (h : Ensures s step Q fun e _ => e.IsExternal) : Ensures s (guarded step) Q Broken := by
  refine Scan.ensures_final (fun s => { s with phase := .failed, current := "" }) (fun s => ?_)
    (fun _ => rfl) h
  rw [run_guarded]
  cases EStateM.run step s <;> rfl

/-- A line that is not blank has a text. -/
theorem ne_empty_of_not_blank {content : Bytes} {text : String} (hblank : ¬ content.all isBlank)
    (htext : Bytes.toString? content = some text) : text ≠ "" := by
  rintro rfl
  refine hblank ?_
  rw [Bytes.toString?_eq_some_iff.1 htext]
  decide

theorem external_decodeCurrent (hs : s.current ≠ "") : ExternalIn s.decodeCurrent := by
  have hempty : ¬ s.current.isEmpty = true := by simpa using hs
  rw [decodeCurrent, if_neg hempty]
  exact s.codec.external_decodeJson s.current

/-- An advance to a line shows what can be decoded. -/
theorem ensures_readLine (hs : s.phase = .streaming) : Ensures s readLine
    (fun more t => t.Sound ∧ (more = true → ExternalIn t.decodeCurrent))
    fun e _ => e.IsExternal := by
  -- Every line that is passed leaves less of the source.
  induction hsize : s.source.size using Nat.strongRecOn generalizing s with
  | ind n ih =>
    show EndsIn _ _ (readLine s)
    rcases hread : s.source.readUntil newline (limit + 1) with ⟨got, u⟩
    cases got with
    | error fault =>
      rw [readLine_fault hread]
      exact .error fun h => by cases h
    | ok bs =>
      cases bs with
      | nil =>
        rw [readLine_end hread]
        refine .ok ⟨.inr rfl, ?_⟩
        intro hmore
        cases hmore
      | cons b bs =>
        rw [readLine_line hread, onLine]
        cases content? (b :: bs) with
        | none => exact .error fun h => by cases h
        | some content =>
          have hless : u.size < n := hsize ▸ Source.size_readUntil hread
          have hnext := ih u.size hless (s := s.passed u (b :: bs)) hs rfl
          show EndsIn _ _ (if content.all isBlank then readLine (s.passed u (b :: bs)) else _)
          split
          · exact hnext
          · rename_i hblank
            split
            · exact .error fun h => by cases h
            · rename_i text htext
              have htext := ne_empty_of_not_blank hblank htext
              exact .ok ⟨.inl hs, fun _ => external_decodeCurrent htext⟩

theorem Sound.nextLine (hs : s.Sound) : Ensures s nextLine
    (fun more t => t.Sound ∧ (more = true → ExternalIn t.decodeCurrent)) Broken := by
  refine ensures_get_bind ?_
  rcases hs with hs | hs
  · rw [hs]
    exact ensures_guarded (ensures_readLine hs)
  · rw [hs]
    refine ensures_pure ⟨.inr hs, ?_⟩
    intro hmore
    cases hmore

theorem Sound.nextRecord (hs : s.Sound) : Ensures s nextRecord (fun _ t => t.Sound) Broken :=
  Scan.ensures_advance_decode hs.nextLine ensures_guarded

end LineScanner
end TickStream
