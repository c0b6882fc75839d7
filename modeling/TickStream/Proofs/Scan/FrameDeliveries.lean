import TickStream.Proofs.Scan.Advance
import TickStream.Proofs.Scan.Twins
/-
Scanners of frames over sources that cut the same bytes in pieces of their own.  Main statement:
no advance tells such scanners apart.
-/
namespace TickStream

open Step

theorem Metadata.respects_read :
    Respects Source.Alike Source.Alike Intake.Lost Metadata.read := by
  have hlost {α : Type} (x : Except Error α) :
      Respects Source.Alike Source.Alike Intake.Lost (ofExcept x : Intake α) :=
    (respects_ofExcept x).mono (fun _ _ h => h) fun _ _ _ => trivial
  refine (Intake.respects_exactly _ _ _).bind fun front => ?_
  refine (hlost _).bind fun (version, length) => ?_
  refine (Intake.respects_exactly _ _ _).bind fun body => ?_
  exact (hlost _).bind fun m => respects_pure _

namespace FrameScanner

open Scan (Twins Alike Spent Matches Refused)

instance : Scanner FrameScanner where
  source := source
  onto s u := { s with source := u }
  phase := phase
  source_onto _ _ := rfl
  phase_onto _ _ := rfl

variable {α : Type}

/-! ## Steps that read on -/

theorem respects_intake {r : Intake α} (h : Respects Source.Alike Source.Alike Intake.Lost r) :
    Respects Alike Alike Twins (intake r) := by
  rintro s _ @⟨u, hsource⟩
  have hr := h _ _ hsource
  show Agree Alike Twins (EStateM.run (intake r) s) (EStateM.run (intake r) { s with source := u })
  rw [run_intake, run_intake]
  generalize EStateM.run r (Scanner.source s) = out at hr
  generalize EStateM.run r u = out' at hr
  cases hr with
  | ok h => exact .ok ⟨h⟩
  | error h => exact .error ⟨_⟩

theorem respects_fill (position n : Nat) : Respects Alike Alike Twins (fill position n) := by
  refine (respects_intake (Intake.respects_upTo n)).bind fun bs => ?_
  refine Respects.bind (Q := Alike) (respects_modify ?_) fun _ => respects_pure _
  rintro s _ ⟨h⟩
  exact ⟨h⟩

theorem respects_fillExactly (position n : Nat) (context : String) (offset : Nat) :
    Respects Alike Alike Twins (fillExactly position n context offset) := by
  refine (respects_fill position n).bind fun got => Respects.ite ?_ (respects_pure _)
  exact Scan.respects_throw_twins _

theorem respects_readBody : Respects Alike Alike Twins readBody := by
  refine respects_get_bind (fun s t h => by cases h; rfl) fun s => ?_
  refine (Scan.respects_ofExcept_twins _).bind fun h => ?_
  refine (Scan.respects_ofExcept_twins _).bind fun _ => ?_
  refine (respects_fillExactly _ _ _ _).bind fun _ => respects_modify ?_
  rintro s _ ⟨h⟩
  exact ⟨h⟩

theorem respects_readFrame : Respects Alike Alike Twins readFrame := by
  refine respects_get_bind (fun s t h => by cases h; rfl) fun s => ?_
  refine (respects_fill _ _).bind fun got => Respects.ite ?_ (Respects.ite ?_ ?_)
  · refine Respects.bind (Q := Alike) (respects_modify ?_) fun _ => respects_pure _
    rintro s _ ⟨h⟩
    exact ⟨h⟩
  · exact Scan.respects_throw_twins _
  · exact respects_readBody.bind fun _ => respects_pure _

theorem respects_readMetadata : Respects Alike Alike Twins readMetadata := by
  refine (respects_intake Metadata.respects_read).bind fun (m, size) => respects_modify ?_
  rintro s _ ⟨h⟩
  exact ⟨h⟩

theorem respects_guarded {P Q : FrameScanner → FrameScanner → Prop} {step : Step α}
    (h : Respects P Q Twins step) : Respects P Q Spent (guarded step) := by
  refine Scan.respects_final (fun s => { s with phase := .failed, header := none }) (fun s => ?_)
    (fun _ _ ⟨_⟩ => ⟨rfl⟩) h
  rw [run_guarded]
  cases EStateM.run step s <;> rfl

/-! ## The metadata -/

def decoded : Step Metadata := do
  match (← get).metadata with
  | some m => return m
  | none => throw .scannerFailed

theorem readHead_eq : readHead = (do
    if (← get).phase = .fresh then guarded readMetadata
    decoded) := rfl

theorem respects_decoded {P : FrameScanner → FrameScanner → Prop}
    (h : ∀ s t, P s t → s.metadata = t.metadata) : Respects P P P decoded := by
  refine respects_get_bind (fun s t hst => by rw [h s t hst]) fun s => ?_
  cases s.metadata with
  | none => exact respects_throw _
  | some m => exact respects_pure m

theorem readHead_alike : Respects Alike Alike Matches readHead := by
  have hdecoded : Respects Alike Alike Matches decoded :=
    (respects_decoded fun s t h => by cases h; rfl).mono (fun _ _ h => h) fun _ _ => .alike
  have hread : Respects Alike Alike Matches (guarded readMetadata) :=
    (respects_guarded respects_readMetadata).mono (fun _ _ h => h) fun _ _ => .spent
  rw [readHead_eq]
  refine respects_get_bind (fun s t h => by cases h; rfl) fun s => ?_
  exact Respects.ite (hread.bind fun _ => hdecoded) hdecoded

theorem readHead_spent : Respects Spent Spent Spent readHead := by
  intro s t h
  have hs : s.phase ≠ .fresh := by
    show Scanner.phase s ≠ .fresh
    rw [h.failed.1]
    decide
  have ht : t.phase ≠ .fresh := by
    show Scanner.phase t ≠ .fresh
    rw [h.failed.2]
    decide
  rw [readHead_eq, bind_ok (run_get s), bind_ok (run_get t), if_neg hs, if_neg ht]
  exact respects_decoded (fun s t h => by cases h; rfl) s t h

theorem respects_readHead : Respects Matches Matches Matches readHead :=
  Scan.respects_matches readHead_alike readHead_spent

/-! ## Advances -/

theorem nextFrame_alike : Respects Alike Alike Matches nextFrame := by
  have hread : Respects Alike Alike Matches (guarded readFrame) :=
    (respects_guarded respects_readFrame).mono (fun _ _ h => h) fun _ _ => .spent
  refine respects_get_bind (fun s t h => by cases h; rfl) fun s => ?_
  cases s.phase with
  | failed => exact (respects_throw _).mono (fun _ _ h => h) fun _ _ => .alike
  | finished => exact respects_pure false
  | fresh => exact readHead_alike.bind fun _ => hread
  | streaming => exact hread

theorem refused_nextFrame : Refused nextFrame := fun _ hs => run_nextFrame_failed hs

theorem respects_nextFrame : Respects Matches Matches Matches nextFrame :=
  Scan.respects_matches nextFrame_alike refused_nextFrame.respects

theorem refused_nextRecord : Refused nextRecord := fun _ hs => bind_error (run_nextFrame_failed hs)

theorem respects_nextRecord : Respects Matches Matches Matches nextRecord :=
  Scan.respects_advance_decode respects_nextFrame (fun _ => respects_guarded)
    fun _ _ ⟨_⟩ => rfl

theorem respects_readAll : Respects Matches Matches Matches readAll :=
  Scan.respects_collect_all respects_nextRecord refused_nextRecord fun _ => rfl

end FrameScanner
end TickStream
