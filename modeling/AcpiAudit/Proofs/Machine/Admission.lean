import AcpiAudit.Proofs.Audit.Admitting
import AcpiAudit.Proofs.Machine.Cursor
import AcpiAudit.Proofs.Machine.Recorder

set_option autoImplicit false

namespace AcpiAudit

open Recorder

namespace Admission

variable {σ : Type}

def runCompleteness (image : Image) (header : Header) (cursor : Cursor) : Recorder σ Unit :=
  if image.lengthMatches then
    expect (Rule.zeroSum cursor.shown) .medium "BadChecksum" "Checksum"
  else
    let loaded := image.data.length
    let available := cursor.limit
    warn (s!"declared length {header.length} differs from the {loaded} bytes loaded; " ++
      s!"checking the first {available}")

def runAs (label : String) (image : Image) (cursor : Cursor) (signature : Signature)
    (minimum : Nat) : Recorder σ (Option Header) := do
  match ← Run.attempt cursor.header with
  | .error error =>
    fail .high "TooShort" s!"table is too short to hold a header: {error.message}"
    return none
  | .ok header =>
    LogWriter.write (headerEntry label header)
    let available := cursor.limit
    if header.signature ≠ signature then
      let found := header.signature.text
      let wanted := signature.text
      fail .high "BadSignature" s!"table signature is '{found}', expected '{wanted}'"
      return none
    else if header.length < minimum ∨ available < minimum then
      fail .high "TooShort"
        (s!"table too short, expecting at least {minimum} bytes, declared {header.length} " ++
          s!"with {available} loaded")
      return none
    else
      runCompleteness image header cursor
      LogWriter.write (acceptedEntry label available)
      return some header

def run (image : Image) (cursor : Cursor) (signature : Signature) (minimum : Nat) :
    Recorder σ (Option Header) :=
  labelled fun label => runAs label image cursor signature minimum

variable {image : Image} {cursor : Cursor}

theorem completeness_adds (same : cursor.reader = image.reader) (header : Header) :
    (runCompleteness image header cursor : Recorder σ Unit) =
      adding (completeness image header) id := by
  rw [runCompleteness, completeness, cursor.shown_eq, ← cursor.reader_limit, same]
  simp

theorem run_as_adds (same : cursor.reader = image.reader) (label : String)
    (signature : Signature) (minimum : Nat) :
    (runAs label image cursor signature minimum : Recorder σ (Option Header)) =
      adding (Option.map Admitted.header <$> image.admission label signature minimum) id := by
  have header : Run.attempt cursor.header = .finished (pure image.header) := by
    rw [cursor.header_eq, same]
    rfl
  rw [runAs, header, run_adds, pure_then, Image.admission]
  cases image.header with
  | error error => simp
  | ok header =>
      rw [← cursor.reader_limit, same]
      by_cases other : header.signature ≠ signature
      · simp [if_pos other]
      · by_cases short : header.length < minimum ∨ image.reader.limit < minimum
        · simp [if_neg other, if_pos short]
        · simp [if_neg other, if_neg short, completeness_adds same]

end Admission

section Conclude

variable {check : Check} {image : Image} {cursor : Cursor}

def Check.onward (check : Check) (image : Image) : Option Header → Audit Unit
  | none => return ()
  | some header => check.body (check.fixedSize image.revision) ⟨header, image.reader⟩

theorem audit_of_admission (check : Check) (image : Image) :
    check.audit image = Option.map Admitted.header <$>
      image.admission check.label check.signature (check.fixedSize image.revision) >>=
        check.onward image := by
  rw [Check.audit, bind_map_left]
  refine Audit.bind_agrees fun admitted accepted => ?_
  cases admitted with
  | none => rfl
  | some admitted =>
      have whole := (accepts_of_admission accepted).whole
      exact congrArg (check.body _) whole

-- A refused table has its failure and needs no verdict; an admitted one gets it from what follows.
theorem admission_concludes (same : cursor.reader = image.reader)
    {next : Option Header → Recorder Unit Unit} (stops : next none = pure ())
    (ends : ∀ header, next (some header) =
      concluding (check.body (check.fixedSize image.revision) ⟨header, cursor.reader⟩)) :
    (Admission.run image cursor check.signature (check.fixedSize image.revision) >>= next)
      check.label = concluding (check.audit image) check.label := by
  have opened : (Admission.run image cursor check.signature (check.fixedSize image.revision) >>=
      next) check.label = (Admission.runAs check.label image cursor check.signature
        (check.fixedSize image.revision) >>= next) check.label := rfl
  rw [opened, Admission.run_as_adds same, audit_of_admission]
  cases admission_ends image check.label check.signature (check.fixedSize image.revision) with
  | refused gives =>
      obtain ⟨problem, detail, gives⟩ := gives
      have reached := Audit.gives_map (Option.map Admitted.header) gives
      have onward : (check.onward image none).Gives [] () := Audit.gives_pure ()
      have refused := Audit.gives_bind reached onward
      have failure : .failure .high problem detail ∈
          [Finding.failure .high problem detail] ++ [] := List.mem_cons_self
      rw [← failed_concluding refused.result (refused.findings ▸ failure)]
      refine congrFun (bind_adding fun found told => ?_) check.label
      cases reached.result.symm.trans told
      exact stops.trans (pure_adds ())
  | accepted admitted accepts gives =>
      have reached := Audit.gives_map (Option.map Admitted.header) gives
      refine congrFun (bind_concluding reached.result ?_) check.label
      rw [same] at ends
      exact ends admitted.header

end Conclude

end AcpiAudit
