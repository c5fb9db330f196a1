import AcpiAudit.Proofs.Audit.Collecting

set_option autoImplicit false

namespace AcpiAudit

open Audit

namespace Admission

structure Accepts (image : Image) (signature : Signature) (minimum : Nat) (admitted : Admitted) :
    Prop where
  read : image.header = .ok admitted.header
  named : admitted.header.signature = signature
  declared : minimum ≤ admitted.header.length
  present : minimum ≤ image.reader.limit
  whole : admitted = ⟨admitted.header, image.reader⟩

-- What an admission can do. A refusal always says why, so it never leaves a report empty.
inductive Ends (image : Image) (label : String) (signature : Signature) (minimum : Nat) :
    Prop where
  | refused
      (gives : ∃ problem detail, (Image.admission image label signature minimum).Gives
        [.failure .high problem detail] none)
  | accepted (admitted : Admitted) (accepts : Accepts image signature minimum admitted)
      (gives : (Image.admission image label signature minimum).Gives
        (completeness image admitted.header).findings (some admitted))

end Admission

theorem completeness_result (image : Image) (header : Header) :
    (Admission.completeness image header).result = .ok () := by
  unfold Admission.completeness
  split <;> simp

theorem refusal_gives (problem detail : String) :
    (do
        fail .high problem detail
        return none : Audit (Option Admitted)).Gives [.failure .high problem detail] none :=
  gives_bind (gives_find _) (gives_pure none)

theorem acceptance_gives (image : Image) (label : String) (header : Header) :
    (do
        Admission.completeness image header
        LogWriter.write (Admission.acceptedEntry label image.reader.limit)
        return some ⟨header, image.reader⟩ : Audit (Option Admitted)).Gives
      (Admission.completeness image header).findings (some ⟨header, image.reader⟩) := by
  constructor
  · simp [bind, completeness_result, LogWriter.write, pure]
  · simp [completeness_result]

theorem admission_gives {image : Image} {signature : Signature} {minimum : Nat}
    {admitted : Admitted} (label : String)
    (accepts : Admission.Accepts image signature minimum admitted) :
    (Image.admission image label signature minimum).Gives
      (Admission.completeness image admitted.header).findings (some admitted) := by
  obtain ⟨read, named, declared, present, whole⟩ := accepts
  have long : ¬ (admitted.header.length < minimum ∨ image.reader.limit < minimum) := by omega
  rw [whole, Image.admission, read]
  simp only [if_neg (not_not.mpr named), if_neg long]
  exact gives_bind (gives_log _) (acceptance_gives image label admitted.header)

theorem admission_ends (image : Image) (label : String) (signature : Signature) (minimum : Nat) :
    Admission.Ends image label signature minimum := by
  cases read : image.header with
  | error error =>
      refine .refused ?_
      rw [Image.admission, read]
      exact ⟨_, _, refusal_gives _ _⟩
  | ok header =>
      by_cases named : header.signature = signature
      · by_cases short : header.length < minimum ∨ image.reader.limit < minimum
        · refine .refused ?_
          rw [Image.admission, read]
          simp only [if_neg (not_not.mpr named), if_pos short]
          exact ⟨_, _, gives_bind (gives_log _) (refusal_gives _ _)⟩
        · have declared : minimum ≤ header.length := by omega
          have present : minimum ≤ image.reader.limit := by omega
          have accepts : Admission.Accepts image signature minimum ⟨header, image.reader⟩ :=
            ⟨read, named, declared, present, rfl⟩
          exact .accepted _ accepts (admission_gives label accepts)
      · refine .refused ?_
        rw [Image.admission, read]
        simp only [if_pos named]
        exact ⟨_, _, gives_bind (gives_log _) (refusal_gives _ _)⟩

theorem accepts_of_admission {image : Image} {label : String} {signature : Signature}
    {minimum : Nat} {admitted : Admitted}
    (accepted : (Image.admission image label signature minimum).result = .ok (some admitted)) :
    Admission.Accepts image signature minimum admitted := by
  have ends := admission_ends image label signature minimum
  cases ends with
  | refused gives =>
      obtain ⟨problem, detail, gives⟩ := gives
      rw [gives.result] at accepted
      cases accepted
  | accepted other accepts gives =>
      rw [gives.result] at accepted
      cases accepted
      exact accepts

end AcpiAudit
