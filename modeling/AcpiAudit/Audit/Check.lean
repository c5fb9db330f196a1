import AcpiAudit.Audit.Admission

set_option autoImplicit false

namespace AcpiAudit

structure Check where
  signature : Signature
  name : String
  -- The size of the fixed part in a table of the given revision.
  fixedSize : Nat → Nat
  -- The audit behind the admission, which was given the size of the fixed part.
  body : Nat → Admitted → Audit Unit

def Report.conclude (report : Report) (label : String) : Report :=
  if report.allPassed then
    report.extend [.passed, .info s!"No issues found in {label} table."]
  else report

namespace Check

def label (check : Check) : String := check.signature.text

def audit (check : Check) (image : Image) : Audit Unit := do
  let least := check.fixedSize image.revision
  match ← image.admission check.label check.signature least with
  | none => return ()
  | some admitted => check.body least admitted

def apply (check : Check) (image : Image) (report : Report) : Logged Report :=
  let audit := check.audit image
  let findings := (Audit.contain audit).findings
  ⟨audit.log, (report.addFindings check.label findings).conclude check.label⟩

end Check

end AcpiAudit
