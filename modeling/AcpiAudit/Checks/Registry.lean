import AcpiAudit.Checks.Apmt
import AcpiAudit.Checks.Gtdt
import AcpiAudit.Checks.Ibft
import AcpiAudit.Checks.Nfit
import AcpiAudit.Checks.Pcct
import AcpiAudit.Checks.Viot

set_option autoImplicit false

namespace AcpiAudit.Registry

def target : String := "fwts_acpi_tables"

def checks : List Check := [Apmt.check, Gtdt.check, Ibft.check, Nfit.check, Pcct.check, Viot.check]

def find? (signature : Signature) : Option Check :=
  checks.find? fun check => check.signature == signature

def report? (image : Image) : Logged (Option Report) := do
  match find? image.signature with
  | none =>
    LogWriter.write ⟨.debug, target, s!"no check registered for {image.signature.text}"⟩
    return none
  | some check =>
    let report ← check.apply image .empty
    return some report

end AcpiAudit.Registry
