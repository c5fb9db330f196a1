import AcpiAudit.Audit.Basic
import AcpiAudit.Rule
import AcpiAudit.Table.Image

set_option autoImplicit false

namespace AcpiAudit

structure Admitted where
  header : Header
  reader : Reader
deriving Repr, DecidableEq

namespace Admission

def target : String := "fwts_acpi_tables::common"

def headerEntry (label : String) (header : Header) : LogEntry :=
  let oem := header.oemIdText
  let table := header.oemTableIdText
  ⟨.info, target, s!"{label} table: revision {header.revision}, {header.length} bytes, " ++
    s!"OEM '{oem}' '{table}'"⟩

def acceptedEntry (label : String) (available : Nat) : LogEntry :=
  ⟨.debug, target, s!"{label} header ok, {available} bytes to check"⟩

def completeness (image : Image) (header : Header) : Audit Unit :=
  if image.lengthMatches then
    Audit.expect (Rule.zeroSum image.reader.bytes) .medium "BadChecksum" "Checksum"
  else
    let loaded := image.data.length
    let available := image.reader.limit
    Audit.warn (s!"declared length {header.length} differs from the {loaded} bytes loaded; " ++
      s!"checking the first {available}")

end Admission

def Image.admission (image : Image) (label : String) (signature : Signature) (minimum : Nat) :
    Audit (Option Admitted) := do
  match image.header with
  | .error error =>
    Audit.fail .high "TooShort" s!"table is too short to hold a header: {error.message}"
    return none
  | .ok header =>
    LogWriter.write (Admission.headerEntry label header)
    let available := image.reader.limit
    if header.signature ≠ signature then
      let found := header.signature.text
      let wanted := signature.text
      Audit.fail .high "BadSignature" s!"table signature is '{found}', expected '{wanted}'"
      return none
    else if header.length < minimum ∨ available < minimum then
      Audit.fail .high "TooShort"
        (s!"table too short, expecting at least {minimum} bytes, declared {header.length} " ++
          s!"with {available} loaded")
      return none
    else
      Admission.completeness image header
      LogWriter.write (Admission.acceptedEntry label available)
      return some ⟨header, image.reader⟩

-- For callers that admit a table without a check of it.
abbrev Image.admit := Image.admission

end AcpiAudit
