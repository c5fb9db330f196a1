import AcpiAudit.Record.Basic
import AcpiAudit.Report.Basic

set_option autoImplicit false

namespace AcpiAudit

inductive Finding where
  | failure (severity : Severity) (problem detail : String)
  | warning (detail : String)
  | note (detail : String)
deriving Repr, DecidableEq

def Finding.outcome (label : String) : Finding → Outcome
  | .failure severity problem detail => .failed severity (label ++ problem) (label ++ " " ++ detail)
  | .warning detail => .warning (label ++ " " ++ detail)
  | .note detail => .info (label ++ " " ++ detail)

def Outcome.findings (severity : Severity) (problem field : String) : Outcome → List Finding
  | .passed => []
  | .failed _ _ message => [.failure severity problem (field ++ ": " ++ message)]
  | .warning message => [.warning (field ++ ": " ++ message)]
  | .info message => [.note (field ++ ": " ++ message)]

def ReadError.severity : ReadError → Severity
  | .truncated .. => .critical
  | .nonAscii .. => .low

def ReadError.finding (error : ReadError) : Finding :=
  .failure error.severity error.suffix error.message

-- A defect of the structure is critical. A walk that its visitor stopped has no defect of its own,
-- since the visitor has said why it stopped.
def WalkError.findings (error : WalkError) : List Finding :=
  match error with
  | .stopped .. => []
  | _ =>
    [.failure .critical error.suffix
      (error.message ++ "; aborting checks of the remaining sub-structures")]

def Report.addFindings (report : Report) (label : String) (findings : List Finding) : Report :=
  report.extend (findings.map (Finding.outcome label))

end AcpiAudit
