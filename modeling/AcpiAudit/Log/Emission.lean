import AcpiAudit.Log.Entry
import AcpiAudit.Report.Basic

set_option autoImplicit false

namespace AcpiAudit

def reportTarget : String := "fwts::report"

def Severity.logLevel (severity : Severity) : Level :=
  if .high ≤ severity then .error else .warn

def Outcome.rendered (name : String) : Outcome → Level × String
  | .passed => (.info, s!"{name}: PASSED")
  | .failed severity code message =>
    let grade := severity.text
    (severity.logLevel, s!"{name}: FAILED [{grade}] {code}: {message}")
  | .warning message => (.warn, s!"{name}: WARNING {message}")
  | .info message => (.info, s!"{name}: {message}")

def Outcome.entry (name : String) (outcome : Outcome) : LogEntry :=
  let (level, line) := outcome.rendered name
  ⟨level, reportTarget, line⟩

def Summary.line (name : String) (summary : Summary) : String :=
  s!"{name}: {summary.passed} passed, {summary.failed} failed, {summary.warnings} warnings, " ++
    s!"{summary.infos} info"

def Report.entries (name : String) (report : Report) : List LogEntry :=
  report.outcomes.map (Outcome.entry name) ++
    [⟨.info, reportTarget, report.summary.line name⟩]

end AcpiAudit
