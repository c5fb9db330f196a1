import AcpiAudit.Report.Outcome

set_option autoImplicit false

namespace AcpiAudit

structure GradeCounts where
  low : Nat := 0
  medium : Nat := 0
  high : Nat := 0
  critical : Nat := 0
deriving Repr, DecidableEq

namespace GradeCounts

def single : Severity → GradeCounts
  | .low => ⟨1, 0, 0, 0⟩
  | .medium => ⟨0, 1, 0, 0⟩
  | .high => ⟨0, 0, 1, 0⟩
  | .critical => ⟨0, 0, 0, 1⟩

def add (left right : GradeCounts) : GradeCounts :=
  ⟨left.low + right.low, left.medium + right.medium, left.high + right.high,
    left.critical + right.critical⟩

def toList (counts : GradeCounts) : List Nat :=
  [counts.low, counts.medium, counts.high, counts.critical]

def atLeast (counts : GradeCounts) : Severity → Nat
  | .low => counts.low + counts.medium + counts.high + counts.critical
  | .medium => counts.medium + counts.high + counts.critical
  | .high => counts.high + counts.critical
  | .critical => counts.critical

end GradeCounts

structure Summary where
  passed : Nat := 0
  failed : Nat := 0
  warnings : Nat := 0
  infos : Nat := 0
  byGrade : GradeCounts := {}
deriving Repr, DecidableEq

namespace Summary

def empty : Summary := {}

def ofOutcome : Outcome → Summary
  | .passed => ⟨1, 0, 0, 0, {}⟩
  | .failed severity _ _ => ⟨0, 1, 0, 0, .single severity⟩
  | .warning _ => ⟨0, 0, 1, 0, {}⟩
  | .info _ => ⟨0, 0, 0, 1, {}⟩

def merge (left right : Summary) : Summary :=
  ⟨left.passed + right.passed, left.failed + right.failed, left.warnings + right.warnings,
    left.infos + right.infos, left.byGrade.add right.byGrade⟩

def ofOutcomes (outcomes : List Outcome) : Summary :=
  outcomes.foldl (fun counts outcome => counts.merge (ofOutcome outcome)) empty

def failedAtLeast (summary : Summary) (severity : Severity) : Nat :=
  summary.byGrade.atLeast severity

end Summary

end AcpiAudit
