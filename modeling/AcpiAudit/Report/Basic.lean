import AcpiAudit.Report.Summary

set_option autoImplicit false

namespace AcpiAudit

structure Report where
  outcomes : List Outcome := []
deriving Repr, DecidableEq

namespace Report

def empty : Report := {}

def record (report : Report) (outcome : Outcome) : Report :=
  ⟨report.outcomes ++ [outcome]⟩

def extend (report : Report) (outcomes : List Outcome) : Report :=
  ⟨report.outcomes ++ outcomes⟩

def note (report : Report) (outcome : Outcome) : Bool × Report :=
  if outcome.isPassed then (true, report) else (false, report.record outcome)

def size (report : Report) : Nat := report.outcomes.length

def isEmpty (report : Report) : Bool := report.outcomes.isEmpty

def failures (report : Report) : List Outcome := report.outcomes.filter Outcome.isFailed

def allPassed (report : Report) : Bool := !report.outcomes.any Outcome.isFailed

def hasFailure (report : Report) (code : String) : Bool :=
  report.failures.any fun outcome => outcome.code? == some code

def worst? (report : Report) : Option Severity :=
  (report.outcomes.filterMap Outcome.severity?).max?

def summary (report : Report) : Summary := Summary.ofOutcomes report.outcomes

end Report

end AcpiAudit
