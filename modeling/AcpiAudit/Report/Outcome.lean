import AcpiAudit.Report.Severity

set_option autoImplicit false

namespace AcpiAudit

inductive Outcome where
  | passed
  | failed (severity : Severity) (code message : String)
  | warning (message : String)
  | info (message : String)
deriving Repr, DecidableEq

namespace Outcome

-- A failure of the grade that a rule gives before its caller decides on one.
def failure (code message : String) : Outcome := .failed .medium code message

def isPassed : Outcome → Bool
  | .passed => true
  | _ => false

def isFailed : Outcome → Bool
  | .failed .. => true
  | _ => false

def severity? : Outcome → Option Severity
  | .failed severity _ _ => some severity
  | _ => none

def code? : Outcome → Option String
  | .failed _ code _ => some code
  | _ => none

def regrade (severity : Severity) (code : String) : Outcome → Outcome
  | .failed _ _ message => .failed severity code message
  | outcome => outcome

def inField (field : String) : Outcome → Outcome
  | .passed => .passed
  | .failed severity code message => .failed severity code (field ++ ": " ++ message)
  | .warning message => .warning (field ++ ": " ++ message)
  | .info message => .info (field ++ ": " ++ message)

def soften : Outcome → Outcome
  | .failed _ _ message => .warning message
  | outcome => outcome

end Outcome

end AcpiAudit
