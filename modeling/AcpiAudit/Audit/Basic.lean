import AcpiAudit.Audit.Finding
import AcpiAudit.Record.Course

set_option autoImplicit false

namespace AcpiAudit

structure Audit (α : Type) where
  findings : List Finding
  log : List LogEntry
  result : Except ReadError α

namespace Audit

instance : Monad Audit where
  pure value := ⟨[], [], .ok value⟩
  bind first next :=
    match first.result with
    | .ok value =>
      let second := next value
      ⟨first.findings ++ second.findings, first.log ++ second.log, second.result⟩
    | .error error => ⟨first.findings, first.log, .error error⟩

instance : LogWriter Audit := ⟨fun entry => ⟨[], [entry], .ok ()⟩⟩

instance : MonadLift (Except ReadError) Audit := ⟨fun read => ⟨[], [], read⟩⟩

def find (findings : List Finding) : Audit Unit := ⟨findings, [], .ok ()⟩

def fail (severity : Severity) (problem detail : String) : Audit Unit :=
  find [.failure severity problem detail]

def failIf (broken : Prop) [Decidable broken] (severity : Severity) (problem detail : String) :
    Audit Unit :=
  if broken then fail severity problem detail else pure ()

def warn (detail : String) : Audit Unit := find [.warning detail]

def note (detail : String) : Audit Unit := find [.note detail]

def write (level : Level) (target message : String) : Audit Unit :=
  LogWriter.write ⟨level, target, message⟩

def require (outcome : Outcome) (severity : Severity) (problem field : String) : Audit Bool :=
  ⟨outcome.findings severity problem field, [], .ok outcome.isPassed⟩

def expect (outcome : Outcome) (severity : Severity) (problem field : String) : Audit Unit :=
  find (outcome.findings severity problem field)

def contain (audit : Audit Unit) : Audit Unit :=
  match audit.result with
  | .ok () => audit
  | .error error => ⟨audit.findings ++ [error.finding], audit.log, .ok ()⟩

def reportDefect (error : WalkError) : Audit Unit := find error.findings

-- Audits every record of a course. A field that cannot be read ends the audit of its record only.
def eachRecord (course : Course) (audit : Record → Audit Unit) : Audit (Except WalkError Extent) :=
  course.visit fun record => do
    contain (audit record)
    return .proceed

def gatherRecords {σ : Type} (course : Course) (audit : Record → Audit Unit)
    (gather : σ → Record → σ) (start : σ) : Audit (Except WalkError Extent × σ) :=
  StateT.run (course.visit fun record => do
    StateT.lift (contain (audit record))
    modify fun gathered => gather gathered record
    return .proceed) start

end Audit

end AcpiAudit
