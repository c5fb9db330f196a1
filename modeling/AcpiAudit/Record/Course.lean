import AcpiAudit.Record.Basic

/-!
The course of a walk: the records that follow one another from a starting offset, and how their run
ends. The course is computed from the bytes alone; a visitor then looks at its records in order and
can stop the walk.
-/

set_option autoImplicit false

namespace AcpiAudit

inductive Advance where
  | declared
  | stride (step : Nat) (positive : 0 < step)

namespace Advance

def step : Advance → Record → Nat
  | .declared, record => record.length
  | .stride step _, _ => step

theorem step_pos (advance : Advance) {record : Record} (nonempty : 0 < record.length) :
    0 < advance.step record := by
  cases advance with
  | declared => exact nonempty
  | stride step positive => exact positive

end Advance

-- The greatest offset that can be told; a step past it ends there.
def greatestOffset : Nat := 0xFFFFFFFFFFFFFFFF

structure Course where
  records : List Record
  ending : Except WalkError Nat

namespace Course

def ofRest (layout : Layout) (advance : Advance) (offset index : Nat) (rest : Bytes) : Course :=
  if _ : rest.length = 0 then ⟨[], .ok offset⟩
  else
    match found : Record.ofBytes layout offset index rest with
    | .error error => ⟨[], .error error⟩
    | .ok record =>
      let step := advance.step record
      let next := min (offset + step) greatestOffset
      let tail := ofRest layout advance next (index + 1) (rest.drop step)
      ⟨record :: tail.records, tail.ending⟩
termination_by rest.length
decreasing_by
  have positive := advance.step_pos (Record.length_pos_of_ofBytes found)
  simp only [List.length_drop]
  omega

end Course

def Reader.course (reader : Reader) (layout : Layout) (advance : Advance) (start : Nat) : Course :=
  .ofRest layout advance start 0 (reader.bytes.drop start)

inductive Decision where
  | proceed
  | stop (reason : String)
deriving Repr, DecidableEq

structure Extent where
  records : Nat
  endOffset : Nat
deriving Repr, DecidableEq

namespace Course

def doneEntry (offset records : Nat) : LogEntry :=
  let place := Hex.text offset
  ⟨.trace, walkTarget, s!"walk done at {place} after {records} records"⟩

def stoppedEntry (offset : Nat) (reason : String) : LogEntry :=
  let place := Hex.text offset
  ⟨.trace, walkTarget, s!"walk aborted by dispatcher at {place}: {reason}"⟩

variable {m : Type → Type} [Monad m] [LogWriter m]

def visitFrom (visit : Record → m Decision) (ending : Except WalkError Nat) (visited : Nat) :
    List Record → m (Except WalkError Extent)
  | [] =>
    match ending with
    | .ok offset => do
      LogWriter.write (doneEntry offset visited)
      return .ok ⟨visited, offset⟩
    | .error error => return .error error
  | record :: rest => do
    LogWriter.write record.entry
    match ← visit record with
    | .proceed => visitFrom visit ending (visited + 1) rest
    | .stop reason =>
      LogWriter.write (stoppedEntry record.offset reason)
      return .error (.stopped record.offset reason)

def visit (course : Course) (visit : Record → m Decision) : m (Except WalkError Extent) :=
  visitFrom visit course.ending 0 course.records

end Course

end AcpiAudit
