import AcpiAudit.Record.Course

set_option autoImplicit false

namespace AcpiAudit

instance : LawfulMonad Logged := LawfulMonad.mk' Logged
  (fun first => by cases first; simp [Functor.map])
  (fun value next => by simp [bind, pure])
  (fun first second third => by simp [bind, List.append_assoc])

namespace Course

theorem of_rest_nil (layout : Layout) (advance : Advance) (offset index : Nat) :
    ofRest layout advance offset index [] = ⟨[], .ok offset⟩ := by
  rw [ofRest]
  simp

theorem of_rest_fault {layout : Layout} {advance : Advance} {offset index : Nat} {rest : Bytes}
    {error : WalkError} (nonempty : 0 < rest.length)
    (failed : Record.ofBytes layout offset index rest = .error error) :
    ofRest layout advance offset index rest = ⟨[], .error error⟩ := by
  rw [ofRest, dif_neg (by omega)]
  split
  · next other found =>
      rw [failed] at found
      cases found
      rfl
  · next record found =>
      rw [failed] at found
      cases found

theorem of_rest_record {layout : Layout} {advance : Advance} {offset index : Nat} {rest : Bytes}
    {record : Record} (nonempty : 0 < rest.length)
    (found : Record.ofBytes layout offset index rest = .ok record) :
    let tail := ofRest layout advance (min (offset + advance.step record) greatestOffset)
      (index + 1) (rest.drop (advance.step record))
    ofRest layout advance offset index rest = ⟨record :: tail.records, tail.ending⟩ := by
  intro tail
  rw [ofRest, dif_neg (by omega)]
  split
  · next other failed =>
      rw [found] at failed
      cases failed
  · next other same =>
      rw [found] at same
      cases same
      rfl

def outcome (course : Course) : Except WalkError Extent :=
  course.ending.map fun offset => ⟨course.records.length, offset⟩

section Visit

variable {m : Type → Type} [Monad m] [LogWriter m]

def close (course : Course) : m (Except WalkError Extent) := do
  match course.outcome with
  | .ok extent =>
    LogWriter.write (doneEntry extent.endOffset extent.records)
    return .ok extent
  | .error error => return .error error

def present (look : Record → m Unit) (record : Record) : m Unit := do
  LogWriter.write record.entry
  look record

theorem visit_from_proceed [LawfulMonad m] (look : Record → m Unit)
    (ending : Except WalkError Nat) (visited : Nat) (records : List Record) :
    visitFrom (fun record => do look record; return .proceed) ending visited records =
      (do
        records.forM (present look)
        visitFrom (fun record => do look record; return .proceed) ending
          (visited + records.length) []) := by
  induction records generalizing visited with
  | nil => simp
  | cons record rest ih =>
      have count : visited + (record :: rest).length = visited + 1 + rest.length := by
        rw [List.length_cons]
        omega
      rw [count, visitFrom, List.forM_eq_forM, List.forM_cons, ← List.forM_eq_forM]
      simp only [bind_assoc, pure_bind, present, ih (visited + 1)]

theorem visit_proceed [LawfulMonad m] (course : Course) (look : Record → m Unit) :
    course.visit (fun record => do look record; return .proceed) =
      (do course.records.forM (present look); course.close) := by
  rw [visit, visit_from_proceed, Nat.zero_add]
  cases ended : course.ending <;> simp [visitFrom, close, outcome, ended, Except.map]

end Visit

end Course

end AcpiAudit
