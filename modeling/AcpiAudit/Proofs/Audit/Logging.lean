import AcpiAudit.Proofs.Audit.Collecting

set_option autoImplicit false

namespace AcpiAudit.Audit

variable {α β : Type} {targets : List String}

def LogsTo (audit : Audit α) (targets : List String) : Prop :=
  ∀ entry ∈ audit.log, entry.target ∈ targets

theorem logs_silent {audit : Audit α} (silent : audit.log = []) : audit.LogsTo targets := by
  simp [LogsTo, silent]

@[simp]
theorem logs_pure (value : α) : (pure value : Audit α).LogsTo targets := logs_silent rfl

@[simp]
theorem logs_bind (first : Audit α) (next : α → Audit β) :
    (first >>= next).LogsTo targets ↔
      first.LogsTo targets ∧
        ∀ value, first.result = .ok value → (next value).LogsTo targets := by
  cases reached : first.result with
  | error error => simp [LogsTo, bind, reached]
  | ok value => simp [LogsTo, bind, reached, or_imp, forall_and]

@[simp]
theorem logs_map (change : α → β) (audit : Audit α) :
    (change <$> audit).LogsTo targets ↔ audit.LogsTo targets := by
  rw [show change <$> audit = audit >>= fun value => pure (change value) from rfl, logs_bind]
  simp

@[simp]
theorem logs_ite (condition : Prop) [Decidable condition] (one other : Audit α) :
    (if condition then one else other).LogsTo targets ↔
      (condition → one.LogsTo targets) ∧ (¬ condition → other.LogsTo targets) := by
  by_cases holds : condition <;> simp [holds]

@[simp]
theorem logs_lift (read : Except ReadError α) : (liftM read : Audit α).LogsTo targets :=
  logs_silent rfl

@[simp]
theorem logs_fail (severity : Severity) (problem detail : String) :
    (fail severity problem detail).LogsTo targets := logs_silent rfl

@[simp]
theorem logs_fail_if (broken : Prop) [Decidable broken] (severity : Severity)
    (problem detail : String) : (failIf broken severity problem detail).LogsTo targets := by
  by_cases holds : broken <;> simp [failIf, holds]

@[simp]
theorem logs_warn (detail : String) : (warn detail).LogsTo targets := logs_silent rfl

@[simp]
theorem logs_note (detail : String) : (note detail).LogsTo targets := logs_silent rfl

@[simp]
theorem logs_expect (outcome : Outcome) (severity : Severity) (problem field : String) :
    (expect outcome severity problem field).LogsTo targets := logs_silent rfl

@[simp]
theorem logs_require (outcome : Outcome) (severity : Severity) (problem field : String) :
    (require outcome severity problem field).LogsTo targets := logs_silent rfl

@[simp]
theorem logs_defect (error : WalkError) : (reportDefect error).LogsTo targets := logs_silent rfl

@[simp]
theorem logs_entry (entry : LogEntry) :
    (LogWriter.write entry : Audit Unit).LogsTo targets ↔ entry.target ∈ targets := by
  simp [LogsTo, LogWriter.write]

@[simp]
theorem logs_write (level : Level) (target message : String) :
    (write level target message).LogsTo targets ↔ target ∈ targets := logs_entry _

@[simp]
theorem logs_contain (audit : Audit Unit) :
    (contain audit).LogsTo targets ↔ audit.LogsTo targets := by
  unfold contain
  split <;> rfl

theorem logs_for_each {items : List α} {audit : α → Audit Unit}
    (each : ∀ item ∈ items, (audit item).LogsTo targets) : (items.forM audit).LogsTo targets := by
  induction items with
  | nil => exact logs_pure ()
  | cons item rest ih =>
      rw [List.forM_eq_forM] at ih ⊢
      rw [List.forM_cons, logs_bind]
      exact ⟨each item (by simp), fun _ _ => ih fun other member => each other (by simp [member])⟩

section Walk

variable (walked : walkTarget ∈ targets)
include walked

theorem logs_locate (reader : Reader) (layout : Layout) (offset : Nat) :
    (reader.locate layout offset : Audit (Except WalkError Record)).LogsTo targets := by
  unfold Reader.locate
  split
  · simpa [Record.entry] using walked
  · exact logs_pure _

theorem logs_each_record {course : Course} {audit : Record → Audit Unit}
    (each : ∀ record, (audit record).LogsTo targets) :
    (eachRecord course audit).LogsTo targets := by
  rw [eachRecord, Course.visit_proceed course fun record => contain (audit record), logs_bind]
  constructor
  · apply logs_for_each
    intro record _
    simpa [Course.present, Record.entry, each record] using walked
  · intro _ _
    rw [Course.close]
    cases course.outcome with
    | error error => exact logs_pure _
    | ok extent => simpa [Course.doneEntry] using walked

end Walk

end AcpiAudit.Audit
