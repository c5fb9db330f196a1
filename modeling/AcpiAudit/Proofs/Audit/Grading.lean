import AcpiAudit.Audit.Admission

set_option autoImplicit false

namespace AcpiAudit

abbrev Grades := List (Severity × String)

def readGrades : Grades := [(.critical, "TruncatedRead"), (.low, "NonAsciiField")]

def walkGrades : Grades :=
  [(.critical, "TruncatedSubtable"), (.critical, "StructLengthZero"),
    (.critical, "BadSubtableLength"), (.critical, "OutOfRangeOffset")]

def Within (findings : List Finding) (grades : Grades) : Prop :=
  ∀ severity problem detail, .failure severity problem detail ∈ findings →
    (severity, problem) ∈ grades

theorem within_nil (grades : Grades) : Within [] grades := by
  intro severity problem detail member
  cases member

theorem within_append {one other : List Finding} {grades : Grades} (first : Within one grades)
    (second : Within other grades) : Within (one ++ other) grades := by
  intro severity problem detail member
  cases List.mem_append.mp member with
  | inl member => exact first severity problem detail member
  | inr member => exact second severity problem detail member

theorem within_more {findings : List Finding} {grades more : Grades}
    (within : Within findings grades) (included : grades ⊆ more) : Within findings more :=
  fun severity problem detail member => included (within severity problem detail member)

theorem within_failure {severity : Severity} {problem detail : String} {grades : Grades}
    (listed : (severity, problem) ∈ grades) :
    Within [.failure severity problem detail] grades := by
  intro graded found text member
  cases List.mem_singleton.mp member
  exact listed

namespace Audit

variable {α β : Type} {grades : Grades}

def Reports (audit : Audit α) (grades : Grades) : Prop :=
  ∀ severity problem detail, .failure severity problem detail ∈ audit.findings →
    (severity, problem) ∈ grades

@[simp]
theorem reports_pure (value : α) : (pure value : Audit α).Reports grades := by
  simp [Reports, pure]

@[simp]
theorem reports_bind (first : Audit α) (next : α → Audit β) :
    (first >>= next).Reports grades ↔
      first.Reports grades ∧
        ∀ value, first.result = .ok value → (next value).Reports grades := by
  cases reached : first.result with
  | error error => simp [Reports, bind, reached]
  | ok value => simp [Reports, bind, reached, or_imp, forall_and]

@[simp]
theorem reports_map (change : α → β) (audit : Audit α) :
    (change <$> audit).Reports grades ↔ audit.Reports grades := by
  rw [show change <$> audit = audit >>= fun value => pure (change value) from rfl, reports_bind]
  simp

@[simp]
theorem reports_ite (condition : Prop) [Decidable condition] (one other : Audit α) :
    (if condition then one else other).Reports grades ↔
      (condition → one.Reports grades) ∧ (¬ condition → other.Reports grades) := by
  by_cases holds : condition <;> simp [holds]

@[simp]
theorem reports_lift (read : Except ReadError α) : (liftM read : Audit α).Reports grades := by
  simp [Reports, liftM, monadLift, MonadLift.monadLift]

@[simp]
theorem reports_fail (severity : Severity) (problem detail : String) :
    (fail severity problem detail).Reports grades ↔ (severity, problem) ∈ grades := by
  constructor
  · intro reports
    exact reports severity problem detail (by simp [fail, find])
  · intro listed graded found other member
    cases List.mem_singleton.mp member
    exact listed

@[simp]
theorem reports_fail_if (broken : Prop) [Decidable broken] (severity : Severity)
    (problem detail : String) :
    (failIf broken severity problem detail).Reports grades ↔
      (broken → (severity, problem) ∈ grades) := by
  by_cases holds : broken <;> simp [failIf, holds]

@[simp]
theorem reports_warn (detail : String) : (warn detail).Reports grades := by
  simp [Reports, warn, find]

@[simp]
theorem reports_note (detail : String) : (note detail).Reports grades := by
  simp [Reports, note, find]

@[simp]
theorem reports_log (entry : LogEntry) : (LogWriter.write entry : Audit Unit).Reports grades := by
  simp [Reports, LogWriter.write]

@[simp]
theorem reports_write (level : Level) (target message : String) :
    (write level target message).Reports grades := reports_log _

theorem finding_of_outcome {outcome : Outcome} {severity graded : Severity}
    {problem field found detail : String}
    (member : .failure graded found detail ∈ outcome.findings severity problem field) :
    graded = severity ∧ found = problem := by
  cases outcome with
  | passed => cases member
  | failed _ _ message =>
      cases List.mem_singleton.mp member
      exact ⟨rfl, rfl⟩
  | warning message => cases List.mem_singleton.mp member
  | info message => cases List.mem_singleton.mp member

@[simp]
theorem reports_expect (outcome : Outcome) {severity : Severity} {problem : String}
    (field : String) (listed : (severity, problem) ∈ grades) :
    (expect outcome severity problem field).Reports grades := by
  intro graded found detail member
  obtain ⟨rfl, rfl⟩ := finding_of_outcome member
  exact listed

@[simp]
theorem reports_require (outcome : Outcome) {severity : Severity} {problem : String}
    (field : String) (listed : (severity, problem) ∈ grades) :
    (require outcome severity problem field).Reports grades :=
  reports_expect outcome field listed

theorem reports_for_each {items : List α} {audit : α → Audit Unit}
    (each : ∀ item ∈ items, (audit item).Reports grades) : (items.forM audit).Reports grades := by
  induction items with
  | nil => exact reports_pure ()
  | cons item rest ih =>
      rw [List.forM_eq_forM] at ih ⊢
      rw [List.forM_cons, reports_bind]
      exact ⟨each item (by simp), fun _ _ => ih fun other member => each other (by simp [member])⟩

theorem reports_contain {audit : Audit Unit} (reports : audit.Reports grades) :
    (contain audit).Reports (readGrades ++ grades) := by
  unfold contain
  split
  · intro severity problem detail member
    exact List.mem_append_right _ (reports severity problem detail member)
  · next error failed =>
      intro severity problem detail member
      rcases List.mem_append.mp member with member | member
      · exact List.mem_append_right _ (reports severity problem detail member)
      · cases List.mem_singleton.mp member
        cases error <;> simp [readGrades, ReadError.severity, ReadError.suffix]

theorem reports_locate (reader : Reader) (layout : Layout) (offset : Nat) :
    (reader.locate layout offset : Audit (Except WalkError Record)).Reports grades := by
  unfold Reader.locate
  split
  · simp
  · exact reports_pure _

theorem reports_defect (error : WalkError) : (reportDefect error).Reports walkGrades := by
  intro severity problem detail member
  cases error with
  | stopped offset reason => cases member
  | _ =>
      cases List.mem_singleton.mp member
      simp [WalkError.suffix, walkGrades]

theorem reports_more {audit : Audit α} {more : Grades} (reports : audit.Reports grades)
    (included : grades ⊆ more) : audit.Reports more :=
  fun severity problem detail member => included (reports severity problem detail member)

end Audit

end AcpiAudit
