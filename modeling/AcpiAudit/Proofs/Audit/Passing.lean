import AcpiAudit.Audit.Check
import AcpiAudit.Proofs.Rule

set_option autoImplicit false

namespace AcpiAudit

def Finding.isFailure : Finding → Bool
  | .failure .. => true
  | .warning _ => false
  | .note _ => false

theorem outcome_is_failed (label : String) (finding : Finding) :
    (finding.outcome label).isFailed = finding.isFailure := by
  cases finding <;> rfl

namespace Audit

variable {α β : Type}

def Passes (audit : Audit α) (value : α) : Prop :=
  (∀ finding ∈ audit.findings, finding.isFailure = false) ∧ audit.result = .ok value

@[simp]
theorem passes_pure (value other : α) : (pure value : Audit α).Passes other ↔ value = other := by
  simp [Passes, pure]

@[simp]
theorem passes_bind (first : Audit α) (next : α → Audit β) (value : β) :
    (first >>= next).Passes value ↔ ∃ middle, first.Passes middle ∧ (next middle).Passes value := by
  cases reached : first.result with
  | error error => simp [Passes, bind, reached]
  | ok middle =>
      simp only [Passes, bind, reached, List.mem_append, Except.ok.injEq]
      constructor
      · intro holds
        obtain ⟨clean, result⟩ := holds
        exact ⟨middle, ⟨fun finding member => clean finding (.inl member), rfl⟩,
          fun finding member => clean finding (.inr member), result⟩
      · intro holds
        obtain ⟨_, ⟨cleanFirst, rfl⟩, cleanNext, result⟩ := holds
        refine ⟨?_, result⟩
        rintro finding (member | member)
        · exact cleanFirst finding member
        · exact cleanNext finding member

@[simp high]
theorem passes_then (first : Audit Unit) (next : Unit → Audit β) (value : β) :
    (first >>= next).Passes value ↔ first.Passes () ∧ (next ()).Passes value := by
  rw [passes_bind]
  constructor
  · intro holds
    obtain ⟨⟨⟩, holds⟩ := holds
    exact holds
  · intro holds
    exact ⟨(), holds⟩

@[simp]
theorem passes_map (change : α → β) (audit : Audit α) (value : β) :
    (change <$> audit).Passes value ↔ ∃ middle, audit.Passes middle ∧ change middle = value := by
  rw [show change <$> audit = audit >>= fun middle => pure (change middle) from rfl]
  simp only [passes_bind, passes_pure]

@[simp]
theorem passes_ite (condition : Prop) [Decidable condition] (one other : Audit α) (value : α) :
    (if condition then one else other).Passes value ↔
      if condition then one.Passes value else other.Passes value := by
  by_cases holds : condition <;> simp only [holds, if_true, if_false]

@[simp]
theorem passes_lift (read : Except ReadError α) (value : α) :
    (liftM read : Audit α).Passes value ↔ read = .ok value := by
  simp [Passes, liftM, monadLift, MonadLift.monadLift]

-- A read goes through exactly if the bytes are there, and what follows is given their value.
@[simp high]
theorem passes_number (reader : Reader) (offset width : Nat) (next : Nat → Audit β) (value : β) :
    ((liftM (reader.number offset width) : Audit Nat) >>= next).Passes value ↔
      offset + width ≤ reader.limit ∧ (next (reader.bytes.number offset width)).Passes value := by
  simp only [passes_bind, passes_lift, Reader.number_ok_iff, and_assoc, exists_and_left,
    exists_eq_left']

@[simp high]
theorem passes_read (reader : Reader) (offset count : Nat) (next : Bytes → Audit β) (value : β) :
    ((liftM (reader.read offset count) : Audit Bytes) >>= next).Passes value ↔
      offset + count ≤ reader.limit ∧ (next (reader.bytes.slice offset count)).Passes value := by
  simp only [passes_bind, passes_lift, Reader.read_ok_iff, and_assoc, exists_and_left,
    exists_eq_left']

@[simp]
theorem passes_find (findings : List Finding) (value : Unit) :
    (find findings).Passes value ↔ ∀ finding ∈ findings, finding.isFailure = false := by
  simp [Passes, find]

@[simp]
theorem passes_fail (severity : Severity) (problem detail : String) (value : Unit) :
    ¬ (fail severity problem detail).Passes value := by
  simp [fail, Finding.isFailure]

@[simp]
theorem passes_fail_if (broken : Prop) [Decidable broken] (severity : Severity)
    (problem detail : String) (value : Unit) :
    (failIf broken severity problem detail).Passes value ↔ ¬ broken := by
  by_cases holds : broken <;> simp [failIf, holds]

@[simp]
theorem passes_warn (detail : String) (value : Unit) : (warn detail).Passes value := by
  simp [warn, Finding.isFailure]

@[simp]
theorem passes_note (detail : String) (value : Unit) : (note detail).Passes value := by
  simp [note, Finding.isFailure]

@[simp]
theorem passes_log (entry : LogEntry) (value : Unit) :
    (LogWriter.write entry : Audit Unit).Passes value := by
  simp [Passes, LogWriter.write]

@[simp]
theorem passes_write (level : Level) (target message : String) (value : Unit) :
    (write level target message).Passes value :=
  passes_log _ value

@[simp]
theorem passes_contain (audit : Audit Unit) (value : Unit) :
    (contain audit).Passes value ↔ audit.Passes () := by
  cases reached : audit.result with
  | ok _ => simp [contain, reached, Passes]
  | error error =>
      simp [contain, reached, Passes, ReadError.finding, Finding.isFailure, or_imp, forall_and]

theorem findings_of_decided {outcome : Outcome} {condition : Prop}
    (decided : outcome.Decides condition) (severity : Severity) (problem field : String) :
    (∀ finding ∈ outcome.findings severity problem field, finding.isFailure = false) ↔
      condition := by
  rcases decided with ⟨holds, rfl⟩ | ⟨fails, failed⟩
  · simp [Outcome.findings, holds]
  · cases outcome <;> simp_all [Outcome.findings, Outcome.isFailed, Finding.isFailure]

theorem passes_expect {outcome : Outcome} {condition : Prop} (decided : outcome.Decides condition)
    (severity : Severity) (problem field : String) (value : Unit) :
    (expect outcome severity problem field).Passes value ↔ condition := by
  rw [expect, passes_find, findings_of_decided decided]

theorem passes_require {outcome : Outcome} {condition : Prop} (decided : outcome.Decides condition)
    (severity : Severity) (problem field : String) (passed : Bool) :
    (require outcome severity problem field).Passes passed ↔ condition ∧ passed = true := by
  rw [Passes, require, findings_of_decided decided]
  rcases decided with ⟨holds, rfl⟩ | ⟨fails, _⟩
  · simp [holds, Outcome.isPassed, eq_comm]
  · simp [fails]

theorem passes_for_each (items : List α) (audit : α → Audit Unit) (value : Unit) :
    (items.forM audit).Passes value ↔ ∀ item ∈ items, (audit item).Passes () := by
  induction items with
  | nil => simp
  | cons item rest ih =>
      rw [List.forM_eq_forM] at ih ⊢
      simp [ih]

end Audit

end AcpiAudit
