import AcpiAudit.Proofs.Audit.Finishing
import AcpiAudit.Proofs.Audit.Walking
import AcpiAudit.Proofs.Machine.Word

set_option autoImplicit false

namespace AcpiAudit

inductive Run (α : Type) where
  | panicked (panic : Panic)
  | finished (audit : Audit α)

namespace Run

variable {α β : Type}

def ofChecked : Checked α → Run α
  | .ok value => finished (pure value)
  | .error panic => panicked panic

instance : Monad Run where
  pure value := finished (pure value)
  bind first next :=
    match first with
    | panicked panic => panicked panic
    | finished audit =>
      match audit.result with
      | .error error => finished ⟨audit.findings, audit.log, .error error⟩
      | .ok value =>
        match next value with
        | panicked panic => panicked panic
        | finished rest =>
          finished ⟨audit.findings ++ rest.findings, audit.log ++ rest.log, rest.result⟩

instance : MonadLift Audit Run := ⟨finished⟩

instance : MonadLift Checked Run := ⟨ofChecked⟩

instance : LogWriter Run := ⟨fun entry => finished (LogWriter.write entry)⟩

def attempt : Run α → Run (Except ReadError α)
  | panicked panic => panicked panic
  | finished audit => finished ⟨audit.findings, audit.log, .ok audit.result⟩

@[simp]
theorem finished_bind (first : Audit α) (rest : α → Audit β) :
    (finished first >>= fun value => finished (rest value)) = finished (first >>= rest) := by
  cases reached : first.result <;> simp [bind, reached]

@[simp]
theorem pure_then (value : α) (next : α → Run β) :
    (finished (pure value) >>= next) = next value := by
  cases reached : next value <;> simp [bind, pure, reached]

@[simp]
theorem run_pure (value : α) : (pure value : Run α) = finished (pure value) := rfl

@[simp]
theorem run_lift (audit : Audit α) : (liftM audit : Run α) = finished audit := rfl

@[simp]
theorem run_read (read : Except ReadError α) : (liftM read : Run α) = finished (liftM read) := rfl

@[simp]
theorem run_checked (value : α) : (liftM (.ok value : Checked α) : Run α) = finished (pure value) :=
  rfl

@[simp]
theorem run_log (entry : LogEntry) :
    (LogWriter.write entry : Run Unit) = finished (LogWriter.write entry) := rfl

@[simp]
theorem attempt_pure (value : α) :
    attempt (finished (pure value)) = finished (pure (.ok value)) := rfl

end Run

namespace Audit

variable {α β : Type}

@[simp]
theorem lift_pure (value : α) : (liftM (.ok value : Except ReadError α) : Audit α) = pure value :=
  rfl

@[simp]
theorem lift_bind (read : Except ReadError α) (next : α → Except ReadError β) :
    (liftM (read >>= next) : Audit β) = liftM read >>= fun value => liftM (next value) := by
  cases read <;> rfl

@[simp]
theorem lift_map (read : Except ReadError α) (change : α → β) :
    (liftM (change <$> read) : Audit β) = change <$> liftM read := by
  cases read <;> rfl

theorem lift_map_bind (read : Except ReadError α) (change : α → β) {γ : Type}
    (next : β → Audit γ) :
    ((liftM (read.map change) : Audit β) >>= next) =
      (liftM read : Audit α) >>= fun value => next (change value) := by
  cases read <;> rfl

end Audit

end AcpiAudit
