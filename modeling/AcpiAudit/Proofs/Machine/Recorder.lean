import AcpiAudit.Audit.Check
import AcpiAudit.Proofs.Audit.Collecting
import AcpiAudit.Proofs.Audit.Finishing
import AcpiAudit.Proofs.Machine.Run
import AcpiAudit.Proofs.Report.Adapting

set_option autoImplicit false

namespace AcpiAudit

-- What a recorder leaves behind. The report and the side table stay as far as they had come when a
-- field could not be read.
structure Recorded (σ α : Type) where
  log : List LogEntry
  report : Report
  side : σ
  result : Except ReadError α

-- A computation that writes to a report, under the label of a table, and to a side table.
def Recorder (σ α : Type) : Type := String → Report → σ → Checked (Recorded σ α)

namespace Recorder

variable {σ τ α β : Type}

instance : Monad (Recorder σ) where
  pure value := fun _ report side => .ok ⟨[], report, side, .ok value⟩
  bind first next := fun table report side =>
    match first table report side with
    | .error panic => .error panic
    | .ok before =>
      match before.result with
      | .error error => .ok ⟨before.log, before.report, before.side, .error error⟩
      | .ok value =>
        match next value table before.report before.side with
        | .error panic => .error panic
        | .ok after => .ok ⟨before.log ++ after.log, after.report, after.side, after.result⟩

instance : LogWriter (Recorder σ) := ⟨fun entry => fun _ report side =>
  .ok ⟨[entry], report, side, .ok ()⟩⟩

def ofRun : Run α → Recorder σ α
  | .panicked panic => fun _ _ _ => .error panic
  | .finished audit => fun table report side =>
    .ok ⟨audit.log, report.addFindings table audit.findings, side, audit.result⟩

instance : MonadLift Run (Recorder σ) := ⟨ofRun⟩

def write (level : Level) (target message : String) : Recorder σ Unit :=
  LogWriter.write ⟨level, target, message⟩

def amend (change : String → Report → Report) : Recorder σ Unit := fun table report side =>
  .ok ⟨[], change table report, side, .ok ()⟩

def require (outcome : Outcome) (severity : Severity) (problem field : String) :
    Recorder σ Bool := fun table report side =>
  let (passed, noted) := report.noteField table outcome severity problem field
  .ok ⟨[], noted, side, .ok passed⟩

def expect (outcome : Outcome) (severity : Severity) (problem field : String) :
    Recorder σ Unit := do
  let _ ← require outcome severity problem field

def fail (severity : Severity) (problem detail : String) : Recorder σ Unit :=
  amend fun table report =>
    report.record (.failed severity (table ++ problem) (table ++ " " ++ detail))

def failIf (broken : Prop) [Decidable broken] (severity : Severity) (problem detail : String) :
    Recorder σ Unit :=
  if broken then fail severity problem detail else pure ()

def warn (detail : String) : Recorder σ Unit :=
  amend fun table report => report.record (.warning (table ++ " " ++ detail))

def note (detail : String) : Recorder σ Unit :=
  amend fun table report => report.record (.info (table ++ " " ++ detail))

def readError (error : ReadError) : Recorder σ Unit :=
  amend fun table report => report.record
    (.failed error.severity (table ++ error.suffix) (table ++ " " ++ error.message))

def walkError (error : WalkError) : Recorder σ Unit :=
  match error with
  | .stopped .. => pure ()
  | _ => fail .critical error.suffix
      (error.message ++ "; aborting checks of the remaining sub-structures")

-- The verdict, which is given on all that the report holds, whoever has recorded it.
def finish : Recorder σ Unit :=
  amend fun table report =>
    if report.allPassed then
      (report.record .passed).record (.info s!"No issues found in {table} table.")
    else report

def gather (change : σ → σ) : Recorder σ Unit := fun _ report side =>
  .ok ⟨[], report, change side, .ok ()⟩

def attempt (run : Recorder σ α) : Recorder σ (Except ReadError α) := fun table report side =>
  match run table report side with
  | .error panic => .error panic
  | .ok ended => .ok ⟨ended.log, ended.report, ended.side, .ok ended.result⟩

def contain (run : Recorder σ Unit) : Recorder σ Unit := do
  match ← attempt run with
  | .ok () => return ()
  | .error error => readError error

def gathering (start : τ) (run : Recorder τ α) : Recorder σ (α × τ) := fun table report side =>
  match run table report start with
  | .error panic => .error panic
  | .ok ended => .ok ⟨ended.log, ended.report, side, ended.result.map (·, ended.side)⟩

def labelled (steps : String → Recorder σ α) : Recorder σ α := fun table => steps table table

def apply (label : String) (run : Recorder Unit Unit) (report : Report) :
    Checked (Logged Report) :=
  (run label report ()).map fun ended => ⟨ended.log, ended.report⟩

end Recorder

def Audit.attempt {α : Type} (audit : Audit α) : Audit (Except ReadError α) :=
  ⟨audit.findings, audit.log, .ok audit.result⟩

namespace Recorder

variable {σ τ α β : Type}

def adding (audit : Audit α) (change : σ → σ) : Recorder σ α := fun table report side =>
  .ok ⟨audit.log, report.addFindings table audit.findings, change side, audit.result⟩

def concluding (audit : Audit Unit) : Recorder σ Unit := fun table report side =>
  let added := report.addFindings table (Audit.contain audit).findings
  .ok ⟨audit.log, added.conclude table, side, .ok ()⟩

end Recorder

namespace Report

variable (report : Report) (table : String)

theorem add_nothing : report.addFindings table [] = report := by
  simp [addFindings, extend]

theorem add_findings_append (found more : List Finding) :
    report.addFindings table (found ++ more) =
      (report.addFindings table found).addFindings table more := by
  simp [addFindings, extend]

end Report

namespace Recorder

variable {σ τ α β : Type}

section Adding

@[simp]
theorem pure_adds (value : α) : (pure value : Recorder σ α) = adding (pure value) id := by
  funext table report side
  simp [pure, adding, Report.add_nothing]

@[simp]
theorem run_adds (audit : Audit α) :
    (liftM (Run.finished audit) : Recorder σ α) = adding audit id := rfl

@[simp]
theorem read_adds (read : Except ReadError α) :
    (liftM read : Recorder σ α) = adding (liftM read) id := rfl

@[simp]
theorem checked_adds (value : α) :
    (liftM (.ok value : Checked α) : Recorder σ α) = adding (pure value) id := rfl

@[simp]
theorem log_adds (entry : LogEntry) :
    (LogWriter.write entry : Recorder σ Unit) = adding (LogWriter.write entry) id := by
  funext table report side
  simp [LogWriter.write, adding, Report.add_nothing]

theorem amend_adds {change : String → Report → Report} (found : List Finding)
    (added : ∀ table report, change table report = report.addFindings table found) :
    (amend change : Recorder σ Unit) = adding (Audit.find found) id := by
  funext table report side
  simp [amend, adding, Audit.find, added]

@[simp]
theorem require_adds (outcome : Outcome) (severity : Severity) (problem field : String) :
    (require outcome severity problem field : Recorder σ Bool) =
      adding (Audit.require outcome severity problem field) id := by
  funext table report side
  have noted := report.note_eq (outcome.adapt (Adaptation.ofField table severity problem field))
  have found := outcome.label_findings table severity problem field
  simp only [Outcome.adapt_passed_iff] at noted
  simp only [require, Report.noteField, noted, adding, Audit.require, Report.addFindings, found,
    Outcome.is_passed_eq]
  rfl

@[simp]
theorem fail_adds (severity : Severity) (problem detail : String) :
    (fail severity problem detail : Recorder σ Unit) =
      adding (Audit.fail severity problem detail) id := amend_adds _ fun _ _ => rfl

@[simp]
theorem fail_if_adds (broken : Prop) [Decidable broken] (severity : Severity)
    (problem detail : String) :
    (failIf broken severity problem detail : Recorder σ Unit) =
      adding (Audit.failIf broken severity problem detail) id := by
  by_cases holds : broken <;> simp [failIf, Audit.failIf, holds]

@[simp]
theorem warn_adds (detail : String) :
    (warn detail : Recorder σ Unit) = adding (Audit.warn detail) id :=
  amend_adds _ fun _ _ => rfl

@[simp]
theorem note_adds (detail : String) :
    (note detail : Recorder σ Unit) = adding (Audit.note detail) id :=
  amend_adds _ fun _ _ => rfl

@[simp]
theorem read_error_adds (error : ReadError) :
    (readError error : Recorder σ Unit) = adding (Audit.find [error.finding]) id :=
  amend_adds _ fun _ _ => rfl

@[simp]
theorem walk_error_adds (error : WalkError) :
    (walkError error : Recorder σ Unit) = adding (Audit.reportDefect error) id := by
  cases error with
  | stopped offset reason =>
      rw [walkError, pure_adds]
      rfl
  | _ => exact fail_adds _ _ _

@[simp]
theorem write_adds (level : Level) (target message : String) :
    (write level target message : Recorder σ Unit) =
      adding (Audit.write level target message) id := log_adds _

@[simp]
theorem gather_adds (change : σ → σ) : gather change = adding (pure ()) change := by
  funext table report side
  simp [gather, pure, adding, Report.add_nothing]

end Adding

section Bind

variable {first : Audit α} {next : α → Recorder σ β} {rest : α → Audit β}

-- What follows an audit changes the side table only if the audit goes through.
theorem bind_adds {early whole : σ → σ} (late : σ → σ)
    (goes : ∀ value, first.result = .ok value →
      next value = adding (rest value) late ∧ late ∘ early = whole)
    (breaks : ∀ error, first.result = .error error → early = whole) :
    (adding first early >>= next) = adding (first >>= rest) whole := by
  funext table report side
  cases reached : first.result with
  | error error => simp [bind, adding, reached, breaks error reached]
  | ok value =>
      obtain ⟨continues, rfl⟩ := goes value reached
      simp [bind, adding, reached, continues, Report.add_findings_append]

theorem bind_adding {change : σ → σ}
    (goes : ∀ value, first.result = .ok value → next value = adding (rest value) id) :
    (adding first change >>= next) = adding (first >>= rest) change :=
  bind_adds id (fun value reached => ⟨goes value reached, rfl⟩) fun _ _ => rfl

@[simp]
theorem adding_bind (first : Audit α) (rest : α → Audit β) (change : σ → σ) :
    (adding first change >>= fun value => adding (rest value) id) =
      adding (first >>= rest) change := bind_adding fun _ _ => rfl

theorem then_adds {value : α} (change : σ → σ) (reads : first.result = .ok value)
    (goes : next value = adding (rest value) change) :
    (adding first id >>= next) = adding (first >>= rest) change := by
  refine bind_adds change (fun other reached => ?_) fun error failed => ?_
  · cases reads.symm.trans reached
    exact ⟨goes, rfl⟩
  · cases reads.symm.trans failed

@[simp]
theorem pure_then (value : α) (next : α → Recorder σ β) :
    (adding (pure value) id >>= next) = next value := by
  funext table report side
  simp only [bind, adding, pure, Report.add_nothing, id, List.nil_append]
  cases next value table report side <;> rfl

theorem log_then (entry : LogEntry) (value : α) (next : α → Recorder σ β) :
    (adding (do LogWriter.write entry; return value) id >>= next) =
      (adding (LogWriter.write entry) id >>= fun _ => next value) := by
  funext table report side
  simp only [bind, adding, pure, LogWriter.write, List.append_nil]

@[simp]
theorem adding_ite (condition : Prop) [Decidable condition] (one other : Audit α)
    (change : σ → σ) :
    (if condition then adding one change else adding other change) =
      adding (if condition then one else other) change := (apply_ite (adding · change) _ _ _).symm

@[simp]
theorem expect_adds (outcome : Outcome) (severity : Severity) (problem field : String) :
    (expect outcome severity problem field : Recorder σ Unit) =
      adding (Audit.expect outcome severity problem field) id := by
  simp only [expect, require_adds, pure_adds, adding_bind]
  congr 1
  simp [bind, Audit.require, pure, Audit.expect, Audit.find]

@[simp]
theorem attempt_adds (audit : Audit α) (change : σ → σ) :
    attempt (adding audit change) = adding audit.attempt change := rfl

@[simp]
theorem contain_adds (audit : Audit Unit) (change : σ → σ) :
    contain (adding audit change) = adding (Audit.contain audit) change := by
  let rest : Except ReadError Unit → Audit Unit
    | .ok () => pure ()
    | .error error => Audit.find [error.finding]
  have contained : contain (adding audit change) = adding (audit.attempt >>= rest) change := by
    rw [contain, attempt_adds]
    refine bind_adding fun ended _ => ?_
    cases ended with
    | ok value => exact pure_adds ()
    | error error => exact read_error_adds error
  rw [contained]
  congr 1
  obtain ⟨findings, log, result⟩ := audit
  cases result <;> simp [Audit.attempt, Audit.contain, bind, rest, pure, Audit.find]

theorem gathering_adds (start : τ) (audit : Audit α) (change : τ → τ) :
    (gathering start (adding audit change) : Recorder σ (α × τ)) =
      adding ((·, change start) <$> audit) id := by
  funext table report side
  obtain ⟨findings, log, result⟩ := audit
  cases result <;> simp [gathering, adding, Functor.map, Except.map]

theorem for_each_adds {items : List α} {run : α → Recorder σ Unit} {audit : α → Audit Unit}
    (each : ∀ item ∈ items, run item = adding (audit item) id) :
    items.forM run = adding (items.forM audit) id := by
  induction items with
  | nil => exact pure_adds ()
  | cons item rest ih =>
      have others := ih fun other member => each other (by simp [member])
      rw [List.forM_eq_forM] at others ⊢
      rw [List.forM_cons, each item (by simp), others, adding_bind]
      rfl

end Bind

section Conclude

variable {first : Audit α} {rest : α → Audit Unit}

theorem finish_eq (table : String) (report : Report) (side : σ) :
    finish table report side = .ok ⟨[], report.conclude table, side, .ok ()⟩ := by
  by_cases passed : report.allPassed = true
  · simp [finish, amend, Report.conclude, passed, Report.record, Report.extend]
  · simp [finish, amend, Report.conclude, passed]

theorem contained_finish (audit : Audit Unit) :
    (adding (Audit.contain audit) id >>= fun _ => finish) =
      (concluding audit : Recorder σ Unit) := by
  funext table report side
  have whole := (Audit.gives_contain audit).result
  have log : (Audit.contain audit).log = audit.log := by
    unfold Audit.contain
    split <;> rfl
  simp [bind, adding, whole, finish_eq, concluding, log]

theorem adding_finish {audit : Audit Unit} (whole : audit.result = .ok ()) :
    (adding audit id >>= fun _ => finish) = (concluding audit : Recorder σ Unit) := by
  rw [← contained_finish, Audit.contain_finished whole]

theorem bind_concluding {value : α} {next : α → Recorder σ Unit} (reads : first.result = .ok value)
    (ends : next value = concluding (rest value)) :
    (adding first id >>= next) = concluding (first >>= rest) := by
  funext table report side
  have found : (Audit.contain (first >>= rest)).findings =
      first.findings ++ (Audit.contain (rest value)).findings := Audit.contain_bind ⟨rfl, reads⟩
  have log : (first >>= rest).log = first.log ++ (rest value).log := by simp [bind, reads]
  simp only [concluding, found, log, Report.add_findings_append]
  simp [Bind.bind, adding, reads, ends, concluding]

theorem attempt_concluding {next : Except ReadError α → Recorder σ Unit}
    (breaks : ∀ error, next (.error error) = (readError error >>= fun _ => finish))
    (ends : ∀ value, first.result = .ok value → next (.ok value) = concluding (rest value)) :
    (adding first.attempt id >>= next) = concluding (first >>= rest) := by
  cases reached : first.result with
  | ok value =>
      have opened : (adding first.attempt id >>= next) =
          (adding first id >>= fun value => next (.ok value)) := by
        funext table report side
        simp [bind, adding, Audit.attempt, reached]
      rw [opened]
      exact bind_concluding reached (ends value reached)
  | error error =>
      have broken : first >>= rest = ⟨first.findings, first.log, .error error⟩ := by
        simp [bind, reached]
      funext table report side
      simp only [broken, concluding, Audit.contain, Report.add_findings_append]
      simp [bind, adding, Audit.attempt, reached, breaks, finish_eq, Audit.find]

-- A report with a failure is not closed, so nothing is missing without the verdict.
theorem failed_concluding {audit : Audit Unit} {severity : Severity} {problem detail : String}
    (whole : audit.result = .ok ())
    (failed : .failure severity problem detail ∈ audit.findings) :
    adding audit id = (concluding audit : Recorder σ Unit) := by
  funext table report side
  have failing : (report.addFindings table audit.findings).allPassed = false := by
    have told : ((Finding.failure severity problem detail).outcome table).isFailed = true := rfl
    have listed : (audit.findings.map (Finding.outcome table)).any Outcome.isFailed = true :=
      List.any_eq_true.mpr ⟨_, List.mem_map_of_mem failed, told⟩
    simp [Report.allPassed, Report.addFindings, Report.extend, listed]
  simp [adding, concluding, Audit.contain_finished whole, Report.conclude, whole, failing]

end Conclude

end Recorder

end AcpiAudit
