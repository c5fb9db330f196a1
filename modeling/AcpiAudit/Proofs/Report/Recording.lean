import AcpiAudit.Audit.Finding
import AcpiAudit.Proofs.Machine.Counts
import AcpiAudit.Proofs.Report.Summary

set_option autoImplicit false

namespace AcpiAudit

inductive Recording where
  | record (outcome : Outcome)
  | check (outcome : Outcome)
  | passed
  | failed (severity : Severity) (code message : String)
  | warning (message : String)
  | info (message : String)
  | extend (outcomes : List Outcome)
  | walkError (table : String) (error : WalkError)
  | readError (table : String) (error : ReadError)
deriving Repr, DecidableEq

namespace Recording

def added : Recording → List Outcome
  | .record outcome => [outcome]
  | .check outcome => if outcome = .passed then [] else [outcome]
  | .passed => [.passed]
  | .failed severity code message => [.failed severity code message]
  | .warning message => [.warning message]
  | .info message => [.info message]
  | .extend outcomes => outcomes
  | .walkError _ (.stopped _ _) => []
  | .walkError table error =>
    [.failed .critical (table ++ error.suffix)
      (table ++ " " ++ (error.message ++ "; aborting checks of the remaining sub-structures"))]
  | .readError table error =>
    [.failed error.severity (table ++ error.suffix) (table ++ " " ++ error.message)]

def answer : Recording → Option Bool
  | .check outcome => some (outcome = .passed)
  | _ => none

end Recording

namespace Report

def perform (report : Report) : Recording → Option Bool × Report
  | .record outcome => (none, report.record outcome)
  | .check outcome =>
    let (passed, after) := report.note outcome
    (some passed, after)
  | .passed => (none, report.record .passed)
  | .failed severity code message => (none, report.record (.failed severity code message))
  | .warning message => (none, report.record (.warning message))
  | .info message => (none, report.record (.info message))
  | .extend outcomes => (none, report.extend outcomes)
  | .walkError table error => (none, report.addFindings table error.findings)
  | .readError table error => (none, report.addFindings table [error.finding])

def performAll (report : Report) : List Recording → List (Option Bool) × Report
  | [] => ([], report)
  | recording :: rest =>
    let (answer, after) := report.perform recording
    let (answers, last) := after.performAll rest
    (answer :: answers, last)

theorem note_eq (report : Report) (outcome : Outcome) :
    report.note outcome = (decide (outcome = .passed),
      report.extend (if outcome = .passed then [] else [outcome])) := by
  cases outcome <;> simp [note, Outcome.isPassed, record, extend]

theorem perform_eq (report : Report) (recording : Recording) :
    report.perform recording = (recording.answer, report.extend recording.added) := by
  cases recording with
  | check outcome =>
      rw [perform, note_eq]
      rfl
  | walkError table error => cases error <;> rfl
  | record outcome => rfl
  | passed => rfl
  | failed severity code message => rfl
  | warning message => rfl
  | info message => rfl
  | extend outcomes => rfl
  | readError table error => rfl

theorem perform_all_eq (report : Report) (script : List Recording) :
    report.performAll script =
      (script.map Recording.answer, report.extend (script.flatMap Recording.added)) := by
  induction script generalizing report with
  | nil => simp [performAll, extend]
  | cons recording rest ih =>
      simp only [performAll, perform_eq, ih]
      simp [extend]

end Report

structure Report.Accounts (report : Report) : Prop where
  counted : report.summary.Counts report.outcomes
  kinds : report.summary.passed + report.summary.failed + report.summary.warnings +
    report.summary.infos = report.size
  grades : report.summary.failed = report.summary.byGrade.toList.sum
  reaching : ∀ grade,
    report.summary.failedAtLeast grade = report.outcomes.countP (Outcome.reaches grade)
  antitone : ∀ lower higher, lower ≤ higher →
    report.summary.failedAtLeast higher ≤ report.summary.failedAtLeast lower
  least : report.summary.failedAtLeast .low = report.summary.failed
  worst : ∀ grade, 0 < report.summary.failedAtLeast grade ↔
    ∃ worst, report.worst? = some worst ∧ grade ≤ worst
  passes : report.allPassed = true ↔ report.summary.failed = 0
  spotless : report.summary.failed = 0 ↔ report.worst? = none
  codes : ∀ code, report.hasFailure code = true ↔
    ∃ severity message, .failed severity code message ∈ report.outcomes

namespace Report

variable (report : Report)

theorem failed_at_least_low : report.summary.failedAtLeast .low = report.summary.failed := by
  have balanced : report.summary.failed = report.summary.byGrade.toList.sum :=
    Summary.balanced_of_outcomes report.outcomes
  rw [balanced, Summary.failedAtLeast]
  simp only [GradeCounts.atLeast, GradeCounts.toList, List.sum_cons, List.sum_nil]
  omega

theorem failures_iff_worst (grade : Severity) :
    0 < report.summary.failedAtLeast grade ↔
      ∃ worst, report.worst? = some worst ∧ grade ≤ worst := by
  rw [worst_reaches_iff]
  exact failures_from_summary grade report

theorem unfailed_iff_worst : report.summary.failed = 0 ↔ report.worst? = none := by
  have decided := report.failures_iff_worst .low
  rw [failed_at_least_low] at decided
  cases worst : report.worst? with
  | none =>
      have none : ¬ 0 < report.summary.failed := by simp [decided, worst]
      simpa using Nat.eq_zero_of_not_pos none
  | some grade =>
      have some : 0 < report.summary.failed := decided.mpr ⟨grade, worst, Nat.zero_le _⟩
      simpa using Nat.ne_of_gt some

theorem accounts : report.Accounts where
  counted := Summary.counts_of_outcomes report.outcomes
  kinds := Summary.size_of_outcomes report.outcomes
  grades := Summary.balanced_of_outcomes report.outcomes
  reaching grade := Summary.failures_from_outcomes grade report.outcomes
  antitone _ _ order := Summary.failed_at_least_antitone report.outcomes order
  least := report.failed_at_least_low
  worst := report.failures_iff_worst
  passes := report.all_passed_iff
  spotless := report.unfailed_iff_worst
  codes := report.has_failure_iff

theorem summary_extend (one other : Report) :
    (one.extend other.outcomes).summary = one.summary.merge other.summary := by
  simp only [summary, extend, Summary.sum_of_outcomes, List.map_append, List.sum_append]
  rfl

theorem summary_fits {report : Report} (told : report.size < 2 ^ addressBits) :
    report.summary.Fits := by
  have accounts := report.accounts
  have kinds := accounts.kinds
  have grades := accounts.grades
  simp only [GradeCounts.toList, List.sum_cons, List.sum_nil] at grades
  rw [Summary.fits_iff]
  omega

end Report

theorem reports_grow_and_add_up :
    (∀ (report : Report) (script : List Recording),
      report.performAll script = (script.map Recording.answer,
        ⟨report.outcomes ++ script.flatMap Recording.added⟩)) ∧
    (∀ report : Report, report.Accounts) ∧
    (∀ one two three : Summary, (one.merge two).merge three = one.merge (two.merge three)) ∧
    (∀ one other : Summary, one.merge other = other.merge one) ∧
    (∀ summary : Summary, Summary.empty.merge summary = summary ∧ summary.merge .empty = summary) ∧
    (∀ one other : Report,
      (one.extend other.outcomes).summary = one.summary.merge other.summary) ∧
    (∀ one two three : Summary,
      (do (← one.runMerge two).runMerge three) = (do one.runMerge (← two.runMerge three))) ∧
    (∀ one other : Summary, one.runMerge other = (one.merge other).held) ∧
    ∀ one other : Report, one.size + other.size < 2 ^ addressBits →
      one.summary.runMerge other.summary = .ok (one.extend other.outcomes).summary := by
  refine ⟨Report.perform_all_eq, Report.accounts, Summary.merge_assoc, Summary.merge_comm, ?_,
    Report.summary_extend, Summary.run_merge_assoc, Summary.run_merge_eq, ?_⟩
  · intro summary
    exact ⟨summary.empty_merge, (summary.merge_comm .empty).trans summary.empty_merge⟩
  · intro one other told
    have size : (one.extend other.outcomes).size = one.size + other.size := List.length_append
    have fits := Report.summary_fits (size ▸ told)
    rw [Summary.run_merge_eq, ← Report.summary_extend, Summary.held, if_pos fits]

-- Failures with warnings and notes between them, a pass that is recorded and one that is not, and a
-- walk that its visitor stopped.
def mixedScript : List Recording :=
  [.warning "odd but legal", .walkError "APMT" (.zeroLength 44), .check .passed, .info "note",
    .walkError "VIOT" (.stopped 36 "bad type"), .check (.failed .low "X" "x"), .passed,
    .readError "iBFT" (.nonAscii 0 4)]

theorem reports_grow_and_add_up_interleaved :
    let (answers, report) := Report.empty.performAll mixedScript
    answers = [none, none, some true, none, none, some false, none, none] ∧
      report.outcomes = mixedScript.flatMap Recording.added ∧ report.size = 6 ∧
      report.summary = ⟨1, 3, 1, 1, ⟨2, 0, 0, 1⟩⟩ ∧ report.worst? = some .critical ∧
      Severity.low ≤ .medium ∧
      report.summary.failedAtLeast .medium ≤ report.summary.failedAtLeast .low ∧
      report.size + report.size < 2 ^ addressBits ∧
      report.summary.runMerge report.summary = .ok (report.extend report.outcomes).summary := by
  obtain ⟨recorded, accounts, -, -, -, -, -, -, merged⟩ := reports_grow_and_add_up
  rw [recorded]
  let report : Report := ⟨mixedScript.flatMap Recording.added⟩
  have size : report.size = 6 := rfl
  have summary : report.summary = ⟨1, 3, 1, 1, ⟨2, 0, 0, 1⟩⟩ := rfl
  have worst : report.worst? = some .critical := rfl
  have told : report.size + report.size < 2 ^ addressBits := by decide
  exact ⟨rfl, rfl, size, summary, worst, by decide,
    (accounts report).antitone .low .medium (by decide), told, merged report report told⟩

end AcpiAudit
