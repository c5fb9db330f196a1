import AcpiAudit.Proofs.Session.Files
import Mathlib

set_option autoImplicit false

namespace AcpiAudit

open Session

@[mk_iff]
inductive TableFile.Fails (only : List Signature) (failOn : Severity) (file : TableFile) :
    Prop where
  | unreadable (kind : file.kind only = .unreadable)
  | tooShort {error : ReadError} (kind : file.kind only = .tooShort error)
  | failing {image : Image} {check : Check} {severity : Severity} {code message : String}
      (kind : file.kind only = .table image)
      (registered : Registry.find? image.signature = some check)
      (failure : .failed severity code message ∈ (check.apply image .empty).value.outcomes)
      (grave : failOn ≤ severity)

variable (only : List Signature)

theorem counts_readable {file : TableFile}
    (readable : file.kind only ≠ .unreadable) :
    file.counts only = (file.report? only).elim 0 Report.summary :=
  if_neg (mt (kind_unreadable_iff only file).mpr readable)

theorem fails_iff_counts (failOn : Severity) (file : TableFile) :
    file.Fails only failOn ↔ 0 < Summary.failuresFrom failOn (file.counts only) := by
  rw [TableFile.fails_iff]
  cases kind : file.kind only with
  | unreadable =>
      have counted : 0 < Summary.failuresFrom failOn Session.unreadable := by
        cases failOn <;> decide
      simpa [TableFile.counts, (kind_unreadable_iff only file).mp kind] using counted
  | tooShort error =>
      have counted : 0 < Summary.failuresFrom failOn (tooShort file.name error).summary := by
        cases failOn <;> exact Nat.one_pos
      simpa [counts_readable, kind, TableFile.report?] using counted
  | excluded => simp [counts_readable, kind, TableFile.report?]
  | table image =>
      simp only [counts_readable, kind, TableFile.report?, report_value, ne_eq, reduceCtorEq,
        not_false_eq_true]
      cases registered : Registry.find? image.signature with
      | none => simp [registered]
      | some check => simp [registered, failures_from_summary]

theorem concludes (session : Session) (failOn : Severity) :
    (session.conclude failOn).value =
        (if 0 < Summary.failuresFrom failOn session.total then 1 else 0) ∧
      shownIn (session.conclude failOn).log = [] := by
  by_cases failing : 0 < session.total.failedAtLeast failOn <;>
    simp [conclude, failing, bind, pure, LogWriter.write, shownIn, target, reportTarget,
      Summary.failuresFrom]

theorem failures_pos_iff (failOn : Severity) (files : List TableFile) :
    0 < Summary.failuresFrom failOn (addFiles only {} files).value.total ↔
      ∃ file ∈ files, file.Fails only failOn := by
  rw [total_of_files, map_list_sum, List.sum_pos_iff_exists_pos_nat]
  simp [fails_iff_counts]

theorem status_eq (failOn : Severity) (files : List TableFile) :
    (run only failOn files).value =
      if 0 < Summary.failuresFrom failOn (addFiles only {} files).value.total then 1 else 0 :=
  (concludes _ failOn).1

theorem shown_run (failOn : Severity) (files : List TableFile) :
    shownIn (run only failOn files).log =
      (emissions only {} files).flatMap fun (_, found) => found.entries := by
  change shownIn (_ ++ _) = _
  rw [shown_append, shown_after, (concludes _ failOn).2, List.append_nil]

theorem fails_weaken {failOn stricter : Severity} {file : TableFile}
    (grave : failOn ≤ stricter) (fails : file.Fails only stricter) : file.Fails only failOn := by
  cases fails with
  | unreadable kind => exact .unreadable kind
  | tooShort kind => exact .tooShort kind
  | failing kind registered failure graver =>
      exact .failing kind registered failure (Nat.le_trans grave graver)

structure Session.Accounts (session : Session) (reports : List Report) (unread : Nat) : Prop where
  failed : session.total.failed = session.total.byGrade.toList.sum
  graded : ∀ grade, session.total.byGrade.count grade =
    (reports.flatMap Report.outcomes).countP (Outcome.isOfGrade grade) +
      if grade = .critical then unread else 0
  passed : session.total.passed = reports.countP Report.allPassed
  checked : session.checked = reports.length

theorem balanced_counts (file : TableFile) :
    (file.counts only).Balanced := by
  rw [TableFile.counts]
  split
  · rfl
  · cases file.report? only with
    | none => rfl
    | some report => exact Summary.balanced_of_outcomes report.outcomes

theorem report_counted {file : TableFile} {report : Report}
    (reported : file.report? only = some report) :
    report.summary.passed = if report.allPassed then 1 else 0 := by
  cases kind : file.kind only with
  | unreadable => simp [TableFile.report?, kind] at reported
  | excluded => simp [TableFile.report?, kind] at reported
  | tooShort error =>
      simp only [TableFile.report?, kind, Option.some.injEq] at reported
      subst reported
      rfl
  | table image =>
      simp only [TableFile.report?, kind, report_value] at reported
      obtain ⟨check, -, rfl⟩ := Option.map_eq_some_iff.mp reported
      exact (apply_has_verdict check image).counted

theorem report_unreadable {file : TableFile}
    (unread : file.isUnreadable = true) : file.report? only = none := by
  simp only [TableFile.report?, (kind_unreadable_iff only file).mpr unread]

theorem graded_counts (grade : Severity) (file : TableFile) :
    Summary.failuresOf grade (file.counts only) =
      ((file.report? only).toList.flatMap Report.outcomes).countP (Outcome.isOfGrade grade) +
        if grade = .critical then [file].countP TableFile.isUnreadable else 0 := by
  rw [TableFile.counts]
  cases unread : file.isUnreadable with
  | true =>
      rw [report_unreadable only unread]
      simp only [List.countP_singleton, unread]
      cases grade <;> rfl
  | false =>
      simp only [List.countP_singleton, unread]
      cases file.report? only with
      | none => cases grade <;> rfl
      | some report =>
          have graded := Summary.failures_of_outcomes grade report.outcomes
          simpa [Report.summary] using graded

theorem passed_counts (file : TableFile) :
    (file.counts only).passed = (file.report? only).toList.countP Report.allPassed := by
  rw [TableFile.counts]
  cases unread : file.isUnreadable with
  | true =>
      rw [report_unreadable only unread]
      rfl
  | false =>
      cases reported : file.report? only with
      | none => rfl
      | some report => simpa using report_counted only reported

theorem graded_sum (grade : Severity) (files : List TableFile) :
    Summary.failuresOf grade (files.map (TableFile.counts only)).sum =
      ((files.filterMap (TableFile.report? only)).flatMap Report.outcomes).countP
          (Outcome.isOfGrade grade) +
        if grade = .critical then files.countP TableFile.isUnreadable else 0 := by
  induction files with
  | nil => simp
  | cons file rest ih =>
      rw [List.filterMap_eq_flatMap_toList] at ih ⊢
      rw [List.map_cons, List.sum_cons, map_add, ih, graded_counts, List.flatMap_cons,
        List.flatMap_append, List.countP_append, List.countP_cons, List.countP_cons,
        List.countP_nil]
      by_cases critical : grade = .critical
      · simp only [if_pos critical]
        omega
      · simp only [if_neg critical]
        omega

theorem passed_sum (files : List TableFile) :
    Summary.passes (files.map (TableFile.counts only)).sum =
      (files.filterMap (TableFile.report? only)).countP Report.allPassed := by
  induction files with
  | nil => rfl
  | cons file rest ih =>
      rw [List.filterMap_eq_flatMap_toList] at ih ⊢
      rw [List.map_cons, List.sum_cons, map_add, ih, List.flatMap_cons, List.countP_append,
        ← passed_counts]
      rfl

theorem emitted_reports (files : List TableFile) :
    (emissions only {} files).map (fun (_, found) => found.report) =
      files.filterMap (TableFile.report? only) := by
  have reports := congrArg (List.map Prod.snd) (reports_after only {} files)
  simpa [List.map_filterMap, Function.comp_def] using reports

theorem session_accounts (files : List TableFile) :
    (addFiles only {} files).value.Accounts
      ((emissions only {} files).map fun (_, found) => found.report)
      (files.countP TableFile.isUnreadable) := by
  have checked : (addFiles only {} files).value.checked = (emissions only {} files).length :=
    (checked_after only {} files).trans (Nat.zero_add _)
  constructor
  · rw [total_of_files]
    apply Summary.balanced_sum
    intro summary member
    obtain ⟨file, -, rfl⟩ := List.mem_map.mp member
    exact balanced_counts only file
  · intro grade
    rw [total_of_files, emitted_reports]
    exact graded_sum only grade files
  · rw [total_of_files, emitted_reports]
    exact passed_sum only files
  · rw [checked, List.length_map]

theorem status_one_iff (failOn : Severity) (files : List TableFile) :
    (run only failOn files).value = 1 ↔ ∃ file ∈ files, file.Fails only failOn := by
  rw [status_eq, ← failures_pos_iff]
  split <;> simp [*]

theorem status_zero_iff (failOn : Severity) (files : List TableFile) :
    (run only failOn files).value = 0 ↔ ¬ ∃ file ∈ files, file.Fails only failOn := by
  rw [status_eq, ← failures_pos_iff]
  split <;> simp [*]

theorem session_status_and_counts (failOn : Severity) (files : List TableFile) :
    ((run only failOn files).value = 1 ↔ ∃ file ∈ files, file.Fails only failOn) ∧
      ((run only failOn files).value = 0 ↔ ¬ ∃ file ∈ files, file.Fails only failOn) ∧
      shownIn (run only failOn files).log =
        (emissions only {} files).flatMap (fun (_, found) => found.entries) ∧
      (addFiles only {} files).value.Accounts
        ((emissions only {} files).map fun (_, found) => found.report)
        (files.countP TableFile.isUnreadable) ∧
      ∀ stricter, failOn ≤ stricter → (run only failOn files).value = 0 →
        (run only stricter files).value = 0 := by
  refine ⟨status_one_iff only failOn files, status_zero_iff only failOn files,
    shown_run only failOn files, session_accounts only files, ?_⟩
  intro stricter grave passed
  rw [status_zero_iff] at passed ⊢
  rintro ⟨file, member, fails⟩
  exact passed ⟨file, member, fails_weaken only grave fails⟩

-- A table whose sum is wrong, before one without fault.
def wrongSumFirst : List TableFile :=
  [⟨"first", .ok ((paddedApmt 1).take 36)⟩, ⟨"second", .ok bareApmt⟩]

theorem session_status_and_counts_lesser_failure :
    (run [] .medium wrongSumFirst).value = 1 ∧ Severity.high ≤ .critical ∧
      (run [] .high wrongSumFirst).value = 0 ∧ (run [] .critical wrongSumFirst).value = 0 := by
  have lesser : (run [] .medium wrongSumFirst).value = 1 := by cbv
  have passed : (run [] .high wrongSumFirst).value = 0 := by cbv
  obtain ⟨-, -, -, -, weaken⟩ := session_status_and_counts [] .high wrongSumFirst
  exact ⟨lesser, by decide, passed, weaken .critical (by decide) passed⟩

end AcpiAudit
