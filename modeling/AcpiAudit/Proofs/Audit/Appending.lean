import AcpiAudit.Proofs.Audit.Verdict

set_option autoImplicit false

namespace AcpiAudit

def Report.unclosed (report : Report) : List Outcome :=
  report.outcomes.takeWhile fun outcome => !outcome.isPassed

theorem all_passed_append (one other : List Outcome) :
    Report.allPassed ⟨one ++ other⟩ = (Report.allPassed ⟨one⟩ && Report.allPassed ⟨other⟩) := by
  simp only [Report.allPassed, List.any_append, Bool.not_or]

theorem verdict_of_failed {report : Report} (failed : report.allPassed = false) (label : String)
    (more : List Outcome) : verdict label (report.outcomes ++ more) = [] := by
  have found : report.outcomes.any Outcome.isFailed = true := by
    simpa [Report.allPassed] using failed
  rw [verdict, List.any_append, found, Bool.true_or, if_pos rfl]

theorem verdict_of_passed {report : Report} (passed : report.allPassed = true) (label : String)
    (more : List Outcome) : verdict label (report.outcomes ++ more) = verdict label more := by
  have clean : report.outcomes.any Outcome.isFailed = false := by
    simpa only [Report.allPassed, Bool.not_eq_true'] using passed
  rw [verdict, verdict, List.any_append, clean, Bool.false_or]

theorem all_passed_verdict (label : String) (outcomes : List Outcome) :
    Report.allPassed ⟨outcomes ++ verdict label outcomes⟩ = Report.allPassed ⟨outcomes⟩ := by
  by_cases failed : outcomes.any Outcome.isFailed = true
  · rw [verdict, if_pos failed, List.append_nil]
  · rw [verdict, if_neg failed, all_passed_append]
    exact Bool.and_true _

section Apply

variable (check : Check) (image : Image)

theorem apply_onto (report : Report) :
    (check.apply image report).value.outcomes = report.outcomes ++ check.outcomes image ++
      verdict check.label (report.outcomes ++ check.outcomes image) := by
  simp only [Check.apply, conclude_outcomes, Report.addFindings, Report.extend, Check.outcomes]

theorem unclosed_outcomes :
    (check.apply image .empty).value.unclosed = check.outcomes image := by
  have unpassed : ∀ outcome ∈ check.outcomes image, (!outcome.isPassed) = true := by
    intro outcome member
    cases outcome with
    | passed => exact absurd member (passed_not_finding _ _)
    | failed severity code message => rfl
    | warning message => rfl
    | info message => rfl
  have closed : (verdict check.label (check.outcomes image)).takeWhile
      (fun outcome => !outcome.isPassed) = [] := by
    unfold verdict
    split
    · rfl
    · rfl
  rw [Report.unclosed, apply_outcomes, List.takeWhile_append_of_pos unpassed, closed,
    List.append_nil]

theorem apply_all_passed (report : Report) :
    (check.apply image report).value.allPassed =
      (report.allPassed && Report.allPassed ⟨check.outcomes image⟩) := by
  have onto : (check.apply image report).value = ⟨_⟩ :=
    congrArg Report.mk (apply_onto check image report)
  rw [onto, all_passed_verdict, all_passed_append]

theorem alone_outcomes :
    let alone := (check.apply image .empty).value
    alone.outcomes = alone.unclosed ++ verdict check.label alone.unclosed := by
  intro alone
  rw [show alone.unclosed = check.outcomes image from unclosed_outcomes check image]
  exact apply_outcomes check image

theorem apply_appends (report : Report) :
    let alone := (check.apply image .empty).value
    (check.apply image report).value.outcomes =
      report.outcomes ++ (if report.allPassed then alone.outcomes else alone.unclosed) := by
  intro alone
  have onto := apply_onto check image report
  rw [← unclosed_outcomes] at onto
  by_cases passed : report.allPassed = true
  · rw [verdict_of_passed passed] at onto
    rw [if_pos passed, alone_outcomes, onto, List.append_assoc]
  · have failed : report.allPassed = false := Bool.not_eq_true _ ▸ passed
    rw [verdict_of_failed failed, List.append_nil] at onto
    rw [if_neg passed, onto]

theorem apply_all_passed_alone (report : Report) :
    (check.apply image report).value.allPassed =
      (report.allPassed && (check.apply image .empty).value.allPassed) := by
  have empty : Report.empty.allPassed = true := rfl
  rw [apply_all_passed, apply_all_passed check image .empty, empty, Bool.true_and]

end Apply

end AcpiAudit
