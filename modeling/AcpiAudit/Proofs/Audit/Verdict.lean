import AcpiAudit.Proofs.Audit.Acceptance
import AcpiAudit.Proofs.Audit.Admitting
import AcpiAudit.Proofs.Report.Summary

set_option autoImplicit false

namespace AcpiAudit

open Audit

def closing (label : String) : List Outcome :=
  [.passed, .info s!"No issues found in {label} table."]

theorem closing_clean (label : String) :
    ∀ outcome ∈ closing label, outcome.isFailed = false := by
  simp [closing, Outcome.isFailed]

def verdict (label : String) (outcomes : List Outcome) : List Outcome :=
  if outcomes.any Outcome.isFailed then [] else closing label

theorem conclude_outcomes (report : Report) (label : String) :
    (report.conclude label).outcomes = report.outcomes ++ verdict label report.outcomes := by
  by_cases failed : report.outcomes.any Outcome.isFailed = true
  · simp [Report.conclude, Report.allPassed, verdict, failed]
  · simp [Report.conclude, Report.allPassed, Report.extend, verdict, closing, failed]

theorem no_verdict {label : String} {findings : List Finding} {severity : Severity}
    {problem detail : String} (found : .failure severity problem detail ∈ findings) :
    verdict label (findings.map (Finding.outcome label)) = [] :=
  if_pos (List.any_eq_true.mpr ⟨_, List.mem_map_of_mem found, rfl⟩)

def Check.outcomes (check : Check) (image : Image) : List Outcome :=
  (contain (check.audit image)).findings.map (Finding.outcome check.label)

theorem apply_outcomes (check : Check) (image : Image) :
    (check.apply image .empty).value.outcomes =
      check.outcomes image ++ verdict check.label (check.outcomes image) := by
  simp only [Check.apply, conclude_outcomes, Report.addFindings, Report.extend, Report.empty,
    List.nil_append, Check.outcomes]

theorem passed_not_finding (label : String) (findings : List Finding) :
    .passed ∉ findings.map (Finding.outcome label) := by
  intro found
  obtain ⟨finding, -, same⟩ := List.mem_map.mp found
  cases finding <;> cases same

theorem summary_passed (report : Report) :
    report.summary.passed = report.outcomes.count .passed :=
  Summary.count_of_outcomes Summary.passes (· == .passed) (fun outcome => by cases outcome <;> rfl)
    report.outcomes

inductive Report.Judged (report : Report) (label : String) : Prop where
  | failing (failure : ∃ outcome ∈ report.outcomes, outcome.isFailed = true)
      (unpassed : .passed ∉ report.outcomes)
  | passing (clean : report.Clean) (once : report.outcomes.count .passed = 1)
      (last : closing label <:+ report.outcomes)

theorem judged_of_outcomes {report : Report} {label : String} {findings : List Finding}
    (reported : report.outcomes = findings.map (Finding.outcome label) ++
      verdict label (findings.map (Finding.outcome label))) : report.Judged label := by
  have unpassed := passed_not_finding label findings
  by_cases failed : (findings.map (Finding.outcome label)).any Outcome.isFailed = true
  · rw [verdict, if_pos failed, List.append_nil] at reported
    refine .failing ?_ (reported ▸ unpassed)
    rw [reported]
    exact List.any_eq_true.mp failed
  · rw [verdict, if_neg failed] at reported
    refine .passing ?_ ?_ ⟨_, reported.symm⟩
    · intro outcome member
      rw [reported, List.mem_append] at member
      cases member with
      | inl member => simpa using (List.any_eq_false.mp (Bool.not_eq_true _ ▸ failed)) _ member
      | inr member => exact closing_clean label outcome member
    · rw [reported, List.count_append, List.count_eq_zero.mpr unpassed]
      rfl

theorem failing_counts {report : Report}
    (failure : ∃ outcome ∈ report.outcomes, outcome.isFailed = true)
    (unpassed : .passed ∉ report.outcomes) :
    report.summary.passed = if report.allPassed then 1 else 0 := by
  have failed : report.allPassed = false := by
    simpa [Report.allPassed] using failure
  rw [summary_passed, failed, List.count_eq_zero.mpr unpassed]
  rfl

theorem passing_counts {report : Report} (clean : report.Clean)
    (once : report.outcomes.count .passed = 1) :
    report.summary.passed = if report.allPassed then 1 else 0 := by
  have passed : report.allPassed = true := by
    simpa [Report.allPassed, Report.Clean] using clean
  rw [summary_passed, passed, once]
  rfl

structure Report.HasVerdict (report : Report) (label : String) : Prop where
  nonempty : report.outcomes ≠ []
  judged : report.Judged label
  counted : report.summary.passed = if report.allPassed then 1 else 0

theorem has_verdict_of_judged {report : Report} {label : String} (judged : report.Judged label) :
    report.HasVerdict label := by
  cases judged with
  | failing failure unpassed =>
      have counted := failing_counts failure unpassed
      obtain ⟨outcome, member, failed⟩ := failure
      exact ⟨List.ne_nil_of_mem member, .failing ⟨outcome, member, failed⟩ unpassed, counted⟩
  | passing clean once last =>
      refine ⟨?_, .passing clean once last, passing_counts clean once⟩
      intro empty
      rw [empty] at once
      cases once

theorem apply_has_verdict (check : Check) (image : Image) :
    (check.apply image .empty).value.HasVerdict check.label :=
  has_verdict_of_judged (judged_of_outcomes (apply_outcomes check image))

theorem refused_audit {check : Check} {image : Image}
    (refused : (Image.admission image check.label check.signature
      (check.fixedSize image.revision)).result = .ok none) :
    ∃ problem detail, (check.audit image).Gives [.failure .high problem detail] () := by
  have ends := admission_ends image check.label check.signature (check.fixedSize image.revision)
  cases ends with
  | refused gives =>
      obtain ⟨problem, detail, gives⟩ := gives
      exact ⟨problem, detail, gives_bind gives (gives_pure ())⟩
  | accepted admitted accepts gives =>
      rw [gives.result] at refused
      cases refused

theorem report_value (image : Image) :
    (Registry.report? image).value =
      (Registry.find? image.signature).map fun check => (check.apply image .empty).value := by
  unfold Registry.report?
  cases Registry.find? image.signature <;> rfl

theorem find_signature {signature : Signature} {check : Check}
    (found : Registry.find? signature = some check) :
    check ∈ Registry.checks ∧ check.signature = signature :=
  ⟨List.mem_of_find?_eq_some found, by simpa using List.find?_some found⟩

theorem refused_outcomes {check : Check} {image : Image}
    (refused : (Image.admission image check.label check.signature
      (check.fixedSize image.revision)).result = .ok none) :
    ∃ code message, (check.apply image .empty).value.outcomes = [.failed .high code message] := by
  obtain ⟨problem, detail, gives⟩ := refused_audit refused
  refine ⟨check.label ++ problem, check.label ++ " " ++ detail, ?_⟩
  rw [apply_outcomes, Check.outcomes, contain_of_gives gives]
  rfl

theorem reported_has_verdict {image : Image} {report : Report}
    (reported : report ∈ (Registry.report? image).value) :
    report.HasVerdict image.signature.text := by
  rw [report_value] at reported
  obtain ⟨found, registered, rfl⟩ := Option.map_eq_some_iff.mp reported
  have named : found.label = image.signature.text := by
    rw [Check.label, (find_signature registered).2]
  exact named ▸ apply_has_verdict found image

def bareApmt : Bytes := [0x41, 0x50, 0x4D, 0x54, 36, 0, 0, 0, 0, 170] ++ List.replicate 26 0

end AcpiAudit
