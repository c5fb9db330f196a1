import AcpiAudit.Audit.Basic
import AcpiAudit.Proofs.Report.Recording
import Mathlib.Data.List.Induction

set_option autoImplicit false

namespace AcpiAudit

inductive Adaptation where
  | grade (severity : Severity) (code : String)
  | name (field : String)
  | soften
deriving Repr, DecidableEq

namespace Adaptation

def apply : Adaptation → Outcome → Outcome
  | .grade severity code => .regrade severity code
  | .name field => .inField field
  | .soften => .soften

def field? : Adaptation → Option String
  | .name field => some field
  | _ => none

def grade? : Adaptation → Option (Severity × String)
  | .grade severity code => some (severity, code)
  | _ => none

def label (chain : List Adaptation) : String :=
  String.join ((chain.filterMap field?).reverse.map fun field => field ++ ": ")

def lastGrade (chain : List Adaptation) (own : Severity × String) : Severity × String :=
  (chain.filterMap grade?).getLast?.getD own

def ofField (table : String) (severity : Severity) (problem field : String) : List Adaptation :=
  [.grade severity (table ++ problem), .name (table ++ " " ++ field)]

@[simp]
theorem label_then_name (chain : List Adaptation) (field : String) :
    label (chain ++ [.name field]) = field ++ ": " ++ label chain := by
  simp [label, field?]

@[simp]
theorem label_then_grade (chain : List Adaptation) (severity : Severity) (code : String) :
    label (chain ++ [.grade severity code]) = label chain := by
  simp [label, List.filterMap_cons, field?]

@[simp]
theorem label_then_soften (chain : List Adaptation) : label (chain ++ [.soften]) = label chain := by
  simp [label, List.filterMap_cons, field?]

@[simp]
theorem last_grade_then_grade (chain : List Adaptation) (severity : Severity) (code : String)
    (own : Severity × String) :
    lastGrade (chain ++ [.grade severity code]) own = (severity, code) := by
  simp [lastGrade, grade?]

@[simp]
theorem last_grade_then_name (chain : List Adaptation) (field : String)
    (own : Severity × String) : lastGrade (chain ++ [.name field]) own = lastGrade chain own := by
  simp [lastGrade, grade?]

end Adaptation

namespace Outcome

def adapt (outcome : Outcome) (chain : List Adaptation) : Outcome :=
  chain.foldl (fun adapted step => step.apply adapted) outcome

def normal (chain : List Adaptation) : Outcome → Outcome
  | .passed => .passed
  | .failed severity code message =>
    let grade := Adaptation.lastGrade chain (severity, code)
    if .soften ∈ chain then .warning (Adaptation.label chain ++ message)
    else .failed grade.1 grade.2 (Adaptation.label chain ++ message)
  | .warning message => .warning (Adaptation.label chain ++ message)
  | .info message => .info (Adaptation.label chain ++ message)

theorem normal_nil (outcome : Outcome) : outcome.normal [] = outcome := by
  cases outcome <;> simp [normal, Adaptation.label, Adaptation.lastGrade]

theorem normal_then (outcome : Outcome) (chain : List Adaptation) (step : Adaptation) :
    outcome.normal (chain ++ [step]) = step.apply (outcome.normal chain) := by
  cases outcome with
  | passed => cases step <;> rfl
  | failed severity code message =>
      by_cases softened : .soften ∈ chain
      · cases step <;> simp [normal, softened, Adaptation.apply, regrade, inField, soften,
          String.append_assoc]
      · cases step <;> simp [normal, softened, Adaptation.apply, regrade, inField, soften,
          String.append_assoc]
  | warning message =>
      cases step <;> simp [normal, Adaptation.apply, regrade, inField, soften, String.append_assoc]
  | info message =>
      cases step <;> simp [normal, Adaptation.apply, regrade, inField, soften, String.append_assoc]

theorem adapt_eq_normal (outcome : Outcome) (chain : List Adaptation) :
    outcome.adapt chain = outcome.normal chain := by
  induction chain using List.reverseRecOn with
  | nil => exact outcome.normal_nil.symm
  | append_singleton chain step ih =>
      rw [normal_then, ← ih, adapt, List.foldl_append]
      rfl

theorem is_passed_eq (outcome : Outcome) : outcome.isPassed = decide (outcome = .passed) := by
  cases outcome <;> rfl

theorem adapt_append (outcome : Outcome) (chain more : List Adaptation) :
    (outcome.adapt chain).adapt more = outcome.adapt (chain ++ more) := List.foldl_append.symm

theorem adapt_passed_iff (outcome : Outcome) (chain : List Adaptation) :
    outcome.adapt chain = .passed ↔ outcome = .passed := by
  rw [adapt_eq_normal]
  cases outcome with
  | passed => exact iff_of_true rfl rfl
  | failed severity code message => by_cases softened : .soften ∈ chain <;> simp [normal, softened]
  | warning message => simp [normal]
  | info message => simp [normal]

theorem label_findings (outcome : Outcome) (table : String) (severity : Severity)
    (problem field : String) :
    (outcome.findings severity problem field).map (Finding.outcome table) =
      if outcome = .passed then []
      else [outcome.adapt (Adaptation.ofField table severity problem field)] := by
  cases outcome <;> simp [findings, Finding.outcome, adapt, Adaptation.ofField, Adaptation.apply,
    regrade, inField, String.append_assoc]

end Outcome

namespace Report

def noteField (report : Report) (table : String) (outcome : Outcome) (severity : Severity)
    (problem field : String) : Bool × Report :=
  report.note (outcome.adapt (Adaptation.ofField table severity problem field))

end Report

theorem adapted_outcomes_have_normal_form :
    (∀ chain : List Adaptation,
      let label := Adaptation.label chain
      Outcome.passed.adapt chain = .passed ∧
        (∀ severity code message, (Outcome.failed severity code message).adapt chain =
          let grade := Adaptation.lastGrade chain (severity, code)
          if .soften ∈ chain then .warning (label ++ message)
          else .failed grade.1 grade.2 (label ++ message)) ∧
        (∀ message, (Outcome.warning message).adapt chain = .warning (label ++ message)) ∧
        ∀ message, (Outcome.info message).adapt chain = .info (label ++ message)) ∧
    ∀ (report : Report) (outcome : Outcome) (chain : List Adaptation) (table : String)
      (severity : Severity) (problem field : String),
      let passed := decide (outcome = .passed)
      let added := if outcome = .passed then []
        else [outcome.adapt (chain ++ Adaptation.ofField table severity problem field)]
      let audit := Audit.require (outcome.adapt chain) severity problem field
      report.noteField table (outcome.adapt chain) severity problem field =
          (passed, ⟨report.outcomes ++ added⟩) ∧
        audit.result = .ok passed ∧ audit.findings.map (Finding.outcome table) = added := by
  refine ⟨fun chain => ⟨?_, ?_, ?_, ?_⟩, ?_⟩
  · exact Outcome.adapt_eq_normal .passed chain
  · intro severity code message
    exact Outcome.adapt_eq_normal (.failed severity code message) chain
  · intro message
    exact Outcome.adapt_eq_normal (.warning message) chain
  · intro message
    exact Outcome.adapt_eq_normal (.info message) chain
  · intro report outcome chain table severity problem field passed added audit
    have noted := report.note_eq
      ((outcome.adapt chain).adapt (Adaptation.ofField table severity problem field))
    have found := (outcome.adapt chain).label_findings table severity problem field
    simp only [Outcome.adapt_append, Outcome.adapt_passed_iff] at noted found
    have answered : (outcome.adapt chain).isPassed = passed := by
      rw [Outcome.is_passed_eq]
      simp only [Outcome.adapt_passed_iff, passed]
    refine ⟨?_, congrArg Except.ok answered, found⟩
    rw [Report.noteField, Outcome.adapt_append]
    exact noted

end AcpiAudit
