import AcpiAudit.Report.Basic
import Mathlib

set_option autoImplicit false

namespace AcpiAudit

def GradeCounts.count (counts : GradeCounts) : Severity → Nat
  | .low => counts.low
  | .medium => counts.medium
  | .high => counts.high
  | .critical => counts.critical

def Outcome.isOfGrade (grade : Severity) (outcome : Outcome) : Bool :=
  outcome.severity? == some grade

def Outcome.reaches (grade : Severity) (outcome : Outcome) : Bool :=
  outcome.severity?.any (grade ≤ ·)

def Outcome.isWarning : Outcome → Bool
  | .warning _ => true
  | _ => false

def Outcome.isInfo : Outcome → Bool
  | .info _ => true
  | _ => false

theorem reaches_iff (grade : Severity) (outcome : Outcome) :
    outcome.reaches grade = true ↔
      ∃ severity code message, outcome = .failed severity code message ∧ grade ≤ severity := by
  cases outcome <;> simp [Outcome.reaches, Outcome.severity?]

namespace Summary

theorem merge_assoc (one two three : Summary) :
    (one.merge two).merge three = one.merge (two.merge three) := by
  simp [merge, GradeCounts.add, Nat.add_assoc]

theorem merge_comm (one other : Summary) : one.merge other = other.merge one := by
  simp [merge, GradeCounts.add, Nat.add_comm]

theorem empty_merge (summary : Summary) : empty.merge summary = summary := by
  simp [merge, empty, GradeCounts.add]

instance : Zero Summary := ⟨empty⟩

instance : Add Summary := ⟨merge⟩

instance : AddCommMonoid Summary where
  add_assoc := merge_assoc
  zero_add := empty_merge
  add_zero summary := (merge_comm summary empty).trans (empty_merge summary)
  add_comm := merge_comm
  nsmul := nsmulRec

def passes : Summary →+ Nat where
  toFun := passed
  map_zero' := rfl
  map_add' _ _ := rfl

def failures : Summary →+ Nat where
  toFun := failed
  map_zero' := rfl
  map_add' _ _ := rfl

def warned : Summary →+ Nat where
  toFun := warnings
  map_zero' := rfl
  map_add' _ _ := rfl

def informed : Summary →+ Nat where
  toFun := infos
  map_zero' := rfl
  map_add' _ _ := rfl

def size : Summary →+ Nat := passes + failures + warned + informed

def failuresOf (grade : Severity) : Summary →+ Nat where
  toFun summary := summary.byGrade.count grade
  map_zero' := by cases grade <;> rfl
  map_add' _ _ := by cases grade <;> rfl

def failuresFrom (grade : Severity) : Summary →+ Nat where
  toFun summary := summary.failedAtLeast grade
  map_zero' := by cases grade <;> rfl
  map_add' one other := by
    change (one.byGrade.add other.byGrade).atLeast grade = _
    cases grade <;> simp only [GradeCounts.add, GradeCounts.atLeast, failedAtLeast] <;> omega

theorem sum_of_outcomes_from (outcomes : List Outcome) (start : Summary) :
    outcomes.foldl (fun counts outcome => counts.merge (ofOutcome outcome)) start =
      start + (outcomes.map ofOutcome).sum := by
  induction outcomes generalizing start with
  | nil => exact (add_zero start).symm
  | cons outcome rest ih =>
      rw [List.foldl_cons, ih, List.map_cons, List.sum_cons, ← add_assoc]
      rfl

theorem sum_of_outcomes (outcomes : List Outcome) :
    ofOutcomes outcomes = (outcomes.map ofOutcome).sum := by
  rw [ofOutcomes, sum_of_outcomes_from]
  exact zero_add _

theorem count_of_outcomes (size : Summary →+ Nat) (counted : Outcome → Bool)
    (each : ∀ outcome, size (ofOutcome outcome) = (counted outcome).toNat)
    (outcomes : List Outcome) : size (ofOutcomes outcomes) = outcomes.countP counted := by
  rw [sum_of_outcomes]
  induction outcomes with
  | nil => exact map_zero size
  | cons outcome rest ih =>
      rw [List.map_cons, List.sum_cons, map_add, ih, each, List.countP_cons, Nat.add_comm]
      cases counted outcome <;> rfl

structure Counts (summary : Summary) (outcomes : List Outcome) : Prop where
  passed : summary.passed = outcomes.countP Outcome.isPassed
  failed : summary.failed = outcomes.countP Outcome.isFailed
  warnings : summary.warnings = outcomes.countP Outcome.isWarning
  infos : summary.infos = outcomes.countP Outcome.isInfo

theorem counts_of_outcomes (outcomes : List Outcome) : (ofOutcomes outcomes).Counts outcomes where
  passed :=
    count_of_outcomes passes Outcome.isPassed (fun outcome => by cases outcome <;> rfl) outcomes
  failed :=
    count_of_outcomes failures Outcome.isFailed (fun outcome => by cases outcome <;> rfl) outcomes
  warnings :=
    count_of_outcomes warned Outcome.isWarning (fun outcome => by cases outcome <;> rfl) outcomes
  infos :=
    count_of_outcomes informed Outcome.isInfo (fun outcome => by cases outcome <;> rfl) outcomes

theorem size_of_outcomes (outcomes : List Outcome) :
    size (ofOutcomes outcomes) = outcomes.length := by
  have every := count_of_outcomes size (fun _ => true) (fun outcome => by cases outcome <;> rfl)
    outcomes
  rw [every, List.countP_true]

theorem failures_of_outcomes (grade : Severity) (outcomes : List Outcome) :
    failuresOf grade (ofOutcomes outcomes) = outcomes.countP (Outcome.isOfGrade grade) := by
  apply count_of_outcomes
  intro outcome
  cases outcome with
  | failed severity code message => cases severity <;> cases grade <;> rfl
  | _ => cases grade <;> rfl

theorem failures_from_outcomes (grade : Severity) (outcomes : List Outcome) :
    failuresFrom grade (ofOutcomes outcomes) = outcomes.countP (Outcome.reaches grade) := by
  apply count_of_outcomes
  intro outcome
  cases outcome with
  | failed severity code message => cases severity <;> cases grade <;> rfl
  | _ => cases grade <;> rfl

def Balanced (summary : Summary) : Prop := summary.failed = summary.byGrade.toList.sum

theorem balanced_merge {one other : Summary} (balanced : one.Balanced)
    (balancedToo : other.Balanced) : (one + other).Balanced := by
  change one.failed + other.failed = (one.byGrade.add other.byGrade).toList.sum
  rw [balanced, balancedToo]
  simp only [GradeCounts.add, GradeCounts.toList, List.sum_cons, List.sum_nil]
  omega

theorem balanced_sum {summaries : List Summary}
    (each : ∀ summary ∈ summaries, summary.Balanced) : summaries.sum.Balanced :=
  List.sum_induction _ (fun _ _ => balanced_merge) rfl each

theorem balanced_of_outcomes (outcomes : List Outcome) : (ofOutcomes outcomes).Balanced := by
  rw [sum_of_outcomes]
  apply balanced_sum
  intro summary member
  obtain ⟨outcome, -, rfl⟩ := List.mem_map.mp member
  cases outcome with
  | failed severity code message => cases severity <;> rfl
  | _ => rfl

theorem failed_at_least_antitone (outcomes : List Outcome) {lower higher : Severity}
    (order : lower ≤ higher) :
    (ofOutcomes outcomes).failedAtLeast higher ≤ (ofOutcomes outcomes).failedAtLeast lower := by
  have above := failures_from_outcomes higher outcomes
  have below := failures_from_outcomes lower outcomes
  change failuresFrom higher _ ≤ failuresFrom lower _
  rw [above, below]
  apply List.countP_mono_left
  intro outcome _ reached
  obtain ⟨severity, code, message, rfl, grave⟩ := (reaches_iff higher outcome).mp reached
  exact (reaches_iff lower _).mpr ⟨severity, code, message, rfl, Nat.le_trans order grave⟩

end Summary

theorem failures_from_summary (grade : Severity) (report : Report) :
    0 < Summary.failuresFrom grade report.summary ↔
      ∃ severity code message, .failed severity code message ∈ report.outcomes ∧
        grade ≤ severity := by
  rw [Report.summary, Summary.failures_from_outcomes, List.countP_pos_iff]
  simp only [reaches_iff]
  constructor
  · rintro ⟨_, member, severity, code, message, rfl, grave⟩
    exact ⟨severity, code, message, member, grave⟩
  · rintro ⟨severity, code, message, member, grave⟩
    exact ⟨_, member, severity, code, message, rfl, grave⟩

namespace Severity

theorem le_max_iff {grade one other : Severity} :
    grade ≤ max one other ↔ grade ≤ one ∨ grade ≤ other := by
  change grade.rank ≤ (if one.rank ≤ other.rank then other else one).rank ↔
    grade.rank ≤ one.rank ∨ grade.rank ≤ other.rank
  split
  · omega
  · omega

theorem le_greatest_iff {grade : Severity} (grades : List Severity) (first : Severity) :
    grade ≤ grades.foldl max first ↔ grade ≤ first ∨ ∃ other ∈ grades, grade ≤ other := by
  induction grades generalizing first with
  | nil => simp
  | cons other rest ih => rw [List.foldl_cons, ih, le_max_iff, or_assoc, List.exists_mem_cons_iff]

end Severity

namespace Report

theorem worst_reaches_iff (grade : Severity) (report : Report) :
    (∃ worst, report.worst? = some worst ∧ grade ≤ worst) ↔
      ∃ severity code message, .failed severity code message ∈ report.outcomes ∧
        grade ≤ severity := by
  have members : (∃ severity ∈ report.outcomes.filterMap Outcome.severity?, grade ≤ severity) ↔
      ∃ severity code message, .failed severity code message ∈ report.outcomes ∧
        grade ≤ severity := by
    constructor
    · rintro ⟨severity, member, grave⟩
      obtain ⟨outcome, inside, graded⟩ := List.mem_filterMap.mp member
      cases outcome with
      | failed own code message =>
          obtain rfl := Option.some.inj graded
          exact ⟨own, code, message, inside, grave⟩
      | passed => cases graded
      | warning message => cases graded
      | info message => cases graded
    · rintro ⟨severity, code, message, inside, grave⟩
      exact ⟨severity, List.mem_filterMap.mpr ⟨_, inside, rfl⟩, grave⟩
  rw [← members, worst?]
  cases report.outcomes.filterMap Outcome.severity? with
  | nil => simp
  | cons first rest => simp [List.max?_cons', Severity.le_greatest_iff]

theorem has_failure_iff (report : Report) (code : String) :
    report.hasFailure code = true ↔
      ∃ severity message, .failed severity code message ∈ report.outcomes := by
  rw [hasFailure, failures, List.any_filter, List.any_eq_true]
  constructor
  · rintro ⟨outcome, member, found⟩
    cases outcome with
    | failed severity own message =>
        obtain rfl : own = code := by simpa [Outcome.isFailed, Outcome.code?] using found
        exact ⟨severity, message, member⟩
    | passed => simp [Outcome.isFailed] at found
    | warning message => simp [Outcome.isFailed] at found
    | info message => simp [Outcome.isFailed] at found
  · rintro ⟨severity, message, member⟩
    exact ⟨_, member, by simp [Outcome.isFailed, Outcome.code?]⟩

theorem all_passed_iff (report : Report) : report.allPassed = true ↔ report.summary.failed = 0 := by
  rw [summary, (Summary.counts_of_outcomes report.outcomes).failed, List.countP_eq_zero, allPassed,
    Bool.not_eq_true', List.any_eq_false]

end Report

end AcpiAudit
