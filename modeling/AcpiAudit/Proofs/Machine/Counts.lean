import AcpiAudit.Proofs.Machine.Word
import AcpiAudit.Proofs.Report.Summary

set_option autoImplicit false

namespace AcpiAudit

namespace Summary

def counts (summary : Summary) : List Nat :=
  [summary.passed, summary.failed, summary.warnings, summary.infos] ++ summary.byGrade.toList

def Fits (summary : Summary) : Prop := ∀ count ∈ summary.counts, count < 2 ^ addressBits

instance (summary : Summary) : Decidable summary.Fits :=
  inferInstanceAs (Decidable (∀ count ∈ summary.counts, count < 2 ^ addressBits))

def held (summary : Summary) : Checked Summary :=
  if summary.Fits then .ok summary else .error .overflow

def runMerge (left right : Summary) : Checked Summary := do
  let passed ← Word.add addressBits left.passed right.passed
  let failed ← Word.add addressBits left.failed right.failed
  let warnings ← Word.add addressBits left.warnings right.warnings
  let infos ← Word.add addressBits left.infos right.infos
  let low ← Word.add addressBits left.byGrade.low right.byGrade.low
  let medium ← Word.add addressBits left.byGrade.medium right.byGrade.medium
  let high ← Word.add addressBits left.byGrade.high right.byGrade.high
  let critical ← Word.add addressBits left.byGrade.critical right.byGrade.critical
  return ⟨passed, failed, warnings, infos, ⟨low, medium, high, critical⟩⟩

theorem fits_iff (summary : Summary) :
    summary.Fits ↔ summary.passed < 2 ^ addressBits ∧ summary.failed < 2 ^ addressBits ∧
      summary.warnings < 2 ^ addressBits ∧ summary.infos < 2 ^ addressBits ∧
      summary.byGrade.low < 2 ^ addressBits ∧ summary.byGrade.medium < 2 ^ addressBits ∧
      summary.byGrade.high < 2 ^ addressBits ∧ summary.byGrade.critical < 2 ^ addressBits := by
  simp [Fits, counts, GradeCounts.toList]

theorem add_then {α : Type} (left right : Nat) (next : Nat → Checked α) :
    (Word.add addressBits left right >>= next) =
      if left + right < 2 ^ addressBits then next (left + right) else .error .overflow := by
  unfold Word.add
  split
  · rfl
  · rfl

theorem run_merge_eq (left right : Summary) : left.runMerge right = (left.merge right).held := by
  simp only [runMerge, add_then, held, fits_iff, ite_and]
  rfl

theorem fits_of_merge_left {left right : Summary} (fits : (left.merge right).Fits) :
    left.Fits := by
  rw [fits_iff] at fits ⊢
  simp only [merge, GradeCounts.add] at fits
  omega

theorem run_merge_comm (one other : Summary) : one.runMerge other = other.runMerge one := by
  rw [run_merge_eq, run_merge_eq, merge_comm]

theorem run_merge_then (one two three : Summary) :
    (do (← one.runMerge two).runMerge three) = ((one.merge two).merge three).held := by
  rw [run_merge_eq, held]
  split
  · exact run_merge_eq _ _
  · next beyond =>
      have whole : ¬ ((one.merge two).merge three).Fits := mt fits_of_merge_left beyond
      rw [held, if_neg whole]
      rfl

theorem run_merge_assoc (one two three : Summary) :
    (do (← one.runMerge two).runMerge three) = (do one.runMerge (← two.runMerge three)) := by
  have turned : (do one.runMerge (← two.runMerge three)) =
      (do (← two.runMerge three).runMerge one) :=
    bind_congr fun merged => run_merge_comm one merged
  rw [turned, run_merge_then, run_merge_then, merge_assoc, merge_comm]

end Summary

end AcpiAudit
