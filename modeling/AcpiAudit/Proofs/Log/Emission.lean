import AcpiAudit.Log.Emission
import AcpiAudit.Proofs.Report.Summary

set_option autoImplicit false

namespace AcpiAudit

section Levels

def Verbosity.rank : Verbosity → Nat
  | off => 0
  | upTo level => level.rank

instance : LE Verbosity := ⟨fun narrow wide => narrow.rank ≤ wide.rank⟩

instance (narrow wide : Verbosity) : Decidable (narrow ≤ wide) :=
  inferInstanceAs (Decidable (narrow.rank ≤ wide.rank))

theorem Verbosity.le_trace (verbosity : Verbosity) : verbosity ≤ upTo .trace := by
  cases verbosity with
  | off => decide
  | upTo level => cases level <;> decide

theorem shows_eq (verbosity : Verbosity) (level : Level) :
    verbosity.shows level = decide (Verbosity.upTo level ≤ verbosity) := by
  cases verbosity with
  | off => cases level <;> rfl
  | upTo limit => rfl

theorem select_eq (verbosity : Verbosity) (entries : List LogEntry) :
    verbosity.select entries =
      entries.filter fun entry => decide (Verbosity.upTo entry.level ≤ verbosity) := by
  simp only [Verbosity.select, shows_eq]

theorem select_wider {narrow wide : Verbosity} (order : narrow ≤ wide) (entries : List LogEntry) :
    (narrow.select entries).Sublist (wide.select entries) := by
  rw [select_eq, select_eq]
  apply List.monotone_filter_right
  intro entry shown
  exact decide_eq_true (Nat.le_trans (of_decide_eq_true shown) order)

theorem select_select {narrow wide : Verbosity} (order : narrow ≤ wide)
    (entries : List LogEntry) : narrow.select (wide.select entries) = narrow.select entries := by
  simp only [select_eq, List.filter_filter]
  refine List.filter_congr fun entry _ => ?_
  rw [Bool.and_eq_left_iff_imp, decide_eq_true_eq, decide_eq_true_eq]
  exact fun shown => Nat.le_trans shown order

end Levels

namespace Summary

def ofLevel : Level → Summary →+ Nat
  | .error => failuresFrom .high
  | .warn => failuresOf .low + failuresOf .medium + warned
  | .info => passes + informed
  | .debug | .trace => 0

theorem of_level_of_outcome (name : String) (level : Level) (outcome : Outcome) :
    ofLevel level (ofOutcome outcome) = (decide ((outcome.rendered name).1 = level)).toNat := by
  cases outcome with
  | failed severity code message => cases severity <;> cases level <;> rfl
  | _ => cases level <;> rfl

end Summary

namespace Report

variable (name : String) (report : Report)

theorem length_entries : (report.entries name).length = report.size + 1 := by
  rw [entries, List.length_append, List.length_map]
  rfl

theorem entry_of_outcome {index : Nat} {outcome : Outcome}
    (there : report.outcomes[index]? = some outcome) :
    (report.entries name)[index]? = some (outcome.entry name) := by
  have inside : index < (report.outcomes.map (Outcome.entry name)).length := by
    rw [List.length_map]
    exact (List.getElem?_eq_some_iff.mp there).1
  rw [entries, List.getElem?_append_left inside, List.getElem?_map, there, Option.map_some]

theorem last_entry : (report.entries name)[report.size]? =
    some ⟨.info, reportTarget, report.summary.line name⟩ := by
  have behind : (report.outcomes.map (Outcome.entry name)).length = report.size := List.length_map _
  rw [entries, ← behind, List.getElem?_concat_length]

theorem entry_target {entry : LogEntry} (member : entry ∈ report.entries name) :
    entry.target = reportTarget := by
  rcases List.mem_append.mp member with line | last
  · obtain ⟨outcome, -, rfl⟩ := List.mem_map.mp line
    rfl
  · rw [List.mem_singleton.mp last]

theorem entries_of_level (level : Level) :
    (report.entries name).countP (fun entry => entry.level = level) =
      Summary.ofLevel level report.summary + (decide (Level.info = level)).toNat := by
  have outcomes : (report.outcomes.map (Outcome.entry name)).countP
      (fun entry => entry.level = level) = Summary.ofLevel level report.summary := by
    rw [List.countP_map, summary,
      Summary.count_of_outcomes _ _ (Summary.of_level_of_outcome name level)]
    rfl
  rw [entries, List.countP_append, outcomes, List.countP_singleton]
  by_cases last : Level.info = level <;> simp [last]

theorem levels_agree :
    let counted (level : Level) := (report.entries name).countP (fun entry => entry.level = level)
    let grave := report.summary.failedAtLeast .high
    grave ≤ report.summary.failed ∧ counted .error = grave ∧
      counted .warn = report.summary.failed - grave + report.summary.warnings ∧
      counted .info = report.summary.passed + report.summary.infos + 1 ∧
      counted .debug = 0 ∧ counted .trace = 0 := by
  intro counted grave
  have warn : counted .warn = report.summary.byGrade.low + report.summary.byGrade.medium +
      report.summary.warnings := report.entries_of_level name .warn
  have balanced := Summary.balanced_of_outcomes report.outcomes
  have failed : report.summary.failed = report.summary.byGrade.low +
      report.summary.byGrade.medium + grave := by
    simp only [Summary.Balanced, GradeCounts.toList, List.sum_cons, List.sum_nil] at balanced
    rw [summary, balanced, Nat.add_zero, ← Nat.add_assoc]
    rfl
  exact ⟨by omega, report.entries_of_level name .error, by omega,
    report.entries_of_level name .info, report.entries_of_level name .debug,
    report.entries_of_level name .trace⟩

end Report

-- The facade and the console both filter, and what reaches the console has passed the facade.
theorem emission_agrees_with_summary (name : String) (report : Report) :
    let entries := report.entries name
    let summary := report.summary
    let counted (level : Level) := entries.countP fun entry => entry.level = level
    let grave := summary.failedAtLeast .high
    entries.length = report.size + 1 ∧ (∀ entry ∈ entries, entry.target = reportTarget) ∧
      (∀ (index : Nat) (outcome : Outcome), report.outcomes[index]? = some outcome →
        let (level, line) := outcome.rendered name
        entries[index]? = some ⟨level, reportTarget, line⟩) ∧
      entries[report.size]? = some ⟨.info, reportTarget, summary.line name⟩ ∧
      (grave ≤ summary.failed ∧ counted .error = grave ∧
        counted .warn = summary.failed - grave + summary.warnings ∧
        counted .info = summary.passed + summary.infos + 1 ∧
        counted .debug = 0 ∧ counted .trace = 0) ∧
      (∀ verbosity : Verbosity, verbosity ≤ .upTo .trace ∧ verbosity.select entries =
        entries.filter fun entry => decide (Verbosity.upTo entry.level ≤ verbosity)) ∧
      ∀ narrow wide : Verbosity, narrow ≤ wide →
        (narrow.select entries).Sublist (wide.select entries) ∧
          narrow.select (wide.select entries) = narrow.select entries :=
  ⟨report.length_entries name, fun _ => report.entry_target name, fun _ _ =>
    report.entry_of_outcome name, report.last_entry name, report.levels_agree name,
    fun verbosity => ⟨verbosity.le_trace, select_eq verbosity _⟩,
    fun _ _ order => ⟨select_wider order _, select_select order _⟩⟩

-- Two failures lie on either side of the grade that makes an error of one.
theorem emission_agrees_with_summary_both_sides_of_high :
    let report : Report := ⟨[.failed .high "APMTBad" "one", .failed .medium "APMTOdd" "two",
      .warning "three", .passed]⟩
    let entries := report.entries "APMT"
    report.outcomes[1]? = some (.failed .medium "APMTOdd" "two") ∧
      entries[1]? = some ⟨.warn, "fwts::report", "APMT: FAILED [MEDIUM] APMTOdd: two"⟩ ∧
      entries[4]? = some ⟨.info, "fwts::report", "APMT: 1 passed, 2 failed, 1 warnings, 0 info"⟩ ∧
      entries.countP (fun entry => entry.level = .warn) = 2 - 1 + 1 ∧
      Verbosity.upTo .error ≤ .upTo .warn ∧
      ((Verbosity.upTo .error).select entries).Sublist ((Verbosity.upTo .warn).select entries) := by
  intro report entries
  obtain ⟨-, -, lines, last, ⟨-, -, warned, -⟩, -, wider⟩ :=
    emission_agrees_with_summary "APMT" report
  have order : Verbosity.upTo .error ≤ .upTo .warn := by decide
  have there : report.outcomes[1]? = some (.failed .medium "APMTOdd" "two") := rfl
  have line : (Outcome.failed .medium "APMTOdd" "two").rendered "APMT" =
      (.warn, "APMT: FAILED [MEDIUM] APMTOdd: two") := by cbv
  have counts : report.summary.line "APMT" = "APMT: 1 passed, 2 failed, 1 warnings, 0 info" := by
    cbv
  have second := lines 1 _ there
  rw [line] at second
  rw [counts] at last
  exact ⟨there, second, last, warned, order, (wider _ _ order).1⟩

end AcpiAudit
