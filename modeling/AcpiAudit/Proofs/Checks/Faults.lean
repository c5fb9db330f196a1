import AcpiAudit.Proofs.Checks.Truncation

set_option autoImplicit false

namespace AcpiAudit

open Audit

namespace WalkedTable

def countGrades : Grades :=
  [(.medium, "PlatformTimerCount"), (.low, "TooManySubspaces"), (.medium, "NodeCountMismatch")]

def minorGrades (table : WalkedTable) : Grades :=
  Admission.grades ++ table.grades ++ stopGrades ++ countGrades

def Staged (table : WalkedTable) (findings outputs : List Finding) : Prop :=
  ∃ front fault, findings = front ++ fault ++ outputs ∧ Within front table.minorGrades ∧
    Within fault walkGrades ∧ fault.length ≤ 1

theorem admission_subset (table : WalkedTable) : Admission.grades ⊆ table.minorGrades := by
  intro grade listed
  simp [minorGrades, listed]

theorem grades_subset (table : WalkedTable) : table.grades ⊆ table.minorGrades := by
  intro grade listed
  simp [minorGrades, listed]

theorem stop_subset (table : WalkedTable) : stopGrades ⊆ table.minorGrades := by
  intro grade listed
  simp [minorGrades, listed]

theorem staged_minor {table : WalkedTable} {findings : List Finding}
    (minor : Within findings table.minorGrades) : table.Staged findings [] :=
  ⟨findings, [], by simp, minor, within_nil _, Nat.zero_le 1⟩

section Table

variable {table : WalkedTable} {data : Bytes} {image : Image} {admitted : Admitted}

theorem admission_minor (table : WalkedTable) (image : Image) :
    Within (table.check.admission image).findings table.minorGrades :=
  within_more (admission_reports image _ _ _) table.admission_subset

theorem read_grade {severity : Severity} {problem : String}
    (graded : (severity, problem) ∈ readGrades ++ table.grades) (read : problem ∉ readProblems) :
    (severity, problem) ∈ table.minorGrades := by
  cases List.mem_append.mp graded with
  | inl unread => exact absurd (List.mem_map_of_mem unread) read
  | inr listed => exact table.grades_subset listed

theorem fixed_part_minor (fits : table.check.fixedSize (data.number 8 1) ≤ (seen data).length) :
    Within (table.fixedPart data) table.minorGrades := by
  intro severity problem detail member
  have read := table.fixed_part_unread fits severity problem detail member
  exact read_grade (table.fixed_part_grade member) read

theorem records_minor (table : WalkedTable) (data : Bytes) :
    Within ((table.course data).records.flatMap table.recordFindings) table.minorGrades := by
  intro severity problem detail member
  obtain ⟨record, inside, found⟩ := List.mem_flatMap.mp member
  have read := table.record_unread inside severity problem detail found
  exact read_grade (table.record_reports record _ _ _ found) read

theorem refused_staged (refused : (table.check.admission image).result = .ok none) :
    table.Staged (contain (table.check.audit image)).findings [] := by
  have gives : (table.check.audit image).Gives (table.check.admission image).findings () := by
    rw [← List.append_nil (table.check.admission image).findings]
    exact gives_bind ⟨rfl, refused⟩ (gives_pure ())
  rw [contain_of_gives gives]
  exact staged_minor (table.admission_minor image)

theorem accepted_findings {check : Check} {found : List Finding}
    (accepted : (check.admission image).result = .ok (some admitted))
    (body : (check.body (check.fixedSize image.revision) admitted).Gives found ()) :
    (contain (check.audit image)).findings = (check.admission image).findings ++ found :=
  contain_of_gives (gives_bind ⟨rfl, accepted⟩ body)

theorem unreached_staged (loaded : image.LoadedFrom data)
    (accepted : (table.check.admission image).result = .ok (some admitted))
    (unreached : ¬ table.Reaches data) :
    table.Staged (contain (table.check.audit image)).findings [] := by
  obtain ⟨-, revised, fits⟩ := accepted_table loaded accepted
  obtain ⟨stop, stops, body⟩ := table.unreached_gives admitted.header revised fits unreached
  rw [← accepted_body loaded accepted] at body
  rw [accepted_findings accepted body]
  have stopped := within_append (fixed_part_minor fits) (within_more stops table.stop_subset)
  exact staged_minor (within_append (table.admission_minor image) stopped)

theorem reached_staged (loaded : image.LoadedFrom data)
    (accepted : (table.check.admission image).result = .ok (some admitted))
    (reached : table.Reaches data) :
    table.Staged (contain (table.check.audit image)).findings
      (table.outputs (table.course data)) := by
  obtain ⟨-, revised, fits⟩ := accepted_table loaded accepted
  obtain ⟨ending, ends, body⟩ := table.body_walks admitted.header revised fits reached
  rw [← accepted_body loaded accepted] at body
  have before := within_append (table.admission_minor image)
    (within_append (fixed_part_minor fits) (table.records_minor data))
  have order : (contain (table.check.audit image)).findings =
      (table.check.admission image).findings ++ (table.fixedPart data ++
        (table.course data).records.flatMap table.recordFindings) ++ ending ++
        table.outputs (table.course data) := by
    rw [accepted_findings accepted body]
    simp only [List.append_assoc]
  rw [order]
  generalize (table.course data).outcome = outcome at ends
  cases ends with
  | broken error detail structural =>
      have graded : ∀ suffix ∈ structuralProblems, (.critical, suffix) ∈ walkGrades := by decide
      exact ⟨_, _, rfl, before, within_failure (graded _ structural), Nat.le_refl 1⟩
  | counted extent holds => exact ⟨_, [], rfl, before, within_nil _, Nat.zero_le 1⟩
  | miscounted extent severity problem detail fails named =>
      have graded : (severity, problem) ∈ table.minorGrades := by
        cases table <;> cases named <;> decide
      have count : Within [.failure severity problem detail] table.minorGrades :=
        within_failure graded
      refine ⟨_, [], ?_, within_append before count, within_nil _, Nat.zero_le 1⟩
      rw [List.append_nil]

theorem fault_found (table : WalkedTable) (loaded : image.LoadedFrom data)
    (accepted : (table.check.admission image).result = .ok (some admitted))
    (reached : table.Reaches data) {error : WalkError}
    (failed : (table.course data).outcome = .error error) :
    ∃ detail, .failure .critical error.suffix detail ∈
      (contain (table.check.audit image)).findings := by
  obtain ⟨-, revised, fits⟩ := accepted_table loaded accepted
  obtain ⟨ending, ends, body⟩ := table.body_walks admitted.header revised fits reached
  rw [← accepted_body loaded accepted] at body
  rw [failed] at ends
  rw [accepted_findings accepted body]
  cases ends with
  | broken _ detail _ => exact ⟨detail, by simp⟩

theorem record_outcomes (table : WalkedTable) (loaded : image.LoadedFrom data)
    (accepted : (table.check.admission image).result = .ok (some admitted))
    (reached : table.Reaches data) {record : Record}
    (member : record ∈ (table.course data).records) :
    (table.recordFindings record).map (Finding.outcome table.label) <:+:
      (table.check.apply image .empty).value.outcomes := by
  obtain ⟨-, revised, fits⟩ := accepted_table loaded accepted
  obtain ⟨ending, -, body⟩ := table.body_walks admitted.header revised fits reached
  obtain ⟨before, after, split⟩ := List.append_of_mem member
  rw [← accepted_body loaded accepted, split, List.flatMap_append, List.flatMap_cons] at body
  have found : table.recordFindings record <:+: (contain (table.check.audit image)).findings := by
    rw [accepted_findings accepted body]
    refine ⟨(table.check.admission image).findings ++ (table.fixedPart data ++
      before.flatMap table.recordFindings), after.flatMap table.recordFindings ++ ending ++
      table.outputs (table.course data), ?_⟩
    simp only [List.append_assoc]
  rw [apply_outcomes]
  exact (found.map _).trans (List.prefix_append _ _).isInfix

theorem audit_staged (table : WalkedTable) (loaded : image.LoadedFrom data) :
    ∃ outputs, table.Staged (contain (table.check.audit image)).findings outputs ∧
      outputs ⊆ table.outputs (table.course data) := by
  cases admission_refuses_or_accepts table.check image with
  | inl refused => exact ⟨[], refused_staged refused, List.nil_subset _⟩
  | inr accepts =>
      obtain ⟨admitted, accepted⟩ := accepts
      by_cases reached : table.Reaches data
      · exact ⟨_, reached_staged loaded accepted reached, List.Subset.refl _⟩
      · exact ⟨[], unreached_staged loaded accepted reached, List.nil_subset _⟩

end Table

end WalkedTable

end AcpiAudit
