import AcpiAudit.Proofs.Checks.Faults

set_option autoImplicit false

namespace AcpiAudit

open Audit

def criticalProblems : List String :=
  ["TruncatedSubtable", "StructLengthZero", "BadSubtableLength", "OutOfRangeOffset",
    "TruncatedRead"]

def SoundGrade (grade : Severity × String) : Prop :=
  (grade.1 = .critical ↔ grade.2 ∈ criticalProblems) ∧ grade.2 ≠ "Aborted"

instance (grade : Severity × String) : Decidable (SoundGrade grade) :=
  inferInstanceAs (Decidable ((grade.1 = .critical ↔ grade.2 ∈ criticalProblems) ∧
    grade.2 ≠ "Aborted"))

def Carries (label message : String) : Prop := ∃ detail, message = label ++ " " ++ detail

structure Report.Labelled (report : Report) (label : String) : Prop where
  codes : ∀ severity code message, .failed severity code message ∈ report.outcomes →
    ∃ problem, code = label ++ problem
  failures : ∀ severity code message, .failed severity code message ∈ report.outcomes →
    Carries label message
  warnings : ∀ message, .warning message ∈ report.outcomes → Carries label message
  notes : ∀ message, .info message ∈ report.outcomes →
    (¬ Carries label message ↔ message = "No issues found in " ++ label ++ " table.")

structure Report.Graded (report : Report) (label : String) : Prop where
  critical : ∀ severity code message, .failed severity code message ∈ report.outcomes →
    (severity = .critical ↔ ∃ problem ∈ criticalProblems, code = label ++ problem)
  unaborted : ∀ severity message, .failed severity (label ++ "Aborted") message ∉ report.outcomes

def Outcome.isCritical (outcome : Outcome) : Bool := outcome.severity? == some .critical

def Outcome.Precedes (earlier later : Outcome) : Prop :=
  earlier.isCritical = true → ∃ message, later = .failed .high "VIOTBadOutputNode" message

structure Report.FaultLast (report : Report) : Prop where
  once : report.outcomes.countP Outcome.isCritical ≤ 1
  last : report.outcomes.Pairwise Outcome.Precedes

section Labels

variable {check : Check} {image : Image}

-- The fifth character tells the closing from what carries a label of four characters.
theorem closing_uncarried {label : String} (size : label.toList.length = 4) :
    ¬ Carries label ("No issues found in " ++ label ++ " table.") := by
  intro carries
  obtain ⟨detail, same⟩ := carries
  have carried : (label ++ " " ++ detail).toList[4]? = some ' ' := by simp [size]
  rw [← same] at carried
  simp at carried

theorem mem_verdict {label : String} {outcomes : List Outcome} {outcome : Outcome}
    (member : outcome ∈ verdict label outcomes) :
    outcome = .passed ∨ outcome = .info ("No issues found in " ++ label ++ " table.") := by
  have closed : closing label =
      [.passed, .info ("No issues found in " ++ label ++ " table.")] := rfl
  by_cases failed : outcomes.any Outcome.isFailed = true
  · rw [verdict, if_pos failed] at member
    cases member
  · rw [verdict, if_neg failed, closed] at member
    simpa using member

theorem mem_report {outcome : Outcome}
    (member : outcome ∈ (check.apply image .empty).value.outcomes) :
    (∃ finding ∈ (contain (check.audit image)).findings, outcome = finding.outcome check.label) ∨
      outcome = .passed ∨
      outcome = .info ("No issues found in " ++ check.label ++ " table.") := by
  rw [apply_outcomes] at member
  cases List.mem_append.mp member with
  | inl member =>
      obtain ⟨finding, found, same⟩ := List.mem_map.mp member
      exact .inl ⟨finding, found, same.symm⟩
  | inr member => exact .inr (mem_verdict member)

theorem failure_of_report {severity : Severity} {code message : String}
    (member : .failed severity code message ∈ (check.apply image .empty).value.outcomes) :
    ∃ problem detail, .failure severity problem detail ∈ (contain (check.audit image)).findings ∧
      code = check.label ++ problem ∧ message = check.label ++ " " ++ detail := by
  obtain ⟨finding, found, same⟩ | closed := mem_report member
  · cases finding <;> cases same
    exact ⟨_, _, found, rfl, rfl⟩
  · cases closed <;> contradiction

theorem report_of_failure {severity : Severity} {problem detail : String}
    (found : .failure severity problem detail ∈ (contain (check.audit image)).findings) :
    .failed severity (check.label ++ problem) (check.label ++ " " ++ detail) ∈
      (check.apply image .empty).value.outcomes := by
  rw [apply_outcomes]
  exact List.mem_append_left _ (List.mem_map_of_mem found)

theorem report_labelled (check : Check) (image : Image) :
    (check.apply image .empty).value.Labelled check.label := by
  have uncarried := closing_uncarried (text_length check.signature)
  refine ⟨?_, ?_, ?_, ?_⟩
  · intro severity code message member
    obtain ⟨problem, -, -, same, -⟩ := failure_of_report member
    exact ⟨problem, same⟩
  · intro severity code message member
    obtain ⟨-, detail, -, -, same⟩ := failure_of_report member
    exact ⟨detail, same⟩
  · intro message member
    obtain ⟨finding, found, same⟩ | closed := mem_report member
    · cases finding <;> cases same
      exact ⟨_, rfl⟩
    · cases closed <;> contradiction
  · intro message member
    obtain ⟨finding, found, same⟩ | closed := mem_report member
    · cases finding <;> cases same
      refine iff_of_false (not_not.mpr ⟨_, rfl⟩) fun closing => ?_
      exact uncarried ⟨_, closing.symm⟩
    · cases closed with
      | inl same => cases same
      | inr same =>
          cases same
          exact iff_of_true uncarried rfl

end Labels

section Grades

variable {check : Check} {image : Image} {data : Bytes}

namespace WalkedTable

variable {table : WalkedTable} {course : Course} {findings outputs : List Finding}

theorem minor_sound (table : WalkedTable) :
    ∀ grade ∈ table.minorGrades, SoundGrade grade ∧ grade.1 ≠ .critical := by
  cases table <;> decide

theorem staged_sound (staged : table.Staged findings outputs)
    (listed : outputs ⊆ table.outputs course) {severity : Severity} {problem detail : String}
    (found : .failure severity problem detail ∈ findings) : SoundGrade (severity, problem) := by
  obtain ⟨front, fault, rfl, minor, structural, -⟩ := staged
  have walk : ∀ grade ∈ walkGrades, SoundGrade grade := by decide
  cases List.mem_append.mp found with
  | inl found =>
      cases List.mem_append.mp found with
      | inl found => exact (table.minor_sound _ (minor _ _ _ found)).1
      | inr found => exact walk _ (structural _ _ _ found)
  | inr found =>
      obtain ⟨other, same⟩ := output_failure (listed found)
      cases same
      decide

end WalkedTable

theorem ibft_reports (image : Image) :
    (contain (Ibft.check.audit image)).Reports
      (readGrades ++ (Admission.grades ++ Ibft.grades)) := by
  apply reports_contain
  rw [Check.audit, reports_bind]
  refine ⟨reports_more (admission_reports image _ _ _) (List.subset_append_left _ _), ?_⟩
  intro admitted _
  cases admitted with
  | none => exact reports_pure ()
  | some admitted =>
      exact reports_more (Ibft.body_reports admitted) (List.subset_append_right _ _)

theorem registered_sound (registered : check ∈ Registry.checks) (loaded : image.LoadedFrom data)
    {severity : Severity} {problem detail : String}
    (found : .failure severity problem detail ∈ (contain (check.audit image)).findings) :
    SoundGrade (severity, problem) := by
  obtain ⟨table, rfl⟩ | rfl := registered_cases registered
  · obtain ⟨outputs, staged, listed⟩ := table.audit_staged loaded
    exact WalkedTable.staged_sound staged listed found
  · have sound : ∀ grade ∈ readGrades ++ (Admission.grades ++ Ibft.grades), SoundGrade grade := by
      decide
    exact sound _ (ibft_reports image _ _ _ found)

theorem report_graded (registered : check ∈ Registry.checks) (loaded : image.LoadedFrom data) :
    (check.apply image .empty).value.Graded check.label := by
  refine ⟨?_, ?_⟩
  · intro severity code message member
    obtain ⟨problem, detail, found, rfl, -⟩ := failure_of_report member
    obtain ⟨graded, -⟩ := registered_sound registered loaded found
    rw [graded]
    constructor
    · intro listed
      exact ⟨problem, listed, rfl⟩
    · intro named
      obtain ⟨other, listed, same⟩ := named
      exact label_cancel check.label same ▸ listed
  · intro severity message member
    obtain ⟨problem, detail, found, same, -⟩ := failure_of_report member
    exact (registered_sound registered loaded found).2 (label_cancel check.label same).symm

end Grades

section Order

theorem precedes_of_calm {earlier : Outcome} (calm : earlier.isCritical = false)
    (later : Outcome) : earlier.Precedes later := by
  intro critical
  rw [calm] at critical
  cases critical

theorem calm_pairwise {outcomes : List Outcome}
    (calm : ∀ outcome ∈ outcomes, outcome.isCritical = false) :
    outcomes.Pairwise Outcome.Precedes :=
  List.pairwise_of_forall_mem_list fun earlier member later _ =>
    precedes_of_calm (calm earlier member) later

theorem count_le_one_of_apart {α : Type} {wanted : α → Bool} {items : List α}
    (apart : items.Pairwise fun one other => wanted one = true → wanted other = false) :
    items.countP wanted ≤ 1 := by
  induction items with
  | nil => exact Nat.zero_le 1
  | cons item rest ih =>
      obtain ⟨first, later⟩ := List.pairwise_cons.mp apart
      by_cases found : wanted item = true
      · have none : rest.countP wanted = 0 := by
          rw [List.countP_eq_zero]
          intro other member
          simp [first other member found]
        rw [List.countP_cons_of_pos found, none]
      · rw [List.countP_cons_of_neg found]
        exact ih later

namespace WalkedTable

variable {table : WalkedTable} {course : Course} {findings outputs : List Finding}

theorem output_high {finding : Finding} (found : finding ∈ table.outputs course) :
    ∃ message, finding.outcome table.label = .failed .high "VIOTBadOutputNode" message := by
  obtain ⟨detail, rfl⟩ := output_failure found
  cases table with
  | viot => exact ⟨_, rfl⟩
  | _ => cases found

theorem minor_calm (minor : Within findings table.minorGrades) :
    ∀ outcome ∈ findings.map (Finding.outcome table.label), outcome.isCritical = false := by
  intro outcome member
  obtain ⟨finding, found, rfl⟩ := List.mem_map.mp member
  cases finding with
  | failure severity problem detail =>
      have lesser : severity ≠ .critical := (table.minor_sound _ (minor _ _ _ found)).2
      simpa [Outcome.isCritical, Finding.outcome, Outcome.severity?] using lesser
  | warning detail => rfl
  | note detail => rfl

theorem outputs_calm (listed : outputs ⊆ table.outputs course) :
    ∀ outcome ∈ outputs.map (Finding.outcome table.label), outcome.isCritical = false := by
  intro outcome member
  obtain ⟨finding, found, rfl⟩ := List.mem_map.mp member
  obtain ⟨message, high⟩ := output_high (listed found)
  rw [high]
  rfl

theorem staged_pairwise (staged : table.Staged findings outputs)
    (listed : outputs ⊆ table.outputs course) :
    (findings.map (Finding.outcome table.label)).Pairwise Outcome.Precedes := by
  obtain ⟨front, fault, rfl, minor, -, single⟩ := staged
  have alone : (fault.map (Finding.outcome table.label)).Pairwise Outcome.Precedes := by
    match fault with
    | [] => exact .nil
    | [finding] => exact List.pairwise_singleton _ _
  rw [List.map_append, List.map_append, List.pairwise_append, List.pairwise_append]
  refine ⟨⟨calm_pairwise (minor_calm minor), alone, ?_⟩, calm_pairwise (outputs_calm listed), ?_⟩
  · intro earlier member later _
    exact precedes_of_calm (minor_calm minor earlier member) later
  · intro earlier _ later member _
    obtain ⟨finding, found, rfl⟩ := List.mem_map.mp member
    exact output_high (listed found)

end WalkedTable

theorem verdict_pairwise {label : String} {outcomes : List Outcome}
    (ordered : outcomes.Pairwise Outcome.Precedes) :
    (outcomes ++ verdict label outcomes).Pairwise Outcome.Precedes := by
  have calm : ∀ outcome ∈ verdict label outcomes, outcome.isCritical = false := by
    intro outcome member
    cases mem_verdict member with
    | inl same => rw [same]; rfl
    | inr same => rw [same]; rfl
  rw [List.pairwise_append]
  refine ⟨ordered, calm_pairwise calm, ?_⟩
  intro earlier member later closes critical
  have failed : outcomes.any Outcome.isFailed = true := by
    refine List.any_eq_true.mpr ⟨earlier, member, ?_⟩
    cases earlier <;> first | rfl | cases critical
  rw [verdict, if_pos failed] at closes
  cases closes

theorem fault_last (table : WalkedTable) {image : Image} {data : Bytes}
    (loaded : image.LoadedFrom data) : (table.check.apply image .empty).value.FaultLast := by
  obtain ⟨outputs, staged, listed⟩ := table.audit_staged loaded
  have ordered : (table.check.apply image .empty).value.outcomes.Pairwise Outcome.Precedes := by
    rw [apply_outcomes]
    exact verdict_pairwise (WalkedTable.staged_pairwise staged listed)
  refine ⟨count_le_one_of_apart (ordered.imp fun precedes critical => ?_), ordered⟩
  obtain ⟨message, rfl⟩ := precedes critical
  rfl

end Order

theorem report_labelled_and_graded {data : Bytes} {address ordinal : Nat} {image : Image}
    {check : Check} (registered : check ∈ Registry.checks)
    (loaded : Image.ofBytes data address ordinal = .ok image) :
    let label := check.signature.text
    let report := (check.apply image .empty).value
    report.Labelled label ∧ report.Graded label ∧ (check.signature ≠ .ibft → report.FaultLast) := by
  have fields := loaded_of_bytes loaded
  refine ⟨report_labelled check image, report_graded registered fields, ?_⟩
  intro walked
  obtain ⟨table, rfl⟩ | rfl := registered_cases registered
  · exact fault_last table fields
  · exact absurd rfl walked

-- The walk of this table breaks off, and its endpoint has no IOMMU.
theorem report_labelled_and_graded_strays_behind_endpoint :
    let image : Image := ⟨.viot, 74, 0, straysBehindEndpoint, 0, 0⟩
    let report := (Viot.check.apply image .empty).value
    Viot.check ∈ Registry.checks ∧ Image.ofBytes straysBehindEndpoint 0 0 = .ok image ∧
      Viot.check.signature ≠ .ibft ∧
      (∃ message, .failed .critical "VIOTTruncatedSubtable" message ∈ report.outcomes) ∧
      report.Labelled "VIOT" ∧ report.Graded "VIOT" ∧ report.FaultLast := by
  intro image report
  have loaded : Image.ofBytes straysBehindEndpoint 0 0 = .ok image := rfl
  have registered : Viot.check ∈ Registry.checks := by simp [Registry.checks]
  have walked : Viot.check.signature ≠ .ibft := by decide
  have accepted : (Viot.check.admission image).result =
      .ok (some ⟨Reader.headerOf straysBehindEndpoint (by decide), ⟨straysBehindEndpoint, 0⟩⟩) :=
    rfl
  have reached : WalkedTable.viot.Reaches straysBehindEndpoint := by
    simp only [WalkedTable.Reaches]
    decide
  have failed : (WalkedTable.viot.course straysBehindEndpoint).outcome =
      .error (.headerTruncated 72 (.truncated 72 4 2)) := by cbv
  obtain ⟨detail, found⟩ :=
    WalkedTable.viot.fault_found (loaded_of_bytes loaded) accepted reached failed
  have reported := report_of_failure found
  obtain ⟨labelled, graded, last⟩ := report_labelled_and_graded registered loaded
  exact ⟨registered, loaded, walked, ⟨_, reported⟩, labelled, graded, last walked⟩

end AcpiAudit
