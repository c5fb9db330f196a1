import AcpiAudit.Proofs.Audit.Appending
import AcpiAudit.Proofs.Checks.Outputs
import AcpiAudit.Proofs.Machine.Safety

set_option autoImplicit false

namespace AcpiAudit

variable {program : Program} {data : Bytes} {address ordinal : Nat} {image : Image}

-- A program has many exits, and only those that give the verdict themselves lead to it.
theorem report_has_one_verdict (loaded : Image.ofBytes data address ordinal = .ok image) :
    Registry.programs.map Program.check = Registry.checks ∧
      (∀ program ∈ Registry.programs, ∃ logged : Logged Report,
        logged = program.check.apply image .empty ∧
        (∀ small : data.length < 2 ^ 63,
          program.run data small address ordinal .empty = .ok (.ok logged)) ∧
        logged.value.HasVerdict program.label ∧
        ((image.admission program.label program.check.signature
            (program.check.fixedSize image.revision)).result = .ok none →
          ∃ code message, logged.value.outcomes = [.failed .high code message])) ∧
      ∀ report ∈ (Registry.report? image).value, report.HasVerdict image.signature.text := by
  refine ⟨rfl, fun program registered => ?_, fun report => reported_has_verdict⟩
  rw [program_label registered]
  exact ⟨_, rfl, fun small => run_of_loaded registered loaded small .empty,
    apply_has_verdict program.check image, refused_outcomes⟩

-- A table without nodes passes the check for its signature, and another check refuses it.
theorem report_has_one_verdict_bare_apmt :
    let image : Image := ⟨.apmt, 36, 0, bareApmt, 0, 0⟩
    let other : Program := ⟨Viot.check, "VIOT", Viot.run⟩
    ∃ small : bareApmt.length < 2 ^ 63, Image.ofBytes bareApmt 0 0 = .ok image ∧
      (∃ report ∈ (Registry.report? image).value, report.HasVerdict "APMT" ∧
        report.outcomes = [.passed, .info "No issues found in APMT table."]) ∧
      (image.admission "VIOT" .viot 48).result = .ok none ∧
      ∃ logged, other.run bareApmt small 0 0 .empty = .ok (.ok logged) ∧
        logged.value.HasVerdict "VIOT" ∧
        ∃ code message, logged.value.outcomes = [.failed .high code message] := by
  intro image other
  have small : bareApmt.length < 2 ^ 63 := by decide
  have loaded : Image.ofBytes bareApmt 0 0 = .ok image := rfl
  have registered : other ∈ Registry.programs := by simp [Registry.programs, other]
  have reported : (Registry.report? image).value =
      some ⟨[.passed, .info "No issues found in APMT table."]⟩ := by cbv
  have refused : (image.admission "VIOT" .viot 48).result = .ok none := by cbv
  have label : image.signature.text = "APMT" := by cbv
  obtain ⟨-, judged, run⟩ := report_has_one_verdict loaded
  obtain ⟨logged, -, finishes, verdict, refusal⟩ := judged other registered
  exact ⟨small, loaded, ⟨_, reported, label ▸ run _ reported, rfl⟩, refused, logged,
    finishes small, verdict, refusal refused⟩

-- The closing alone looks at what others have recorded.
theorem check_only_appends (registered : program ∈ Registry.programs)
    (loaded : Image.ofBytes data address ordinal = .ok image) (report : Report) :
    ∃ alone after : Logged Report,
      alone = program.check.apply image .empty ∧ after = program.check.apply image report ∧
      (∀ small : data.length < 2 ^ 63,
        program.run data small address ordinal .empty = .ok (.ok alone) ∧
        program.run data small address ordinal report = .ok (.ok after)) ∧
      after.value.outcomes = report.outcomes ++
        (if report.allPassed then alone.value.outcomes else alone.value.unclosed) ∧
      alone.value.outcomes =
        alone.value.unclosed ++ verdict program.label alone.value.unclosed ∧
      after.value.allPassed = (report.allPassed && alone.value.allPassed) ∧
      after.log = alone.log := by
  have finishes (small : data.length < 2 ^ 63) := run_of_loaded registered loaded small
  rw [program_label registered]
  exact ⟨_, _, rfl, rfl, fun small => ⟨finishes small .empty, finishes small report⟩,
    apply_appends program.check image report, alone_outcomes program.check image,
    apply_all_passed_alone program.check image report, rfl⟩

-- A table without a fault is not closed with a pass behind the failure of another.
theorem check_only_appends_after_failure :
    let program : Program := ⟨Apmt.check, "APMT", Apmt.run⟩
    let report : Report := ⟨[.failed .low "GTDTReservedNonZero" "GTDT Reserved: not zero"]⟩
    ∃ small : bareApmt.length < 2 ^ 63,
      program ∈ Registry.programs ∧ (∃ image, Image.ofBytes bareApmt 0 0 = .ok image) ∧
      ∃ after, program.run bareApmt small 0 0 report = .ok (.ok after) ∧
        after.value.outcomes = report.outcomes := by
  intro program report
  have small : bareApmt.length < 2 ^ 63 := by decide
  have loaded : Image.ofBytes bareApmt 0 0 = .ok ⟨.apmt, 36, 0, bareApmt, 0, 0⟩ := rfl
  have registered : program ∈ Registry.programs := by simp [Registry.programs, program]
  obtain ⟨alone, after, rfl, -, finishes, appended, -⟩ :=
    check_only_appends registered loaded report
  have found : (program.check.apply ⟨.apmt, 36, 0, bareApmt, 0, 0⟩ .empty).value =
      ⟨[.passed, .info "No issues found in APMT table."]⟩ := by cbv
  rw [found] at appended
  exact ⟨small, registered, ⟨_, loaded⟩, after, (finishes small).2, appended⟩

namespace Viot

-- The program fills its vectors inside the nodes, as the walk comes to them.
theorem bad_outputs_are_unresolved (loaded : Image.ofBytes data address ordinal = .ok image)
    (named : image.signature = .viot) (walked : Walked data) :
    let program : Program := ⟨check, "VIOT", run⟩
    ∃ logged : Logged Report, (Registry.report? image).value = some logged.value ∧
      (∀ small : data.length < 2 ^ 63,
        program.run data small address ordinal .empty = .ok (.ok logged)) ∧
      logged.value.failuresWith "VIOTBadOutputNode" =
        ((course data).records.filter fun node => Unresolved (course data) node).map
          fun node => (badOutput node).outcome "VIOT" := by
  intro program
  have registered : program ∈ Registry.programs := by simp [Registry.programs, program]
  exact ⟨check.apply image .empty, viot_report named,
    fun small => run_of_loaded registered loaded small .empty,
    bad_outputs_walked (loaded_of_bytes loaded) named walked⟩

-- Three endpoints, an IOMMU, and a node without a length. The first endpoint names the IOMMU, the
-- second one itself, and the third one a place behind the end of the walk.
def outputsEachWay : Bytes :=
  [0x56, 0x49, 0x4F, 0x54, 140, 0, 0, 0] ++ List.replicate 28 0 ++ [5, 0, 48, 0] ++
    List.replicate 8 0 ++
    [2, 0, 24, 0, 0, 0, 0, 0, 1, 0, 0, 0, 0, 0, 0, 0, 120, 0, 0, 0, 0, 0, 0, 0] ++
    [2, 0, 24, 0, 0, 0, 0, 0, 1, 0, 0, 0, 0, 0, 0, 0, 72, 0, 0, 0, 0, 0, 0, 0] ++
    [1, 0, 24, 0, 0, 0, 0, 0, 0, 0, 0, 0, 0, 0, 0, 0, 200, 0, 0, 0, 0, 0, 0, 0] ++
    [3, 0, 16, 0] ++ List.replicate 12 0 ++ [3, 0, 0, 0]

-- Long enough that evaluating it needs more depth than the default.
set_option maxRecDepth 2000 in
theorem bad_outputs_are_unresolved_each_way :
    let program : Program := ⟨check, "VIOT", run⟩
    ∃ small : outputsEachWay.length < 2 ^ 63,
      ∃ image, Image.ofBytes outputsEachWay 0 0 = .ok image ∧ image.signature = .viot ∧
        Walked outputsEachWay ∧ ∃ logged, (Registry.report? image).value = some logged.value ∧
          program.run outputsEachWay small 0 0 .empty = .ok (.ok logged) ∧
          logged.value.failuresWith "VIOTBadOutputNode" = [.failed .high "VIOTBadOutputNode"
            "VIOT node at 0x48 has Output Node 0x48, which is not an IOMMU node"] := by
  intro program
  have small : outputsEachWay.length < 2 ^ 63 := by decide
  have loaded : Image.ofBytes outputsEachWay 0 0 =
      .ok ⟨.viot, 140, 0, outputsEachWay, 0, 0⟩ := rfl
  have walked : Walked outputsEachWay := ⟨by decide, by decide⟩
  have found : ((course outputsEachWay).records.filter
      fun node => Unresolved (course outputsEachWay) node).map
        (fun node => (badOutput node).outcome "VIOT") = [.failed .high "VIOTBadOutputNode"
          "VIOT node at 0x48 has Output Node 0x48, which is not an IOMMU node"] := by cbv
  obtain ⟨logged, reported, finishes, failures⟩ := bad_outputs_are_unresolved loaded rfl walked
  exact ⟨small, _, loaded, rfl, walked, logged, reported, finishes small, failures.trans found⟩

end Viot

end AcpiAudit
