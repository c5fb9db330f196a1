import AcpiAudit.Proofs.Audit.Appending
import AcpiAudit.Proofs.Audit.Trailing
import AcpiAudit.Proofs.Checks.Labels

set_option autoImplicit false

namespace AcpiAudit

open Audit

namespace Admission

def cutOffFinding (size : Nat) : Finding :=
  let error := ReadError.truncated 0 36 size
  .failure .high "TooShort" s!"table is too short to hold a header: {error.message}"

def foreignFinding (signature expected : Signature) : Finding :=
  let found := signature.text
  let wanted := expected.text
  .failure .high "BadSignature" s!"table signature is '{found}', expected '{wanted}'"

def tooShortFinding (minimum declared size : Nat) : Finding :=
  .failure .high "TooShort"
    (s!"table too short, expecting at least {minimum} bytes, declared {declared} " ++
      s!"with {size} loaded")

def refusal (data : Bytes) (signature expected : Signature) : Finding :=
  if visibleSize data < 36 then cutOffFinding (visibleSize data)
  else foreignFinding signature expected

structure Hands (image : Image) (data : Bytes) (admitted : Admitted) : Prop where
  header : image.header = .ok admitted.header
  signature : admitted.header.signature = image.signature
  length : admitted.header.length = image.length
  revision : admitted.header.revision = image.revision
  limit : admitted.reader.limit = visibleSize data
  whole : admitted.reader = image.reader

structure Settles (image : Image) (data : Bytes) (label : String) (signature : Signature)
    (minimum : Nat) : Prop where
  cutOff : visibleSize data < 36 →
    (Image.admission image label signature minimum).Gives [cutOffFinding (visibleSize data)] none
  foreign : 36 ≤ visibleSize data → image.signature ≠ signature →
    (Image.admission image label signature minimum).Gives
      [foreignFinding image.signature signature] none
  short : 36 ≤ visibleSize data → image.signature = signature → visibleSize data < minimum →
    (Image.admission image label signature minimum).Gives
      [tooShortFinding minimum image.length (visibleSize data)] none
  admitted : 36 ≤ visibleSize data → image.signature = signature → minimum ≤ visibleSize data →
    ∃ admitted, Hands image data admitted ∧
      (Image.admission image label signature minimum).Gives
        (completenessFindings data image.length) (some admitted)

end Admission

section Settling

variable {data : Bytes} {image : Image}

theorem admission_settles (loaded : image.LoadedFrom data) (label : String)
    (signature : Signature) (minimum : Nat) :
    Admission.Settles image data label signature minimum := by
  have limit := visible_limit loaded
  have headed (room : 36 ≤ visibleSize data) :
      ∃ header, image.header = .ok header ∧ header.signature = image.signature ∧
        header.length = image.length ∧ header.revision = image.revision := by
    rw [loaded.length]
    exact header_of_loaded loaded (room.trans (Nat.le_of_eq (seen_length data).symm))
  refine ⟨?_, ?_, ?_, ?_⟩
  · intro cut
    have failed : image.header = .error (.truncated 0 36 (visibleSize data)) := by
      rw [Image.header, Reader.header, if_pos (limit ▸ cut), limit]
      rfl
    rw [Image.admission, failed]
    exact refusal_gives _ _
  · intro room other
    obtain ⟨header, read, named, -, -⟩ := headed room
    rw [Image.admission, read]
    simp only [named, if_pos other]
    exact gives_after (gives_log _) (refusal_gives _ _)
  · intro room same cut
    obtain ⟨header, read, named, length, -⟩ := headed room
    have short : image.length < minimum ∨ visibleSize data < minimum := .inr cut
    rw [Image.admission, read]
    simp only [named, if_neg (not_not.mpr same), length, limit, if_pos short]
    exact gives_after (gives_log _) (refusal_gives _ _)
  · intro room same fits
    obtain ⟨header, read, named, length, revision⟩ := headed room
    have declared : minimum ≤ header.length := by
      rw [length, loaded.length]
      exact fits.trans (Nat.min_le_left _ _)
    have accepts : Admission.Accepts image signature minimum ⟨header, image.reader⟩ :=
      ⟨read, named.trans same, declared, limit ▸ fits, rfl⟩
    refine ⟨⟨header, image.reader⟩, ⟨read, named, length, revision, limit, rfl⟩, ?_⟩
    have gives := admission_gives label accepts
    simp only [completeness_findings loaded, length] at gives
    exact gives

end Settling

section Body

namespace WalkedTable

def endGrades : Grades := walkGrades ++ countGrades ++ stopGrades ++ [(.high, "BadOutputNode")]

def bodyGrades (table : WalkedTable) : Grades := readGrades ++ table.grades ++ endGrades

variable {table : WalkedTable} {data : Bytes}

theorem ends_within {outcome : Except WalkError Extent} {ending : List Finding}
    (ends : table.Ends data outcome ending) : Within ending endGrades := by
  cases ends with
  | broken error detail structural =>
      have graded : ∀ suffix ∈ structuralProblems, (.critical, suffix) ∈ endGrades := by decide
      exact within_failure (graded _ structural)
  | counted extent holds => exact within_nil _
  | miscounted extent severity problem detail fails named =>
      apply within_failure
      cases table <;> cases named <;> decide

theorem outputs_within (table : WalkedTable) (course : Course) :
    Within (table.outputs course) endGrades := by
  intro severity problem detail member
  obtain ⟨other, same⟩ := output_failure member
  cases same
  decide

theorem records_within (table : WalkedTable) (records : List Record) :
    Within (records.flatMap table.recordFindings) (readGrades ++ table.grades) := by
  intro severity problem detail member
  obtain ⟨record, -, found⟩ := List.mem_flatMap.mp member
  exact table.record_reports record _ _ _ found

theorem fixed_part_within (table : WalkedTable) (data : Bytes) :
    Within (table.fixedPart data) (readGrades ++ table.grades) :=
  fun _ _ _ => table.fixed_part_grade

theorem body_within (table : WalkedTable) (header : Header)
    (revised : header.revision = data.number 8 1)
    (fits : table.check.fixedSize (data.number 8 1) ≤ (seen data).length) :
    Within (contain (table.body data header)).findings table.bodyGrades := by
  have own : readGrades ++ table.grades ⊆ table.bodyGrades := List.subset_append_left _ _
  have common : endGrades ⊆ table.bodyGrades := List.subset_append_right _ _
  have fixed := within_more (table.fixed_part_within data) own
  by_cases reached : table.Reaches data
  · obtain ⟨ending, ends, gives⟩ := table.body_walks header revised fits reached
    have records := within_more (table.records_within (table.course data).records) own
    have ended := within_more (ends_within ends) common
    have outputs := within_more (table.outputs_within (table.course data)) common
    rw [contain_of_gives gives]
    exact within_append (within_append (within_append fixed records) ended) outputs
  · obtain ⟨stop, within, gives⟩ := table.unreached_gives header revised fits reached
    have stopped : stopGrades ⊆ endGrades := by decide
    rw [contain_of_gives gives]
    exact within_append fixed (within_more within (List.Subset.trans stopped common))

end WalkedTable

end Body

section Check

variable {check : Check} {data : Bytes} {image : Image} {admitted : Admitted}

theorem refused_findings {refusal : Finding}
    (refused : (check.admission image).Gives [refusal] none) :
    (contain (check.audit image)).findings = [refusal] :=
  contain_of_gives (gives_bind refused (gives_pure ()))

theorem refused_apply {refusal : Finding}
    (refused : (check.admission image).Gives [refusal] none) (failure : refusal.isFailure = true)
    (report : Report) :
    (check.apply image report).value.outcomes =
      report.outcomes ++ [refusal.outcome check.label] := by
  have outcomes : check.outcomes image = [refusal.outcome check.label] := by
    rw [Check.outcomes, refused_findings refused]
    rfl
  have failed : (report.outcomes ++ [refusal.outcome check.label]).any Outcome.isFailed = true := by
    simp [outcome_is_failed, failure]
  rw [apply_onto, outcomes, verdict, if_pos failed, List.append_nil]

theorem foreign_apply (loaded : image.LoadedFrom data) (other : image.signature ≠ check.signature)
    (report : Report) :
    (check.apply image report).value.outcomes = report.outcomes ++
      [(Admission.refusal data image.signature check.signature).outcome check.label] := by
  have settles := admission_settles loaded check.label check.signature
    (check.fixedSize image.revision)
  by_cases cut : visibleSize data < 36
  · rw [Admission.refusal, if_pos cut]
    exact refused_apply (settles.cutOff cut) rfl report
  · rw [Admission.refusal, if_neg cut]
    exact refused_apply (settles.foreign (Nat.le_of_not_lt cut) other) rfl report

theorem completeness_within (data : Bytes) (declared : Nat) :
    Within (Admission.completenessFindings data declared) [(.medium, "BadChecksum")] := by
  rw [Admission.completenessFindings]
  split
  · intro severity problem detail member
    cases List.mem_singleton.mp member
  · split
    · exact within_nil _
    · exact within_failure (List.mem_singleton_self _)

theorem body_own (registered : check ∈ Registry.checks) (loaded : image.LoadedFrom data)
    (accepted : (check.admission image).result = .ok (some admitted)) {severity : Severity}
    {problem detail : String}
    (found : .failure severity problem detail ∈
      (contain (check.body (check.fixedSize image.revision) admitted)).findings) :
    problem ≠ "BadSignature" := by
  obtain ⟨-, revised, fits⟩ := accepted_table loaded accepted
  obtain ⟨table, rfl⟩ | rfl := registered_cases registered
  · have apart : ∀ grade ∈ table.bodyGrades, grade.2 ≠ "BadSignature" := by cases table <;> decide
    rw [accepted_body loaded accepted] at found
    exact apart _ (table.body_within _ revised fits _ _ _ found)
  · have apart : ∀ grade ∈ readGrades ++ Ibft.grades, grade.2 ≠ "BadSignature" := by decide
    exact apart _ (reports_contain (Ibft.body_reports admitted) _ _ _ found)

theorem audit_own (registered : check ∈ Registry.checks) (loaded : image.LoadedFrom data)
    (named : image.signature = check.signature) {severity : Severity} {problem detail : String}
    (found : .failure severity problem detail ∈ (contain (check.audit image)).findings) :
    problem ≠ "BadSignature" := by
  have settles := admission_settles loaded check.label check.signature
    (check.fixedSize image.revision)
  by_cases cut : visibleSize data < 36
  · rw [refused_findings (settles.cutOff cut)] at found
    cases List.mem_singleton.mp found
    decide
  · have room : 36 ≤ visibleSize data := Nat.le_of_not_lt cut
    by_cases short : visibleSize data < check.fixedSize image.revision
    · rw [refused_findings (settles.short room named short)] at found
      cases List.mem_singleton.mp found
      decide
    · obtain ⟨admitted, -, gives⟩ := settles.admitted room named (Nat.le_of_not_lt short)
      rw [Check.audit, contain_bind gives] at found
      cases List.mem_append.mp found with
      | inl found =>
          have summed : (severity, problem) = (.medium, "BadChecksum") :=
            List.mem_singleton.mp (completeness_within data _ _ _ _ found)
          cases summed
          decide
      | inr found => exact body_own registered loaded gives.result found

theorem report_own (loaded : image.LoadedFrom data) {report : Report}
    (reported : report ∈ (Registry.report? image).value) (severity : Severity) (message : String) :
    .failed severity (image.signature.text ++ "BadSignature") message ∉ report.outcomes := by
  intro member
  rw [report_value] at reported
  obtain ⟨found, registered, rfl⟩ := Option.map_eq_some_iff.mp reported
  obtain ⟨listed, named⟩ := find_signature registered
  obtain ⟨problem, detail, failure, same, -⟩ := failure_of_report member
  have label : found.label = image.signature.text := by rw [Check.label, named]
  rw [← label] at same
  exact audit_own listed loaded named.symm failure (label_cancel found.label same).symm

theorem unreported_iff (image : Image) :
    (Registry.report? image).value = none ↔
      image.signature ∉ Registry.checks.map Check.signature := by
  rw [report_value, Option.map_eq_none_iff, Registry.find?, List.find?_eq_none, List.mem_map]
  simp

end Check

-- A report comes from the check for the signature of its table, so another signature is met only
-- by a check that is chosen in some other way.
theorem tables_are_refused_once_or_admitted {data : Bytes} {address ordinal : Nat} {image : Image}
    (loaded : Image.ofBytes data address ordinal = .ok image) :
    (∀ label signature minimum, Admission.Settles image data label signature minimum) ∧
      ((Registry.report? image).value = none ↔
        image.signature ∉ [.apmt, .gtdt, .ibft, .nfit, .pcct, .viot]) ∧
      (∀ report ∈ (Registry.report? image).value, ∀ severity message,
        .failed severity (image.signature.text ++ "BadSignature") message ∉ report.outcomes) ∧
      ∀ check ∈ Registry.checks, image.signature ≠ check.signature → ∀ report,
        (check.apply image report).value.outcomes = report.outcomes ++
          [(Admission.refusal data image.signature check.signature).outcome check.label] := by
  have fields := loaded_of_bytes loaded
  exact ⟨admission_settles fields, unreported_iff image, fun report => report_own fields,
    fun check _ other => foreign_apply fields other⟩

theorem tables_are_refused_once_or_admitted_bare_apmt :
    let image : Image := ⟨.apmt, 36, 0, bareApmt, 0, 0⟩
    Image.ofBytes bareApmt 0 0 = .ok image ∧
      (Image.admission image "APMT" .apmt 48).Gives [.failure .high "TooShort"
        "table too short, expecting at least 48 bytes, declared 36 with 36 loaded"] none ∧
      (∃ admitted, (Image.admission image "APMT" .apmt 36).Gives [] (some admitted)) ∧
      (∃ report, (Registry.report? image).value = some report) ∧
      (Viot.check.apply image ⟨[.info "first"]⟩).value.outcomes = [.info "first",
        .failed .high "VIOTBadSignature" "VIOT table signature is 'APMT', expected 'VIOT'"] := by
  intro image
  have loaded : Image.ofBytes bareApmt 0 0 = .ok image := rfl
  obtain ⟨settles, unreported, -, foreign⟩ := tables_are_refused_once_or_admitted loaded
  have short := (settles "APMT" .apmt 48).short (by decide) rfl (by decide)
  obtain ⟨admitted, -, accepted⟩ := (settles "APMT" .apmt 36).admitted (by decide) rfl (by decide)
  have size : visibleSize bareApmt = 36 := by decide
  have text : Admission.tooShortFinding 48 36 36 = .failure .high "TooShort"
      "table too short, expecting at least 48 bytes, declared 36 with 36 loaded" := by cbv
  rw [size, text] at short
  have whole : ¬ bareApmt.number 4 4 ≠ bareApmt.length := by decide
  have summed : SumsToZero bareApmt := by decide
  have complete : Admission.completenessFindings bareApmt 36 = [] := by
    rw [Admission.completenessFindings, if_neg whole, if_pos summed]
  rw [complete] at accepted
  have reported : (Registry.report? image).value ≠ none := fun none =>
    absurd (unreported.mp none) (by decide)
  have refused := foreign Viot.check (by simp [Registry.checks]) (by decide) ⟨[.info "first"]⟩
  have refusal : (Admission.refusal bareApmt image.signature Viot.check.signature).outcome
      Viot.check.label = .failed .high "VIOTBadSignature"
        "VIOT table signature is 'APMT', expected 'VIOT'" := by cbv
  rw [refusal] at refused
  exact ⟨loaded, short, ⟨admitted, accepted⟩, Option.ne_none_iff_exists'.mp reported, refused⟩

end AcpiAudit
