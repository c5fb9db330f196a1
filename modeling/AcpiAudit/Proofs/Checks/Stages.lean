import AcpiAudit.Proofs.Audit.Verdict
import AcpiAudit.Proofs.Checks.Gathering
import AcpiAudit.Proofs.Checks.Grades

set_option autoImplicit false

namespace AcpiAudit

open Audit

inductive WalkedTable where
  | apmt
  | gtdt
  | nfit
  | pcct
  | viot
deriving Repr, DecidableEq

namespace WalkedTable

def check : WalkedTable → Check
  | apmt => Apmt.check
  | gtdt => Gtdt.check
  | nfit => Nfit.check
  | pcct => Pcct.check
  | viot => Viot.check

def label (table : WalkedTable) : String := table.check.label

def admission (table : WalkedTable) (image : Image) : Audit (Option Admitted) :=
  image.admission table.label table.check.signature (table.check.fixedSize image.revision)

def layout : WalkedTable → Layout
  | apmt => .length16Gap8Kind8
  | gtdt => .kind8Length16
  | nfit => .kind16Length16
  | pcct => .kind8Length8
  | viot => .kind8Gap8Length16

def start : WalkedTable → Bytes → Nat
  | apmt, _ => 36
  | gtdt, data => data.number 92 4
  | nfit, _ => 40
  | pcct, _ => 48
  | viot, data => data.number 38 2

-- An admitted table is not walked if it counts no records or has them start in its fixed part.
def Reaches : WalkedTable → Bytes → Prop
  | gtdt, data => data.number 88 4 ≠ 0 ∧ Gtdt.fixedSize (data.number 8 1) ≤ data.number 92 4
  | viot, data => 48 ≤ data.number 38 2
  | _, _ => True

def course (table : WalkedTable) (data : Bytes) : Course :=
  Reader.course ⟨seen data, 0⟩ table.layout .declared (table.start data)

def fixedPart : WalkedTable → Bytes → List Finding
  | apmt, _ => []
  | gtdt, data => (Gtdt.auditFixedPart ⟨seen data, 0⟩ (data.number 8 1)).findings
  | nfit, data => (contain (Nfit.auditFixedPart ⟨seen data, 0⟩)).findings
  | pcct, data => (contain (Pcct.auditFixedPart ⟨seen data, 0⟩)).findings
  | viot, data => (Viot.auditFixedPart ⟨seen data, 0⟩).findings

def auditRecord : WalkedTable → Record → Audit Unit
  | apmt => Apmt.auditNode
  | gtdt => Gtdt.auditTimer
  | nfit => Nfit.auditStructure
  | pcct => Pcct.auditSubspace
  | viot => Viot.auditNode

def recordFindings (table : WalkedTable) (record : Record) : List Finding :=
  (contain (table.auditRecord record)).findings

def CountHolds : WalkedTable → Bytes → Nat → Prop
  | gtdt, data, count => count = data.number 88 4
  | pcct, _, count => count ≤ 256
  | viot, data, count => count = data.number 36 2
  | _, _, _ => True

def countFailure? : WalkedTable → Option (Severity × String)
  | gtdt => some (.medium, "PlatformTimerCount")
  | pcct => some (.low, "TooManySubspaces")
  | viot => some (.medium, "NodeCountMismatch")
  | _ => none

def endpointFindings (course : Course) : List Finding :=
  let gathered := Viot.gathered course
  gathered.outputs.flatMap fun output =>
    (Viot.auditOutput gathered.iommus course.outcome output).findings

def outputs : WalkedTable → Course → List Finding
  | viot, course => endpointFindings course
  | _, _ => []

def structuralProblems : List String :=
  ["TruncatedSubtable", "StructLengthZero", "BadSubtableLength", "OutOfRangeOffset"]

-- What the end of a walk adds: one failure if the walk broke off, and otherwise one only if there
-- is a wrong number of records.
inductive Ends (table : WalkedTable) (data : Bytes) :
    Except WalkError Extent → List Finding → Prop where
  | broken (error : WalkError) (detail : String)
      (structural : error.suffix ∈ structuralProblems) :
      Ends table data (.error error) [.failure .critical error.suffix detail]
  | counted (extent : Extent) (holds : table.CountHolds data extent.records) :
      Ends table data (.ok extent) []
  | miscounted (extent : Extent) (severity : Severity) (problem detail : String)
      (fails : ¬ table.CountHolds data extent.records)
      (named : table.countFailure? = some (severity, problem)) :
      Ends table data (.ok extent) [.failure severity problem detail]

def findings (table : WalkedTable) (image : Image) (data : Bytes) (ending : List Finding) :
    List Finding :=
  (table.admission image).findings ++ table.fixedPart data ++
    (table.course data).records.flatMap table.recordFindings ++ ending ++
    table.outputs (table.course data)

theorem fault_findings {layout : Layout} {data : Bytes} {limit offset : Nat} {error : WalkError}
    (fault : Fault layout data limit offset error) :
    error.suffix ∈ structuralProblems ∧
      error.findings = [.failure .critical error.suffix
        (error.message ++ "; aborting checks of the remaining sub-structures")] := by
  cases fault <;> exact ⟨by simp [WalkError.suffix, structuralProblems], rfl⟩

theorem broken_ends (table : WalkedTable) {data : Bytes} {error : WalkError}
    (failed : (table.course data).outcome = .error error) :
    table.Ends data (.error error) error.findings := by
  have told : Reader.limit ⟨seen data, 0⟩ ≤ greatestOffset := seen_told data
  have follows := reader_course_follows table.layout (table.start data) told
  have fault := (follows.failed error ((course_outcome_error_iff _ _).mp failed)).2
  obtain ⟨structural, found⟩ := fault_findings fault
  rw [found]
  exact .broken error _ structural

theorem count_ends {table : WalkedTable} {data : Bytes} {severity : Severity} {problem : String}
    (named : table.countFailure? = some (severity, problem)) (extent : Extent) (wrong : Prop)
    [Decidable wrong] (detail : String) (agree : wrong ↔ ¬ table.CountHolds data extent.records) :
    table.Ends data (.ok extent) (if wrong then [.failure severity problem detail] else []) := by
  by_cases miscounts : wrong
  · rw [if_pos miscounts]
    exact .miscounted extent severity problem detail (agree.mp miscounts) named
  · rw [if_neg miscounts]
    exact .counted extent (not_not.mp fun fails => miscounts (agree.mpr fails))

def Walks (table : WalkedTable) (data : Bytes) (before : List Finding) (audit : Audit Unit) :
    Prop :=
  ∃ ending, table.Ends data (table.course data).outcome ending ∧
    audit.Gives (before ++ (table.course data).records.flatMap table.recordFindings ++ ending ++
      table.outputs (table.course data)) ()

theorem walks_then {table : WalkedTable} {data : Bytes} {α : Type} {first : Audit α} {value : α}
    {next : α → Audit Unit} (reads : first.result = .ok value)
    (walks : table.Walks data [] (next value)) :
    table.Walks data first.findings (first >>= next) := by
  obtain ⟨ending, ends, gives⟩ := walks
  refine ⟨ending, ends, ?_⟩
  simpa using gives_bind ⟨rfl, reads⟩ gives

theorem ending_gives (table : WalkedTable) (data : Bytes)
    (conclude : Except WalkError Extent → Audit Unit)
    (broken : ∀ error, conclude (.error error) = reportDefect error)
    (whole : ∀ extent, ∃ ending, table.Ends data (.ok extent) ending ∧
      (conclude (.ok extent)).Gives ending ()) :
    ∃ ending, table.Ends data (table.course data).outcome ending ∧
      (conclude (table.course data).outcome).Gives ending () := by
  cases ended : (table.course data).outcome with
  | error error =>
      rw [broken]
      exact ⟨_, table.broken_ends ended, gives_find _⟩
  | ok extent => exact whole extent

theorem walks_records (table : WalkedTable) {data : Bytes}
    {conclude : Except WalkError Extent → Audit Unit}
    (alone : table.outputs (table.course data) = [])
    (broken : ∀ error, conclude (.error error) = reportDefect error)
    (whole : ∀ extent, ∃ ending, table.Ends data (.ok extent) ending ∧
      (conclude (.ok extent)).Gives ending ()) :
    table.Walks data [] (eachRecord (table.course data) table.auditRecord >>= conclude) := by
  obtain ⟨ending, ends, closing⟩ := table.ending_gives data conclude broken whole
  have walked : (eachRecord (table.course data) table.auditRecord).Gives
      ((table.course data).records.flatMap table.recordFindings) (table.course data).outcome :=
    gives_each_record _ _
  refine ⟨ending, ends, ?_⟩
  simpa [alone] using gives_bind walked closing

section Body

variable {data : Bytes} (header : Header)

theorem apmt_body_walks : apmt.Walks data [] (Apmt.body ⟨header, ⟨seen data, 0⟩⟩) := by
  refine apmt.walks_records rfl (fun error => rfl) fun extent => ?_
  exact ⟨[], .counted extent trivial, gives_write _ _ _⟩

theorem nfit_body_walks :
    nfit.Walks data (nfit.fixedPart data) (Nfit.body ⟨header, ⟨seen data, 0⟩⟩) := by
  refine walks_then (gives_contain _).result ?_
  refine nfit.walks_records rfl (fun error => rfl) fun extent => ?_
  exact ⟨[], .counted extent trivial, gives_write _ _ _⟩

theorem pcct_body_walks :
    pcct.Walks data (pcct.fixedPart data) (Pcct.body ⟨header, ⟨seen data, 0⟩⟩) := by
  refine walks_then (gives_contain _).result ?_
  refine pcct.walks_records rfl (fun error => rfl) fun extent => ?_
  refine ⟨_, count_ends rfl extent _ _ ?_, gives_bind (gives_write _ _ _) (gives_fail_if _ _ _ _)⟩
  simp [CountHolds, Pcct.greatestSubspaceCount]

theorem gtdt_run {revision : Nat} (fits : Gtdt.fixedSize revision ≤ (seen data).length) :
    (Gtdt.auditFixedPart ⟨seen data, 0⟩ revision).result =
      .ok ⟨data.number 88 4, data.number 92 4⟩ := by
  have least : 96 ≤ (seen data).length := by
    simp only [Gtdt.fixedSize] at fits
    split at fits <;> omega
  have field (offset : Nat) (inside : offset + 4 ≤ 96) :
      Reader.number ⟨seen data, 0⟩ offset 4 = .ok (data.number offset 4) := seen_reads (by omega)
  have flags (offset : Nat) (timer : String) (inside : offset + 4 ≤ (seen data).length) :
      (Gtdt.auditTimerFlags ⟨seen data, 0⟩ offset timer).result = .ok () := by
    simp [Gtdt.auditTimerFlags, Reader.u32, seen_reads inside]
  have early (offset : Nat) (timer : String) (inside : offset + 4 ≤ 96) :
      (Gtdt.auditTimerFlags ⟨seen data, 0⟩ offset timer).result = .ok () :=
    flags offset timer (by omega)
  have virtual : (Gtdt.auditVirtualTimer ⟨seen data, 0⟩ revision).result = .ok () := by
    by_cases later : 3 ≤ revision
    · have room : 104 ≤ (seen data).length := by simpa [Gtdt.fixedSize, later] using fits
      rw [Gtdt.auditVirtualTimer, if_pos later, flags _ _ room]
    · rw [Gtdt.auditVirtualTimer, if_neg later, result_pure]
  simp [Gtdt.auditFixedPart, Reader.u32, field, early, virtual]

theorem viot_run (fits : 48 ≤ (seen data).length) :
    (Viot.auditFixedPart ⟨seen data, 0⟩).result = .ok ⟨data.number 36 2, data.number 38 2⟩ := by
  have field (offset : Nat) (inside : offset + 2 ≤ 48) :
      Reader.number ⟨seen data, 0⟩ offset 2 = .ok (data.number offset 2) := seen_reads (by omega)
  have reserved : Reader.read ⟨seen data, 0⟩ 40 8 = .ok ((seen data).slice 40 8) :=
    (Reader.read_ok_iff _ _ _ _).mpr ⟨fits, rfl⟩
  simp [Viot.auditFixedPart, Reader.u16, field, reserved]

theorem gtdt_body_walks (revised : header.revision = data.number 8 1)
    (fits : Gtdt.fixedSize (data.number 8 1) ≤ (seen data).length) (reached : gtdt.Reaches data) :
    gtdt.Walks data (gtdt.fixedPart data)
      (Gtdt.body (Gtdt.fixedSize (data.number 8 1)) ⟨header, ⟨seen data, 0⟩⟩) := by
  have late : ¬ data.number 92 4 < Gtdt.fixedSize (data.number 8 1) := Nat.not_lt_of_le reached.2
  simp only [Gtdt.body, revised]
  refine walks_then (gtdt_run fits) ?_
  rw [if_neg reached.1, if_neg late]
  refine gtdt.walks_records rfl (fun error => rfl) fun extent => ?_
  exact ⟨_, count_ends rfl extent (extent.records ≠ data.number 88 4) _ .rfl,
    gives_fail_if _ _ _ _⟩

theorem viot_body_walks (fits : 48 ≤ (seen data).length) (reached : viot.Reaches data) :
    viot.Walks data (viot.fixedPart data) (Viot.body ⟨header, ⟨seen data, 0⟩⟩) := by
  have late : ¬ data.number 38 2 < Viot.fixedSize := Nat.not_lt_of_le reached
  refine walks_then (viot_run fits) ?_
  rw [if_neg late, Viot.audit_nodes_eq]
  obtain ⟨ending, ends, closing⟩ := viot.ending_gives data
    (Viot.auditEnding ⟨data.number 36 2, data.number 38 2⟩) (fun error => rfl) fun extent =>
    ⟨_, count_ends rfl extent (extent.records ≠ data.number 36 2) _ .rfl,
      gives_bind (gives_write _ _ _) (gives_fail_if _ _ _ _)⟩
  have outputs : ((Viot.gathered (viot.course data)).outputs.forM
      (Viot.auditOutput (Viot.gathered (viot.course data)).iommus
        (viot.course data).outcome)).Gives (viot.outputs (viot.course data)) () :=
    gives_for_each (Viot.output_gives _ _)
  refine ⟨ending, ends, ?_⟩
  rw [List.nil_append, List.append_assoc]
  exact gives_bind (gives_each_record (viot.course data) Viot.auditNode)
    (gives_bind closing outputs)

end Body

def body (table : WalkedTable) (data : Bytes) (header : Header) : Audit Unit :=
  table.check.body (table.check.fixedSize (data.number 8 1)) ⟨header, ⟨seen data, 0⟩⟩

theorem body_walks (table : WalkedTable) {data : Bytes} (header : Header)
    (revised : header.revision = data.number 8 1)
    (fits : table.check.fixedSize (data.number 8 1) ≤ (seen data).length)
    (reached : table.Reaches data) :
    table.Walks data (table.fixedPart data) (table.body data header) := by
  cases table with
  | apmt => exact apmt_body_walks header
  | gtdt => exact gtdt_body_walks header revised fits reached
  | nfit => exact nfit_body_walks header
  | pcct => exact pcct_body_walks header
  | viot => exact viot_body_walks header fits reached

def stopGrades : Grades := [(.high, "BadPlatformTimerOffset"), (.high, "BadNodeOffset")]

theorem stop_gives {α : Type} {first : Audit α} {value : α} {next : α → Audit Unit}
    {problem detail : String} (reads : first.result = .ok value)
    (stops : next value = fail .high problem detail)
    (listed : (.high, problem) ∈ stopGrades) :
    ∃ stop, Within stop stopGrades ∧ (first >>= next).Gives (first.findings ++ stop) () := by
  have gives : (next value).Gives [.failure .high problem detail] () := by
    rw [stops]
    exact gives_find _
  exact ⟨_, within_failure listed, gives_bind ⟨rfl, reads⟩ gives⟩

theorem unreached_gives (table : WalkedTable) {data : Bytes} (header : Header)
    (revised : header.revision = data.number 8 1)
    (fits : table.check.fixedSize (data.number 8 1) ≤ (seen data).length)
    (unreached : ¬ table.Reaches data) :
    ∃ stop, Within stop stopGrades ∧
      (table.body data header).Gives (table.fixedPart data ++ stop) () := by
  cases table with
  | gtdt =>
      simp only [body, check, Gtdt.check, Gtdt.body, revised]
      by_cases none : data.number 88 4 = 0
      · refine ⟨[], within_nil _, gives_bind ⟨rfl, gtdt_run fits⟩ ?_⟩
        rw [if_pos none]
        exact gives_write _ _ _
      · have early : data.number 92 4 < Gtdt.fixedSize (data.number 8 1) := by
          simpa [Reaches, none] using unreached
        exact stop_gives (gtdt_run fits) ((if_neg none).trans (if_pos early)) (by decide)
  | viot =>
      have early : data.number 38 2 < Viot.fixedSize := by
        simpa [Reaches, Viot.fixedSize, Header.size] using unreached
      exact stop_gives (viot_run fits) (if_pos early) (by decide)
  | _ => exact absurd trivial unreached

def grades : WalkedTable → Grades
  | apmt => Apmt.grades
  | gtdt => Gtdt.grades
  | nfit => Nfit.grades
  | pcct => Pcct.grades
  | viot => Viot.grades

theorem record_reports (table : WalkedTable) (record : Record) :
    (contain (table.auditRecord record)).Reports (readGrades ++ table.grades) := by
  apply reports_contain
  cases table with
  | apmt => exact Apmt.node_reports record
  | gtdt => exact Gtdt.timer_reports record
  | nfit => exact Nfit.structure_reports record
  | pcct => exact Pcct.subspace_reports record
  | viot => exact Viot.node_reports record

theorem fixed_part_grade (table : WalkedTable) {data : Bytes} {severity : Severity}
    {problem detail : String} (found : .failure severity problem detail ∈ table.fixedPart data) :
    (severity, problem) ∈ readGrades ++ table.grades := by
  cases table with
  | apmt => cases found
  | gtdt => exact List.mem_append_right _ (Gtdt.fixed_part_reports _ _ _ _ _ found)
  | nfit => exact reports_contain (Nfit.fixed_part_reports _) _ _ _ found
  | pcct => exact reports_contain (Pcct.fixed_part_reports _) _ _ _ found
  | viot => exact List.mem_append_right _ (Viot.fixed_part_reports _ _ _ _ found)

theorem output_failure {table : WalkedTable} {course : Course} {finding : Finding}
    (found : finding ∈ table.outputs course) :
    ∃ detail, finding = .failure .high "BadOutputNode" detail := by
  cases table with
  | viot =>
      obtain ⟨endpoint, -, found⟩ := List.mem_flatMap.mp found
      simp only [Viot.auditOutput] at found
      split at found
      · cases found
      · rw [(gives_fail_if _ _ _ _).findings] at found
        split at found
        · exact ⟨_, List.mem_singleton.mp found⟩
        · cases found
  | _ => cases found

def countProblems : List String := ["NodeCountMismatch", "PlatformTimerCount", "TooManySubspaces"]

def Uncounted (findings : List Finding) : Prop :=
  ∀ severity problem detail, .failure severity problem detail ∈ findings → problem ∉ countProblems

theorem graded_not_count (table : WalkedTable) {severity : Severity} {problem : String}
    (graded : (severity, problem) ∈ readGrades ++ table.grades) : problem ∉ countProblems := by
  have none : ∀ grade ∈ readGrades ++ table.grades, grade.2 ∉ countProblems := by
    cases table <;> decide
  exact none _ graded

theorem count_failure_ends {table : WalkedTable} {image : Image} {data : Bytes}
    {ending : List Finding} {severity : Severity} {problem detail : String}
    (count : problem ∈ countProblems)
    (found : .failure severity problem detail ∈ table.findings image data ending) :
    .failure severity problem detail ∈ ending := by
  simp only [findings, List.mem_append, List.mem_flatMap] at found
  obtain (((found | found) | ⟨record, -, found⟩) | found) | found := found
  · have graded := admission_reports image _ _ _ _ _ _ found
    have none : ∀ grade ∈ Admission.grades, grade.2 ∉ countProblems := by decide
    exact absurd count (none _ graded)
  · exact absurd count (table.graded_not_count (table.fixed_part_grade found))
  · exact absurd count (table.graded_not_count (table.record_reports record _ _ _ found))
  · exact found
  · obtain ⟨other, same⟩ := output_failure found
    cases same
    exact absurd count (by decide)

theorem broken_uncounted {table : WalkedTable} {image : Image} {data : Bytes} {error : WalkError}
    {ending : List Finding} (ends : table.Ends data (.error error) ending) :
    Uncounted (table.findings image data ending) := by
  intro severity problem detail found count
  have last := count_failure_ends count found
  cases ends with
  | broken _ _ structural =>
      cases List.mem_singleton.mp last
      have none : ∀ suffix ∈ structuralProblems, suffix ∉ countProblems := by decide
      exact none _ structural count

end WalkedTable

theorem walk_report_in_stages {data : Bytes} {address ordinal : Nat} {image : Image}
    {admitted : Admitted} (table : WalkedTable)
    (loaded : Image.ofBytes data address ordinal = .ok image)
    (admission : (table.admission image).result = .ok (some admitted))
    (reached : table.Reaches data) (report : Report) :
    ∃ ending, table.Ends data (table.course data).outcome ending ∧
      (let outcomes := report.outcomes ++
          (table.findings image data ending).map (Finding.outcome table.label)
       (table.check.apply image report).value.outcomes = outcomes ++ verdict table.label outcomes) ∧
      (∀ finding ∈ table.outputs (table.course data),
        ∃ detail, finding = .failure .high "BadOutputNode" detail) ∧
      ∀ error, (table.course data).outcome = .error error →
        WalkedTable.Uncounted (table.findings image data ending) := by
  have fields := loaded_of_bytes loaded
  obtain ⟨read, -, -, present, whole⟩ := accepts_of_admission admission
  rw [Image.header, reader_of_loaded fields, Reader.header_ok_iff] at read
  rw [reader_of_loaded fields] at present whole
  have revised : admitted.header.revision = data.number 8 1 := by
    have fits : 36 ≤ (seen data).length := read.fits
    exact read.revision.trans (seen_number (by omega))
  rw [fields.revision] at present
  obtain ⟨ending, ends, body⟩ := table.body_walks admitted.header revised present reached
  rw [WalkedTable.body, ← fields.revision] at body
  have audit : (table.check.audit image).Gives (table.findings image data ending) () := by
    have admits : (table.admission image).Gives (table.admission image).findings
      (some ⟨admitted.header, ⟨seen data, 0⟩⟩) := ⟨rfl, by rw [admission, ← whole]⟩
    have order : table.findings image data ending = (table.admission image).findings ++
        (table.fixedPart data ++ (table.course data).records.flatMap table.recordFindings ++
          ending ++ table.outputs (table.course data)) := by
      simp only [WalkedTable.findings, List.append_assoc]
    rw [order]
    exact gives_bind admits body
  refine ⟨ending, ends, ?_, fun finding => WalkedTable.output_failure, ?_⟩
  · rw [Check.apply, contain_of_gives audit]
    exact conclude_outcomes _ _
  · intro error failed
    rw [failed] at ends
    exact WalkedTable.broken_uncounted ends

-- An endpoint without its IOMMU, and then two bytes that are too few for a node.
def straysBehindEndpoint : Bytes := [
  0x56, 0x49, 0x4F, 0x54, 74, 0, 0, 0, 0, 0, 0, 0, 0, 0, 0, 0, 0, 0, 0, 0, 0, 0, 0, 0,
  0, 0, 0, 0, 0, 0, 0, 0, 0, 0, 0, 0, 2, 0, 48, 0, 0, 0, 0, 0, 0, 0, 0, 0,
  2, 0, 24, 0, 0, 0, 0, 0, 1, 0, 0, 0, 0, 0, 0, 0, 16, 0, 0, 0, 0, 0, 0, 0,
  3, 0]

theorem walk_report_in_stages_strays_behind_endpoint :
    ∃ image admitted, Image.ofBytes straysBehindEndpoint 0 0 = .ok image ∧
      (WalkedTable.viot.admission image).result = .ok (some admitted) ∧
      WalkedTable.viot.Reaches straysBehindEndpoint ∧
      ∃ detail, (Viot.check.apply image .empty).value.outcomes =
        (WalkedTable.viot.findings image straysBehindEndpoint
          [.failure .critical "TruncatedSubtable" detail]).map (Finding.outcome "VIOT") := by
  have loaded : Image.ofBytes straysBehindEndpoint 0 0 =
      .ok ⟨.viot, 74, 0, straysBehindEndpoint, 0, 0⟩ := rfl
  have reached : WalkedTable.viot.Reaches straysBehindEndpoint := by
    simp only [WalkedTable.Reaches]
    decide
  have failed : (WalkedTable.viot.course straysBehindEndpoint).outcome =
      .error (.headerTruncated 72 (.truncated 72 4 2)) := by cbv
  have admission : (WalkedTable.viot.admission ⟨.viot, 74, 0, straysBehindEndpoint, 0, 0⟩).result =
      .ok (some ⟨Reader.headerOf straysBehindEndpoint (by decide), ⟨straysBehindEndpoint, 0⟩⟩) :=
    rfl
  obtain ⟨ending, ends, report, -, -⟩ :=
    walk_report_in_stages .viot loaded admission reached .empty
  rw [failed] at ends
  cases ends with
  | broken _ detail =>
      have fault : .failure .critical "TruncatedSubtable" detail ∈
          WalkedTable.viot.findings ⟨.viot, 74, 0, straysBehindEndpoint, 0, 0⟩
            straysBehindEndpoint [.failure .critical "TruncatedSubtable" detail] := by
        simp [WalkedTable.findings]
      have named : WalkedTable.viot.label = "VIOT" := by rfl
      simp only [Report.empty, List.nil_append, WalkError.suffix] at report
      rw [no_verdict fault, List.append_nil, named] at report
      exact ⟨_, _, loaded, admission, reached, detail, report⟩

end AcpiAudit
