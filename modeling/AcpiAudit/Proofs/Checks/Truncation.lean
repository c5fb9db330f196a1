import AcpiAudit.Proofs.Audit.Verdict
import AcpiAudit.Proofs.Checks.Bounds
import AcpiAudit.Proofs.Checks.Stages

set_option autoImplicit false

namespace AcpiAudit

open Audit

def Finding.problem? : Finding → Option String
  | .failure _ problem _ => some problem
  | .warning _ => none
  | .note _ => none

def Report.codes (report : Report) : List String := report.outcomes.filterMap Outcome.code?

theorem outcome_code (label : String) (finding : Finding) :
    (finding.outcome label).code? = finding.problem?.map (label ++ ·) := by
  cases finding <;> rfl

theorem apply_codes (check : Check) (image : Image) :
    (check.apply image .empty).value.codes =
      ((contain (check.audit image)).findings.filterMap Finding.problem?).map
        (check.label ++ ·) := by
  have closed : (verdict check.label (check.outcomes image)).filterMap Outcome.code? = [] := by
    unfold verdict
    split <;> rfl
  rw [Report.codes, apply_outcomes, List.filterMap_append, closed, List.append_nil, Check.outcomes,
    List.filterMap_map, List.map_filterMap]
  congr
  funext finding
  exact outcome_code check.label finding

theorem label_cancel (label : String) : Function.Injective (label ++ · : String → String) := by
  intro one other same
  simpa using same

def readProblems : List String := readGrades.map Prod.snd

def Unread (findings : List Finding) : Prop :=
  ∀ severity problem detail, .failure severity problem detail ∈ findings → problem ∉ readProblems

theorem unread_nil : Unread [] := by
  intro severity problem detail member
  cases member

theorem unread_append {one other : List Finding} (first : Unread one) (second : Unread other) :
    Unread (one ++ other) := by
  intro severity problem detail member
  cases List.mem_append.mp member with
  | inl member => exact first severity problem detail member
  | inr member => exact second severity problem detail member

theorem unread_of_reports {α : Type} {audit : Audit α} {grades : Grades}
    (reports : audit.Reports grades) (apart : ∀ grade ∈ grades, grade.2 ∉ readProblems) :
    Unread audit.findings := by
  intro severity problem detail member
  exact apart _ (reports severity problem detail member)

theorem unread_codes {findings : List Finding} (unread : Unread findings) (label : String)
    {problem : String} (read : problem ∈ readProblems) :
    label ++ problem ∉ (findings.filterMap Finding.problem?).map (label ++ ·) := by
  intro member
  obtain ⟨other, listed, same⟩ := List.mem_map.mp member
  cases label_cancel label same
  obtain ⟨finding, found, named⟩ := List.mem_filterMap.mp listed
  cases finding with
  | failure severity _ detail =>
      cases named
      exact unread severity problem detail found read
  | warning detail => cases named
  | note detail => cases named

structure Audit.ReadsThrough (audit : Audit Unit) : Prop where
  finished : audit.result = .ok ()
  unread : Unread audit.findings

theorem reads_of_gives {audit : Audit Unit} {found : List Finding} (gives : audit.Gives found ())
    (unread : Unread found) : audit.ReadsThrough :=
  ⟨gives.result, gives.findings ▸ unread⟩

theorem bind_reads {α : Type} {first : Audit α} {next : α → Audit Unit} {value : α}
    (reads : first.result = .ok value) (unread : Unread first.findings)
    (rest : (next value).ReadsThrough) : (first >>= next).ReadsThrough :=
  reads_of_gives (gives_bind ⟨rfl, reads⟩ ⟨rfl, rest.finished⟩) (unread_append unread rest.unread)

namespace WalkedTable

def ReadsFixedPart : WalkedTable → Bytes → Prop
  | apmt, _ => True
  | gtdt, data => (Gtdt.auditFixedPart ⟨seen data, 0⟩ (data.number 8 1)).result =
      .ok ⟨data.number 88 4, data.number 92 4⟩
  | nfit, data => (Nfit.auditFixedPart ⟨seen data, 0⟩).result = .ok ()
  | pcct, data => (Pcct.auditFixedPart ⟨seen data, 0⟩).result = .ok ()
  | viot, data => (Viot.auditFixedPart ⟨seen data, 0⟩).result =
      .ok ⟨data.number 36 2, data.number 38 2⟩

structure ReadsInside (table : WalkedTable) (data : Bytes) : Prop where
  fixedPart : table.ReadsFixedPart data
  records : ∀ record ∈ (table.course data).records, (table.auditRecord record).result = .ok ()
  outputs : ∀ node, Viot.isSoundEndpoint node = true →
    node.reader.u16 16 = .ok (Viot.outputNode node)

variable {data : Bytes}

theorem fixed_part_reads (table : WalkedTable)
    (fits : table.check.fixedSize (data.number 8 1) ≤ (seen data).length) :
    table.ReadsFixedPart data := by
  cases table with
  | apmt => trivial
  | gtdt => exact gtdt_run fits
  | nfit =>
      have room : 40 ≤ Reader.limit ⟨seen data, 0⟩ := fits
      simp (disch := omega) [ReadsFixedPart, Nfit.auditFixedPart, Reader.u32, Header.size,
        Reader.number_of_fits]
  | pcct =>
      have room : 48 ≤ Reader.limit ⟨seen data, 0⟩ := fits
      simp (disch := omega) [ReadsFixedPart, Pcct.auditFixedPart, Reader.u32, Reader.u64,
        Reader.number_of_fits]
  | viot => exact viot_run fits

theorem record_reads (table : WalkedTable) {record : Record}
    (member : record ∈ (table.course data).records) :
    (table.auditRecord record).result = .ok () := by
  cases table with
  | apmt => exact Apmt.node_result record
  | gtdt => exact Gtdt.timer_result record
  | nfit => exact Nfit.structure_result record
  | pcct => exact Pcct.subspace_result record
  | viot =>
      have told : Reader.limit ⟨seen data, 0⟩ ≤ greatestOffset := seen_told data
      have follows := reader_course_follows (viot.layout) (viot.start data) told
      exact Viot.node_result (follows.tiling.cut record member).header

theorem output_reads {node : Record} (endpoint : Viot.isSoundEndpoint node = true) :
    node.reader.u16 16 = .ok (Viot.outputNode node) := by
  cases sound : Viot.soundType? node with
  | none => simp [Viot.isSoundEndpoint, sound] at endpoint
  | some type =>
      obtain ⟨-, length⟩ := Option.filter_eq_some_iff.mp sound
      have room : node.reader.limit = type.length := beq_iff_eq.mp length
      have long : type.length = 24 := by
        cases type <;> simp_all [Viot.isSoundEndpoint, Viot.NodeType.isIommu, Viot.NodeType.length]
      exact Reader.number_of_fits (by omega)

theorem reads_inside (table : WalkedTable)
    (fits : table.check.fixedSize (data.number 8 1) ≤ (seen data).length) :
    table.ReadsInside data :=
  ⟨table.fixed_part_reads fits, fun _ => table.record_reads, fun _ => output_reads⟩

theorem fixed_part_unread (table : WalkedTable)
    (fits : table.check.fixedSize (data.number 8 1) ≤ (seen data).length) :
    Unread (table.fixedPart data) := by
  have reads := table.fixed_part_reads fits
  cases table with
  | apmt => exact unread_nil
  | gtdt => exact unread_of_reports (Gtdt.fixed_part_reports _ _) (by decide)
  | nfit =>
      rw [fixedPart, contain_finished reads]
      exact unread_of_reports (Nfit.fixed_part_reports _) (by decide)
  | pcct =>
      rw [fixedPart, contain_finished reads]
      exact unread_of_reports (Pcct.fixed_part_reports _) (by decide)
  | viot => exact unread_of_reports (Viot.fixed_part_reports _) (by decide)

theorem record_unread (table : WalkedTable) {record : Record}
    (member : record ∈ (table.course data).records) : Unread (table.recordFindings record) := by
  rw [recordFindings, contain_finished (table.record_reads member)]
  cases table with
  | apmt => exact unread_of_reports (Apmt.node_reports record) (by decide)
  | gtdt => exact unread_of_reports (Gtdt.timer_reports record) (by decide)
  | nfit => exact unread_of_reports (Nfit.structure_reports record) (by decide)
  | pcct => exact unread_of_reports (Pcct.subspace_reports record) (by decide)
  | viot => exact unread_of_reports (Viot.node_reports record) (by decide)

theorem ending_unread {table : WalkedTable} {outcome : Except WalkError Extent}
    {ending : List Finding} (ends : table.Ends data outcome ending) : Unread ending := by
  intro severity problem detail member
  cases ends with
  | broken error _ structural =>
      have apart : ∀ suffix ∈ structuralProblems, suffix ∉ readProblems := by decide
      cases List.mem_singleton.mp member
      exact apart _ structural
  | counted => cases member
  | miscounted _ _ _ _ _ named =>
      cases List.mem_singleton.mp member
      cases table <;> cases named <;> decide

theorem output_unread (table : WalkedTable) (course : Course) : Unread (table.outputs course) := by
  intro severity problem detail member
  obtain ⟨other, same⟩ := output_failure member
  cases same
  decide

theorem body_stops (table : WalkedTable) (header : Header)
    (revised : header.revision = data.number 8 1)
    (fits : table.check.fixedSize (data.number 8 1) ≤ (seen data).length)
    (unreached : ¬ table.Reaches data) :
    (table.body data header).ReadsThrough := by
  obtain ⟨stop, within, gives⟩ := table.unreached_gives header revised fits unreached
  have unread : Unread (find stop).findings := unread_of_reports within (by decide)
  exact reads_of_gives gives (unread_append (table.fixed_part_unread fits) unread)

theorem body_reads (table : WalkedTable) (header : Header)
    (revised : header.revision = data.number 8 1)
    (fits : table.check.fixedSize (data.number 8 1) ≤ (seen data).length) :
    (table.body data header).ReadsThrough := by
  by_cases reached : table.Reaches data
  · obtain ⟨ending, ends, gives⟩ := table.body_walks header revised fits reached
    have records : Unread ((table.course data).records.flatMap table.recordFindings) := by
      intro severity problem detail member
      obtain ⟨record, inside, found⟩ := List.mem_flatMap.mp member
      exact table.record_unread inside severity problem detail found
    have walked := unread_append (table.fixed_part_unread fits) records
    exact reads_of_gives gives
      (unread_append (unread_append walked (ending_unread ends)) (table.output_unread _))
  · exact table.body_stops header revised fits reached

end WalkedTable

structure Ibft.ReadsInside (data : Bytes) : Prop where
  pointers : ∀ control position (inside : position < (slots control).length),
    control.reader.u16 (firstPointer + 2 * position) = .ok (slots control)[position].2
  slots : ∀ slot pointer, (auditSlot ⟨seen data, 0⟩ slot pointer).result = .ok ()
  strings : ∀ slot record, record.length = slot.length →
    (auditContent ⟨seen data, 0⟩ record slot).result = .ok ()

theorem Ibft.reads_inside (data : Bytes) : Ibft.ReadsInside data :=
  ⟨fun _ _ => pointer_read, slot_result _, fun _ _ => content_result _⟩

def Check.admission (check : Check) (image : Image) : Audit (Option Admitted) :=
  Image.admission image check.label check.signature (check.fixedSize image.revision)

section Report

variable {data : Bytes} {image : Image} {check : Check} {admitted : Admitted}

theorem admission_unread (check : Check) (image : Image) :
    Unread (check.admission image).findings :=
  unread_of_reports (admission_reports image _ _ _) (by decide)

theorem admission_refuses_or_accepts (check : Check) (image : Image) :
    (check.admission image).result = .ok none ∨
      ∃ admitted, (check.admission image).result = .ok (some admitted) := by
  have ends := admission_ends image check.label check.signature (check.fixedSize image.revision)
  cases ends with
  | refused gives =>
      obtain ⟨problem, detail, gives⟩ := gives
      exact .inl gives.result
  | accepted admitted accepts gives => exact .inr ⟨admitted, gives.result⟩

theorem refused_reads (refused : (check.admission image).result = .ok none) :
    (check.audit image).ReadsThrough :=
  bind_reads refused (admission_unread check image) (reads_of_gives (gives_pure ()) unread_nil)

theorem accepted_reads (accepted : (check.admission image).result = .ok (some admitted))
    (body : (check.body (check.fixedSize image.revision) admitted).ReadsThrough) :
    (check.audit image).ReadsThrough :=
  bind_reads accepted (admission_unread check image) body

theorem accepted_table (loaded : image.LoadedFrom data)
    (accepted : (check.admission image).result = .ok (some admitted)) :
    admitted = ⟨admitted.header, ⟨seen data, 0⟩⟩ ∧ admitted.header.revision = data.number 8 1 ∧
      check.fixedSize (data.number 8 1) ≤ (seen data).length := by
  obtain ⟨read, -, -, present, whole⟩ := accepts_of_admission accepted
  rw [Image.header, reader_of_loaded loaded, Reader.header_ok_iff] at read
  rw [reader_of_loaded loaded] at present whole
  rw [loaded.revision] at present
  have fits : 36 ≤ (seen data).length := read.fits
  exact ⟨whole, read.revision.trans (seen_number (by omega)), present⟩

theorem accepted_body {table : WalkedTable} (loaded : image.LoadedFrom data)
    (accepted : (table.check.admission image).result = .ok (some admitted)) :
    table.check.body (table.check.fixedSize image.revision) admitted =
      table.body data admitted.header := by
  obtain ⟨whole, -, -⟩ := accepted_table loaded accepted
  rw [WalkedTable.body, loaded.revision, ← whole]

theorem accepted_signature (loaded : image.LoadedFrom data)
    (accepted : (check.admission image).result = .ok (some admitted)) :
    image.signature = check.signature := by
  obtain ⟨read, named, -, -, -⟩ := accepts_of_admission accepted
  have heads := read
  rw [Image.header, reader_of_loaded loaded, Reader.header_ok_iff] at heads
  obtain ⟨header, found, signature, -, -⟩ := header_of_loaded loaded heads.fits
  rw [read] at found
  cases found
  exact signature.symm.trans named

theorem admission_of_room (loaded : image.LoadedFrom data)
    (named : image.signature = check.signature)
    (room : Header.size ≤ check.fixedSize image.revision)
    (present : check.fixedSize image.revision ≤ (seen data).length) :
    ∃ admitted, (check.admission image).result = .ok (some admitted) := by
  obtain ⟨header, read, signature, length, -⟩ :=
    header_of_loaded loaded (Nat.le_trans room present)
  have declared : check.fixedSize image.revision ≤ header.length := by
    have counted := seen_length data
    omega
  have visible : check.fixedSize image.revision ≤ image.reader.limit := by
    rw [reader_of_loaded loaded]
    exact present
  have accepts : Admission.Accepts image check.signature (check.fixedSize image.revision)
      ⟨header, image.reader⟩ := ⟨read, signature.trans named, declared, visible, rfl⟩
  exact ⟨_, (admission_gives check.label accepts).result⟩

theorem registered_cases (registered : check ∈ Registry.checks) :
    (∃ table : WalkedTable, table.check = check) ∨ check = Ibft.check := by
  simp only [Registry.checks, List.mem_cons, List.not_mem_nil, or_false] at registered
  rcases registered with rfl | rfl | rfl | rfl | rfl | rfl
  · exact .inl ⟨.apmt, rfl⟩
  · exact .inl ⟨.gtdt, rfl⟩
  · exact .inr rfl
  · exact .inl ⟨.nfit, rfl⟩
  · exact .inl ⟨.pcct, rfl⟩
  · exact .inl ⟨.viot, rfl⟩

structure ReadsTooFar (check : Check) (image : Image) (data : Bytes) : Prop where
  named : check.signature = .ibft
  accepted : ∃ admitted, (check.admission image).result = .ok (some admitted)
  control : Ibft.EndsEarly data

theorem audit_reads (registered : check ∈ Registry.checks) (loaded : image.LoadedFrom data)
    (inside : ¬ ReadsTooFar check image data) : (check.audit image).ReadsThrough := by
  rcases admission_refuses_or_accepts check image with refused | ⟨admitted, accepted⟩
  · exact refused_reads refused
  · obtain ⟨whole, revised, fits⟩ := accepted_table loaded accepted
    refine accepted_reads accepted ?_
    rcases registered_cases registered with ⟨table, rfl⟩ | rfl
    · rw [accepted_body loaded accepted]
      exact table.body_reads admitted.header revised fits
    · rw [whole]
      have late : ¬ Ibft.EndsEarly data := fun early => inside ⟨rfl, ⟨admitted, accepted⟩, early⟩
      exact ⟨Ibft.body_finishes admitted.header fits late,
        unread_of_reports (Ibft.body_reports _) (by decide)⟩

theorem audit_truncated (registered : check ∈ Registry.checks) (loaded : image.LoadedFrom data)
    (far : ReadsTooFar check image data) :
    (check.audit image).result = .error (.truncated (data.number 50 2) 1 0) ∧
      Unread (check.audit image).findings := by
  obtain ⟨named, ⟨admitted, accepted⟩, early⟩ := far
  obtain ⟨whole, -, fits⟩ := accepted_table loaded accepted
  rcases registered_cases registered with ⟨table, rfl⟩ | rfl
  · cases table <;> exact absurd named (by decide)
  · have body := Ibft.body_truncated admitted.header fits early
    rw [← whole] at body
    have found : (Ibft.check.audit image).findings =
        (Ibft.check.admission image).findings ++ (Ibft.body admitted).findings :=
      findings_bind accepted
    have ended : (Ibft.check.audit image).result = (Ibft.body admitted).result :=
      (result_bind _ _).trans (by rw [← Check.admission, accepted]; rfl)
    have unread := unread_of_reports (Ibft.body_reports admitted) (by decide)
    rw [found, ended]
    exact ⟨body, unread_append (admission_unread Ibft.check image) unread⟩

theorem codes_of_reads (reads : (check.audit image).ReadsThrough) {problem : String}
    (read : problem ∈ readProblems) :
    check.label ++ problem ∉ (check.apply image .empty).value.codes := by
  rw [apply_codes, contain_finished reads.finished]
  exact unread_codes reads.unread check.label read

theorem codes_of_truncated {offset needed available : Nat}
    (broken : (check.audit image).result = .error (.truncated offset needed available))
    (unread : Unread (check.audit image).findings) :
    let codes := (check.apply image .empty).value.codes
    check.label ++ "NonAsciiField" ∉ codes ∧ codes.count (check.label ++ "TruncatedRead") = 1 := by
  intro codes
  have listed : codes = ((check.audit image).findings.filterMap Finding.problem?).map
      (check.label ++ ·) ++ [check.label ++ "TruncatedRead"] := by
    simp only [codes, apply_codes, contain, broken, List.filterMap_append, List.map_append]
    rfl
  have other : check.label ++ "NonAsciiField" ≠ check.label ++ "TruncatedRead" :=
    fun same => absurd (label_cancel check.label same) (by decide)
  have absent {problem : String} (read : problem ∈ readProblems) :=
    unread_codes unread check.label read
  rw [listed, List.count_append, List.count_eq_zero.mpr (absent (by decide))]
  refine ⟨?_, by simp⟩
  intro member
  cases List.mem_append.mp member with
  | inl member => exact absent (by decide) member
  | inr member => exact other (List.mem_singleton.mp member)

end Report

theorem truncated_read_iff_control_ends_early {data : Bytes} {address ordinal : Nat}
    {image : Image} {check : Check} (registered : check ∈ Registry.checks)
    (loaded : Image.ofBytes data address ordinal = .ok image) :
    let codes := (check.apply image .empty).value.codes
    check.label ++ "NonAsciiField" ∉ codes ∧
      (check.label ++ "TruncatedRead" ∈ codes ↔ ReadsTooFar check image data) ∧
      codes.count (check.label ++ "TruncatedRead") ≤ 1 ∧
      (¬ ReadsTooFar check image data → (check.audit image).result = .ok ()) ∧
      (∀ table : WalkedTable, table.check = check →
        (∃ admitted, (check.admission image).result = .ok (some admitted)) →
        table.ReadsInside data) ∧
      (check = Ibft.check → Ibft.ReadsInside data) := by
  have fields := loaded_of_bytes loaded
  intro codes
  have tables (table : WalkedTable) (same : table.check = check)
      (accepts : ∃ admitted, (check.admission image).result = .ok (some admitted)) :
      table.ReadsInside data := by
    obtain ⟨admitted, accepted⟩ := accepts
    obtain ⟨-, -, fits⟩ := accepted_table fields accepted
    exact table.reads_inside (same ▸ fits)
  by_cases far : ReadsTooFar check image data
  · obtain ⟨broken, unread⟩ := audit_truncated registered fields far
    obtain ⟨plain, once⟩ := codes_of_truncated broken unread
    have reported : check.label ++ "TruncatedRead" ∈ codes :=
      List.count_pos_iff.mp (Nat.lt_of_lt_of_eq Nat.one_pos once.symm)
    exact ⟨plain, iff_of_true reported far, Nat.le_of_eq once, fun near => absurd far near, tables,
      fun _ => Ibft.reads_inside data⟩
  · have reads := audit_reads registered fields far
    have complete : check.label ++ "TruncatedRead" ∉ codes := codes_of_reads reads (by decide)
    have none : codes.count (check.label ++ "TruncatedRead") = 0 := List.count_eq_zero.mpr complete
    exact ⟨codes_of_reads reads (by decide), iff_of_false complete far,
      Nat.le_trans (Nat.le_of_eq none) (Nat.zero_le 1), fun _ => reads.finished, tables,
      fun _ => Ibft.reads_inside data⟩

def endingEarly : Bytes :=
  [0x69, 0x42, 0x46, 0x54, 52, 0, 0, 0, 0, 84] ++ List.replicate 38 0 ++ [1, 1, 4, 0]

-- The header of the control structure is the end of the table.
theorem truncated_read_iff_control_ends_early_at_header :
    let image : Image := ⟨.ibft, 52, 0, endingEarly, 0, 0⟩
    let codes := (Ibft.check.apply image .empty).value.codes
    Image.ofBytes endingEarly 0 0 = .ok image ∧ ReadsTooFar Ibft.check image endingEarly ∧
      "iBFTTruncatedRead" ∈ codes ∧ codes.count "iBFTTruncatedRead" ≤ 1 := by
  intro image codes
  have accepted : (Ibft.check.admission image).result =
      .ok (some ⟨Reader.headerOf (seen endingEarly) (by decide), ⟨seen endingEarly, 0⟩⟩) := by cbv
  have far : ReadsTooFar Ibft.check image endingEarly :=
    ⟨rfl, ⟨_, accepted⟩, by decide, .inl (by decide)⟩
  have registered : Ibft.check ∈ Registry.checks := by simp [Registry.checks]
  have label : Ibft.check.label = "iBFT" := by cbv
  obtain ⟨-, reported, once, -⟩ := truncated_read_iff_control_ends_early registered
    (show Image.ofBytes endingEarly 0 0 = .ok image from rfl)
  rw [label] at reported once
  exact ⟨rfl, far, reported.mpr far, once⟩

end AcpiAudit
