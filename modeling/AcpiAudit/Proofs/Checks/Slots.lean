import AcpiAudit.Proofs.Audit.Trailing
import AcpiAudit.Proofs.Checks.Truncation

set_option autoImplicit false

namespace AcpiAudit.Ibft

open Audit

structure ControlLeads (data : Bytes) : Prop where
  inside : 48 + data.number 50 2 ≤ (seen data).length
  id : data.number 48 1 = 1
  length : 18 ≤ data.number 50 2

structure HasStructure (data : Bytes) (offset : Nat) : Prop where
  header : 4 ≤ data.number (offset + 2) 2
  inside : offset + data.number (offset + 2) 2 ≤ (seen data).length

def reservedFindings (data : Bytes) : List Finding :=
  (expect (Rule.zeroBytes ((seen data).slice 36 12)) .medium "ReservedNonZero" "Reserved").findings

def controlFindings (data : Bytes) : List Finding :=
  match Reader.recordAt ⟨seen data, 0⟩ layout controlOffset with
  | .error error => error.findings
  | .ok control => (contain (auditControl control >>= fun _ => pure ())).findings

def slotFindings (table : Bytes) (slot : Slot) (pointer : Nat) : List Finding :=
  (auditSlot ⟨table, 0⟩ slot pointer).findings

def unalignedFindings (slot : Slot) (pointer : Nat) : List Finding :=
  let place := Hex.text pointer
  if pointer % 8 ≠ 0 then
    [.failure .low "UnalignedStructure"
      s!"{slot.name} structure offset {place} is not 8-byte aligned"]
  else []

def pointers (data : Bytes) : List (Slot × Nat) :=
  [(.initiator, data.number 56 2), (.nic 0, data.number 58 2), (.target 0, data.number 60 2),
    (.nic 1, data.number 62 2), (.target 1, data.number 64 2)]

variable {data : Bytes}

theorem slot_gives (table : Bytes) (slot : Slot) (pointer : Nat) :
    (auditSlot ⟨table, 0⟩ slot pointer).Gives (slotFindings table slot pointer) () :=
  ⟨rfl, slot_result _ slot pointer⟩

theorem stray_slot {table : Bytes} {slot : Slot} {pointer : Nat} (present : pointer ≠ 0)
    {error : WalkError} (failed : Reader.recordAt ⟨table, 0⟩ layout pointer = .error error) :
    slotFindings table slot pointer = unalignedFindings slot pointer ++ error.findings := by
  have located := gives_locate ⟨table, 0⟩ layout pointer
  rw [failed] at located
  rw [slotFindings, auditSlot, if_neg present]
  exact (gives_bind (gives_fail_if _ _ _ _) (gives_bind located (gives_find _))).findings

theorem missing_structure {offset : Nat} (missing : ¬ HasStructure data offset) :
    ∃ problem ∈ WalkedTable.structuralProblems, ∃ detail error,
      Reader.recordAt ⟨seen data, 0⟩ layout offset = .error error ∧
        error.findings = [.failure .critical problem detail] := by
  cases found : Reader.recordAt ⟨seen data, 0⟩ layout offset with
  | ok record =>
      obtain ⟨cut, rfl, -⟩ := (Reader.record_at_ok_iff _ _ _ _).mp found
      have inside : record.offset + record.length ≤ (seen data).length := cut.inside
      have header : 4 ≤ record.length := cut.header
      have measured := cut_measure cut
      exact absurd ⟨measured ▸ header, measured ▸ inside⟩ missing
  | error error =>
      have fault := (Reader.record_at_error_iff _ _ _ _).mp found
      obtain ⟨structural, same⟩ := WalkedTable.fault_findings fault
      exact ⟨error.suffix, structural, _, error, rfl, same⟩

section Body

theorem located_leads {control : Record}
    (found : Reader.recordAt ⟨seen data, 0⟩ layout controlOffset = .ok control) :
    ((Rule.equals control.kind controlId).isPassed &&
      (Rule.atLeast control.length leastControlLength).isPassed) = true ↔ ControlLeads data := by
  obtain ⟨inside, header, measured⟩ := located_length found
  obtain ⟨cut, offset, -⟩ := (Reader.record_at_ok_iff _ _ _ _).mp found
  have place : control.offset = 48 := offset
  have kind : control.kind = data.number 48 1 := place ▸ cut_kind cut
  rw [Bool.and_eq_true, passed_iff (Rule.equals_decides _ _),
    passed_iff (Rule.at_least_decides _ _), kind, measured]
  constructor
  · intro holds
    exact ⟨measured ▸ inside, holds.1, holds.2⟩
  · intro leads
    exact ⟨leads.id, leads.length⟩

theorem leads_located (leads : ControlLeads data) :
    ∃ control, Reader.recordAt ⟨seen data, 0⟩ layout controlOffset = .ok control := by
  have long := leads.length
  obtain ⟨control, cut, place, index⟩ := structure_at leads.inside (by omega) rfl
  exact ⟨control, (Reader.record_at_ok_iff _ _ _ _).mpr ⟨cut, place, index⟩⟩

theorem slots_give {control : Record} (leads : ControlLeads data)
    (found : Reader.recordAt ⟨seen data, 0⟩ layout controlOffset = .ok control) :
    ((slots control).forM fun entry => auditSlot ⟨seen data, 0⟩ entry.1 entry.2).Gives
      ((pointers data).flatMap fun entry => slotFindings (seen data) entry.1 entry.2) () := by
  obtain ⟨cut, place, -⟩ := (Reader.record_at_ok_iff _ _ _ _).mp found
  obtain ⟨-, -, measured⟩ := located_length found
  have long : 18 ≤ control.bytes.length := Nat.le_trans leads.length (Nat.le_of_eq measured.symm)
  rw [slots_of_control cut place long]
  exact gives_for_each fun entry => slot_gives _ entry.1 entry.2

def followControl (control : Record) (follow : Audit Unit) : Audit Unit := do
  if ← auditControl control then follow else return ()

theorem control_followed (leads : ControlLeads data) {control : Record}
    (found : Reader.recordAt ⟨seen data, 0⟩ layout controlOffset = .ok control)
    (follow : Audit Unit) :
    (contain (followControl control follow)).findings =
      controlFindings data ++ (contain follow).findings := by
  obtain ⟨-, -, measured⟩ := located_length found
  have least := leads.length
  have result : (auditControl control).result = .ok true := by
    rw [control_result (by omega), (located_leads found).mpr leads]
  have gives : (auditControl control).Gives (auditControl control).findings true := ⟨rfl, result⟩
  have alone : controlFindings data = (auditControl control).findings := by
    rw [controlFindings, found]
    exact (contain_bind gives).trans (List.append_nil _)
  rw [followControl, contain_bind gives, alone, if_pos rfl]

theorem control_unfollowed (unled : ¬ ControlLeads data) {control : Record}
    (found : Reader.recordAt ⟨seen data, 0⟩ layout controlOffset = .ok control)
    (follow : Audit Unit) :
    (contain (followControl control follow)).findings = controlFindings data := by
  obtain ⟨-, header, -⟩ := located_length found
  simp only [controlFindings, found, followControl]
  by_cases long : 6 ≤ control.length
  · have result : (auditControl control).result = .ok false := by
      rw [control_result long,
        Bool.eq_false_iff.mpr fun led => unled ((located_leads found).mp led)]
    have gives : (auditControl control).Gives (auditControl control).findings false :=
      ⟨rfl, result⟩
    rw [contain_bind gives, contain_bind gives]
    rfl
  · rw [contain_broken (control_truncated (by omega)) _ fun _ => pure ()]

def frontFindings (data : Bytes) : List Finding := reservedFindings data ++ controlFindings data

theorem body_content (header : Header) (fits : 48 ≤ (seen data).length) :
    (contain (body ⟨header, ⟨seen data, 0⟩⟩)).findings = reservedFindings data ++
      match Reader.recordAt ⟨seen data, 0⟩ layout controlOffset with
      | .error error => error.findings
      | .ok control => (contain (followControl control ((slots control).forM fun entry =>
          auditSlot ⟨seen data, 0⟩ entry.1 entry.2))).findings := by
  have read : Reader.read ⟨seen data, 0⟩ Header.size 12 = .ok ((seen data).slice 36 12) :=
    Reader.read_of_fits fits
  have lifted : (liftM (Reader.read ⟨seen data, 0⟩ Header.size 12) : Audit Bytes).Gives []
      ((seen data).slice 36 12) := ⟨rfl, read⟩
  have reserved : (expect (Rule.zeroBytes ((seen data).slice 36 12)) .medium "ReservedNonZero"
      "Reserved").Gives (reservedFindings data) () := gives_find _
  rw [body, contain_bind lifted, contain_bind reserved, List.nil_append,
    contain_bind (gives_locate _ _ _), List.nil_append]
  cases Reader.recordAt ⟨seen data, 0⟩ layout controlOffset with
  | error error => rfl
  | ok control => rfl

theorem content_led (header : Header) (fits : 48 ≤ (seen data).length)
    (leads : ControlLeads data) :
    (contain (body ⟨header, ⟨seen data, 0⟩⟩)).findings = frontFindings data ++
      (pointers data).flatMap fun entry => slotFindings (seen data) entry.1 entry.2 := by
  obtain ⟨control, found⟩ := leads_located leads
  have followed := control_followed leads found
    ((slots control).forM fun entry => auditSlot ⟨seen data, 0⟩ entry.1 entry.2)
  rw [contain_of_gives (slots_give leads found)] at followed
  rw [body_content header fits, found, frontFindings, List.append_assoc, ← followed]

theorem content_unled (header : Header) (fits : 48 ≤ (seen data).length)
    (unled : ¬ ControlLeads data) :
    (contain (body ⟨header, ⟨seen data, 0⟩⟩)).findings = frontFindings data := by
  rw [body_content header fits, frontFindings]
  congr 1
  cases found : Reader.recordAt ⟨seen data, 0⟩ layout controlOffset with
  | error error => rw [controlFindings, found]
  | ok control => exact control_unfollowed unled found _

end Body

section Report

def slotOutcomes (table : Bytes) (slot : Slot) (pointer : Nat) : List Outcome :=
  (slotFindings table slot pointer).map (Finding.outcome "iBFT")

def frontOutcomes (image : Image) (data : Bytes) : List Outcome :=
  ((check.admission image).findings ++ frontFindings data).map (Finding.outcome "iBFT")

variable {image : Image}

theorem front_then_slots (loaded : image.LoadedFrom data) (named : image.signature = .ibft)
    (fits : 48 ≤ (seen data).length) {more : List Finding}
    (content : ∀ header, (contain (body ⟨header, ⟨seen data, 0⟩⟩)).findings =
      frontFindings data ++ more) :
    let outcomes := frontOutcomes image data ++ more.map (Finding.outcome "iBFT")
    (check.apply image .empty).value.outcomes = outcomes ++ verdict "iBFT" outcomes := by
  have room : Header.size ≤ check.fixedSize image.revision := Nat.le_add_right Header.size 12
  have label : check.label = "iBFT" := by cbv
  obtain ⟨admitted, accepted⟩ := admission_of_room loaded named room fits
  obtain ⟨whole, -, -⟩ := accepted_table loaded accepted
  have gives : (check.admission image).Gives (check.admission image).findings (some admitted) :=
    ⟨rfl, accepted⟩
  have outcomes : check.outcomes image =
      frontOutcomes image data ++ more.map (Finding.outcome "iBFT") := by
    rw [accepted_outcomes gives, Check.content, whole, label, frontOutcomes, ← List.map_append,
      ← List.map_append, List.append_assoc]
    exact congrArg _ (congrArg _ (content _))
  rw [apply_outcomes, outcomes, label]

end Report

theorem stray_outcomes {slot : Slot} {pointer : Nat} (present : pointer ≠ 0)
    (missing : ¬ HasStructure data pointer) :
    ∃ problem ∈ WalkedTable.structuralProblems, ∃ detail,
      slotOutcomes (seen data) slot pointer =
        (unalignedFindings slot pointer).map (Finding.outcome "iBFT") ++
          [.failed .critical ("iBFT" ++ problem) ("iBFT " ++ detail)] := by
  obtain ⟨problem, structural, detail, error, failed, found⟩ := missing_structure missing
  refine ⟨problem, structural, detail, ?_⟩
  rw [slotOutcomes, stray_slot present failed, found, List.map_append]
  rfl

theorem slots_are_judged_alone {data : Bytes} {address ordinal : Nat} {image : Image}
    (loaded : Image.ofBytes data address ordinal = .ok image) (named : image.signature = .ibft)
    (fits : 48 ≤ (seen data).length) :
    ∃ report, (Registry.report? image).value = some report ∧
      (let front := frontOutcomes image data
       let slots := (pointers data).flatMap fun entry =>
         slotOutcomes (seen data) entry.1 entry.2
       (ControlLeads data →
          report.outcomes = front ++ slots ++ verdict "iBFT" (front ++ slots)) ∧
        (¬ ControlLeads data → report.outcomes = front ++ verdict "iBFT" front)) ∧
      ∀ slot, slotOutcomes (seen data) slot 0 = [] ∧
        ∀ pointer, pointer ≠ 0 → ¬ HasStructure data pointer →
          ∃ problem ∈ WalkedTable.structuralProblems, ∃ detail,
            slotOutcomes (seen data) slot pointer =
              (unalignedFindings slot pointer).map (Finding.outcome "iBFT") ++
                [.failed .critical ("iBFT" ++ problem) ("iBFT " ++ detail)] := by
  have fields := loaded_of_bytes loaded
  have registered : Registry.find? image.signature = some check := by
    rw [named]
    rfl
  refine ⟨_, registered_report registered, ⟨?_, ?_⟩, ?_⟩
  · intro leads
    have outcomes := front_then_slots fields named fits
      fun header => content_led header fits leads
    rwa [List.map_flatMap] at outcomes
  · intro unled
    have outcomes := front_then_slots fields named fits fun header =>
      (content_unled header fits unled).trans (List.append_nil _).symm
    rwa [List.map_nil, List.append_nil] at outcomes
  · intro slot
    refine ⟨rfl, ?_⟩
    intro pointer present missing
    exact stray_outcomes present missing

-- A pointer to a place behind the table that is not aligned, and behind it one that is.
def strayPointers : Bytes :=
  [0x69, 0x42, 0x46, 0x54, 66, 0, 0, 0] ++ List.replicate 40 0 ++
    [1, 1, 18, 0, 0, 0, 0, 0, 75, 0, 80, 0, 0, 0, 0, 0, 0, 0]

theorem slots_are_judged_alone_stray_pointers :
    ∃ image report, Image.ofBytes strayPointers 0 0 = .ok image ∧ image.signature = .ibft ∧
      48 ≤ (seen strayPointers).length ∧ ControlLeads strayPointers ∧
      ¬ HasStructure strayPointers 75 ∧ ¬ HasStructure strayPointers 80 ∧
      (Registry.report? image).value = some report ∧
      ∃ first detail second text, report.outcomes = frontOutcomes image strayPointers ++
        [.failed .low "iBFTUnalignedStructure"
            "iBFT Initiator structure offset 0x4b is not 8-byte aligned",
          .failed .critical ("iBFT" ++ first) ("iBFT " ++ detail),
          .failed .critical ("iBFT" ++ second) ("iBFT " ++ text)] := by
  have loaded : Image.ofBytes strayPointers 0 0 = .ok ⟨.ibft, 66, 0, strayPointers, 0, 0⟩ := rfl
  have fits : 48 ≤ (seen strayPointers).length := by decide
  have leads : ControlLeads strayPointers := ⟨by decide, by decide, by decide⟩
  have nothing : ¬ HasStructure strayPointers 75 := fun there => absurd there.header (by decide)
  have nothingToo : ¬ HasStructure strayPointers 80 := fun there => absurd there.header (by decide)
  have listed : pointers strayPointers =
      [(.initiator, 75), (.nic 0, 80), (.target 0, 0), (.nic 1, 0), (.target 1, 0)] := by decide
  obtain ⟨report, reported, ⟨led, -⟩, slots⟩ := slots_are_judged_alone loaded rfl fits
  obtain ⟨first, -, detail, initiator⟩ := (slots .initiator).2 75 (by decide) nothing
  obtain ⟨second, -, text, nic⟩ := (slots (.nic 0)).2 80 (by decide) nothingToo
  have unaligned : (unalignedFindings .initiator 75).map (Finding.outcome "iBFT") =
      [.failed .low "iBFTUnalignedStructure"
        "iBFT Initiator structure offset 0x4b is not 8-byte aligned"] := by cbv
  have aligned : (unalignedFindings (.nic 0) 80).map (Finding.outcome "iBFT") = [] := by cbv
  rw [unaligned] at initiator
  rw [aligned] at nic
  have outcomes := led leads
  simp only [listed, List.flatMap_cons, List.flatMap_nil, initiator, nic, (slots _).1,
    List.append_nil, List.nil_append, List.cons_append] at outcomes
  refine ⟨_, report, loaded, rfl, fits, leads, nothing, nothingToo, reported, first, detail,
    second, text, outcomes.trans ?_⟩
  simp [verdict, Outcome.isFailed]

end AcpiAudit.Ibft
