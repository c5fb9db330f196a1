import AcpiAudit.Proofs.Audit.Finishing
import AcpiAudit.Proofs.Checks.Ibft

set_option autoImplicit false

namespace AcpiAudit

open Audit

namespace Apmt

theorem node_result (node : Record) : (auditNode node).result = .ok () := by
  by_cases length : node.length = 56
  · have room : node.reader.limit = 56 := length
    simp (disch := omega) [auditNode, auditBases, Reader.u8, Reader.u32, Reader.u64,
      Reader.number_of_fits]
  · simp [auditNode, passed_iff (Rule.equals_decides _ _), nodeSize, length]

end Apmt

namespace Viot

theorem content_result (node : Record) (type : NodeType) (length : node.length = type.length) :
    (auditContent node type).result = .ok () := by
  cases type with
  | pciRange =>
      have room : node.reader.limit = 24 := length
      simp (disch := omega) [auditContent, auditPciRange, Reader.u16, Reader.number_of_fits,
        Reader.read_of_fits]
  | mmioEndpoint =>
      have room : node.reader.limit = 24 := length
      simp (disch := omega) [auditContent, auditMmioEndpoint, Reader.u64, Reader.number_of_fits,
        Reader.read_of_fits]
  | virtioPciIommu =>
      have room : node.reader.limit = 16 := length
      simp (disch := omega) [auditContent, auditVirtioPciIommu, Reader.read_of_fits]
  | virtioMmioIommu =>
      have room : node.reader.limit = 16 := length
      simp (disch := omega) [auditContent, auditVirtioMmioIommu, Reader.u32, Reader.u64,
        Reader.number_of_fits]

theorem node_result {node : Record} (header : 4 ≤ node.length) :
    (auditNode node).result = .ok () := by
  have room : 4 ≤ node.reader.limit := header
  cases named : NodeType.ofKind? node.kind with
  | none => simp (disch := omega) [auditNode, named, Reader.u8, Reader.number_of_fits]
  | some type =>
      by_cases length : node.length = type.length
      · simp (disch := omega) [auditNode, named, Reader.u8, Reader.number_of_fits,
          content_result node type length]
      · simp (disch := omega) [auditNode, named, Reader.u8, Reader.number_of_fits,
          passed_iff (Rule.equals_decides _ _), length]

end Viot

namespace Gtdt

theorem watchdog_result (watchdog : Record) : (auditWatchdog watchdog).result = .ok () := by
  by_cases length : watchdog.length = 28
  · have room : watchdog.reader.limit = 28 := length
    simp (disch := omega) [auditWatchdog, Reader.u8, Reader.u32, Reader.number_of_fits]
  · simp [auditWatchdog, passed_iff (Rule.equals_decides _ _), watchdogSize, length]

theorem entry_result {entry : Reader} (index : Nat) (room : 40 ≤ entry.limit) :
    (auditEntry index entry).result = .ok () := by
  simp (disch := omega) [auditEntry, Reader.u8, Reader.u32, Reader.number_of_fits,
    Reader.read_of_fits]

theorem entries_result (block : Record) (count start : Nat) :
    (auditEntries block count start).result = .ok () := by
  unfold auditEntries
  split
  · next entries found =>
      obtain ⟨fits, rfl⟩ := (Reader.window_ok_iff _ _ _ _).mp found
      have size : (block.reader.bytes.slice start (count * entrySize)).length = count * entrySize :=
        Bytes.length_slice_of_fits fits
      apply result_for_each
      intro index member
      have below : index < count := List.mem_range.mp member
      have inside : index * entrySize + entrySize ≤ count * entrySize := by
        simp only [entrySize]
        omega
      have room := Nat.le_trans inside (Nat.le_of_eq size.symm)
      rw [result_bind, result_lift, Reader.window_of_fits room, ok_bind]
      exact entry_result index (Nat.le_of_eq (Bytes.length_slice_of_fits room).symm)
  · rfl

theorem block_result (block : Record) : (auditBlock block).result = .ok () := by
  by_cases long : 20 ≤ block.length
  · have room : 20 ≤ block.reader.limit := long
    simp (disch := omega) [auditBlock, Reader.u8, Reader.u32, Reader.number_of_fits, entries_result]
  · simp [auditBlock, passed_iff (Rule.at_least_decides _ _), blockHeaderSize, long]

theorem timer_result (timer : Record) : (auditTimer timer).result = .ok () := by
  unfold auditTimer
  split
  · exact block_result timer
  · exact watchdog_result timer
  · rfl

end Gtdt

namespace Nfit

variable {entry : Record}

theorem range_result (entry : Record) : (auditRange entry).result = .ok () := by
  by_cases length : entry.length ∈ [56, 64]
  · have least : 56 ≤ entry.length := by
      simp only [List.mem_cons, List.not_mem_nil, or_false] at length
      omega
    have room : 56 ≤ entry.reader.limit := least
    simp (disch := omega) [auditRange, auditRangeType, Reader.u16, Reader.u32, Reader.u64,
      Reader.number_of_fits, Reader.guid_of_fits]
  · simp [auditRange, passed_iff (Rule.one_of_decides _ _), length]

theorem mapping_result (entry : Record) : (auditMapping entry).result = .ok () := by
  by_cases length : entry.length = 48
  · have room : entry.reader.limit = 48 := length
    simp (disch := omega) [auditMapping, lengthIs, Reader.u16, Reader.number_of_fits]
  · simp [auditMapping, lengthIs, passed_iff (Rule.equals_decides _ _), length]

theorem interleave_result (entry : Record) : (auditInterleave entry).result = .ok () := by
  by_cases long : 16 ≤ entry.length
  · have room : 16 ≤ entry.reader.limit := long
    simp (disch := omega) [auditInterleave, lengthAtLeast, auditLength, lengthIs, Reader.u16,
      Reader.u32, Reader.number_of_fits]
  · simp [auditInterleave, lengthAtLeast, passed_iff (Rule.at_least_decides _ _), long]

theorem management_result (entry : Record) : (auditManagement entry).result = .ok () := by
  by_cases long : 8 ≤ entry.length
  · have room : 8 ≤ entry.reader.limit := long
    simp (disch := omega) [auditManagement, lengthAtLeast, Reader.u32, Reader.number_of_fits]
  · simp [auditManagement, lengthAtLeast, passed_iff (Rule.at_least_decides _ _), long]

theorem flush_hints_result (entry : Record) : (auditFlushHints entry).result = .ok () := by
  by_cases long : 16 ≤ entry.length
  · have room : 16 ≤ entry.reader.limit := long
    simp (disch := omega) [auditFlushHints, lengthAtLeast, auditLength, lengthIs, Reader.u16,
      Reader.number_of_fits, Reader.read_of_fits]
  · simp [auditFlushHints, lengthAtLeast, passed_iff (Rule.at_least_decides _ _), long]

theorem capabilities_result (entry : Record) : (auditCapabilities entry).result = .ok () := by
  by_cases length : entry.length = 16
  · have room : entry.reader.limit = 16 := length
    simp (disch := omega) [auditCapabilities, lengthIs, Reader.u32, Reader.number_of_fits,
      Reader.read_of_fits]
  · simp [auditCapabilities, lengthIs, passed_iff (Rule.equals_decides _ _), length]

theorem structure_result (entry : Record) : (auditStructure entry).result = .ok () := by
  unfold auditStructure
  split
  · exact range_result entry
  · exact mapping_result entry
  · exact interleave_result entry
  · exact management_result entry
  · rfl
  · rfl
  · exact flush_hints_result entry
  · exact capabilities_result entry
  · rfl

end Nfit

namespace Pcct

theorem start_result {subspace : Record} (room : 62 ≤ subspace.reader.limit) :
    (auditStart subspace).result = .ok () := by
  unfold auditStart
  simp (disch := omega) [Reader.u8, Reader.number_of_fits, Reader.read_of_fits]

theorem listed_room {kind length : Nat} (listed : subspaceLength? kind = some length) :
    62 ≤ length ∧ (kind = 2 → 90 ≤ length) := by
  unfold subspaceLength? at listed
  split at listed <;> cases listed <;> decide

theorem acknowledge_result {subspace : Record}
    (room : subspace.kind = 2 → 90 ≤ subspace.reader.limit) :
    (auditAcknowledge subspace).result = .ok () := by
  by_cases acknowledged : subspace.kind = 2
  · have inside := room acknowledged
    simp (disch := omega) [auditAcknowledge, acknowledged, auditRegister, Reader.register_of_fits]
  · simp [auditAcknowledge, acknowledged]

theorem subspace_result (subspace : Record) : (auditSubspace subspace).result = .ok () := by
  cases listed : subspaceLength? subspace.kind with
  | none => simp [auditSubspace, listed]
  | some expected =>
      by_cases length : subspace.length = expected
      · obtain ⟨least, acknowledged⟩ := listed_room listed
        have room : subspace.reader.limit = expected := length
        simp (disch := omega) [auditSubspace, listed, start_result, auditDoorbell, auditRegister,
          Reader.register_of_fits, acknowledge_result]
      · simp [auditSubspace, listed, passed_iff (Rule.equals_decides _ _), length]

end Pcct

namespace Ibft

theorem string_result {record : Record} (table : Reader) {place : Nat} (name : String)
    (room : place + 4 ≤ record.reader.limit) :
    (auditString table record place name).result = .ok () := by
  have length : record.reader.u16 place = .ok (record.bytes.number place 2) :=
    Reader.number_of_fits (by omega)
  have offset : record.reader.u16 (place + 2) = .ok (record.bytes.number (place + 2) 2) :=
    Reader.number_of_fits (by omega)
  simp only [auditString, length, offset, result_bind, result_lift, ok_bind, result_ite]
  split
  · rfl
  · split <;> rfl

theorem content_result {record : Record} (table : Reader) {slot : Slot}
    (length : record.length = slot.length) : (auditContent table record slot).result = .ok () := by
  cases slot with
  | initiator =>
      have room : record.reader.limit = 74 := length
      exact string_result table _ (by omega)
  | nic number =>
      have room : record.reader.limit = 102 := length
      simp (disch := omega) [auditContent, auditNic, Reader.u8, Reader.number_of_fits,
        string_result]
  | target number =>
      have room : record.reader.limit = 54 := length
      simp (disch := omega) [auditContent, auditTarget, Reader.u8, Reader.number_of_fits,
        string_result]

theorem number_result {record : Record} (slot : Slot) (room : 6 ≤ record.reader.limit) :
    (auditNumber slot record).result = .ok () := by
  cases numbered : slot.number? <;>
    simp (disch := omega) [auditNumber, numbered, Reader.u8, Reader.number_of_fits]

theorem record_result (table : Reader) (slot : Slot) (record : Record) :
    (auditRecord table slot record).result = .ok () := by
  by_cases length : record.length = slot.length
  · have least : 6 ≤ slot.length := slot_length_ge slot
    have room : 6 ≤ record.reader.limit := Nat.le_trans least (Nat.le_of_eq length.symm)
    simp (disch := omega) [auditRecord, auditFields, Reader.u8, Reader.number_of_fits,
      number_result slot room, content_result table length]
  · simp [auditRecord, passed_iff (Rule.equals_decides _ _), length]

theorem slot_result (table : Reader) (slot : Slot) (pointer : Nat) :
    (auditSlot table slot pointer).result = .ok () := by
  unfold auditSlot
  split
  · rfl
  · simp only [Reader.locate]
    cases table.recordAt layout pointer with
    | error error => simp [reportDefect, find]
    | ok record => simp [record_result]

theorem control_result {control : Record} (long : 6 ≤ control.length) :
    (auditControl control).result = .ok ((Rule.equals control.kind controlId).isPassed &&
      (Rule.atLeast control.length leastControlLength).isPassed) := by
  have room : 6 ≤ control.reader.limit := long
  simp (disch := omega) [auditControl, Reader.u8, Reader.number_of_fits]

-- The header is there, and the field behind it is the first that may be missing.
theorem control_truncated {control : Record} (short : control.length = 4 ∨ control.length = 5) :
    (auditControl control).result = .error (.truncated control.length 1 0) := by
  cases short with
  | inl four =>
      have room : control.reader.limit = 4 := four
      have beyond : Reader.number control.reader 4 1 = .error (.truncated 4 1 0) := by
        rw [Reader.number_beyond (by omega), room]
      simp (disch := omega) [auditControl, Reader.u8, Reader.number_of_fits, beyond, four]
  | inr five =>
      have room : control.reader.limit = 5 := five
      have beyond : Reader.number control.reader 5 1 = .error (.truncated 5 1 0) := by
        rw [Reader.number_beyond (by omega), room]
      simp (disch := omega) [auditControl, Reader.u8, Reader.number_of_fits, beyond, five]

theorem pointer_read {control : Record} {position : Nat}
    (inside : position < (slots control).length) :
    control.reader.u16 (firstPointer + 2 * position) = .ok (slots control)[position].2 := by
  have listed : position < (Bytes.words (control.bytes.drop firstPointer)).length := by
    simp only [slots, List.length_zip] at inside
    omega
  obtain ⟨room, word⟩ := Bytes.words_at listed
  have fits : firstPointer + 2 * position + 2 ≤ control.reader.limit := by
    rw [List.length_drop] at room
    simp only [Record.reader, Reader.limit]
    omega
  have same : (slots control)[position].2 =
      control.bytes.number (firstPointer + 2 * position) 2 := by
    rw [← Bytes.number_drop, ← word]
    simp only [slots, List.getElem_zip]
  rw [same]
  exact Reader.number_of_fits fits

section Body

variable {data : Bytes}

structure EndsEarly (data : Bytes) : Prop where
  inside : 48 + data.number 50 2 ≤ (seen data).length
  early : data.number 50 2 = 4 ∨ data.number 50 2 = 5

theorem located_length {control : Record}
    (found : Reader.recordAt ⟨seen data, 0⟩ layout controlOffset = .ok control) :
    48 + control.length ≤ (seen data).length ∧ 4 ≤ control.length ∧
      control.length = data.number 50 2 := by
  obtain ⟨cut, offset, -⟩ := (Reader.record_at_ok_iff _ _ _ _).mp found
  have place : control.offset = 48 := offset
  have inside : 48 + control.length ≤ (seen data).length := place ▸ cut.inside
  have header : 4 ≤ control.length := cut.header
  refine ⟨inside, header, ?_⟩
  rw [cut_measure cut, place]

theorem body_from_control (header : Header) (fits : 48 ≤ (seen data).length) :
    (body ⟨header, ⟨seen data, 0⟩⟩).result =
      match Reader.recordAt ⟨seen data, 0⟩ layout controlOffset with
      | .error _ => .ok ()
      | .ok control => (auditControl control).result >>= fun _ => .ok () := by
  have reserved : Reader.read ⟨seen data, 0⟩ Header.size 12 = .ok ((seen data).slice 36 12) :=
    Reader.read_of_fits fits
  simp only [body, result_bind, result_lift, reserved, ok_bind, result_expect, Reader.locate]
  cases Reader.recordAt ⟨seen data, 0⟩ layout controlOffset with
  | error error => rfl
  | ok control =>
      simp only [result_bind, result_log, ok_bind, result_pure, result_ite]
      congr 1
      funext followed
      split
      · exact result_for_each fun entry _ => slot_result _ entry.1 entry.2
      · rfl

theorem body_finishes (header : Header) (fits : 48 ≤ (seen data).length)
    (whole : ¬ EndsEarly data) : (body ⟨header, ⟨seen data, 0⟩⟩).result = .ok () := by
  rw [body_from_control header fits]
  split
  · rfl
  · next control found =>
      obtain ⟨inside, least, measured⟩ := located_length found
      have long : 6 ≤ control.length := by
        by_contra short
        exact whole ⟨by omega, by omega⟩
      rw [control_result long]
      rfl

theorem body_truncated (header : Header) (fits : 48 ≤ (seen data).length)
    (ends : EndsEarly data) :
    (body ⟨header, ⟨seen data, 0⟩⟩).result = .error (.truncated (data.number 50 2) 1 0) := by
  obtain ⟨inside, early⟩ := ends
  obtain ⟨control, cut, place, index⟩ := structure_at inside (by omega) rfl
  have found := (Reader.record_at_ok_iff ⟨seen data, 0⟩ layout controlOffset control).mpr
    ⟨cut, place, index⟩
  obtain ⟨-, -, measured⟩ := located_length found
  rw [body_from_control header fits, found, ← measured]
  simp only [control_truncated (measured ▸ early), error_bind]

end Body

end Ibft

end AcpiAudit
