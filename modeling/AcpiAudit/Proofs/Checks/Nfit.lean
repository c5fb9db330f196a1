import AcpiAudit.Proofs.Audit.Acceptance
import AcpiAudit.Proofs.Audit.Walking

set_option autoImplicit false

namespace AcpiAudit.Nfit

open Audit

structure SoundRangeType (entry : Bytes) (type : Guid) : Prop where
  bytes : entry.slice 16 16 = type.bytes.val
  known : type ∈ rangeTypes
  indexed : entry.number 4 2 = 0 → type = controlRegion

-- The length of an entry is the value of its length field, since the walk cuts it by that field.
inductive SoundStructure (entry : Bytes) : Prop where
  | range (kind : entry.number 0 2 = 0) (length : entry.length = 56 ∨ entry.length = 64)
      (flags : ClearBits (entry.number 6 2) 3 15) (reserved : entry.number 8 4 = 0)
      (type : ∃ type, SoundRangeType entry type)
      (cookie : (entry.number 6 2).testBit 2 = true → entry.length = 64)
  | mapping (kind : entry.number 0 2 = 1) (length : entry.length = 48)
      (state : ClearBits (entry.number 44 2) 7 15) (reserved : entry.number 46 2 = 0)
  | interleave (kind : entry.number 0 2 = 2) (length : entry.length = 16 + 4 * entry.number 8 4)
      (reserved : entry.number 6 2 = 0)
  | management (kind : entry.number 0 2 = 3) (length : 8 ≤ entry.length)
      (reserved : entry.number 4 4 = 0)
  | controlRegion (kind : entry.number 0 2 = 4) (length : 32 ≤ entry.length)
  | blockDataWindow (kind : entry.number 0 2 = 5) (length : entry.length = 40)
  | flushHints (kind : entry.number 0 2 = 6) (length : entry.length = 16 + 8 * entry.number 8 2)
      (zeros : (entry.slice 10 6).AllZero)
  | capabilities (kind : entry.number 0 2 = 7) (length : entry.length = 16)
      (zeros : (entry.slice 5 3).AllZero) (bits : ClearBits (entry.number 8 4) 3 31)
      (zero : entry.number 12 4 = 0)

structure SoundBody (data : Bytes) : Prop where
  reserved : data.number 36 4 = 0
  structures : ∃ entries, Partition .kind16Length16 ((seen data).drop 40) entries ∧
    ∀ entry ∈ entries, SoundStructure entry

section Structure

variable {entry : Record}

theorem length_is_passes_iff (expected : Nat) (passed : Bool) :
    (lengthIs entry expected).Passes passed ↔ entry.bytes.length = expected ∧ passed = true :=
  passes_require (Rule.equals_decides _ _) _ _ _ _

theorem length_at_least_passes_iff (minimum : Nat) (passed : Bool) :
    (lengthAtLeast entry minimum).Passes passed ↔
      minimum ≤ entry.bytes.length ∧ passed = true :=
  passes_require (Rule.at_least_decides _ _) _ _ _ _

theorem audit_length_passes_iff (length : Audit Bool) :
    (auditLength length).Passes () ↔ ∃ passed, length.Passes passed := by
  simp [auditLength]

theorem range_type_passes_iff (index : Nat) (room : 32 ≤ entry.bytes.length) :
    (auditRangeType entry index).Passes () ↔
      ∃ type, entry.bytes.slice 16 16 = type.bytes.val ∧ type ∈ rangeTypes ∧
        (index = 0 → type = controlRegion) := by
  simp [auditRangeType, Reader.guid_ok_iff, passes_expect (Rule.known_guid_decides _ _),
    Record.reader, Reader.limit, room]

theorem range_passes_iff :
    (auditRange entry).Passes () ↔
      (entry.bytes.length = 56 ∨ entry.bytes.length = 64) ∧
        ClearBits (entry.bytes.number 6 2) 3 15 ∧ entry.bytes.number 8 4 = 0 ∧
        (auditRangeType entry (entry.bytes.number 4 2)).Passes () ∧
        ((entry.bytes.number 6 2).testBit 2 = true → 64 ≤ entry.bytes.length) := by
  by_cases length : entry.bytes.length = 56 ∨ entry.bytes.length = 64
  · rcases length with length | length <;>
      simp [auditRange, passes_require (Rule.one_of_decides _ _), RangeFlags.ofBits, Reader.u16,
        Reader.u32, Reader.u64, passes_expect (Rule.zero_decides _), field_shifted_zero_iff,
        Record.reader, Reader.limit, Record.length, length]
  · simp [auditRange, passes_require (Rule.one_of_decides _ _), Record.length, length]

theorem mapping_passes_iff :
    (auditMapping entry).Passes () ↔
      entry.bytes.length = 48 ∧ ClearBits (entry.bytes.number 44 2) 7 15 ∧
        entry.bytes.number 46 2 = 0 := by
  by_cases length : entry.bytes.length = 48
  · simp [auditMapping, length_is_passes_iff, StateFlags.ofBits, Reader.u16,
      passes_expect (Rule.zero_decides _), field_shifted_zero_iff, Record.reader, Reader.limit,
      length]
  · simp [auditMapping, length_is_passes_iff, length]

-- The length that follows from the count is never below the minimum that is asked for first.
theorem interleave_passes_iff :
    (auditInterleave entry).Passes () ↔
      entry.bytes.length = 16 + 4 * entry.bytes.number 8 4 ∧ entry.bytes.number 6 2 = 0 := by
  by_cases length : 16 ≤ entry.bytes.length
  · have reserved : 8 ≤ entry.bytes.length := by omega
    have lines : 12 ≤ entry.bytes.length := by omega
    simp [auditInterleave, length_is_passes_iff, length_at_least_passes_iff,
      audit_length_passes_iff, Reader.u16, Reader.u32, passes_expect (Rule.zero_decides _),
      Record.reader, Reader.limit, length, reserved, lines, and_comm, Nat.mul_comm]
  · simp [auditInterleave, length_at_least_passes_iff, length]
    omega

theorem management_passes_iff :
    (auditManagement entry).Passes () ↔
      8 ≤ entry.bytes.length ∧ entry.bytes.number 4 4 = 0 := by
  simp [auditManagement, length_at_least_passes_iff, Reader.u32,
    passes_expect (Rule.zero_decides _), Record.reader, Reader.limit]

theorem flush_hints_passes_iff :
    (auditFlushHints entry).Passes () ↔
      entry.bytes.length = 16 + 8 * entry.bytes.number 8 2 ∧
        (entry.bytes.slice 10 6).AllZero := by
  by_cases length : 16 ≤ entry.bytes.length
  · have hints : 10 ≤ entry.bytes.length := by omega
    simp [auditFlushHints, length_is_passes_iff, length_at_least_passes_iff,
      audit_length_passes_iff, Reader.u16, passes_expect (Rule.zero_bytes_decides _),
      Record.reader, Reader.limit, length, hints, and_comm, Nat.mul_comm]
  · simp [auditFlushHints, length_at_least_passes_iff, length]
    omega

theorem capabilities_passes_iff :
    (auditCapabilities entry).Passes () ↔
      entry.bytes.length = 16 ∧ (entry.bytes.slice 5 3).AllZero ∧
        ClearBits (entry.bytes.number 8 4) 3 31 ∧ entry.bytes.number 12 4 = 0 := by
  by_cases length : entry.bytes.length = 16
  · simp [auditCapabilities, length_is_passes_iff, Reader.u32,
      passes_expect (Rule.zero_bytes_decides _), passes_expect (Rule.clear_bits_decides _ _ _),
      passes_expect (Rule.zero_decides _), Record.reader, Reader.limit, length]
  · simp [auditCapabilities, length_is_passes_iff, length]

theorem range_sound_iff (number : entry.bytes.number 0 2 = 0) :
    (auditRange entry).Passes () ↔ SoundStructure entry.bytes := by
  rw [range_passes_iff]
  constructor
  · intro holds
    obtain ⟨length, flags, reserved, type, cookie⟩ := holds
    have room : 32 ≤ entry.bytes.length := by omega
    obtain ⟨type, bytes, known, indexed⟩ := (range_type_passes_iff _ room).mp type
    refine .range number length flags reserved ⟨type, bytes, known, indexed⟩ ?_
    intro claimed
    have long := cookie claimed
    omega
  · intro sound
    cases sound with
    | range _ length flags reserved type cookie =>
        have room : 32 ≤ entry.bytes.length := by omega
        obtain ⟨type, bytes, known, indexed⟩ := type
        refine ⟨length, flags, reserved, ?_, ?_⟩
        · exact (range_type_passes_iff _ room).mpr ⟨type, bytes, known, indexed⟩
        · intro claimed
          exact Nat.le_of_eq (cookie claimed).symm
    -- Every other constructor is for another kind.
    | _ other => omega

theorem audit_structure_passes_iff (kind : entry.kind = entry.bytes.number 0 2) :
    (auditStructure entry).Passes () ↔ SoundStructure entry.bytes := by
  constructor
  · intro passes
    rw [auditStructure] at passes
    split at passes
    · next found => exact (range_sound_iff (kind.symm.trans found)).mp passes
    · next found =>
        obtain ⟨length, state, reserved⟩ := mapping_passes_iff.mp passes
        exact .mapping (kind.symm.trans found) length state reserved
    · next found =>
        obtain ⟨length, reserved⟩ := interleave_passes_iff.mp passes
        exact .interleave (kind.symm.trans found) length reserved
    · next found =>
        obtain ⟨length, reserved⟩ := management_passes_iff.mp passes
        exact .management (kind.symm.trans found) length reserved
    · next found =>
        obtain ⟨_, long⟩ := (audit_length_passes_iff _).mp passes
        exact .controlRegion (kind.symm.trans found) ((length_at_least_passes_iff _ _).mp long).1
    · next found =>
        obtain ⟨_, same⟩ := (audit_length_passes_iff _).mp passes
        exact .blockDataWindow (kind.symm.trans found) ((length_is_passes_iff _ _).mp same).1
    · next found =>
        obtain ⟨length, zeros⟩ := flush_hints_passes_iff.mp passes
        exact .flushHints (kind.symm.trans found) length zeros
    · next found =>
        obtain ⟨length, zeros, bits, zero⟩ := capabilities_passes_iff.mp passes
        exact .capabilities (kind.symm.trans found) length zeros bits zero
    · exact absurd passes (passes_fail _ _ _ _)
  · intro sound
    rw [auditStructure, kind]
    cases sound with
    | range number length flags reserved type cookie =>
        rw [number]
        exact (range_sound_iff number).mpr (.range number length flags reserved type cookie)
    | mapping number length state reserved =>
        rw [number]
        exact mapping_passes_iff.mpr ⟨length, state, reserved⟩
    | interleave number length reserved =>
        rw [number]
        exact interleave_passes_iff.mpr ⟨length, reserved⟩
    | management number length reserved =>
        rw [number]
        exact management_passes_iff.mpr ⟨length, reserved⟩
    | controlRegion number length =>
        rw [number]
        exact (audit_length_passes_iff _).mpr
          ⟨true, (length_at_least_passes_iff _ _).mpr ⟨length, rfl⟩⟩
    | blockDataWindow number length =>
        rw [number]
        exact (audit_length_passes_iff _).mpr ⟨true, (length_is_passes_iff _ _).mpr ⟨length, rfl⟩⟩
    | flushHints number length zeros =>
        rw [number]
        exact flush_hints_passes_iff.mpr ⟨length, zeros⟩
    | capabilities number length zeros bits zero =>
        rw [number]
        exact capabilities_passes_iff.mpr ⟨length, zeros, bits, zero⟩

end Structure

theorem structures_pass_iff {start : Nat} {entries : List Bytes} :
    (∀ entry ∈ lay .kind16Length16 start 0 entries, (auditStructure entry).Passes ()) ↔
      ∀ entry ∈ entries, SoundStructure entry := by
  apply forall_lay_iff
  intro entry kind member
  exact audit_structure_passes_iff kind

theorem body_passes_iff {data : Bytes} (header : Header) (fits : 40 ≤ (seen data).length) :
    (body ⟨header, ⟨seen data, 0⟩⟩).Passes () ↔ SoundBody data := by
  have reserved : (contain (auditFixedPart ⟨seen data, 0⟩)).Passes () ↔ data.number 36 4 = 0 := by
    rw [← seen_number (by omega)]
    simp [auditFixedPart, Header.size, Reader.u32, Reader.limit,
      passes_expect (Rule.zero_decides _), fits]
  rw [body, passes_then, reserved, passes_walk _ _ _ _ _ (by exact seen_told data)]
  · simp only [structures_pass_iff, passes_write, and_true]
    constructor
    · intro holds
      obtain ⟨zero, structures⟩ := holds
      exact ⟨zero, structures⟩
    · intro holds
      obtain ⟨zero, structures⟩ := holds
      exact ⟨zero, structures⟩
  · intro error passes
    exact passes

theorem nfit_report_clean_iff {data : Bytes} {address ordinal : Nat} {image : Image}
    (loaded : Image.ofBytes data address ordinal = .ok image) (named : image.signature = .nfit) :
    ∃ report, (Registry.report? image).value = some report ∧
      (report.Clean ↔ Intact data 40 ∧ SoundBody data) := by
  have registered : Registry.find? image.signature = some check := by
    rw [named]
    rfl
  refine registered_clean_iff loaded registered (Nat.le_add_right Header.size 4) ?_
  intro header _ fits
  exact body_passes_iff header fits

def interleaved : Bytes := [
  0x4E, 0x46, 0x49, 0x54, 68, 0, 0, 0, 0, 41, 0, 0, 0, 0, 0, 0, 0, 0, 0, 0, 0, 0, 0, 0,
  0, 0, 0, 0, 0, 0, 0, 0, 0, 0, 0, 0, 0, 0, 0, 0,
  2, 0, 20, 0, 0, 0, 0, 0, 1, 0, 0, 0, 0, 0, 0, 0, 64, 0, 0, 0,
  3, 0, 8, 0, 0, 0, 0, 0]

theorem nfit_report_clean_iff_interleaved :
    ∃ image, Image.ofBytes interleaved 0 0 = .ok image ∧ image.signature = .nfit ∧
      ∃ report, (Registry.report? image).value = some report ∧ report.Clean := by
  have loaded : Image.ofBytes interleaved 0 0 = .ok ⟨.nfit, 68, 0, interleaved, 0, 0⟩ := rfl
  have lines : SoundStructure (interleaved.slice 40 20) :=
    .interleave (by decide) (by decide) (by decide)
  have handles : SoundStructure (interleaved.slice 60 8) :=
    .management (by decide) (by decide) (by decide)
  have partition : Partition .kind16Length16 ((seen interleaved).drop 40)
      [interleaved.slice 40 20, interleaved.slice 60 8] := ⟨by decide, by decide⟩
  have body : SoundBody interleaved := by
    refine ⟨by decide, _, partition, ?_⟩
    simp [lines, handles]
  obtain ⟨report, reported, clean⟩ := nfit_report_clean_iff loaded rfl
  exact ⟨_, loaded, rfl, report, reported, clean.mpr ⟨⟨by decide, .inr (by decide)⟩, body⟩⟩

end AcpiAudit.Nfit
