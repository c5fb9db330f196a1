import AcpiAudit.Proofs.Checks.Slots

set_option autoImplicit false

namespace AcpiAudit

open Audit

namespace Ibft

variable {data : Bytes} {position : Nat}

def pointerAt (data : Bytes) (position : Nat) : Nat :=
  data.number (controlOffset + firstPointer + 2 * position) 2

theorem slot_pointer (inside : position < Slot.all.length) :
    (Slot.all[position], pointerAt data position) ∈ pointers data := by
  have five : position < 5 := inside
  interval_cases position <;>
    simp [pointers, pointerAt, Slot.all, controlOffset, firstPointer, Header.size]

theorem stray_pointer_found {error : WalkError} (inside : position < Slot.all.length)
    (present : pointerAt data position ≠ 0)
    (failed : Reader.recordAt ⟨seen data, 0⟩ layout (pointerAt data position) = .error error) :
    .failure .critical error.suffix
        (error.message ++ "; aborting checks of the remaining sub-structures") ∈
      (pointers data).flatMap fun entry => slotFindings (seen data) entry.1 entry.2 := by
  have fault := (Reader.record_at_error_iff _ _ _ _).mp failed
  refine List.mem_flatMap.mpr ⟨_, slot_pointer inside, ?_⟩
  rw [stray_slot present failed, (WalkedTable.fault_findings fault).2]
  exact List.mem_append_right _ (List.mem_singleton_self _)

theorem slot_pointers_are_checked {data : Bytes} {address ordinal : Nat} {image : Image}
    {admitted : Admitted} (loaded : Image.ofBytes data address ordinal = .ok image)
    (accepted : (check.admission image).result = .ok (some admitted))
    (leads : ControlLeads data) :
    ∃ report, (Registry.report? image).value = some report ∧
      ∀ position < Slot.all.length, ∀ error, pointerAt data position ≠ 0 →
        Reader.recordAt ⟨seen data, 0⟩ layout (pointerAt data position) = .error error →
        error.suffix ∈ WalkedTable.structuralProblems ∧
          .failed .critical ("iBFT" ++ error.suffix) ("iBFT " ++
            (error.message ++ "; aborting checks of the remaining sub-structures")) ∈
              report.outcomes := by
  have fields := loaded_of_bytes loaded
  have named := accepted_signature fields accepted
  have fits : 48 ≤ (seen data).length := (accepted_table fields accepted).2.2
  have registered : Registry.find? image.signature = some check := by
    rw [named]
    rfl
  have outcomes := front_then_slots fields named fits fun header => content_led header fits leads
  refine ⟨_, registered_report registered, ?_⟩
  intro position inside error present failed
  have fault := (Reader.record_at_error_iff _ _ _ _).mp failed
  have found := List.mem_map_of_mem (f := Finding.outcome "iBFT")
    (stray_pointer_found inside present failed)
  rw [outcomes]
  exact ⟨(WalkedTable.fault_findings fault).1,
    List.mem_append_left _ (List.mem_append_right _ found)⟩

-- A control structure with room for six pointers, the first four of which are zero.
def sixPointers (fifth sixth : UInt8) : Bytes :=
  [0x69, 0x42, 0x46, 0x54, 68, 0, 0, 0, 1, 24] ++ List.replicate 38 0 ++
    [1, 1, 20, 0, 0, 0, 0, 0] ++ List.replicate 8 0 ++ [fifth, 0, sixth, 0]

theorem slot_pointers_are_checked_last_slot :
    let data := sixPointers 72 0
    ∃ image admitted report, Image.ofBytes data 0 0 = .ok image ∧
      (check.admission image).result = .ok (some admitted) ∧ ControlLeads data ∧
      pointerAt data 4 = 72 ∧ (Registry.report? image).value = some report ∧
      .failed .critical "iBFTTruncatedSubtable" ("iBFT sub-structure header at offset 0x48 is " ++
        "truncated: read of 4 bytes at offset 0x48 exceeds table bounds (0 bytes available); " ++
        "aborting checks of the remaining sub-structures") ∈ report.outcomes := by
  intro data
  have loaded : Image.ofBytes data 0 0 = .ok ⟨.ibft, 68, 1, data, 0, 0⟩ := rfl
  have accepted : (check.admission ⟨.ibft, 68, 1, data, 0, 0⟩).result =
      .ok (some ⟨Reader.headerOf (seen data) (by decide), ⟨seen data, 0⟩⟩) := by cbv
  have leads : ControlLeads data := ⟨by decide, by decide, by decide⟩
  have failed : Reader.recordAt ⟨seen data, 0⟩ layout (pointerAt data 4) =
      .error (.headerTruncated 72 (.truncated 72 4 0)) := by cbv
  obtain ⟨report, reported, checked⟩ := slot_pointers_are_checked loaded accepted leads
  obtain ⟨-, found⟩ := checked 4 (by decide) _ (by decide) failed
  exact ⟨_, _, report, loaded, accepted, leads, by decide, reported, found⟩

-- Behind the last slot there is room for one more pointer, and where it leads is not looked at.
theorem sixth_pointer_is_not_checked :
    let data := sixPointers 0 72
    ∃ image admitted error, Image.ofBytes data 0 0 = .ok image ∧
      (check.admission image).result = .ok (some admitted) ∧ ControlLeads data ∧
      firstPointer + 2 * 5 + 2 ≤ data.number 50 2 ∧ pointerAt data 5 ≠ 0 ∧
      Reader.recordAt ⟨seen data, 0⟩ layout (pointerAt data 5) = .error error ∧
      ∃ report, (Registry.report? image).value = some report ∧
        ∀ outcome ∈ report.outcomes, outcome.isFailed = false := by
  intro data
  have loaded : Image.ofBytes data 0 0 = .ok ⟨.ibft, 68, 1, data, 0, 0⟩ := rfl
  have accepted : (check.admission ⟨.ibft, 68, 1, data, 0, 0⟩).result =
      .ok (some ⟨Reader.headerOf (seen data) (by decide), ⟨seen data, 0⟩⟩) := by cbv
  have failed : Reader.recordAt ⟨seen data, 0⟩ layout (pointerAt data 5) =
      .error (.headerTruncated 72 (.truncated 72 4 0)) := by cbv
  have reported : (Registry.report? ⟨.ibft, 68, 1, data, 0, 0⟩).value =
      some ⟨[.passed, .info "No issues found in iBFT table."]⟩ := by cbv
  have leads : ControlLeads data := ⟨by decide, by decide, by decide⟩
  refine ⟨_, _, _, loaded, accepted, leads, by decide, by decide, failed, _, reported, ?_⟩
  intro outcome member
  simp only [List.mem_cons, List.not_mem_nil, or_false] at member
  obtain rfl | rfl := member
  · rfl
  · rfl

end Ibft

end AcpiAudit
