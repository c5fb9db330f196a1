import AcpiAudit.Checks.Ibft
import AcpiAudit.Proofs.Machine.Admission
import AcpiAudit.Proofs.Machine.Rule
import AcpiAudit.Proofs.Machine.Walk

set_option autoImplicit false

namespace AcpiAudit.Ibft

open Recorder

def runControl (control : SubRecord) : Recorder Unit Bool := do
  let idOk ← require (Rule.equals control.kind controlId) .high "BadControlId"
    "Control Structure ID"
  let lengthOk ← require (Rule.atLeast control.length leastControlLength) .high
    "BadControlLength" "Control Structure Length"
  let version ← control.cursor.u8 1
  expect (Rule.equals version 1) .medium "BadControlVersion" "Control Structure Version"
  let index ← control.cursor.u8 4
  expect (Rule.equals index 0) .medium "BadControlIndex" "Control Structure Index"
  let flags ← control.cursor.u8 5
  expect (← Rule.runClearBits flags 1 7) .medium "ReservedBitsSet" "Control Structure Flags"
  write .debug target s!"iBFT control structure: {control.length} bytes"
  return idOk && lengthOk

def runString (table : Cursor) (record : SubRecord) (place : Nat) (name : String) :
    Recorder Unit Unit := do
  let length ← record.cursor.u16 place
  let second ← Word.add addressBits place 2
  let offset ← record.cursor.u16 second
  let start := Hex.text offset
  if length = 0 then return ()
  else
    match table.text offset length with
    | .ok content =>
      let quoted := Quoted.text content
      write .trace target s!"iBFT {name}: {quoted}"
    | .error (.truncated ..) =>
      fail .high "BadStringOffset" s!"{name} ({length} bytes at {start}) lies outside the table"
    | .error (.nonAscii ..) =>
      fail .low "NonAsciiString" s!"{name} at {start} contains non-ASCII bytes"

def runNic (table : Cursor) (record : SubRecord) : Recorder Unit Unit := do
  let subnet ← record.cursor.u8 22
  expect (Rule.within subnet 0 128) .medium "BadSubnetPrefix" "NIC Subnet Mask Prefix"
  runString table record 98 "NIC Host Name"

def runTarget (table : Cursor) (record : SubRecord) : Recorder Unit Unit := do
  let chapType ← record.cursor.u8 32
  expect (Rule.within chapType 0 2) .medium "BadChapType" "Target CHAP Type"
  let association ← record.cursor.u8 33
  expect (Rule.within association 0 1) .medium "BadNicAssociation" "Target NIC Association"
  runString table record 34 "Target Name"
  runString table record 38 "Target CHAP Name"
  runString table record 42 "Target CHAP Secret"
  runString table record 46 "Target Reverse CHAP Name"
  runString table record 50 "Target Reverse CHAP Secret"

def runContent (table : Cursor) (record : SubRecord) : Slot → Recorder Unit Unit
  | .initiator => runString table record 70 "Initiator Name"
  | .nic _ => runNic table record
  | .target _ => runTarget table record

def runNumber (slot : Slot) (record : SubRecord) : Recorder Unit Unit := do
  match slot.number? with
  | none => return ()
  | some number =>
    let index ← record.cursor.u8 4
    expect (Rule.equals index number) .medium "BadStructureIndex" slot.name

def runFields (table : Cursor) (slot : Slot) (record : SubRecord) : Recorder Unit Unit := do
  let version ← record.cursor.u8 1
  expect (Rule.equals version 1) .medium "BadStructureVersion" slot.name
  runNumber slot record
  let flags ← record.cursor.u8 5
  let firstReserved ← Word.add 32 slot.greatestFlag 1
  expect (← Rule.runClearBits flags firstReserved 7) .medium "ReservedBitsSet" slot.name
  runContent table record slot

def runRecord (table : Cursor) (slot : Slot) (record : SubRecord) : Recorder Unit Unit := do
  if ← require (Rule.equals record.kind slot.id) .high "BadStructureId" slot.name then
    if ← require (Rule.equals record.length slot.length) .high "BadStructureLength"
        slot.name then
      runFields table slot record
    else return ()
  else return ()

def runSlot (table : Cursor) (slot : Slot) (pointer : Nat) : Recorder Unit Unit := do
  if pointer = 0 then write .trace target s!"iBFT {slot.tag} not present"
  else
    let place := Hex.text pointer
    failIf (pointer % 8 ≠ 0) .low "UnalignedStructure"
      s!"{slot.name} structure offset {place} is not 8-byte aligned"
    match ← table.peek layout pointer 0 with
    | .ok record => runRecord table slot record
    | .error error => walkError error

def runSlots (table : Cursor) : List Slot → Cursor → Recorder Unit Unit
  | [], _ => return ()
  | slot :: rest, pointers => do
    let room ← pointers.remaining
    if room < 2 then return ()
    else
      let pointer ← pointers.u16 pointers.position
      let others ← pointers.advance 2
      runSlot table slot pointer
      runSlots table rest others

def runStructures (table : Cursor) : Recorder Unit Unit := do
  let reserved ← table.read Header.size 12
  expect (← Rule.runZeroBytes reserved) .medium "ReservedNonZero" "Reserved"
  match ← table.peek layout controlOffset 0 with
  | .error error => walkError error
  | .ok control =>
    if ← runControl control then
      let pointers ← control.cursor.seek firstPointer
      runSlots table Slot.all pointers
    else return ()

def run (image : Image) (cursor : Cursor) : Recorder Unit Unit := do
  match ← Admission.run image cursor .ibft controlOffset with
  | none => return ()
  | some _ =>
    contain (runStructures cursor)
    finish

section Equal

variable (table : Cursor) (record : SubRecord)

theorem run_control (control : SubRecord) :
    runControl control = adding (auditControl control.record) id := by
  simp [runControl, auditControl, Rule.run_clear_bits]

theorem run_string (place : Nat) (near : place + 2 < 2 ^ addressBits) (name : String) :
    runString table record place name =
      adding (auditString table.reader record.record place name) id := by
  unfold runString auditString
  simp only [Cursor.u16_eq, record.cursor_reader, Word.add_fits near, run_adds,
    checked_adds, pure_then, table.text_eq]
  refine bind_adding fun length _ => ?_
  refine bind_adding fun offset _ => ?_
  split
  · exact pure_adds ()
  · cases table.reader.text offset length with
    | ok content => exact write_adds _ _ _
    | error error => cases error <;> exact fail_adds _ _ _

theorem run_content (slot : Slot) :
    runContent table record slot = adding (auditContent table.reader record.record slot) id := by
  have strings := run_string table record
  cases slot with
  | initiator => exact strings 70 (by decide) _
  | nic number => simp [runContent, auditContent, runNic, auditNic, strings 98 (by decide)]
  | target number =>
      simp [runContent, auditContent, runTarget, auditTarget, strings 34 (by decide),
        strings 38 (by decide), strings 42 (by decide), strings 46 (by decide),
        strings 50 (by decide)]

theorem run_record (slot : Slot) :
    runRecord table slot record = adding (auditRecord table.reader slot record.record) id := by
  have number : runNumber slot record = adding (auditNumber slot record.record) id := by
    unfold runNumber auditNumber
    cases slot.number? <;> simp
  have flag : slot.greatestFlag + 1 < 2 ^ 32 := by
    cases slot <;> simp [Slot.greatestFlag]
  have fields : runFields table slot record =
      adding (auditFields table.reader slot record.record) id := by
    simp [runFields, auditFields, number, Word.add_fits flag, Rule.run_clear_bits, run_content]
  simp [runRecord, auditRecord, fields]

theorem run_slot (slot : Slot) (pointer : Nat) :
    runSlot table slot pointer = adding (auditSlot table.reader slot pointer) id := by
  unfold runSlot auditSlot
  split
  · exact write_adds _ _ _
  · simp only [fail_if_adds]
    refine bind_adding fun _ _ => ?_
    exact Cursor.peek_adds (by decide) pointer walk_error_adds fun sub => run_record table sub slot

-- The pointers that are read one by one are the words of what remains in the control structure.
theorem run_slots (slots : List Slot) (pointers : Cursor) :
    runSlots table slots pointers =
      adding ((slots.zip
        (Bytes.words (pointers.reader.bytes.drop pointers.reader.position))).forM fun entry =>
          auditSlot table.reader entry.1 entry.2) id := by
  induction slots generalizing pointers with
  | nil => exact pure_adds ()
  | cons slot rest ih =>
      unfold runSlots
      simp only [pointers.remaining_eq, checked_adds, pure_then, Reader.remaining]
      by_cases short : pointers.reader.limit - pointers.reader.position < 2
      · have none : Bytes.words (pointers.reader.bytes.drop pointers.reader.position) = [] :=
          Bytes.words_short (by rw [List.length_drop]; exact short)
        rw [if_pos short, none, List.zip_nil_right]
        exact pure_adds ()
      · have fits : pointers.reader.position + 2 ≤ pointers.reader.limit := by omega
        have place : pointers.position = pointers.reader.position := rfl
        obtain ⟨others, reached, after⟩ :=
          Cursor.of_mapped ((pointers.advance_eq 2).trans (if_pos fits))
        have next := ih others
        rw [after] at next
        rw [if_neg short, Bytes.words_drop fits, place, reached]
        simp only [Cursor.u16_eq, Reader.u16, Reader.number_of_fits fits, Audit.lift_pure,
          run_adds, read_adds, pure_then, run_slot, next, adding_bind, List.zip_cons_cons,
          List.forM_eq_forM, List.forM_cons]
        rfl

end Equal

theorem control_long {control : Record} (told : (auditControl control).result = .ok true) :
    leastControlLength ≤ control.length := by
  cases version : control.reader.u8 1 with
  | error error => simp [auditControl, version] at told
  | ok _ =>
      cases index : control.reader.u8 4 with
      | error error => simp [auditControl, version, index] at told
      | ok _ =>
          cases flags : control.reader.u8 5 with
          | error error => simp [auditControl, version, index, flags] at told
          | ok _ =>
              have passed : (Rule.equals control.kind controlId).isPassed = true ∧
                  (Rule.atLeast control.length leastControlLength).isPassed = true := by
                simpa [auditControl, version, index, flags] using told
              exact (Audit.passed_iff (Rule.at_least_decides _ _)).mp passed.2

theorem run_structures (header : Header) (cursor : Cursor) :
    runStructures cursor = adding (body ⟨header, cursor.reader⟩) id := by
  unfold runStructures body
  simp only [Rule.run_zero_bytes, Cursor.read_eq, checked_adds, read_adds, pure_then, expect_adds]
  refine bind_adding fun reserved _ => ?_
  refine bind_adding fun _ _ => ?_
  refine Cursor.peek_adds (by decide) controlOffset walk_error_adds fun control => ?_
  simp only [run_control]
  refine bind_adding fun sound told => ?_
  cases sound with
  | false => exact pure_adds ()
  | true =>
      have long : leastControlLength ≤ control.record.reader.limit := control_long told
      have inside : firstPointer ≤ control.cursor.reader.limit := by
        rw [control.cursor_reader]
        exact Nat.le_trans (by decide) long
      obtain ⟨pointers, reached, after⟩ :=
        Cursor.of_mapped ((control.cursor.seek_eq firstPointer).trans (if_pos inside))
      have followed := run_slots cursor Slot.all pointers
      rw [after, control.cursor_reader] at followed
      simp only [if_true, reached, Audit.lift_pure, pure_then, followed]
      rfl

theorem run_concludes {image : Image} {cursor : Cursor} (same : cursor.reader = image.reader) :
    run image cursor check.label = concluding (check.audit image) check.label := by
  refine admission_concludes same rfl fun header => ?_
  simp only [run_structures header, contain_adds]
  exact contained_finish _

end AcpiAudit.Ibft
