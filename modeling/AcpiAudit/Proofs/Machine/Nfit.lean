import AcpiAudit.Checks.Nfit
import AcpiAudit.Proofs.Machine.Admission
import AcpiAudit.Proofs.Machine.Rule
import AcpiAudit.Proofs.Machine.Walk

set_option autoImplicit false

namespace AcpiAudit.Nfit

open Recorder

def runLengthIs (entry : SubRecord) (expected : Nat) : Recorder Unit Bool :=
  require (Rule.equals entry.length expected) .high "BadLength" "Structure Length"

def runLengthAtLeast (entry : SubRecord) (minimum : Nat) : Recorder Unit Bool :=
  require (Rule.atLeast entry.length minimum) .high "BadLength" "Structure Length"

def runLength (length : Recorder Unit Bool) : Recorder Unit Unit := do
  let _ ← length

def runRangeType (entry : SubRecord) (index : Nat) : Recorder Unit Unit := do
  let type ← entry.cursor.guid 16
  expect (Rule.knownGuid type rangeTypes) .medium "BadRangeTypeGuid"
    "SPA Range Address Range Type GUID"
  failIf (index = 0 ∧ type ≠ controlRegion) .high "BadRangeIndexZero"
    s!"SPA range of type {type.text} has index 0"

def runRange (entry : SubRecord) : Recorder Unit Unit := do
  if ← require (Rule.oneOf entry.length [56, 64]) .high "BadLength" "SPA Range Length" then
    let index ← entry.cursor.u16 4
    let flags := RangeFlags.ofBits (← entry.cursor.u16 6)
    expect (Rule.zero flags.reserved) .medium "ReservedNonZero"
      "SPA Range Flags reserved bits [15:3]"
    let reserved ← entry.cursor.u32 8
    expect (Rule.zero reserved) .medium "ReservedNonZero" "SPA Range Reserved"
    runRangeType entry index
    failIf (flags.cookieValid ∧ entry.length < 64) .medium "BadLength"
      "SPA Range claims a location cookie but is only 56 bytes"
    let length ← entry.cursor.u64 40
    if length = 0 then warn s!"SPA range {index} has zero length" else return ()
  else return ()

def runMapping (entry : SubRecord) : Recorder Unit Unit := do
  if ← runLengthIs entry 48 then
    let state := StateFlags.ofBits (← entry.cursor.u16 44)
    expect (Rule.zero state.reserved) .medium "ReservedNonZero"
      "Region Mapping NVDIMM State Flags reserved bits [15:7]"
    let reserved ← entry.cursor.u16 46
    expect (Rule.zero reserved) .medium "ReservedNonZero" "Region Mapping Reserved"
    if state.smartEvents then note "NVDIMM reported SMART health events" else return ()
  else return ()

def runInterleave (entry : SubRecord) : Recorder Unit Unit := do
  if ← runLengthAtLeast entry 16 then
    let reserved ← entry.cursor.u16 6
    expect (Rule.zero reserved) .medium "ReservedNonZero" "Interleave Reserved"
    let lines ← entry.cursor.u32 8
    let size := Word.saturate addressBits (lines * 4)
    runLength (runLengthIs entry (Word.saturate addressBits (16 + size)))
  else return ()

def runManagement (entry : SubRecord) : Recorder Unit Unit := do
  if ← runLengthAtLeast entry 8 then
    let reserved ← entry.cursor.u32 4
    expect (Rule.zero reserved) .medium "ReservedNonZero" "SMBIOS Management Information Reserved"
  else return ()

def runFlushHints (entry : SubRecord) : Recorder Unit Unit := do
  if ← runLengthAtLeast entry 16 then
    let hints ← entry.cursor.u16 8
    let reserved ← entry.cursor.read 10 6
    expect (← Rule.runZeroBytes reserved) .medium "ReservedNonZero" "Flush Hint Reserved"
    let size ← Word.multiply addressBits hints 8
    let length ← Word.add addressBits 16 size
    runLength (runLengthIs entry length)
  else return ()

def runCapabilities (entry : SubRecord) : Recorder Unit Unit := do
  if ← runLengthIs entry 16 then
    let before ← entry.cursor.read 5 3
    expect (← Rule.runZeroBytes before) .medium "ReservedNonZero" "Platform Capabilities Reserved"
    let capabilities ← entry.cursor.u32 8
    expect (← Rule.runClearBits capabilities 3 31) .medium "ReservedBitsSet"
      "Platform Capabilities"
    let after ← entry.cursor.u32 12
    expect (Rule.zero after) .medium "ReservedNonZero" "Platform Capabilities Reserved"
  else return ()

def runStructure (entry : SubRecord) : Recorder Unit Unit :=
  match entry.kind with
  | 0 => runRange entry
  | 1 => runMapping entry
  | 2 => runInterleave entry
  | 3 => runManagement entry
  | 4 => runLength (runLengthAtLeast entry 32)
  | 5 => runLength (runLengthIs entry 40)
  | 6 => runFlushHints entry
  | 7 => runCapabilities entry
  | kind =>
    let place := Hex.text entry.offset
    let shown := Hex.text kind
    fail .high "BadSubtableType" s!"structure at {place} has unknown type {shown}"

def runFixedPart (cursor : Cursor) : Recorder Unit Unit := do
  let reserved ← cursor.u32 Header.size
  expect (Rule.zero reserved) .medium "ReservedNonZero" "Reserved"

def runEnding : Except WalkError Extent → Recorder Unit Unit
  | .ok extent => write .debug target s!"NFIT: {extent.records} structures"
  | .error error => walkError error

def run (image : Image) (cursor : Cursor) : Recorder Unit Unit := do
  match ← Admission.run image cursor .nfit firstStructure with
  | none => return ()
  | some _ =>
    contain (runFixedPart cursor)
    let ending ← cursor.eachRecord .kind16Length16 firstStructure runStructure
    runEnding ending
    finish

section Equal

variable (entry : SubRecord)

theorem run_length_is (expected : Nat) :
    runLengthIs entry expected = adding (lengthIs entry.record expected) id := by
  rw [runLengthIs, lengthIs, entry.record_length, require_adds]

theorem run_length_at_least (minimum : Nat) :
    runLengthAtLeast entry minimum = adding (lengthAtLeast entry.record minimum) id := by
  rw [runLengthAtLeast, lengthAtLeast, entry.record_length, require_adds]

theorem run_length (length : Audit Bool) :
    runLength (adding length id) = adding (auditLength length) id := by
  simp [runLength, auditLength]

theorem run_range : runRange entry = adding (auditRange entry.record) id := by
  simp [runRange, auditRange, runRangeType, auditRangeType]

theorem run_mapping : runMapping entry = adding (auditMapping entry.record) id := by
  simp [runMapping, auditMapping, run_length_is]

theorem run_interleave : runInterleave entry = adding (auditInterleave entry.record) id := by
  unfold runInterleave auditInterleave
  rw [run_length_at_least]
  refine bind_adding fun long _ => ?_
  cases long with
  | false => exact pure_adds ()
  | true =>
      simp only [if_true, Cursor.u16_eq, Cursor.u32_eq, entry.cursor_reader, run_adds,
        expect_adds, run_length_is]
      refine bind_adding fun reserved _ => ?_
      refine bind_adding fun _ _ => ?_
      refine bind_adding fun lines told => ?_
      have few : lines < 2 ^ 32 := Reader.number_bound told
      have size : Word.saturate addressBits (lines * 4) = lines * 4 :=
        Word.saturate_fits (by simp only [addressBits]; omega)
      have length : Word.saturate addressBits (16 + lines * 4) = 16 + lines * 4 :=
        Word.saturate_fits (by simp only [addressBits]; omega)
      simp only [size, length, run_length]

theorem run_management : runManagement entry = adding (auditManagement entry.record) id := by
  simp [runManagement, auditManagement, run_length_at_least]

theorem run_flush_hints : runFlushHints entry = adding (auditFlushHints entry.record) id := by
  unfold runFlushHints auditFlushHints
  rw [run_length_at_least]
  refine bind_adding fun long _ => ?_
  cases long with
  | false => exact pure_adds ()
  | true =>
      simp only [if_true, Cursor.u16_eq, Cursor.read_eq, Rule.run_zero_bytes, entry.cursor_reader,
        run_adds, read_adds, checked_adds, pure_then, expect_adds, run_length_is]
      refine bind_adding fun hints told => ?_
      refine bind_adding fun reserved _ => ?_
      refine bind_adding fun _ _ => ?_
      have few : hints < 2 ^ 16 := Reader.number_bound told
      have size : hints * 8 < 2 ^ addressBits := by
        simp only [addressBits]
        omega
      have length : 16 + hints * 8 < 2 ^ addressBits := by
        simp only [addressBits]
        omega
      simp only [Word.multiply_fits size, Word.add_fits length, checked_adds, pure_then,
        run_length]

theorem run_capabilities :
    runCapabilities entry = adding (auditCapabilities entry.record) id := by
  simp [runCapabilities, auditCapabilities, run_length_is, Rule.run_zero_bytes,
    Rule.run_clear_bits, Cursor.read_eq]

theorem run_structure : runStructure entry = adding (auditStructure entry.record) id := by
  unfold runStructure auditStructure
  rw [entry.record_kind, entry.record_offset]
  split <;> simp [*, run_range, run_mapping, run_interleave, run_management, run_flush_hints,
    run_capabilities, run_length_is, run_length_at_least, run_length]

end Equal

theorem run_concludes {image : Image} {cursor : Cursor} (same : cursor.reader = image.reader) :
    run image cursor check.label = concluding (check.audit image) check.label := by
  have fixed : runFixedPart cursor = adding (auditFixedPart cursor.reader) id := by
    simp [runFixedPart, auditFixedPart]
  refine admission_concludes same rfl fun header => ?_
  simp only [fixed, contain_adds]
  refine bind_concluding (Audit.gives_contain _).result ?_
  refine Cursor.walk_concludes (by decide) _ run_structure fun ending => ?_
  cases ending with
  | ok extent =>
      simp only [runEnding, write_adds]
      exact adding_finish rfl
  | error error =>
      simp only [runEnding, walk_error_adds]
      exact adding_finish rfl

end AcpiAudit.Nfit
