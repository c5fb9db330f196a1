import AcpiAudit.Checks.Apmt
import AcpiAudit.Checks.Pcct
import AcpiAudit.Proofs.Machine.Admission
import AcpiAudit.Proofs.Machine.Rule
import AcpiAudit.Proofs.Machine.Walk

set_option autoImplicit false

namespace AcpiAudit

open Recorder

namespace Apmt

def runBases (node : SubRecord) (flags : NodeFlags) : Recorder Unit Unit := do
  let first ← node.cursor.u64 20
  failIf (first = 0) .low "BadBaseAddress" s!"PMU node {node.index} Base Address 0 is zero"
  if flags.dualPage then
    let second ← node.cursor.u64 28
    failIf (second = 0) .low "BadBaseAddress"
      s!"PMU node {node.index} advertises dual-page support but Base Address 1 is zero"
  else return ()

def runNode (node : SubRecord) : Recorder Unit Unit := do
  if ← require (Rule.equals node.length nodeSize) .high "BadNodeLength" "PMU Node Length" then
    expect (Rule.within node.kind 0 greatestNodeType) .high "InvalidNodeType" "PMU Node Type"
    let flags := NodeFlags.ofBits (← node.cursor.u8 2)
    expect (Rule.zero flags.reserved) .medium "ReservedNonZero"
      "PMU Node Flags reserved bits [7:3]"
    runBases node flags
    let reserved ← node.cursor.u32 40
    expect (Rule.zero reserved) .medium "ReservedNonZero" "PMU Node Reserved"
    let interrupt ← node.cursor.u32 44
    expect (← Rule.runClearBits interrupt 1 31) .medium "ReservedBitsSet"
      "PMU Node Overflow Interrupt Flags"
  else return ()

def runEnding : Except WalkError Extent → Recorder Unit Unit
  | .ok extent => write .debug target s!"APMT: {extent.records} PMU nodes"
  | .error error => walkError error

def run (image : Image) (cursor : Cursor) : Recorder Unit Unit := do
  match ← Admission.run image cursor .apmt Header.size with
  | none => return ()
  | some _ =>
    let ending ← cursor.eachRecord .length16Gap8Kind8 Header.size runNode
    runEnding ending
    finish

theorem run_bases (node : SubRecord) (flags : NodeFlags) :
    runBases node flags = adding (auditBases node.record flags) id := by
  simp [runBases, auditBases]

theorem run_node (node : SubRecord) : runNode node = adding (auditNode node.record) id := by
  simp [runNode, auditNode, run_bases, Rule.run_clear_bits]

theorem run_concludes {image : Image} {cursor : Cursor} (same : cursor.reader = image.reader) :
    run image cursor check.label = concluding (check.audit image) check.label := by
  refine admission_concludes same rfl fun header => ?_
  refine Cursor.walk_concludes (by decide) _ run_node fun ending => ?_
  cases ending with
  | ok extent =>
      simp only [runEnding, write_adds]
      exact adding_finish rfl
  | error error =>
      simp only [runEnding, walk_error_adds]
      exact adding_finish rfl

end Apmt

namespace Pcct

def runFixedPart (cursor : Cursor) : Recorder Unit Unit := do
  let flags := ChannelFlags.ofBits (← cursor.u32 36)
  write .trace target s!"PCCT flags {flags.word.text}"
  expect (Rule.zero flags.reserved) .medium "ReservedNonZero" "Flags reserved bits [31:1]"
  let reserved ← cursor.u64 40
  expect (Rule.zero reserved) .medium "ReservedNonZero" "Reserved"

def runRegister (register : Register) (name : String) : Recorder Unit Unit := do
  expect (Rule.addressSpace register.space doorbellSpaces) .high "BadAddressSpaceId" name
  expect register.accessSizeRule .medium "BadAccessSize" name

def runStart (subspace : SubRecord) : Recorder Unit Unit := do
  if subspace.kind = 0 then
    let reserved ← subspace.cursor.read 2 6
    expect (← Rule.runZeroBytes reserved) .medium "ReservedNonZero" "Generic Subspace Reserved"
  else if subspace.kind ≤ 4 then
    let flags := InterruptFlags.ofBits (← subspace.cursor.u8 6)
    expect (Rule.zero flags.reserved) .medium "ReservedNonZero"
      "Subspace Platform Interrupt Flags reserved bits [7:2]"
    let reserved ← subspace.cursor.u8 7
    expect (Rule.zero reserved) .medium "ReservedNonZero" "Subspace Reserved"
  else return ()

def runDoorbell (subspace : SubRecord) : Recorder Unit Unit := do
  if subspace.kind ≤ 2 then
    let doorbell ← subspace.cursor.register 24
    runRegister doorbell "Doorbell Register"
  else return ()

def runAcknowledge (subspace : SubRecord) : Recorder Unit Unit := do
  if subspace.kind = 2 then
    let acknowledge ← subspace.cursor.register 62
    runRegister acknowledge "Platform Interrupt Ack Register"
  else return ()

def runSubspace (subspace : SubRecord) : Recorder Unit Unit := do
  match subspaceLength? subspace.kind with
  | none =>
    let place := Hex.text subspace.offset
    let kind := Hex.text subspace.kind
    fail .high "BadSubspaceType"
      s!"subspace {subspace.index} at offset {place} has unknown type {kind}"
  | some expected =>
    if ← require (Rule.equals subspace.length expected) .high "BadSubspaceLength"
        "Subspace Length" then
      runStart subspace
      runDoorbell subspace
      runAcknowledge subspace
    else return ()

def runEnding : Except WalkError Extent → Recorder Unit Unit
  | .ok extent => do
    write .debug target s!"PCCT: {extent.records} subspaces"
    failIf (greatestSubspaceCount < extent.records) .low "TooManySubspaces"
      s!"has {extent.records} subspaces, at most {greatestSubspaceCount} are allowed"
  | .error error => walkError error

def run (image : Image) (cursor : Cursor) : Recorder Unit Unit := do
  match ← Admission.run image cursor .pcct firstSubspace with
  | none => return ()
  | some _ =>
    contain (runFixedPart cursor)
    let ending ← cursor.eachRecord .kind8Length8 firstSubspace runSubspace
    runEnding ending
    finish

section Equal

variable (subspace : SubRecord)

theorem run_start : runStart subspace = adding (auditStart subspace.record) id := by
  rw [auditStart, subspace.record_kind]
  simp [runStart, Rule.run_zero_bytes, Cursor.read_eq]

theorem run_register (register : Register) (name : String) :
    runRegister register name = adding (auditRegister register name) id := by
  simp [runRegister, auditRegister]

theorem run_doorbell : runDoorbell subspace = adding (auditDoorbell subspace.record) id := by
  rw [auditDoorbell, subspace.record_kind]
  simp [runDoorbell, run_register]

theorem run_acknowledge :
    runAcknowledge subspace = adding (auditAcknowledge subspace.record) id := by
  rw [auditAcknowledge, subspace.record_kind]
  simp [runAcknowledge, run_register]

theorem run_subspace : runSubspace subspace = adding (auditSubspace subspace.record) id := by
  unfold runSubspace auditSubspace
  rw [subspace.record_kind]
  cases subspaceLength? subspace.kind with
  | none => exact fail_adds _ _ _
  | some expected => simp [run_start, run_doorbell, run_acknowledge]

end Equal

theorem run_concludes {image : Image} {cursor : Cursor} (same : cursor.reader = image.reader) :
    run image cursor check.label = concluding (check.audit image) check.label := by
  have fixed : runFixedPart cursor = adding (auditFixedPart cursor.reader) id := by
    simp [runFixedPart, auditFixedPart]
  refine admission_concludes same rfl fun header => ?_
  simp only [fixed, contain_adds]
  refine bind_concluding (Audit.gives_contain _).result ?_
  refine Cursor.walk_concludes (by decide) _ run_subspace fun ending => ?_
  cases ending with
  | ok extent =>
      simp only [runEnding, write_adds, fail_if_adds, adding_bind]
      exact adding_finish (by simp)
  | error error =>
      simp only [runEnding, walk_error_adds]
      exact adding_finish rfl

end Pcct

end AcpiAudit
