import AcpiAudit.Proofs.Checks.Gathering
import AcpiAudit.Proofs.Machine.Admission
import AcpiAudit.Proofs.Machine.Rule
import AcpiAudit.Proofs.Machine.Walk

set_option autoImplicit false

namespace AcpiAudit.Viot

open Recorder

def runFixedPart (cursor : Cursor) : Recorder Unit NodeRun := do
  let count ← cursor.u16 36
  let start ← cursor.u16 38
  let reserved ← cursor.read 40 8
  expect (← Rule.runZeroBytes reserved) .medium "ReservedNonZero" "Reserved"
  return ⟨count, start⟩

def runPciRange (node : SubRecord) : Recorder Gathered Unit := do
  let firstSegment ← node.cursor.u16 8
  let lastSegment ← node.cursor.u16 10
  let firstFunction ← node.cursor.u16 12
  let lastFunction ← node.cursor.u16 14
  failIf (lastSegment < firstSegment) .medium "BadRange"
    ("PCI range segment start " ++ Hex.text firstSegment ++ " > end " ++ Hex.text lastSegment)
  failIf (lastFunction < firstFunction) .medium "BadRange"
    ("PCI range BDF start " ++ Hex.text firstFunction ++ " > end " ++ Hex.text lastFunction)
  let wanted ← node.cursor.u16 16
  gather (·.addOutput ⟨node.offset, wanted⟩)
  let reserved ← node.cursor.read 18 6
  expect (← Rule.runZeroBytes reserved) .medium "ReservedNonZero" "PCI Range Reserved"

def runMmioEndpoint (node : SubRecord) : Recorder Gathered Unit := do
  let base ← node.cursor.u64 8
  failIf (base = 0) .low "BadBaseAddress"
    ("MMIO endpoint at " ++ Hex.text node.offset ++ " has a zero base address")
  let wanted ← node.cursor.u16 16
  gather (·.addOutput ⟨node.offset, wanted⟩)
  let reserved ← node.cursor.read 18 6
  expect (← Rule.runZeroBytes reserved) .medium "ReservedNonZero" "MMIO Endpoint Reserved"

def runVirtioPciIommu (node : SubRecord) : Recorder Gathered Unit := do
  gather (·.addIommu node.offset)
  let reserved ← node.cursor.read 8 8
  expect (← Rule.runZeroBytes reserved) .medium "ReservedNonZero" "virtio-pci IOMMU Reserved"

def runVirtioMmioIommu (node : SubRecord) : Recorder Gathered Unit := do
  gather (·.addIommu node.offset)
  let reserved ← node.cursor.u32 4
  expect (Rule.zero reserved) .medium "ReservedNonZero" "virtio-mmio IOMMU Reserved"
  let base ← node.cursor.u64 8
  failIf (base = 0) .low "BadBaseAddress"
    ("virtio-mmio IOMMU at " ++ Hex.text node.offset ++ " has a zero base address")

def runContent (node : SubRecord) : NodeType → Recorder Gathered Unit
  | .pciRange => runPciRange node
  | .mmioEndpoint => runMmioEndpoint node
  | .virtioPciIommu => runVirtioPciIommu node
  | .virtioMmioIommu => runVirtioMmioIommu node

def runNode (node : SubRecord) : Recorder Gathered Unit := do
  let reserved ← node.cursor.u8 1
  expect (Rule.zero reserved) .medium "ReservedNonZero" "Node Reserved"
  match NodeType.ofKind? node.kind with
  | none =>
    let place := Hex.text node.offset
    let kind := Hex.text node.kind
    fail .high "BadNodeType" s!"node at {place} has unknown type {kind}"
  | some type =>
    if ← require (Rule.equals node.length type.length) .high "BadNodeLength" "Node Length" then
      runContent node type
    else return ()

def runEnding (run : NodeRun) : Except WalkError Extent → Recorder Unit (Option Nat)
  | .ok extent => do
    write .debug target s!"VIOT: {extent.records} nodes"
    failIf (extent.records ≠ run.count) .medium "NodeCountMismatch"
      s!"Node Count is {run.count} but {extent.records} nodes were found"
    return none
  | .error error => do
    walkError error
    return some error.offset

def runOutput (iommus : List Nat) (walkedTo : Option Nat) (output : Output) :
    Recorder Unit Unit :=
  let wanted := Hex.text output.target
  if walkedTo.any (· ≤ output.target) then
    write .debug target s!"VIOT: output node {wanted} lies past the end of the walk, not resolved"
  else
    let place := Hex.text output.node
    failIf (output.target ∉ iommus) .high "BadOutputNode"
      s!"node at {place} has Output Node {wanted}, which is not an IOMMU node"

def run (image : Image) (cursor : Cursor) : Recorder Unit Unit := do
  match ← Admission.run image cursor .viot fixedSize with
  | none => return ()
  | some _ =>
    match ← attempt (runFixedPart cursor) with
    | .error error =>
      readError error
      finish
    | .ok run =>
      if run.start < fixedSize then
        let place := Hex.text run.start
        let least := Hex.text fixedSize
        fail .high "BadNodeOffset" s!"Node Offset {place} points inside the fixed part (< {least})"
        finish
      else
        let (ending, nodes) ←
          gathering {} (cursor.eachRecord .kind8Gap8Length16 run.start runNode)
        let walkedTo ← runEnding run ending
        nodes.outputs.forM (runOutput nodes.iommus walkedTo)
        finish

section Node

variable {node : SubRecord}

theorem number_inside {offset width : Nat} (fits : offset + width ≤ node.length) :
    node.record.reader.number offset width = .ok (node.record.bytes.number offset width) :=
  Reader.number_of_fits (by rwa [← node.whole] at fits)

theorem run_pci_range (long : node.length = 24) :
    runPciRange node = adding (auditPciRange node.record) (·.addOutput (output node.record)) := by
  have read (offset : Nat) (fits : offset + 2 ≤ 24) :
      node.record.reader.u16 offset = .ok (node.record.bytes.number offset 2) :=
    number_inside (long ▸ fits)
  simp only [runPciRange, auditPciRange, Cursor.u16_eq, Cursor.read_eq, node.cursor_reader, read,
    Nat.reduceAdd, Nat.reduceLeDiff, Audit.lift_pure, run_adds, pure_then, pure_bind,
    fail_if_adds, gather_adds, read_adds, Rule.run_zero_bytes, checked_adds, expect_adds,
    adding_bind]
  refine then_adds _ (Audit.result_fail_if _ _ _ _) ?_
  refine then_adds _ (Audit.result_fail_if _ _ _ _) ?_
  rfl

theorem run_mmio_endpoint (long : node.length = 24) :
    runMmioEndpoint node =
      adding (auditMmioEndpoint node.record) (·.addOutput (output node.record)) := by
  have base : node.record.reader.u64 8 = .ok (node.record.bytes.number 8 8) :=
    number_inside (by omega)
  have wanted : node.record.reader.u16 16 = .ok (node.record.bytes.number 16 2) :=
    number_inside (by omega)
  simp only [runMmioEndpoint, auditMmioEndpoint, Cursor.u16_eq, Cursor.u64_eq, Cursor.read_eq,
    node.cursor_reader, base, wanted, Audit.lift_pure, run_adds, pure_then, pure_bind,
    fail_if_adds, gather_adds, read_adds, Rule.run_zero_bytes, checked_adds, expect_adds,
    adding_bind]
  refine then_adds _ (Audit.result_fail_if _ _ _ _) ?_
  rfl

theorem run_virtio_pci_iommu :
    runVirtioPciIommu node =
      adding (auditVirtioPciIommu node.record) (·.addIommu node.offset) := by
  simp [runVirtioPciIommu, auditVirtioPciIommu, Rule.run_zero_bytes, Cursor.read_eq]

theorem run_virtio_mmio_iommu :
    runVirtioMmioIommu node =
      adding (auditVirtioMmioIommu node.record) (·.addIommu node.offset) := by
  simp [runVirtioMmioIommu, auditVirtioMmioIommu]

-- The vectors grow in the middle of a node, so that its length, which lets every read succeed, is
-- what makes the node put there whatever is found in it.
theorem run_content {type : NodeType} (long : node.length = type.length) :
    runContent node type = adding (auditContent node.record type) fun gathered =>
      if type.isIommu then gathered.addIommu node.offset
      else gathered.addOutput (output node.record) := by
  cases type with
  | pciRange => exact run_pci_range long
  | mmioEndpoint => exact run_mmio_endpoint long
  | virtioPciIommu => exact run_virtio_pci_iommu
  | virtioMmioIommu => exact run_virtio_mmio_iommu

theorem run_unsound (unsound : soundType? node.record = none) :
    runNode node = adding (auditNode node.record) id := by
  simp only [runNode, auditNode, Cursor.u8_eq, node.cursor_reader, run_adds, expect_adds,
    node.record_kind]
  refine bind_adding fun reserved _ => ?_
  refine bind_adding fun _ _ => ?_
  cases known : NodeType.ofKind? node.kind with
  | none => exact fail_adds _ _ _
  | some type =>
      have short : ¬ node.record.length = type.length := fun long => by
        rw [(sound_type_some type).mpr ⟨known, long⟩] at unsound
        cases unsound
      rw [node.record_length] at short ⊢
      simp only [require_adds]
      obtain ⟨_, failed⟩ := Audit.gives_failed (Rule.equals_decides _ _) short .high
        "BadNodeLength" "Node Length"
      exact then_adds id failed.result (pure_adds ())

theorem run_sound {type : NodeType} (sound : soundType? node.record = some type) :
    runNode node = adding (auditNode node.record) fun gathered =>
      if type.isIommu then gathered.addIommu node.offset
      else gathered.addOutput (output node.record) := by
  obtain ⟨known, long⟩ := (sound_type_some type).mp sound
  rw [node.record_length] at long
  have reserved : node.record.reader.u8 1 = .ok (node.record.bytes.number 1 1) :=
    number_inside (by cases type <;> simp [long, NodeType.length])
  have passed := Audit.gives_passed (Rule.equals_decides _ _) long .high "BadNodeLength"
    "Node Length"
  simp only [runNode, auditNode, Cursor.u8_eq, node.cursor_reader, reserved, Audit.lift_pure,
    run_adds, pure_then, pure_bind, expect_adds, require_adds, node.record_kind,
    node.record_length]
  refine then_adds _ rfl ?_
  rw [node.record_kind] at known
  simp only [known]
  exact then_adds _ passed.result (run_content long)

theorem run_node (node : SubRecord) :
    runNode node = adding (auditNode node.record) (·.meet node.record) := by
  unfold Gathered.meet
  cases sound : soundType? node.record with
  | none => exact run_unsound sound
  | some type => exact run_sound sound

end Node

section Ending

theorem ending_gives (run : NodeRun) (ending : Except WalkError Extent) :
    (auditEnding run ending).Gives (auditEnding run ending).findings () := by
  refine ⟨rfl, ?_⟩
  cases ending with
  | ok extent =>
      exact (Audit.gives_bind (Audit.gives_write _ _ _) (Audit.gives_fail_if _ _ _ _)).result
  | error error => rfl

variable (cursor : Cursor) (run : NodeRun)

def stopOf : Except WalkError Extent → Option Nat
  | .ok _ => none
  | .error error => some error.offset

theorem run_ending (ending : Except WalkError Extent) :
    runEnding run ending = adding ((fun _ => stopOf ending) <$> auditEnding run ending) id := by
  cases ending with
  | ok extent => simp [runEnding, auditEnding, stopOf]
  | error error => simp [runEnding, auditEnding, stopOf]

theorem run_output (iommus : List Nat) (ending : Except WalkError Extent) (output : Output) :
    runOutput iommus (stopOf ending) output = adding (auditOutput iommus ending output) id := by
  have unseen : (stopOf ending).any (· ≤ output.target) = isUnseen ending output.target := by
    cases ending <;> rfl
  simp [runOutput, auditOutput, unseen]

theorem ending_concludes (nodes : Gathered) (ending : Except WalkError Extent) :
    (do
      let walkedTo ← runEnding run ending
      nodes.outputs.forM (runOutput nodes.iommus walkedTo)
      finish) = (concluding (do
        auditEnding run ending
        nodes.outputs.forM (auditOutput nodes.iommus ending)) : Recorder Unit Unit) := by
  have stopped := Audit.gives_map (fun _ => stopOf ending) (ending_gives run ending)
  let rest : Audit Unit := nodes.outputs.forM (auditOutput nodes.iommus ending)
  have outputs : nodes.outputs.forM (runOutput nodes.iommus (stopOf ending)) = adding rest id :=
    for_each_adds fun output _ => run_output nodes.iommus ending output
  have ended : (auditEnding run ending >>= fun _ => rest) =
      (fun _ => stopOf ending) <$> auditEnding run ending >>= fun _ => rest := by
    rw [bind_map_left]
  rw [run_ending]
  refine (bind_concluding stopped.result ?_).trans (congrArg concluding ended.symm)
  rw [outputs]
  exact adding_finish (Audit.gives_for_each (output_gives nodes.iommus ending)).result

theorem nodes_conclude :
    (do
      let (ending, nodes) ← gathering {} (cursor.eachRecord .kind8Gap8Length16 run.start runNode)
      let walkedTo ← runEnding run ending
      nodes.outputs.forM (runOutput nodes.iommus walkedTo)
      finish) = concluding (auditNodes cursor.reader run) := by
  let course := cursor.reader.course .kind8Gap8Length16 .declared run.start
  have walked : cursor.eachRecord .kind8Gap8Length16 run.start runNode =
      adding (Audit.eachRecord course auditNode) fun nodes =>
        course.records.foldl Gathered.meet nodes :=
    Cursor.each_record_adds Gathered.meet (by decide) run.start run_node
  let rest (found : Except WalkError Extent × Gathered) : Audit Unit := do
    auditEnding run found.1
    found.2.outputs.forM (auditOutput found.2.iommus found.1)
  have nodes : auditNodes cursor.reader run =
      (·, gathered course) <$> Audit.eachRecord course auditNode >>= rest := by
    rw [audit_nodes_eq, bind_map_left]
  have reached := Audit.gives_map (·, gathered course) (Audit.gives_each_record course auditNode)
  rw [walked, gathering_adds, nodes]
  exact bind_concluding reached.result (ending_concludes run (gathered course) course.outcome)

theorem run_concludes {image : Image} {cursor : Cursor} (same : cursor.reader = image.reader) :
    Viot.run image cursor check.label = concluding (check.audit image) check.label := by
  have fixed : runFixedPart cursor = adding (auditFixedPart cursor.reader) id := by
    simp [runFixedPart, auditFixedPart, Rule.run_zero_bytes, Cursor.read_eq]
  refine admission_concludes same rfl fun header => ?_
  simp only [check, body, fixed, attempt_adds]
  refine attempt_concluding (fun _ => rfl) fun run _ => ?_
  by_cases early : run.start < fixedSize
  · simp only [if_pos early, fail_adds]
    exact adding_finish rfl
  · simp only [if_neg early]
    exact nodes_conclude cursor run

end Ending

end AcpiAudit.Viot
