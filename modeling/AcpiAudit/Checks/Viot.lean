import AcpiAudit.Audit.Check

/-!
The VIOT: nodes for the IOMMUs of a virtual machine and for the endpoints behind them. An endpoint
names its IOMMU by the offset of that node, which may stand before or after the endpoint.
-/

set_option autoImplicit false

namespace AcpiAudit.Viot

open Audit

def target : String := "fwts_acpi_tables::viot"

def fixedSize : Nat := Header.size + 12

inductive NodeType where
  | pciRange
  | mmioEndpoint
  | virtioPciIommu
  | virtioMmioIommu
deriving Repr, DecidableEq

namespace NodeType

def ofKind? : Nat → Option NodeType
  | 1 => some pciRange
  | 2 => some mmioEndpoint
  | 3 => some virtioPciIommu
  | 4 => some virtioMmioIommu
  | _ => none

def length : NodeType → Nat
  | pciRange => 24
  | mmioEndpoint => 24
  | virtioPciIommu => 16
  | virtioMmioIommu => 16

def isIommu : NodeType → Bool
  | pciRange => false
  | mmioEndpoint => false
  | virtioPciIommu => true
  | virtioMmioIommu => true

def tag : NodeType → String
  | pciRange => "PciRange"
  | mmioEndpoint => "MmioEndpoint"
  | virtioPciIommu => "VirtioPciIommu"
  | virtioMmioIommu => "VirtioMmioIommu"

end NodeType

def soundType? (node : Record) : Option NodeType :=
  (NodeType.ofKind? node.kind).filter fun type => node.length == type.length

def outputNode (node : Record) : Nat := node.bytes.number 16 2

structure Output where
  node : Nat
  target : Nat
deriving Repr, DecidableEq

-- The offsets of the IOMMUs that a walk has met, and the endpoints, each in the order of the walk.
structure Gathered where
  iommus : List Nat := []
  outputs : List Output := []
deriving Repr, DecidableEq

namespace Gathered

def addIommu (gathered : Gathered) (offset : Nat) : Gathered :=
  { gathered with iommus := gathered.iommus ++ [offset] }

def addOutput (gathered : Gathered) (output : Output) : Gathered :=
  { gathered with outputs := gathered.outputs ++ [output] }

def meet (gathered : Gathered) (node : Record) : Gathered :=
  match soundType? node with
  | none => gathered
  | some type =>
    if type.isIommu then gathered.addIommu node.offset
    else gathered.addOutput ⟨node.offset, outputNode node⟩

end Gathered

structure NodeRun where
  count : Nat
  start : Nat
deriving Repr, DecidableEq

def auditFixedPart (reader : Reader) : Audit NodeRun := do
  let count ← reader.u16 36
  let start ← reader.u16 38
  let reserved ← reader.read 40 8
  expect (Rule.zeroBytes reserved) .medium "ReservedNonZero" "Reserved"
  return ⟨count, start⟩

def auditPciRange (node : Record) : Audit Unit := do
  let firstSegment ← node.reader.u16 8
  let lastSegment ← node.reader.u16 10
  let firstFunction ← node.reader.u16 12
  let lastFunction ← node.reader.u16 14
  failIf (lastSegment < firstSegment) .medium "BadRange"
    ("PCI range segment start " ++ Hex.text firstSegment ++ " > end " ++ Hex.text lastSegment)
  failIf (lastFunction < firstFunction) .medium "BadRange"
    ("PCI range BDF start " ++ Hex.text firstFunction ++ " > end " ++ Hex.text lastFunction)
  let reserved ← node.reader.read 18 6
  expect (Rule.zeroBytes reserved) .medium "ReservedNonZero" "PCI Range Reserved"

def auditMmioEndpoint (node : Record) : Audit Unit := do
  let base ← node.reader.u64 8
  failIf (base = 0) .low "BadBaseAddress"
    ("MMIO endpoint at " ++ Hex.text node.offset ++ " has a zero base address")
  let reserved ← node.reader.read 18 6
  expect (Rule.zeroBytes reserved) .medium "ReservedNonZero" "MMIO Endpoint Reserved"

def auditVirtioPciIommu (node : Record) : Audit Unit := do
  let reserved ← node.reader.read 8 8
  expect (Rule.zeroBytes reserved) .medium "ReservedNonZero" "virtio-pci IOMMU Reserved"

def auditVirtioMmioIommu (node : Record) : Audit Unit := do
  let reserved ← node.reader.u32 4
  expect (Rule.zero reserved) .medium "ReservedNonZero" "virtio-mmio IOMMU Reserved"
  let base ← node.reader.u64 8
  failIf (base = 0) .low "BadBaseAddress"
    ("virtio-mmio IOMMU at " ++ Hex.text node.offset ++ " has a zero base address")

def auditContent (node : Record) : NodeType → Audit Unit
  | .pciRange => auditPciRange node
  | .mmioEndpoint => auditMmioEndpoint node
  | .virtioPciIommu => auditVirtioPciIommu node
  | .virtioMmioIommu => auditVirtioMmioIommu node

def auditNode (node : Record) : Audit Unit := do
  let reserved ← node.reader.u8 1
  expect (Rule.zero reserved) .medium "ReservedNonZero" "Node Reserved"
  match NodeType.ofKind? node.kind with
  | none =>
    let place := Hex.text node.offset
    let kind := Hex.text node.kind
    fail .high "BadNodeType" s!"node at {place} has unknown type {kind}"
  | some type =>
    if ← require (Rule.equals node.length type.length) .high "BadNodeLength" "Node Length" then
      auditContent node type
    else return ()

def auditEnding (run : NodeRun) : Except WalkError Extent → Audit Unit
  | .ok extent => do
    write .debug target s!"VIOT: {extent.records} nodes"
    failIf (extent.records ≠ run.count) .medium "NodeCountMismatch"
      s!"Node Count is {run.count} but {extent.records} nodes were found"
  | .error error => reportDefect error

-- The node at an offset was not looked at, because the walk broke off before it.
def isUnseen (ending : Except WalkError Extent) (offset : Nat) : Bool :=
  match ending with
  | .ok _ => false
  | .error error => error.offset ≤ offset

def auditOutput (iommus : List Nat) (ending : Except WalkError Extent) (output : Output) :
    Audit Unit :=
  let wanted := Hex.text output.target
  if isUnseen ending output.target then
    write .debug target s!"VIOT: output node {wanted} lies past the end of the walk, not resolved"
  else
    let place := Hex.text output.node
    failIf (output.target ∉ iommus) .high "BadOutputNode"
      s!"node at {place} has Output Node {wanted}, which is not an IOMMU node"

def auditNodes (reader : Reader) (run : NodeRun) : Audit Unit := do
  let course := reader.course .kind8Gap8Length16 .declared run.start
  let (ending, gathered) ← gatherRecords course auditNode Gathered.meet {}
  auditEnding run ending
  gathered.outputs.forM (auditOutput gathered.iommus ending)

def body (table : Admitted) : Audit Unit := do
  let run ← auditFixedPart table.reader
  if run.start < fixedSize then
    let place := Hex.text run.start
    let least := Hex.text fixedSize
    fail .high "BadNodeOffset" s!"Node Offset {place} points inside the fixed part (< {least})"
  else auditNodes table.reader run

def check : Check where
  signature := .viot
  name := "Virtual I/O Translation Table"
  fixedSize _ := fixedSize
  body _ := body

end AcpiAudit.Viot
