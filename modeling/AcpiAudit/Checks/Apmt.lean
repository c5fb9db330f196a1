import AcpiAudit.Audit.Check
import AcpiAudit.Text.Flags

set_option autoImplicit false

namespace AcpiAudit.Apmt

open Audit

def target : String := "fwts_acpi_tables::apmt"

def nodeSize : Nat := 56

def greatestNodeType : Nat := 4

structure NodeFlags where
  dualPage : Bool
  processorContainer : Bool
  atomic64 : Bool
  reserved : Nat
deriving Repr, DecidableEq

namespace NodeFlags

def ofBits (bits : Nat) : NodeFlags :=
  ⟨bits.testBit 0, bits.testBit 1, bits.testBit 2, bits >>> 3⟩

def word (flags : NodeFlags) : FlagWord :=
  ⟨"NodeFlags",
    [("dual_page", .flag flags.dualPage),
      ("processor_container", .flag flags.processorContainer),
      ("atomic_64bit", .flag flags.atomic64), ("reserved", .number flags.reserved)]⟩

end NodeFlags

def auditBases (node : Record) (flags : NodeFlags) : Audit Unit := do
  let first ← node.reader.u64 20
  failIf (first = 0) .low "BadBaseAddress" s!"PMU node {node.index} Base Address 0 is zero"
  if flags.dualPage then
    let second ← node.reader.u64 28
    failIf (second = 0) .low "BadBaseAddress"
      s!"PMU node {node.index} advertises dual-page support but Base Address 1 is zero"
  else return ()

def auditNode (node : Record) : Audit Unit := do
  if ← require (Rule.equals node.length nodeSize) .high "BadNodeLength" "PMU Node Length" then
    expect (Rule.within node.kind 0 greatestNodeType) .high "InvalidNodeType" "PMU Node Type"
    let flags := NodeFlags.ofBits (← node.reader.u8 2)
    expect (Rule.zero flags.reserved) .medium "ReservedNonZero"
      "PMU Node Flags reserved bits [7:3]"
    auditBases node flags
    let reserved ← node.reader.u32 40
    expect (Rule.zero reserved) .medium "ReservedNonZero" "PMU Node Reserved"
    let interrupt ← node.reader.u32 44
    expect (Rule.clearBits interrupt 1 31) .medium "ReservedBitsSet"
      "PMU Node Overflow Interrupt Flags"
  else return ()

def body (table : Admitted) : Audit Unit := do
  match ← eachRecord (table.reader.course .length16Gap8Kind8 .declared Header.size) auditNode with
  | .ok extent => write .debug target s!"APMT: {extent.records} PMU nodes"
  | .error error => reportDefect error

def check : Check where
  signature := .apmt
  name := "Arm Performance Monitoring Unit Table"
  fixedSize _ := Header.size
  body _ := body

end AcpiAudit.Apmt
