import AcpiAudit.Audit.Check
import AcpiAudit.Table.Register
import AcpiAudit.Text.Flags

set_option autoImplicit false

namespace AcpiAudit.Pcct

open Audit

def target : String := "fwts_acpi_tables::pcct"

def firstSubspace : Nat := Header.size + 12

def greatestSubspaceCount : Nat := 256

structure ChannelFlags where
  platformInterrupt : Bool
  reserved : Nat
deriving Repr, DecidableEq

namespace ChannelFlags

def ofBits (bits : Nat) : ChannelFlags := ⟨bits.testBit 0, bits >>> 1⟩

def word (flags : ChannelFlags) : FlagWord :=
  ⟨"PcctFlags",
    [("platform_interrupt", .flag flags.platformInterrupt), ("reserved", .number flags.reserved)]⟩

end ChannelFlags

structure InterruptFlags where
  activeLow : Bool
  edgeTriggered : Bool
  reserved : Nat
deriving Repr, DecidableEq

namespace InterruptFlags

def ofBits (bits : Nat) : InterruptFlags := ⟨bits.testBit 0, bits.testBit 1, bits >>> 2⟩

def word (flags : InterruptFlags) : FlagWord :=
  ⟨"InterruptFlags",
    [("polarity", .flag flags.activeLow), ("mode", .flag flags.edgeTriggered),
      ("reserved", .number flags.reserved)]⟩

end InterruptFlags

def subspaceLength? : Nat → Option Nat
  | 0 => some 62
  | 1 => some 62
  | 2 => some 90
  | 3 => some 164
  | 4 => some 164
  | 5 => some 96
  | _ => none

def doorbellSpaces : List Nat := [AddressSpace.systemMemory.id, AddressSpace.systemIo.id]

def auditFixedPart (reader : Reader) : Audit Unit := do
  let flags := ChannelFlags.ofBits (← reader.u32 36)
  write .trace target s!"PCCT flags {flags.word.text}"
  expect (Rule.zero flags.reserved) .medium "ReservedNonZero" "Flags reserved bits [31:1]"
  let reserved ← reader.u64 40
  expect (Rule.zero reserved) .medium "ReservedNonZero" "Reserved"

def auditRegister (register : Register) (name : String) : Audit Unit := do
  expect (Rule.addressSpace register.space doorbellSpaces) .high "BadAddressSpaceId" name
  expect register.accessSizeRule .medium "BadAccessSize" name

def auditStart (subspace : Record) : Audit Unit := do
  if subspace.kind = 0 then
    let reserved ← subspace.reader.read 2 6
    expect (Rule.zeroBytes reserved) .medium "ReservedNonZero" "Generic Subspace Reserved"
  else if subspace.kind ≤ 4 then
    let flags := InterruptFlags.ofBits (← subspace.reader.u8 6)
    expect (Rule.zero flags.reserved) .medium "ReservedNonZero"
      "Subspace Platform Interrupt Flags reserved bits [7:2]"
    let reserved ← subspace.reader.u8 7
    expect (Rule.zero reserved) .medium "ReservedNonZero" "Subspace Reserved"
  else return ()

def auditDoorbell (subspace : Record) : Audit Unit := do
  if subspace.kind ≤ 2 then
    let doorbell ← subspace.reader.register 24
    auditRegister doorbell "Doorbell Register"
  else return ()

def auditAcknowledge (subspace : Record) : Audit Unit := do
  if subspace.kind = 2 then
    let acknowledge ← subspace.reader.register 62
    auditRegister acknowledge "Platform Interrupt Ack Register"
  else return ()

def auditSubspace (subspace : Record) : Audit Unit := do
  match subspaceLength? subspace.kind with
  | none =>
    let place := Hex.text subspace.offset
    let kind := Hex.text subspace.kind
    fail .high "BadSubspaceType"
      s!"subspace {subspace.index} at offset {place} has unknown type {kind}"
  | some expected =>
    if ← require (Rule.equals subspace.length expected) .high "BadSubspaceLength"
        "Subspace Length" then
      auditStart subspace
      auditDoorbell subspace
      auditAcknowledge subspace
    else return ()

def body (table : Admitted) : Audit Unit := do
  contain (auditFixedPart table.reader)
  match ← eachRecord (table.reader.course .kind8Length8 .declared firstSubspace)
      auditSubspace with
  | .ok extent =>
    write .debug target s!"PCCT: {extent.records} subspaces"
    failIf (greatestSubspaceCount < extent.records) .low "TooManySubspaces"
      s!"has {extent.records} subspaces, at most {greatestSubspaceCount} are allowed"
  | .error error => reportDefect error

def check : Check where
  signature := .pcct
  name := "Platform Communications Channel Table"
  fixedSize _ := firstSubspace
  body _ := body

end AcpiAudit.Pcct
