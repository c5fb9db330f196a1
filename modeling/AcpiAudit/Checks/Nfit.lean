import AcpiAudit.Audit.Check
import AcpiAudit.Text.Flags

set_option autoImplicit false

namespace AcpiAudit.Nfit

open Audit

def target : String := "fwts_acpi_tables::nfit"

def firstStructure : Nat := Header.size + 4

def volatileMemory : Guid :=
  .ofFields 0x7305944F 0xFDDA 0x44E3 ⟨[0xB1, 0x6C, 0x3F, 0x22, 0xD2, 0x52, 0xE5, 0xD0], rfl⟩

def persistentMemory : Guid :=
  .ofFields 0x66F0D379 0xB4F3 0x4074 ⟨[0xAC, 0x43, 0x0D, 0x33, 0x18, 0xB7, 0x8C, 0xDB], rfl⟩

def controlRegion : Guid :=
  .ofFields 0x92F701F6 0x13B4 0x405D ⟨[0x91, 0x0B, 0x29, 0x93, 0x67, 0xE8, 0x23, 0x4C], rfl⟩

def blockDataWindow : Guid :=
  .ofFields 0x91AF0530 0x5D86 0x470E ⟨[0xA6, 0xB0, 0x0A, 0x2D, 0xB9, 0x40, 0x82, 0x49], rfl⟩

def volatileVirtualDisk : Guid :=
  .ofFields 0x77AB535A 0x45FC 0x624B ⟨[0x55, 0x60, 0xF7, 0xB2, 0x81, 0xD1, 0xF9, 0x6E], rfl⟩

def volatileVirtualCd : Guid :=
  .ofFields 0x3D5ABD30 0x4175 0x87CE ⟨[0x6D, 0x64, 0xD2, 0xAD, 0xE5, 0x23, 0xC4, 0xBB], rfl⟩

def persistentVirtualDisk : Guid :=
  .ofFields 0x5CEA02C9 0x4D07 0x69D3 ⟨[0x26, 0x9F, 0x44, 0x96, 0xFB, 0xE0, 0x96, 0xF9], rfl⟩

def persistentVirtualCd : Guid :=
  .ofFields 0x08018188 0x42CD 0xBB48 ⟨[0x10, 0x0F, 0x53, 0x87, 0xD5, 0x3D, 0xED, 0x3D], rfl⟩

def rangeTypes : List Guid :=
  [volatileMemory, persistentMemory, controlRegion, blockDataWindow, volatileVirtualDisk,
    volatileVirtualCd, persistentVirtualDisk, persistentVirtualCd]

structure RangeFlags where
  managementOnly : Bool
  proximityValid : Bool
  cookieValid : Bool
  reserved : Nat
deriving Repr, DecidableEq

namespace RangeFlags

def ofBits (bits : Nat) : RangeFlags :=
  ⟨bits.testBit 0, bits.testBit 1, bits.testBit 2, bits >>> 3⟩

def word (flags : RangeFlags) : FlagWord :=
  ⟨"RangeFlags",
    [("management_only", .flag flags.managementOnly),
      ("proximity_valid", .flag flags.proximityValid),
      ("location_cookie_valid", .flag flags.cookieValid), ("reserved", .number flags.reserved)]⟩

end RangeFlags

structure StateFlags where
  saveFailed : Bool
  restoreFailed : Bool
  flushFailed : Bool
  notArmed : Bool
  smartEvents : Bool
  smartEnabled : Bool
  mapFailed : Bool
  reserved : Nat
deriving Repr, DecidableEq

namespace StateFlags

def ofBits (bits : Nat) : StateFlags :=
  ⟨bits.testBit 0, bits.testBit 1, bits.testBit 2, bits.testBit 3, bits.testBit 4, bits.testBit 5,
    bits.testBit 6, bits >>> 7⟩

def word (flags : StateFlags) : FlagWord :=
  ⟨"StateFlags",
    [("save_failed", .flag flags.saveFailed), ("restore_failed", .flag flags.restoreFailed),
      ("flush_failed", .flag flags.flushFailed), ("not_armed", .flag flags.notArmed),
      ("smart_events", .flag flags.smartEvents), ("smart_enabled", .flag flags.smartEnabled),
      ("map_failed", .flag flags.mapFailed), ("reserved", .number flags.reserved)]⟩

end StateFlags

def lengthIs (entry : Record) (expected : Nat) : Audit Bool :=
  require (Rule.equals entry.length expected) .high "BadLength" "Structure Length"

def lengthAtLeast (entry : Record) (minimum : Nat) : Audit Bool :=
  require (Rule.atLeast entry.length minimum) .high "BadLength" "Structure Length"

def auditLength (length : Audit Bool) : Audit Unit := do
  let _ ← length

-- The type of an address range, which only a control region may use with index 0.
def auditRangeType (entry : Record) (index : Nat) : Audit Unit := do
  let type ← entry.reader.guid 16
  expect (Rule.knownGuid type rangeTypes) .medium "BadRangeTypeGuid"
    "SPA Range Address Range Type GUID"
  failIf (index = 0 ∧ type ≠ controlRegion) .high "BadRangeIndexZero"
    s!"SPA range of type {type.text} has index 0"

def auditRange (entry : Record) : Audit Unit := do
  if ← require (Rule.oneOf entry.length [56, 64]) .high "BadLength" "SPA Range Length" then
    let index ← entry.reader.u16 4
    let flags := RangeFlags.ofBits (← entry.reader.u16 6)
    expect (Rule.zero flags.reserved) .medium "ReservedNonZero"
      "SPA Range Flags reserved bits [15:3]"
    let reserved ← entry.reader.u32 8
    expect (Rule.zero reserved) .medium "ReservedNonZero" "SPA Range Reserved"
    auditRangeType entry index
    failIf (flags.cookieValid ∧ entry.length < 64) .medium "BadLength"
      "SPA Range claims a location cookie but is only 56 bytes"
    let length ← entry.reader.u64 40
    if length = 0 then warn s!"SPA range {index} has zero length" else return ()
  else return ()

def auditMapping (entry : Record) : Audit Unit := do
  if ← lengthIs entry 48 then
    let state := StateFlags.ofBits (← entry.reader.u16 44)
    expect (Rule.zero state.reserved) .medium "ReservedNonZero"
      "Region Mapping NVDIMM State Flags reserved bits [15:7]"
    let reserved ← entry.reader.u16 46
    expect (Rule.zero reserved) .medium "ReservedNonZero" "Region Mapping Reserved"
    if state.smartEvents then note "NVDIMM reported SMART health events" else return ()
  else return ()

def auditInterleave (entry : Record) : Audit Unit := do
  if ← lengthAtLeast entry 16 then
    let reserved ← entry.reader.u16 6
    expect (Rule.zero reserved) .medium "ReservedNonZero" "Interleave Reserved"
    let lines ← entry.reader.u32 8
    auditLength (lengthIs entry (16 + lines * 4))
  else return ()

def auditManagement (entry : Record) : Audit Unit := do
  if ← lengthAtLeast entry 8 then
    let reserved ← entry.reader.u32 4
    expect (Rule.zero reserved) .medium "ReservedNonZero" "SMBIOS Management Information Reserved"
  else return ()

def auditFlushHints (entry : Record) : Audit Unit := do
  if ← lengthAtLeast entry 16 then
    let hints ← entry.reader.u16 8
    let reserved ← entry.reader.read 10 6
    expect (Rule.zeroBytes reserved) .medium "ReservedNonZero" "Flush Hint Reserved"
    auditLength (lengthIs entry (16 + hints * 8))
  else return ()

def auditCapabilities (entry : Record) : Audit Unit := do
  if ← lengthIs entry 16 then
    let before ← entry.reader.read 5 3
    expect (Rule.zeroBytes before) .medium "ReservedNonZero" "Platform Capabilities Reserved"
    let capabilities ← entry.reader.u32 8
    expect (Rule.clearBits capabilities 3 31) .medium "ReservedBitsSet" "Platform Capabilities"
    let after ← entry.reader.u32 12
    expect (Rule.zero after) .medium "ReservedNonZero" "Platform Capabilities Reserved"
  else return ()

def auditStructure (entry : Record) : Audit Unit :=
  match entry.kind with
  | 0 => auditRange entry
  | 1 => auditMapping entry
  | 2 => auditInterleave entry
  | 3 => auditManagement entry
  | 4 => auditLength (lengthAtLeast entry 32)
  | 5 => auditLength (lengthIs entry 40)
  | 6 => auditFlushHints entry
  | 7 => auditCapabilities entry
  | kind =>
    let place := Hex.text entry.offset
    let shown := Hex.text kind
    fail .high "BadSubtableType" s!"structure at {place} has unknown type {shown}"

def auditFixedPart (reader : Reader) : Audit Unit := do
  let reserved ← reader.u32 Header.size
  expect (Rule.zero reserved) .medium "ReservedNonZero" "Reserved"

def body (table : Admitted) : Audit Unit := do
  contain (auditFixedPart table.reader)
  match ← eachRecord (table.reader.course .kind16Length16 .declared firstStructure)
      auditStructure with
  | .ok extent => write .debug target s!"NFIT: {extent.records} structures"
  | .error error => reportDefect error

def check : Check where
  signature := .nfit
  name := "NVDIMM Firmware Interface Table"
  fixedSize _ := firstStructure
  body _ := body

end AcpiAudit.Nfit
