import AcpiAudit.Audit.Check
import AcpiAudit.Text.Flags

set_option autoImplicit false

namespace AcpiAudit.Gtdt

open Audit

def target : String := "fwts_acpi_tables::gtdt"

-- From revision 3 on the fixed part also describes the virtual EL2 timer.
def fixedSize (revision : Nat) : Nat := if 3 ≤ revision then 104 else 96

def blockHeaderSize : Nat := 20

def entrySize : Nat := 40

def greatestEntryCount : Nat := 8

def watchdogSize : Nat := 28

structure TimerFlags where
  edgeTriggered : Bool
  activeLow : Bool
  alwaysOn : Bool
  reserved : Nat
deriving Repr, DecidableEq

namespace TimerFlags

def ofBits (bits : Nat) : TimerFlags :=
  ⟨bits.testBit 0, bits.testBit 1, bits.testBit 2, bits >>> 3⟩

def word (flags : TimerFlags) : FlagWord :=
  ⟨"TimerFlags",
    [("mode", .flag flags.edgeTriggered), ("polarity", .flag flags.activeLow),
      ("always_on", .flag flags.alwaysOn), ("reserved", .number flags.reserved)]⟩

end TimerFlags

structure WatchdogFlags where
  edgeTriggered : Bool
  activeLow : Bool
  secure : Bool
  reserved : Nat
deriving Repr, DecidableEq

namespace WatchdogFlags

def ofBits (bits : Nat) : WatchdogFlags :=
  ⟨bits.testBit 0, bits.testBit 1, bits.testBit 2, bits >>> 3⟩

def word (flags : WatchdogFlags) : FlagWord :=
  ⟨"WatchdogFlags",
    [("mode", .flag flags.edgeTriggered), ("polarity", .flag flags.activeLow),
      ("secure", .flag flags.secure), ("reserved", .number flags.reserved)]⟩

end WatchdogFlags

structure TimerRun where
  count : Nat
  start : Nat
deriving Repr, DecidableEq

def auditTimerFlags (reader : Reader) (offset : Nat) (timer : String) : Audit Unit := do
  let flags := TimerFlags.ofBits (← reader.u32 offset)
  write .trace target s!"GTDT {timer} flags {flags.word.text}"
  expect (Rule.zero flags.reserved) .medium "ReservedNonZero" timer

def auditVirtualTimer (reader : Reader) (revision : Nat) : Audit Unit :=
  if 3 ≤ revision then auditTimerFlags reader 100 "Virtual EL2 Timer Flags" else pure ()

def auditFixedPart (reader : Reader) (revision : Nat) : Audit TimerRun := do
  let reserved ← reader.u32 44
  expect (Rule.zero reserved) .medium "ReservedNonZero" "Reserved"
  auditTimerFlags reader 52 "Secure EL1 Timer Flags"
  auditTimerFlags reader 60 "Non-Secure EL1 Timer Flags"
  auditTimerFlags reader 68 "Virtual EL1 Timer Flags"
  auditTimerFlags reader 76 "EL2 Timer Flags"
  auditVirtualTimer reader revision
  let count ← reader.u32 88
  let start ← reader.u32 92
  return ⟨count, start⟩

def auditEntry (index : Nat) (entry : Reader) : Audit Unit := do
  let frame ← entry.u8 0
  failIf (8 ≤ frame) .high "BadGtBlockFrameNumber"
    s!"GT block timer {index} has frame number {frame}, expected 0..=7"
  let reserved ← entry.read 1 3
  expect (Rule.zeroBytes reserved) .medium "ReservedNonZero" "GT Block Timer Reserved"
  let physical ← entry.u32 24
  expect (Rule.clearBits physical 2 31) .medium "ReservedBitsSet" "GT Block Physical Timer Flags"
  let virtual ← entry.u32 32
  expect (Rule.clearBits virtual 2 31) .medium "ReservedBitsSet" "GT Block Virtual Timer Flags"
  let shared ← entry.u32 36
  expect (Rule.clearBits shared 2 31) .medium "ReservedBitsSet" "GT Block Common Flags"

def auditEntries (block : Record) (count start : Nat) : Audit Unit :=
  match block.reader.window start (count * entrySize) with
  | .ok entries =>
    (List.range count).forM fun index => do
      let entry ← entries.window (index * entrySize) entrySize
      auditEntry index entry
  | .error _ =>
    let place := Hex.text block.offset
    let inner := Hex.text start
    fail .high "BadGtBlockTimerOffset"
      (s!"GT block at {place}: {count} timers at offset {inner} do not fit its " ++
        s!"{block.length} bytes")

def auditBlock (block : Record) : Audit Unit := do
  if ← require (Rule.atLeast block.length blockHeaderSize) .high "BadGtBlockLength"
      "GT Block Length" then
    let reserved ← block.reader.u8 3
    expect (Rule.zero reserved) .medium "ReservedNonZero" "GT Block Reserved"
    let count ← block.reader.u32 12
    if ← require (Rule.within count 0 greatestEntryCount) .high "GtBlockTimerCount"
        "GT Block Timer Count" then
      let start ← block.reader.u32 16
      auditEntries block count start
    else return ()
  else return ()

def auditWatchdog (watchdog : Record) : Audit Unit := do
  if ← require (Rule.equals watchdog.length watchdogSize) .high "BadWatchdogLength"
      "Watchdog Length" then
    let reserved ← watchdog.reader.u8 3
    expect (Rule.zero reserved) .medium "ReservedNonZero" "Watchdog Reserved"
    let flags := WatchdogFlags.ofBits (← watchdog.reader.u32 24)
    expect (Rule.zero flags.reserved) .medium "ReservedNonZero" "Watchdog Timer Flags"
  else return ()

def auditTimer (timer : Record) : Audit Unit :=
  match timer.kind with
  | 0 => auditBlock timer
  | 1 => auditWatchdog timer
  | kind =>
    let place := Hex.text timer.offset
    let shown := Hex.text kind
    fail .high "InvalidPlatformTimerType" s!"platform timer at {place} has unknown type {shown}"

def auditTimers (reader : Reader) (run : TimerRun) : Audit Unit := do
  match ← eachRecord (reader.course .kind8Length16 .declared run.start) auditTimer with
  | .ok extent =>
    failIf (extent.records ≠ run.count) .medium "PlatformTimerCount"
      s!"Platform Timer Count is {run.count} but {extent.records} timers were found"
  | .error error => reportDefect error

def body (least : Nat) (table : Admitted) : Audit Unit := do
  let run ← auditFixedPart table.reader table.header.revision
  if run.count = 0 then write .debug target "GTDT: no platform timers"
  else if run.start < least then
    let place := Hex.text run.start
    fail .high "BadPlatformTimerOffset"
      s!"Platform Timer Offset {place} points inside the fixed part"
  else auditTimers table.reader run

def check : Check where
  signature := .gtdt
  name := "Generic Timer Description Table"
  fixedSize := fixedSize
  body := body

end AcpiAudit.Gtdt
