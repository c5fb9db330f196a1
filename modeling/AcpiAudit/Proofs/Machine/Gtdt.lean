import AcpiAudit.Checks.Gtdt
import AcpiAudit.Proofs.Machine.Admission
import AcpiAudit.Proofs.Machine.Rule
import AcpiAudit.Proofs.Machine.Walk

set_option autoImplicit false

namespace AcpiAudit.Gtdt

open Recorder

def runTimerFlags (cursor : Cursor) (offset : Nat) (timer : String) : Recorder Unit Unit := do
  let flags := TimerFlags.ofBits (← cursor.u32 offset)
  write .trace target s!"GTDT {timer} flags {flags.word.text}"
  expect (Rule.zero flags.reserved) .medium "ReservedNonZero" timer

def runVirtualTimer (cursor : Cursor) (revision : Nat) : Recorder Unit Unit :=
  if 3 ≤ revision then runTimerFlags cursor 100 "Virtual EL2 Timer Flags" else pure ()

def runFixedPart (cursor : Cursor) (revision : Nat) : Recorder Unit TimerRun := do
  let reserved ← cursor.u32 44
  expect (Rule.zero reserved) .medium "ReservedNonZero" "Reserved"
  runTimerFlags cursor 52 "Secure EL1 Timer Flags"
  runTimerFlags cursor 60 "Non-Secure EL1 Timer Flags"
  runTimerFlags cursor 68 "Virtual EL1 Timer Flags"
  runTimerFlags cursor 76 "EL2 Timer Flags"
  runVirtualTimer cursor revision
  let count ← cursor.u32 88
  let start ← cursor.u32 92
  return ⟨count, start⟩

def runEntry (index : Nat) (entry : Cursor) : Recorder Unit Unit := do
  let frame ← entry.u8 0
  failIf (8 ≤ frame) .high "BadGtBlockFrameNumber"
    s!"GT block timer {index} has frame number {frame}, expected 0..=7"
  let reserved ← entry.read 1 3
  expect (← Rule.runZeroBytes reserved) .medium "ReservedNonZero" "GT Block Timer Reserved"
  let physical ← entry.u32 24
  expect (← Rule.runClearBits physical 2 31) .medium "ReservedBitsSet"
    "GT Block Physical Timer Flags"
  let virtual ← entry.u32 32
  expect (← Rule.runClearBits virtual 2 31) .medium "ReservedBitsSet"
    "GT Block Virtual Timer Flags"
  let shared ← entry.u32 36
  expect (← Rule.runClearBits shared 2 31) .medium "ReservedBitsSet" "GT Block Common Flags"

def runEntries (block : SubRecord) (count start : Nat) : Recorder Unit Unit := do
  let size ← Word.multiply addressBits count entrySize
  match block.cursor.window start size with
  | .ok entries =>
    (List.range count).forM fun index => do
      let place ← Word.multiply addressBits index entrySize
      let entry ← entries.window place entrySize
      runEntry index entry
  | .error _ =>
    let place := Hex.text block.offset
    let inner := Hex.text start
    fail .high "BadGtBlockTimerOffset"
      (s!"GT block at {place}: {count} timers at offset {inner} do not fit its " ++
        s!"{block.length} bytes")

def runBlock (block : SubRecord) : Recorder Unit Unit := do
  if ← require (Rule.atLeast block.length blockHeaderSize) .high "BadGtBlockLength"
      "GT Block Length" then
    let reserved ← block.cursor.u8 3
    expect (Rule.zero reserved) .medium "ReservedNonZero" "GT Block Reserved"
    let count ← block.cursor.u32 12
    if ← require (Rule.within count 0 greatestEntryCount) .high "GtBlockTimerCount"
        "GT Block Timer Count" then
      let start ← block.cursor.u32 16
      runEntries block count start
    else return ()
  else return ()

def runWatchdog (watchdog : SubRecord) : Recorder Unit Unit := do
  if ← require (Rule.equals watchdog.length watchdogSize) .high "BadWatchdogLength"
      "Watchdog Length" then
    let reserved ← watchdog.cursor.u8 3
    expect (Rule.zero reserved) .medium "ReservedNonZero" "Watchdog Reserved"
    let flags := WatchdogFlags.ofBits (← watchdog.cursor.u32 24)
    expect (Rule.zero flags.reserved) .medium "ReservedNonZero" "Watchdog Timer Flags"
  else return ()

def runTimer (timer : SubRecord) : Recorder Unit Unit :=
  match timer.kind with
  | 0 => runBlock timer
  | 1 => runWatchdog timer
  | kind =>
    let place := Hex.text timer.offset
    let shown := Hex.text kind
    fail .high "InvalidPlatformTimerType" s!"platform timer at {place} has unknown type {shown}"

def runEnding (run : TimerRun) : Except WalkError Extent → Recorder Unit Unit
  | .ok extent =>
    failIf (extent.records ≠ run.count) .medium "PlatformTimerCount"
      s!"Platform Timer Count is {run.count} but {extent.records} timers were found"
  | .error error => walkError error

def run (image : Image) (cursor : Cursor) : Recorder Unit Unit := do
  let least := fixedSize image.revision
  match ← Admission.run image cursor .gtdt least with
  | none => return ()
  | some header =>
    match ← attempt (runFixedPart cursor header.revision) with
    | .error error =>
      readError error
      finish
    | .ok run =>
      if run.count = 0 then
        write .debug target "GTDT: no platform timers"
        finish
      else if run.start < least then
        let place := Hex.text run.start
        fail .high "BadPlatformTimerOffset"
          s!"Platform Timer Offset {place} points inside the fixed part"
        finish
      else
        let ending ← cursor.eachRecord .kind8Length16 run.start runTimer
        runEnding run ending
        finish

theorem run_timer_flags (cursor : Cursor) (offset : Nat) (timer : String) :
    runTimerFlags cursor offset timer = adding (auditTimerFlags cursor.reader offset timer) id := by
  simp [runTimerFlags, auditTimerFlags]

theorem run_fixed_part (cursor : Cursor) (revision : Nat) :
    runFixedPart cursor revision = adding (auditFixedPart cursor.reader revision) id := by
  simp [runFixedPart, auditFixedPart, runVirtualTimer, auditVirtualTimer, run_timer_flags]

theorem run_entry (index : Nat) (entry : Cursor) :
    runEntry index entry = adding (auditEntry index entry.reader) id := by
  simp [runEntry, auditEntry, Rule.run_clear_bits, Rule.run_zero_bytes, Cursor.read_eq]

theorem run_entries (block : SubRecord) {count : Nat} (start : Nat) (few : count ≤ 8) :
    runEntries block count start = adding (auditEntries block.record count start) id := by
  have whole : count * entrySize < 2 ^ addressBits := by
    simp only [entrySize, addressBits]
    omega
  have opened := block.cursor.window_eq start (count * entrySize)
  rw [block.cursor_reader] at opened
  rw [runEntries, auditEntries, Word.multiply_fits whole, checked_adds, pure_then, ← opened,
    block.record_length]
  cases block.cursor.window start (count * entrySize) with
  | error error => exact fail_adds _ _ _
  | ok entries =>
      refine for_each_adds fun index member => ?_
      have below : index < count := List.mem_range.mp member
      have place : index * entrySize < 2 ^ addressBits := by
        simp only [entrySize, addressBits]
        omega
      have entry := entries.window_eq (index * entrySize) entrySize
      simp [Word.multiply_fits place, run_entry, ← entry, Audit.lift_map_bind]

theorem run_block (block : SubRecord) : runBlock block = adding (auditBlock block.record) id := by
  unfold runBlock auditBlock
  rw [block.record_length, require_adds]
  refine bind_adding fun long _ => ?_
  cases long with
  | false => exact pure_adds ()
  | true =>
      simp only [if_true, Cursor.u8_eq, Cursor.u32_eq, block.cursor_reader, run_adds,
        expect_adds, require_adds]
      refine bind_adding fun reserved _ => ?_
      refine bind_adding fun _ _ => ?_
      refine bind_adding fun count _ => ?_
      refine bind_adding fun passed told => ?_
      cases passed with
      | false => exact pure_adds ()
      | true =>
          -- The rule that let the count pass is what bounds the products.
          have within := (Audit.passed_iff (Rule.within_decides _ _ _)).mp (Except.ok.inj told)
          simp [run_entries block _ within.2]

theorem run_watchdog (watchdog : SubRecord) :
    runWatchdog watchdog = adding (auditWatchdog watchdog.record) id := by
  simp [runWatchdog, auditWatchdog]

theorem run_timer (timer : SubRecord) : runTimer timer = adding (auditTimer timer.record) id := by
  unfold runTimer auditTimer
  rw [timer.record_kind, timer.record_offset]
  split <;> simp [*, run_block, run_watchdog]

theorem timers_conclude (cursor : Cursor) (run : TimerRun) :
    (do
      let ending ← cursor.eachRecord .kind8Length16 run.start runTimer
      runEnding run ending
      finish) = concluding (auditTimers cursor.reader run) := by
  refine Cursor.walk_concludes (by decide) _ run_timer fun ending => ?_
  cases ending with
  | ok extent =>
      simp only [runEnding, fail_if_adds]
      exact adding_finish (Audit.result_fail_if _ _ _ _)
  | error error =>
      simp only [runEnding, walk_error_adds]
      exact adding_finish rfl

theorem run_concludes {image : Image} {cursor : Cursor} (same : cursor.reader = image.reader) :
    run image cursor check.label = concluding (check.audit image) check.label := by
  refine admission_concludes same rfl fun header => ?_
  simp only [check, body, run_fixed_part, attempt_adds]
  refine attempt_concluding (fun _ => rfl) fun run _ => ?_
  by_cases none : run.count = 0
  · simp only [if_pos none, write_adds]
    exact adding_finish rfl
  · by_cases early : run.start < fixedSize image.revision
    · simp only [if_neg none, if_pos early, fail_adds]
      exact adding_finish rfl
    · simp only [if_neg none, if_neg early]
      exact timers_conclude cursor run

end AcpiAudit.Gtdt
