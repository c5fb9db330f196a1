import AcpiAudit.Proofs.Audit.Acceptance
import AcpiAudit.Proofs.Audit.Walking

set_option autoImplicit false

namespace AcpiAudit.Gtdt

open Audit

structure SoundEntry (entry : Bytes) : Prop where
  frame : entry.number 0 1 < 8
  zeros : (entry.slice 1 3).AllZero
  physical : ClearBits (entry.number 24 4) 2 31
  virtual : ClearBits (entry.number 32 4) 2 31
  shared : ClearBits (entry.number 36 4) 2 31

-- The offset of the entries counts from the start of the block.
inductive SoundTimer (timer : Bytes) : Prop where
  | block (kind : timer.number 0 1 = 0) (length : 20 ≤ timer.length)
      (reserved : timer.number 3 1 = 0) (count : timer.number 12 4 ≤ 8)
      (room : timer.number 16 4 + 40 * timer.number 12 4 ≤ timer.length)
      (entries : ∀ index < timer.number 12 4,
        SoundEntry (timer.slice (timer.number 16 4 + 40 * index) 40))
  | watchdog (kind : timer.number 0 1 = 1) (length : timer.length = 28)
      (reserved : timer.number 3 1 = 0) (flags : ClearBits (timer.number 24 4) 3 31)

structure SoundTimers (count : Nat) (rest : Bytes) (timers : List Bytes) : Prop where
  partition : Partition .kind8Length16 rest timers
  count : timers.length = count
  sound : ∀ timer ∈ timers, SoundTimer timer

structure SoundFixedPart (data : Bytes) : Prop where
  reserved : data.number 44 4 = 0
  secureEl1 : ClearBits (data.number 52 4) 3 31
  nonSecureEl1 : ClearBits (data.number 60 4) 3 31
  virtualEl1 : ClearBits (data.number 68 4) 3 31
  el2 : ClearBits (data.number 76 4) 3 31
  virtualEl2 : 3 ≤ data.number 8 1 → ClearBits (data.number 100 4) 3 31

-- A table that counts no timers may have any offset and anything after its fixed part.
structure SoundBody (data : Bytes) : Prop where
  fixed : SoundFixedPart data
  timers : data.number 88 4 = 0 ∨
    fixedSize (data.number 8 1) ≤ data.number 92 4 ∧ ∃ timers,
      SoundTimers (data.number 88 4) ((seen data).drop (data.number 92 4)) timers

theorem sound_entry_iff (entry : Bytes) :
    SoundEntry entry ↔
      entry.number 0 1 < 8 ∧ (entry.slice 1 3).AllZero ∧ ClearBits (entry.number 24 4) 2 31 ∧
        ClearBits (entry.number 32 4) 2 31 ∧ ClearBits (entry.number 36 4) 2 31 := by
  constructor
  · intro sound
    exact ⟨sound.frame, sound.zeros, sound.physical, sound.virtual, sound.shared⟩
  · intro holds
    obtain ⟨frame, zeros, physical, virtual, shared⟩ := holds
    exact ⟨frame, zeros, physical, virtual, shared⟩

theorem entry_passes_iff (index : Nat) {entry : Bytes} (length : entry.length = 40) :
    (auditEntry index ⟨entry, 0⟩).Passes () ↔ SoundEntry entry := by
  rw [sound_entry_iff]
  simp [auditEntry, Reader.u8, Reader.u32, passes_expect (Rule.zero_bytes_decides _),
    passes_expect (Rule.clear_bits_decides _ _ _), Reader.limit, length]

-- An entry is read through a window into the window of all entries.
theorem slot_passes_iff (index count : Nat) {entries : Bytes}
    (length : entries.length = 40 * count) (inside : index < count) :
    (do
        let reader : Reader := ⟨entries, 0⟩
        let entry ← (liftM (reader.window (index * entrySize) entrySize) : Audit Reader)
        auditEntry index entry).Passes () ↔
      SoundEntry (entries.slice (40 * index) 40) := by
  have room : index * entrySize + entrySize ≤ Reader.limit ⟨entries, 0⟩ := by
    simp only [Reader.limit, entrySize]
    omega
  have size : (entries.slice (40 * index) 40).length = 40 :=
    Bytes.length_slice_of_fits (by omega)
  rw [passes_bind]
  simp only [passes_lift, Reader.window_ok_iff, room, true_and, exists_eq_left']
  rw [entrySize, Nat.mul_comm]
  exact entry_passes_iff index size

section Timer

variable {timer : Record}

theorem entries_pass_iff (count start : Nat) :
    (auditEntries timer count start).Passes () ↔
      start + 40 * count ≤ timer.bytes.length ∧
        ∀ index < count, SoundEntry (timer.bytes.slice (start + 40 * index) 40) := by
  by_cases room : start + 40 * count ≤ timer.bytes.length
  · have found : timer.reader.window start (count * entrySize) =
        .ok ⟨timer.bytes.slice start (40 * count), 0⟩ := by
      rw [Reader.window_ok_iff, entrySize, Nat.mul_comm]
      exact ⟨room, rfl⟩
    have size : (timer.bytes.slice start (40 * count)).length = 40 * count :=
      Bytes.length_slice_of_fits room
    simp only [auditEntries, found, passes_for_each, List.mem_range, room, true_and]
    refine forall_congr' fun index => forall_congr' fun inside => ?_
    rw [slot_passes_iff index count size inside, Bytes.slice_slice (by omega)]
  · cases found : timer.reader.window start (count * entrySize) with
    | error error => simp [auditEntries, found, room]
    | ok entries =>
        have fits := ((Reader.window_ok_iff _ _ _ _).mp found).1
        simp only [Record.reader, Reader.limit, entrySize] at fits
        omega

theorem block_passes_iff :
    (auditBlock timer).Passes () ↔
      20 ≤ timer.bytes.length ∧ timer.bytes.number 3 1 = 0 ∧ timer.bytes.number 12 4 ≤ 8 ∧
        (auditEntries timer (timer.bytes.number 12 4) (timer.bytes.number 16 4)).Passes () := by
  by_cases length : 20 ≤ timer.bytes.length
  · have reserved : 4 ≤ timer.bytes.length := by omega
    have count : 16 ≤ timer.bytes.length := by omega
    simp [auditBlock, blockHeaderSize, greatestEntryCount,
      passes_require (Rule.at_least_decides _ _), passes_require (Rule.within_decides _ _ _),
      Reader.u8, Reader.u32, passes_expect (Rule.zero_decides _), Record.reader, Reader.limit,
      Record.length, length, reserved, count]
  · simp [auditBlock, blockHeaderSize, passes_require (Rule.at_least_decides _ _), Record.length,
      length]

theorem watchdog_passes_iff :
    (auditWatchdog timer).Passes () ↔
      timer.bytes.length = 28 ∧ timer.bytes.number 3 1 = 0 ∧
        ClearBits (timer.bytes.number 24 4) 3 31 := by
  by_cases length : timer.bytes.length = 28
  · simp [auditWatchdog, watchdogSize, passes_require (Rule.equals_decides _ _),
      WatchdogFlags.ofBits, Reader.u8, Reader.u32, passes_expect (Rule.zero_decides _),
      field_shifted_zero_iff, Record.reader, Reader.limit, Record.length, length]
  · simp [auditWatchdog, watchdogSize, passes_require (Rule.equals_decides _ _), Record.length,
      length]

theorem audit_timer_passes_iff (kind : timer.kind = timer.bytes.number 0 1) :
    (auditTimer timer).Passes () ↔ SoundTimer timer.bytes := by
  constructor
  · intro passes
    rw [auditTimer] at passes
    split at passes
    · next found =>
        obtain ⟨length, reserved, count, inner⟩ := block_passes_iff.mp passes
        obtain ⟨room, entries⟩ := (entries_pass_iff _ _).mp inner
        exact .block (kind.symm.trans found) length reserved count room entries
    · next found =>
        obtain ⟨length, reserved, flags⟩ := watchdog_passes_iff.mp passes
        exact .watchdog (kind.symm.trans found) length reserved flags
    · exact absurd passes (passes_fail _ _ _ _)
  · intro sound
    rw [auditTimer, kind]
    cases sound with
    | block number length reserved count room entries =>
        rw [number]
        have inner := (entries_pass_iff _ _).mpr ⟨room, entries⟩
        exact block_passes_iff.mpr ⟨length, reserved, count, inner⟩
    | watchdog number length reserved flags =>
        rw [number]
        exact watchdog_passes_iff.mpr ⟨length, reserved, flags⟩

end Timer

theorem timers_pass_iff {start : Nat} {timers : List Bytes} :
    (∀ timer ∈ lay .kind8Length16 start 0 timers, (auditTimer timer).Passes ()) ↔
      ∀ timer ∈ timers, SoundTimer timer := by
  apply forall_lay_iff
  intro timer kind member
  exact audit_timer_passes_iff kind

theorem audit_timers_passes_iff {reader : Reader} (told : reader.limit ≤ greatestOffset)
    (run : TimerRun) :
    (auditTimers reader run).Passes () ↔
      ∃ timers, SoundTimers run.count (reader.bytes.drop run.start) timers := by
  rw [auditTimers, passes_walk _ _ _ _ _ told]
  · simp only [timers_pass_iff, passes_fail_if, Decidable.not_not]
    refine exists_congr fun timers => ?_
    constructor
    · intro holds
      obtain ⟨partition, sound, count⟩ := holds
      exact ⟨partition, count, sound⟩
    · intro holds
      obtain ⟨partition, count, sound⟩ := holds
      exact ⟨partition, sound, count⟩
  · intro error passes
    exact passes

theorem timer_flags_pass_iff (reader : Reader) (offset : Nat) (timer : String) :
    (auditTimerFlags reader offset timer).Passes () ↔
      offset + 4 ≤ reader.limit ∧ ClearBits (reader.bytes.number offset 4) 3 31 := by
  simp [auditTimerFlags, TimerFlags.ofBits, Reader.u32, passes_expect (Rule.zero_decides _),
    field_shifted_zero_iff]

theorem fixed_part_passes_iff {data : Bytes} {revision : Nat} (run : TimerRun)
    (revised : revision = data.number 8 1) (fits : fixedSize revision ≤ (seen data).length) :
    (auditFixedPart ⟨seen data, 0⟩ revision).Passes run ↔
      SoundFixedPart data ∧ run = ⟨data.number 88 4, data.number 92 4⟩ := by
  have least : 96 ≤ (seen data).length := by
    simp only [fixedSize] at fits
    split at fits <;> omega
  have virtual : (auditVirtualTimer ⟨seen data, 0⟩ revision).Passes () ↔
      (3 ≤ data.number 8 1 → ClearBits (data.number 100 4) 3 31) := by
    by_cases later : 3 ≤ revision
    · have room : 104 ≤ (seen data).length := by simpa [fixedSize, later] using fits
      rw [auditVirtualTimer, if_pos later, timer_flags_pass_iff, ← revised, seen_number (by omega)]
      simp [Reader.limit, room, later]
    · simp [auditVirtualTimer, later, ← revised]
  -- The other fields end at 96 at the latest, which every revision has.
  have room (stop : Nat) (inside : stop ≤ 96) : stop ≤ (seen data).length := by omega
  have known (offset : Nat) (inside : offset + 4 ≤ 96) :
      (seen data).number offset 4 = data.number offset 4 := seen_number (by omega)
  have read : (auditFixedPart ⟨seen data, 0⟩ revision).Passes run ↔
      data.number 44 4 = 0 ∧ ClearBits (data.number 52 4) 3 31 ∧
        ClearBits (data.number 60 4) 3 31 ∧ ClearBits (data.number 68 4) 3 31 ∧
        ClearBits (data.number 76 4) 3 31 ∧
        (3 ≤ data.number 8 1 → ClearBits (data.number 100 4) 3 31) ∧
        ⟨data.number 88 4, data.number 92 4⟩ = run := by
    simp [auditFixedPart, timer_flags_pass_iff, virtual, Reader.u32,
      passes_expect (Rule.zero_decides _), Reader.number_ok_iff, Reader.limit, room, known]
  rw [read]
  constructor
  · intro holds
    obtain ⟨reserved, secureEl1, nonSecureEl1, virtualEl1, el2, virtualEl2, rfl⟩ := holds
    exact ⟨⟨reserved, secureEl1, nonSecureEl1, virtualEl1, el2, virtualEl2⟩, rfl⟩
  · intro holds
    obtain ⟨⟨reserved, secureEl1, nonSecureEl1, virtualEl1, el2, virtualEl2⟩, rfl⟩ := holds
    exact ⟨reserved, secureEl1, nonSecureEl1, virtualEl1, el2, virtualEl2, rfl⟩

theorem body_passes_iff {data : Bytes} (header : Header)
    (revised : header.revision = data.number 8 1)
    (fits : fixedSize header.revision ≤ (seen data).length) :
    (body (fixedSize header.revision) ⟨header, ⟨seen data, 0⟩⟩).Passes () ↔ SoundBody data := by
  have read : (body (fixedSize header.revision) ⟨header, ⟨seen data, 0⟩⟩).Passes () ↔
      SoundFixedPart data ∧
        if data.number 88 4 = 0 then True
        else if data.number 92 4 < fixedSize header.revision then False
        else (auditTimers ⟨seen data, 0⟩ ⟨data.number 88 4, data.number 92 4⟩).Passes () := by
    simp only [body, passes_bind, fixed_part_passes_iff _ revised fits, passes_ite, passes_write,
      passes_fail, and_assoc, exists_and_left, exists_eq_left]
  rw [read, audit_timers_passes_iff (by exact seen_told data), revised]
  constructor
  · intro holds
    obtain ⟨fixed, timers⟩ := holds
    by_cases none : data.number 88 4 = 0
    · exact ⟨fixed, .inl none⟩
    · by_cases early : data.number 92 4 < fixedSize (data.number 8 1)
      · simp [none, early] at timers
      · rw [if_neg none, if_neg early] at timers
        exact ⟨fixed, .inr ⟨Nat.le_of_not_lt early, timers⟩⟩
  · intro holds
    obtain ⟨fixed, none | ⟨start, timers⟩⟩ := holds
    · exact ⟨fixed, by simp [none]⟩
    · have late : ¬ data.number 92 4 < fixedSize (data.number 8 1) := Nat.not_lt_of_le start
      exact ⟨fixed, by simp [late, timers]⟩

theorem gtdt_report_clean_iff {data : Bytes} {address ordinal : Nat} {image : Image}
    (loaded : Image.ofBytes data address ordinal = .ok image) (named : image.signature = .gtdt) :
    ∃ report, (Registry.report? image).value = some report ∧
      (report.Clean ↔ Intact data (fixedSize (data.number 8 1)) ∧ SoundBody data) := by
  have registered : Registry.find? image.signature = some check := by
    rw [named]
    rfl
  have revised := (loaded_of_bytes loaded).revision
  have room : Header.size ≤ fixedSize image.revision := by
    simp only [Header.size, fixedSize]
    split <;> omega
  rw [← revised]
  refine registered_clean_iff loaded registered room ?_
  intro header same fits
  rw [← same] at fits ⊢
  exact body_passes_iff header (same.trans revised) fits

def blockAndWatchdog : Bytes :=
  [0x47, 0x54, 0x44, 0x54, 192, 0, 0, 0, 3, 50] ++ List.replicate 78 0 ++
    [2, 0, 0, 0, 104, 0, 0, 0] ++ List.replicate 8 0 ++
    [0, 60, 0, 0] ++ List.replicate 8 0 ++ [1, 0, 0, 0, 20, 0, 0, 0] ++ List.replicate 40 0 ++
    [1, 28, 0, 0] ++ List.replicate 24 0

-- Long enough that evaluating it needs more depth than the default.
set_option maxRecDepth 2000 in
theorem gtdt_report_clean_iff_block_and_watchdog :
    ∃ image, Image.ofBytes blockAndWatchdog 0 0 = .ok image ∧ image.signature = .gtdt ∧
      ∃ report, (Registry.report? image).value = some report ∧ report.Clean := by
  have loaded : Image.ofBytes blockAndWatchdog 0 0 =
      .ok ⟨.gtdt, 192, 3, blockAndWatchdog, 0, 0⟩ := rfl
  have block : SoundTimer (blockAndWatchdog.slice 104 60) := by
    refine .block (by decide) (by decide) (by decide) (by decide) (by decide) ?_
    intro index inside
    have only : index < 1 := inside
    obtain rfl : index = 0 := by omega
    exact ⟨by decide, by decide, by decide, by decide, by decide⟩
  have watchdog : SoundTimer (blockAndWatchdog.slice 164 28) :=
    .watchdog (by decide) (by decide) (by decide) (by decide)
  have timers : SoundTimers 2 ((seen blockAndWatchdog).drop 104)
      [blockAndWatchdog.slice 104 60, blockAndWatchdog.slice 164 28] := by
    refine ⟨⟨rfl, by decide⟩, rfl, ?_⟩
    simp [block, watchdog]
  have fixed : SoundFixedPart blockAndWatchdog :=
    ⟨by decide, by decide, by decide, by decide, by decide, fun _ => by decide⟩
  have body : SoundBody blockAndWatchdog := ⟨fixed, .inr ⟨by decide, _, timers⟩⟩
  obtain ⟨report, reported, clean⟩ := gtdt_report_clean_iff loaded rfl
  exact ⟨_, loaded, rfl, report, reported, clean.mpr ⟨⟨by decide, .inr (by decide)⟩, body⟩⟩

end AcpiAudit.Gtdt
