import AcpiAudit.Proofs.Audit.Trailing
import AcpiAudit.Proofs.Checks.Faults
import AcpiAudit.Proofs.Checks.Gtdt

set_option autoImplicit false

namespace AcpiAudit

open Audit

def Finding.grade? : Finding → Option (Severity × String)
  | .failure severity problem _ => some (severity, problem)
  | .warning _ => none
  | .note _ => none

theorem decided_grades {outcome : Outcome} {condition : Prop} [Decidable condition]
    (decided : outcome.Decides condition) (severity : Severity) (problem field : String) :
    (outcome.findings severity problem field).map Finding.grade? =
      if condition then [] else [some (severity, problem)] := by
  by_cases holds : condition
  · rw [passed_findings decided holds, if_pos holds]
    rfl
  · obtain ⟨detail, found⟩ := failed_findings decided holds severity problem field
    rw [found, if_neg holds]
    rfl

namespace Gtdt

def reservedFindings (block : Bytes) : List Finding :=
  (expect (Rule.zero (block.number 3 1)) .medium "ReservedNonZero" "GT Block Reserved").findings

-- What an entry adds, in terms of its place among the entries and of its bytes.
def entryFindings (index : Nat) (entry : Bytes) : List Finding :=
  (auditEntry index ⟨entry, 0⟩).findings

def flagFindings (entry : Bytes) (place : Nat) (field : String) : List Finding :=
  (Rule.clearBits (entry.number place 4) 2 31).findings .medium "ReservedBitsSet" field

def flagGrades (flags : Nat) : List (Option (Severity × String)) :=
  if ClearBits flags 2 31 then [] else [some (.medium, "ReservedBitsSet")]

def entryGrades (entry : Bytes) : List (Option (Severity × String)) :=
  (if 8 ≤ entry.number 0 1 then [some (.high, "BadGtBlockFrameNumber")] else []) ++
    (if (entry.slice 1 3).AllZero then [] else [some (.medium, "ReservedNonZero")]) ++
    [24, 32, 36].flatMap fun place => flagGrades (entry.number place 4)

structure EntryJudged (index : Nat) (entry : Bytes) : Prop where
  grades : (entryFindings index entry).map Finding.grade? = entryGrades entry
  sound : entryFindings index entry = [] ↔ SoundEntry entry

def entryCount (block : Bytes) : Nat := block.number 12 4

def entryStart (block : Bytes) : Nat := block.number 16 4

structure EntriesJudged (block : Bytes) (found : List Finding) : Prop where
  many : 8 < entryCount block → ∃ detail, found = [.failure .high "GtBlockTimerCount" detail]
  outside : entryCount block ≤ 8 → block.length < entryStart block + 40 * entryCount block →
    ∃ detail, found = [.failure .high "BadGtBlockTimerOffset" detail]
  inside : entryCount block ≤ 8 → entryStart block + 40 * entryCount block ≤ block.length →
    found = (List.range (entryCount block)).flatMap fun index =>
      entryFindings index (block.slice (entryStart block + 40 * index) 40)

-- Blocks in the same place that agree in their fixed part and in their entries, if those are read.
structure SameEntries (one other : Record) : Prop where
  kind : one.kind = other.kind
  offset : one.offset = other.offset
  length : one.length = other.length
  fixed : one.bytes.take 20 = other.bytes.take 20
  entries : let start := entryStart one.bytes
    let size := 40 * entryCount one.bytes
    entryCount one.bytes ≤ 8 → start + size ≤ one.length →
      one.bytes.slice start size = other.bytes.slice start size

def auditCounted (block : Record) : Audit Unit := do
  let count ← block.reader.u32 12
  if ← require (Rule.within count 0 greatestEntryCount) .high "GtBlockTimerCount"
      "GT Block Timer Count" then
    let start ← block.reader.u32 16
    auditEntries block count start
  else return ()

section Entry

variable {entry : Bytes} (index : Nat)

theorem entry_findings (length : entry.length = 40) :
    entryFindings index entry =
      (if 8 ≤ entry.number 0 1 then
        [.failure .high "BadGtBlockFrameNumber"
          (let frame := entry.number 0 1
           s!"GT block timer {index} has frame number {frame}, expected 0..=7")]
       else []) ++
      ((Rule.zeroBytes (entry.slice 1 3)).findings .medium "ReservedNonZero"
        "GT Block Timer Reserved" ++
      (flagFindings entry 24 "GT Block Physical Timer Flags" ++
      (flagFindings entry 32 "GT Block Virtual Timer Flags" ++
      flagFindings entry 36 "GT Block Common Flags"))) := by
  have room : 40 ≤ Reader.limit ⟨entry, 0⟩ := Nat.le_of_eq length.symm
  have field (place width : Nat) (inside : place + width ≤ 40) :
      (liftM (Reader.number ⟨entry, 0⟩ place width) : Audit Nat).Gives []
        (entry.number place width) := gives_lift (Reader.number_of_fits (by omega))
  have zeros : (liftM (Reader.read ⟨entry, 0⟩ 1 3) : Audit Bytes).Gives [] (entry.slice 1 3) :=
    gives_lift (Reader.read_of_fits (by omega))
  exact (gives_after (field 0 1 (by decide)) (gives_bind (gives_fail_if _ _ _ _)
    (gives_after zeros (gives_bind (gives_find _)
    (gives_after (field 24 4 (by decide)) (gives_bind (gives_find _)
    (gives_after (field 32 4 (by decide)) (gives_bind (gives_find _)
    (gives_after (field 36 4 (by decide)) (gives_find _)))))))))).findings

theorem entry_grades_nil_iff : entryGrades entry = [] ↔ SoundEntry entry := by
  rw [sound_entry_iff]
  simp [entryGrades, flagGrades]

theorem entry_judged (length : entry.length = 40) : EntryJudged index entry := by
  have flags (place : Nat) (field : String) :
      (flagFindings entry place field).map Finding.grade? = flagGrades (entry.number place 4) :=
    decided_grades (Rule.clear_bits_decides _ 2 31) _ _ _
  have grades : (entryFindings index entry).map Finding.grade? = entryGrades entry := by
    rw [entry_findings index length]
    simp only [List.map_append, flags, decided_grades (Rule.zero_bytes_decides _), entryGrades,
      List.flatMap_cons, List.flatMap_nil, List.append_nil, List.append_assoc]
    split
    · rfl
    · rfl
  refine ⟨grades, ?_⟩
  rw [← entry_grades_nil_iff, ← grades, List.map_eq_nil_iff]

end Entry

section Block

variable {block : Record}

theorem entries_give {count start : Nat} (fits : start + 40 * count ≤ block.length) :
    (auditEntries block count start).Gives ((List.range count).flatMap fun index =>
      entryFindings index (block.bytes.slice (start + 40 * index) 40)) () := by
  have opened : block.reader.window start (count * entrySize) =
      .ok ⟨block.bytes.slice start (40 * count), 0⟩ := by
    rw [entrySize, Nat.mul_comm]
    exact Reader.window_of_fits fits
  have size : (block.bytes.slice start (40 * count)).length = 40 * count :=
    Bytes.length_slice_of_fits fits
  simp only [auditEntries, opened]
  refine gives_for_members fun index member => ?_
  have below : index < count := List.mem_range.mp member
  -- The window of an entry is again a slice of the block.
  have place : Reader.window ⟨block.bytes.slice start (40 * count), 0⟩ (index * entrySize)
      entrySize = .ok ⟨block.bytes.slice (start + 40 * index) 40, 0⟩ := by
    rw [Reader.window_ok_iff, entrySize, Nat.mul_comm index, Bytes.slice_slice (by omega)]
    refine ⟨?_, rfl⟩
    simp only [Reader.limit, size]
    omega
  have whole : (block.bytes.slice (start + 40 * index) 40).length = 40 := by
    have room : start + 40 * count ≤ block.bytes.length := fits
    exact Bytes.length_slice_of_fits (by omega)
  exact gives_bind (gives_lift place) ⟨rfl, entry_result index (Nat.le_of_eq whole.symm)⟩

theorem entries_outside {count start : Nat} (beyond : block.length < start + 40 * count) :
    ∃ detail, (auditEntries block count start).Gives
      [.failure .high "BadGtBlockTimerOffset" detail] () := by
  cases opened : block.reader.window start (count * entrySize) with
  | ok entries =>
      have fits := ((Reader.window_ok_iff _ _ _ _).mp opened).1
      simp only [Record.reader, Reader.limit, entrySize, Record.length] at fits beyond
      omega
  | error error =>
      simp only [auditEntries, opened]
      exact ⟨_, gives_find _⟩

theorem field_gives (long : 20 ≤ block.length) {place width : Nat} (inside : place + width ≤ 20) :
    (liftM (block.reader.number place width) : Audit Nat).Gives []
      (block.bytes.number place width) :=
  gives_lift (Reader.number_of_fits (Nat.le_trans inside long))

theorem counted_gives (long : 20 ≤ block.length) :
    ∃ found, EntriesJudged block.bytes found ∧ (auditCounted block).Gives found () := by
  have count := field_gives long (show 12 + 4 ≤ 20 by decide)
  have start := field_gives long (show 16 + 4 ≤ 20 by decide)
  have decided := Rule.within_decides (entryCount block.bytes) 0 greatestEntryCount
  by_cases few : entryCount block.bytes ≤ 8
  · have enough := gives_passed decided ⟨Nat.zero_le _, few⟩ .high "GtBlockTimerCount"
      "GT Block Timer Count"
    have uncrowded : ¬ 8 < entryCount block.bytes := Nat.not_lt_of_le few
    by_cases fits : entryStart block.bytes + 40 * entryCount block.bytes ≤ block.length
    · have within : ¬ block.length < entryStart block.bytes + 40 * entryCount block.bytes :=
        Nat.not_lt_of_le fits
      refine ⟨_, ⟨fun many => absurd many uncrowded, fun _ beyond => absurd beyond within,
        fun _ _ => rfl⟩, ?_⟩
      exact gives_after count (gives_after enough (gives_after start (entries_give fits)))
    · obtain ⟨detail, outside⟩ := entries_outside (Nat.lt_of_not_le fits)
      refine ⟨_, ⟨fun many => absurd many uncrowded, fun _ _ => ⟨detail, rfl⟩,
        fun _ within => absurd within fits⟩, ?_⟩
      exact gives_after count (gives_after enough (gives_after start outside))
  · obtain ⟨detail, many⟩ := gives_failed decided (fun within => few within.2) .high
      "GtBlockTimerCount" "GT Block Timer Count"
    refine ⟨_, ⟨fun _ => ⟨detail, rfl⟩, fun below => absurd below few,
      fun below => absurd below few⟩, ?_⟩
    exact gives_after count (gives_bind many (gives_pure ()))

theorem block_gives (long : 20 ≤ block.length) :
    ∃ found, EntriesJudged block.bytes found ∧
      (auditBlock block).Gives (reservedFindings block.bytes ++ found) () := by
  obtain ⟨found, judged, counted⟩ := counted_gives long
  have measured := gives_passed (Rule.at_least_decides block.length blockHeaderSize) long .high
    "BadGtBlockLength" "GT Block Length"
  have reserved : (expect (Rule.zero (block.bytes.number 3 1)) .medium "ReservedNonZero"
      "GT Block Reserved").Gives (reservedFindings block.bytes) () := gives_find _
  have byte := field_gives long (show 3 + 1 ≤ 20 by decide)
  exact ⟨found, judged, gives_after measured (gives_after byte (gives_bind reserved counted))⟩

theorem entries_agree {one other : Record} (same : SameEntries one other)
    (few : entryCount one.bytes ≤ 8) :
    auditEntries one (entryCount one.bytes) (entryStart one.bytes) =
      auditEntries other (entryCount one.bytes) (entryStart one.bytes) := by
  have limit : one.reader.limit = other.reader.limit := same.length
  have opened : one.reader.window (entryStart one.bytes) (entryCount one.bytes * entrySize) =
      other.reader.window (entryStart one.bytes) (entryCount one.bytes * entrySize) := by
    rw [entrySize, Nat.mul_comm]
    exact Reader.window_agrees limit fun fits => same.entries few fits
  rw [auditEntries, auditEntries, opened, same.offset, same.length]

theorem block_agrees {one other : Record} (same : SameEntries one other) :
    auditBlock one = auditBlock other := by
  have limit : one.reader.limit = other.reader.limit := same.length
  have field (place width : Nat) (inside : place + width ≤ 20) :
      other.reader.number place width = one.reader.number place width := by
    rw [Reader.number, Reader.number, Reader.read_agrees limit]
    intro _
    exact slice_agrees same.fixed inside
  simp only [auditBlock, Reader.u8, Reader.u32, field 3 1 (by decide), field 12 4 (by decide),
    field 16 4 (by decide), ← same.length]
  refine bind_agrees fun long _ => ?_
  cases long with
  | false => simp only [Bool.false_eq_true, if_false]
  | true =>
      simp only [if_true]
      refine bind_agrees fun reserved _ => bind_agrees fun _ _ => bind_agrees fun count read => ?_
      refine bind_agrees fun passed told => ?_
      cases passed with
      | false => simp only [Bool.false_eq_true, if_false]
      | true =>
          simp only [if_true]
          refine bind_agrees fun start begins => ?_
          obtain ⟨-, rfl⟩ := (Reader.number_ok_iff _ _ _ _).mp read
          obtain ⟨-, rfl⟩ := (Reader.number_ok_iff _ _ _ _).mp begins
          have few := (passed_iff (Rule.within_decides _ _ _)).mp (Except.ok.inj told)
          exact entries_agree same few.2

theorem audit_block {block : Record} (typed : block.kind = 0) :
    auditTimer block = auditBlock block := by
  simp only [auditTimer, typed]

end Block

-- An audit of a block depends on its first 20 bytes and on its entries, and on these only if they
-- are neither too many nor outside of it.
theorem entries_are_judged_one_by_one {data : Bytes} {address ordinal : Nat} {image : Image}
    {admitted : Admitted} {block : Record} (loaded : Image.ofBytes data address ordinal = .ok image)
    (accepted : (check.admission image).result = .ok (some admitted))
    (reached : WalkedTable.gtdt.Reaches data)
    (dispatched : block ∈ (WalkedTable.gtdt.course data).records) (typed : block.kind = 0)
    (long : 20 ≤ block.length) :
    (∃ report found, (Registry.report? image).value = some report ∧
      EntriesJudged block.bytes found ∧
      WalkedTable.gtdt.recordFindings block = reservedFindings block.bytes ++ found ∧
      (reservedFindings block.bytes ++ found).map (Finding.outcome "GTDT") <:+: report.outcomes) ∧
    (∀ index entry, entry.length = 40 → EntryJudged index entry) ∧
    ∀ other, SameEntries block other → auditTimer other = auditTimer block := by
  have fields := loaded_of_bytes loaded
  have named := accepted_signature fields accepted
  have registered : Registry.find? image.signature = some check := by
    rw [named]
    rfl
  obtain ⟨found, judged, gives⟩ := block_gives long
  rw [← audit_block typed] at gives
  have alone : WalkedTable.gtdt.recordFindings block = reservedFindings block.bytes ++ found :=
    contain_of_gives gives
  refine ⟨⟨_, found, registered_report registered, judged, alone, ?_⟩,
    fun index _ => entry_judged index, ?_⟩
  · have placed := WalkedTable.gtdt.record_outcomes fields accepted reached dispatched
    have label : WalkedTable.gtdt.label = "GTDT" := by cbv
    rwa [alone, label] at placed
  · intro other same
    have alike : other.kind = 0 := same.kind.symm.trans typed
    rw [audit_block typed, audit_block alike, block_agrees same]

-- A block of two entries, and nothing is in order about the second of them but two of its flags.
def secondUnsound : Bytes :=
  [0x47, 0x54, 0x44, 0x54, 196, 0, 0, 0, 2, 0] ++ List.replicate 78 0 ++
    [1, 0, 0, 0, 96, 0, 0, 0] ++
    [0, 100, 0, 0] ++ List.replicate 8 0 ++ [2, 0, 0, 0, 20, 0, 0, 0] ++ List.replicate 40 0 ++
    [9, 1] ++ List.replicate 25 0 ++ [0x80] ++ List.replicate 12 0

set_option maxRecDepth 2000 in
theorem entries_are_judged_one_by_one_second_unsound :
    let block : Record := ⟨0, 96, 0, secondUnsound.drop 96⟩
    let second := entryFindings 1 (block.bytes.slice 60 40)
    ∃ image admitted report, Image.ofBytes secondUnsound 0 0 = .ok image ∧
      (check.admission image).result = .ok (some admitted) ∧
      WalkedTable.gtdt.Reaches secondUnsound ∧
      block ∈ (WalkedTable.gtdt.course secondUnsound).records ∧ block.kind = 0 ∧
      20 ≤ block.length ∧ (Registry.report? image).value = some report ∧
      second.map Finding.grade? = [some (.high, "BadGtBlockFrameNumber"),
        some (.medium, "ReservedNonZero"), some (.medium, "ReservedBitsSet")] ∧
      second.map (Finding.outcome "GTDT") <:+: report.outcomes := by
  intro block second
  have loaded : Image.ofBytes secondUnsound 0 0 = .ok ⟨.gtdt, 196, 2, secondUnsound, 0, 0⟩ := rfl
  have accepted : (check.admission ⟨.gtdt, 196, 2, secondUnsound, 0, 0⟩).result =
      .ok (some ⟨Reader.headerOf (seen secondUnsound) (by decide), ⟨seen secondUnsound, 0⟩⟩) := by
    cbv
  have reached : WalkedTable.gtdt.Reaches secondUnsound := ⟨by decide, by decide⟩
  have records : (WalkedTable.gtdt.course secondUnsound).records = [block] := by cbv
  have dispatched : block ∈ (WalkedTable.gtdt.course secondUnsound).records := by simp [records]
  obtain ⟨⟨report, found, reported, judged, -, placed⟩, entries, -⟩ :=
    entries_are_judged_one_by_one loaded accepted reached dispatched rfl (by decide)
  have first : entryFindings 0 (block.bytes.slice 20 40) = [] :=
    (entries 0 _ (by decide)).sound.mpr ⟨by decide, by decide, by decide, by decide, by decide⟩
  have grades : second.map Finding.grade? = entryGrades (block.bytes.slice 60 40) :=
    (entries 1 _ (by decide)).grades
  have reserved : reservedFindings block.bytes = [] := by cbv
  have whole : found = second := by
    have count : entryCount block.bytes = 2 := by decide
    have start : entryStart block.bytes = 20 := by decide
    have both : List.range 2 = [0, 1] := rfl
    rw [judged.inside (by decide) (by decide), count, start, both, List.flatMap_cons, first,
      List.flatMap_cons, List.flatMap_nil, List.nil_append, List.append_nil]
  rw [whole, reserved] at placed
  exact ⟨_, _, report, loaded, accepted, reached, dispatched, rfl, by decide, reported,
    grades.trans (by decide), placed⟩

end Gtdt

end AcpiAudit
