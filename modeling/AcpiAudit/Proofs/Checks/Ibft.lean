import AcpiAudit.Proofs.Audit.Acceptance
import AcpiAudit.Proofs.Audit.Walking

set_option autoImplicit false

namespace AcpiAudit.Ibft

open Audit

section Grammar

variable (plain : UInt8 → Prop)

-- The place holds the length of the string and then its offset.
def SoundString (data : Bytes) (place : Nat) : Prop :=
  data.number place 2 = 0 ∨
    data.number (place + 2) 2 + data.number place 2 ≤ (seen data).length ∧
      ∀ byte ∈ data.slice (data.number (place + 2) 2) (data.number place 2), plain byte

structure SoundControl (data : Bytes) : Prop where
  fits : 48 + data.number 50 2 ≤ (seen data).length
  id : data.number 48 1 = 1
  version : data.number 49 1 = 1
  length : 18 ≤ data.number 50 2
  index : data.number 52 1 = 0
  flags : ClearBits (data.number 53 1) 1 7

-- What structures of all kinds have in common; the bits from `unused` on have no meaning.
structure SoundHeader (data : Bytes) (place id length unused : Nat) : Prop where
  fits : place + length ≤ (seen data).length
  id : data.number place 1 = id
  version : data.number (place + 1) 1 = 1
  length : data.number (place + 2) 2 = length
  flags : ClearBits (data.number (place + 5) 1) unused 7

structure SoundInitiator (data : Bytes) (place : Nat) : Prop where
  header : SoundHeader data place 2 74 2
  name : SoundString plain data (place + 70)

structure SoundNic (number : Nat) (data : Bytes) (place : Nat) : Prop where
  header : SoundHeader data place 3 102 3
  index : data.number (place + 4) 1 = number
  subnet : data.number (place + 22) 1 ≤ 128
  name : SoundString plain data (place + 98)

structure SoundTarget (number : Nat) (data : Bytes) (place : Nat) : Prop where
  header : SoundHeader data place 4 54 4
  index : data.number (place + 4) 1 = number
  chapType : data.number (place + 32) 1 ≤ 2
  association : data.number (place + 33) 1 ≤ 1
  strings : ∀ field ∈ [34, 38, 42, 46, 50], SoundString plain data (place + field)

def Leads (data : Bytes) (place : Nat) (sound : Bytes → Nat → Prop) : Prop :=
  data.number place 2 = 0 ∨ 8 ∣ data.number place 2 ∧ sound data (data.number place 2)

structure SoundBody (data : Bytes) : Prop where
  reserved : (data.slice 36 12).AllZero
  control : SoundControl data
  initiator : Leads data 56 (SoundInitiator plain)
  firstNic : Leads data 58 (SoundNic plain 0)
  firstTarget : Leads data 60 (SoundTarget plain 0)
  secondNic : Leads data 62 (SoundNic plain 1)
  secondTarget : Leads data 64 (SoundTarget plain 1)

def SoundSlot : Slot → Bytes → Nat → Prop
  | .initiator => SoundInitiator plain
  | .nic number => SoundNic plain number
  | .target number => SoundTarget plain number

end Grammar

def IsAscii (byte : UInt8) : Prop := byte < 0x80

instance (byte : UInt8) : Decidable (IsAscii byte) := inferInstanceAs (Decidable (byte < 0x80))

theorem string_passes_iff (table : Reader) (record : Record) (place : Nat) (name : String)
    (room : place + 4 ≤ record.bytes.length) :
    (auditString table record place name).Passes () ↔
      record.bytes.number place 2 = 0 ∨
        record.bytes.number (place + 2) 2 + record.bytes.number place 2 ≤ table.limit ∧
          ∀ byte ∈ table.bytes.slice (record.bytes.number (place + 2) 2)
            (record.bytes.number place 2), IsAscii byte := by
  have length : place + 2 ≤ record.reader.limit := by
    simp only [Record.reader, Reader.limit]
    omega
  have offset : place + 2 + 2 ≤ record.reader.limit := by
    simp only [Record.reader, Reader.limit]
    omega
  rw [auditString, Reader.u16, Reader.u16, passes_number, passes_number, and_iff_right length,
    and_iff_right offset]
  simp only [IsAscii, ← Reader.text_reads_iff, Record.reader]
  by_cases empty : record.bytes.number place 2 = 0
  · simp [empty]
  · cases content : table.text (record.bytes.number (place + 2) 2)
        (record.bytes.number place 2) with
    | ok text => simp [empty]
    | error error => cases error <;> simp [empty]

section Cut

variable {data : Bytes} {record : Record}

theorem cut_number (cut : record.CutFrom layout (seen data) (seen data).length)
    {place width : Nat} (inside : place + width ≤ record.bytes.length) :
    record.bytes.number place width = data.number (record.offset + place) width := by
  have whole := cut.inside
  have size : place + width ≤ record.length := inside
  rw [cut.bytes, Bytes.number, Bytes.slice_slice size, seen_slice (by omega), Bytes.number]

theorem cut_kind (cut : record.CutFrom layout (seen data) (seen data).length) :
    record.kind = data.number record.offset 1 := by
  have inside := cut.inside
  have least : 4 ≤ record.length := cut.header
  exact cut.kind.trans (seen_number (by simp only [layout, Width.bytes]; omega))

theorem cut_measure (cut : record.CutFrom layout (seen data) (seen data).length) :
    record.length = data.number (record.offset + 2) 2 := by
  have inside := cut.inside
  have least : 4 ≤ record.length := cut.header
  exact cut.length.trans (seen_number (by simp only [layout, Width.bytes]; omega))

theorem cut_string_iff (cut : record.CutFrom layout (seen data) (seen data).length)
    (field : Nat) (name : String) (room : field + 4 ≤ record.bytes.length) :
    (auditString ⟨seen data, 0⟩ record field name).Passes () ↔
      SoundString IsAscii data (record.offset + field) := by
  rw [string_passes_iff _ _ _ _ room, cut_number cut (by omega), cut_number cut (by omega),
    SoundString, Nat.add_assoc]
  refine or_congr_right (and_congr_right fun inside => ?_)
  rw [seen_slice inside]

theorem cut_header_iff (cut : record.CutFrom layout (seen data) (seen data).length)
    {id length unused : Nat} (room : 6 ≤ length) :
    SoundHeader data record.offset id length unused ↔
      record.kind = id ∧ record.bytes.length = length ∧ record.bytes.number 1 1 = 1 ∧
        ClearBits (record.bytes.number 5 1) unused 7 := by
  have inside : record.offset + record.bytes.length ≤ (seen data).length := cut.inside
  have kind := cut_kind cut
  have measured : record.bytes.length = data.number (record.offset + 2) 2 := cut_measure cut
  constructor
  · intro sound
    have size : record.bytes.length = length := measured.trans sound.length
    rw [cut_number cut (by omega), cut_number cut (by omega)]
    exact ⟨kind.trans sound.id, size, sound.version, sound.flags⟩
  · rintro ⟨id, size, version, flags⟩
    rw [cut_number cut (by omega)] at version flags
    exact ⟨by omega, kind.symm.trans id, version, measured.symm.trans size, flags⟩

theorem structure_at {place length : Nat} (fits : place + length ≤ (seen data).length)
    (long : 4 ≤ length) (measured : data.number (place + 2) 2 = length) :
    ∃ record : Record, record.CutFrom layout (seen data) (seen data).length ∧
      record.offset = place ∧ record.index = 0 := by
  have size : ((seen data).slice place length).length = length :=
    Bytes.length_slice_of_fits fits
  have field : layout.lengthAt (seen data) place = length := by
    rw [← measured]
    exact seen_number (by simp only [layout, Width.bytes]; omega)
  refine ⟨⟨layout.kindAt (seen data) place, place, 0, (seen data).slice place length⟩, ?_, rfl, rfl⟩
  refine ⟨rfl, size.trans field.symm, ?_, ?_, ?_⟩
  · exact Nat.le_trans long (Nat.le_of_eq size.symm)
  · simpa only [Record.length, size] using fits
  · simp only [Record.length, size]

end Cut

theorem slot_length_ge (slot : Slot) : 6 ≤ slot.length := by
  cases slot <;> simp [Slot.length]

theorem greatest_flag_lt (slot : Slot) : slot.greatestFlag < 7 := by
  cases slot <;> simp [Slot.greatestFlag]

section Slot

variable {record : Record}

theorem number_passes_iff (slot : Slot) (room : 5 ≤ record.bytes.length) :
    (auditNumber slot record).Passes () ↔
      ∀ number, slot.number? = some number → record.bytes.number 4 1 = number := by
  cases numbered : slot.number? with
  | none => simp [auditNumber, numbered]
  | some number =>
      simp [auditNumber, numbered, Reader.u8, passes_expect (Rule.equals_decides _ _),
        Record.reader, Reader.limit, room]

theorem fields_pass_iff (table : Reader) (slot : Slot) (room : 6 ≤ record.bytes.length) :
    (auditFields table slot record).Passes () ↔
      record.bytes.number 1 1 = 1 ∧ (auditNumber slot record).Passes () ∧
        ClearBits (record.bytes.number 5 1) (slot.greatestFlag + 1) 7 ∧
        (auditContent table record slot).Passes () := by
  have version : 2 ≤ record.bytes.length := by omega
  have below : slot.greatestFlag + 1 ≤ 7 := greatest_flag_lt slot
  simp [auditFields, Reader.u8, passes_expect (Rule.equals_decides _ _),
    passes_expect (Rule.clear_bits_decides _ _ _), Record.reader, Reader.limit, room, version,
    below]

theorem record_passes_iff (table : Reader) (slot : Slot) :
    (auditRecord table slot record).Passes () ↔
      record.kind = slot.id ∧ record.bytes.length = slot.length ∧
        (auditFields table slot record).Passes () := by
  simp [auditRecord, passes_require (Rule.equals_decides _ _), Record.length]

theorem nic_passes_iff (table : Reader) (length : record.bytes.length = 102) :
    (auditNic table record).Passes () ↔
      record.bytes.number 22 1 ≤ 128 ∧
        (auditString table record 98 "NIC Host Name").Passes () := by
  simp [auditNic, Reader.u8, passes_expect (Rule.within_decides _ _ _), Record.reader,
    Reader.limit, length]

theorem target_passes_iff (table : Reader) (length : record.bytes.length = 54) :
    (auditTarget table record).Passes () ↔
      record.bytes.number 32 1 ≤ 2 ∧ record.bytes.number 33 1 ≤ 1 ∧
        (auditString table record 34 "Target Name").Passes () ∧
        (auditString table record 38 "Target CHAP Name").Passes () ∧
        (auditString table record 42 "Target CHAP Secret").Passes () ∧
        (auditString table record 46 "Target Reverse CHAP Name").Passes () ∧
        (auditString table record 50 "Target Reverse CHAP Secret").Passes () := by
  simp [auditTarget, Reader.u8, passes_expect (Rule.within_decides _ _ _), Record.reader,
    Reader.limit, length]

theorem cut_record_iff {data : Bytes} (slot : Slot)
    (cut : record.CutFrom layout (seen data) (seen data).length) :
    (auditRecord ⟨seen data, 0⟩ slot record).Passes () ↔
      SoundHeader data record.offset slot.id slot.length (slot.greatestFlag + 1) ∧
        (∀ number, slot.number? = some number → data.number (record.offset + 4) 1 = number) ∧
        (auditContent ⟨seen data, 0⟩ record slot).Passes () := by
  have least := slot_length_ge slot
  rw [record_passes_iff, cut_header_iff cut least]
  constructor
  · rintro ⟨kind, length, fields⟩
    obtain ⟨version, numbered, flags, content⟩ := (fields_pass_iff _ _ (by omega)).mp fields
    rw [number_passes_iff slot (by omega), cut_number cut (by omega)] at numbered
    exact ⟨⟨kind, length, version, flags⟩, numbered, content⟩
  · rintro ⟨⟨kind, length, version, flags⟩, numbered, content⟩
    rw [← cut_number cut (by omega), ← number_passes_iff slot (by omega)] at numbered
    exact ⟨kind, length, (fields_pass_iff _ _ (by omega)).mpr ⟨version, numbered, flags, content⟩⟩

theorem cut_slot_iff {data : Bytes} (slot : Slot)
    (cut : record.CutFrom layout (seen data) (seen data).length) :
    (auditRecord ⟨seen data, 0⟩ slot record).Passes () ↔
      SoundSlot IsAscii slot data record.offset := by
  have measured (header : SoundHeader data record.offset slot.id slot.length
      (slot.greatestFlag + 1)) : record.bytes.length = slot.length :=
    ((cut_header_iff cut (slot_length_ge slot)).mp header).2.1
  rw [cut_record_iff slot cut]
  cases slot with
  | initiator =>
      constructor
      · rintro ⟨header, -, content⟩
        have length : record.bytes.length = 74 := measured header
        exact ⟨header, (cut_string_iff cut _ _ (by omega)).mp content⟩
      · intro sound
        have length : record.bytes.length = 74 := measured sound.header
        refine ⟨sound.header, by simp [Slot.number?], ?_⟩
        exact (cut_string_iff cut _ _ (by omega)).mpr sound.name
  | nic number =>
      constructor
      · rintro ⟨header, index, content⟩
        have length : record.bytes.length = 102 := measured header
        obtain ⟨subnet, name⟩ := (nic_passes_iff _ length).mp content
        rw [cut_number cut (by omega)] at subnet
        exact ⟨header, index _ rfl, subnet, (cut_string_iff cut _ _ (by omega)).mp name⟩
      · intro sound
        have length : record.bytes.length = 102 := measured sound.header
        refine ⟨sound.header, by simpa [Slot.number?] using sound.index, ?_⟩
        rw [auditContent, nic_passes_iff _ length, cut_number cut (by omega)]
        exact ⟨sound.subnet, (cut_string_iff cut _ _ (by omega)).mpr sound.name⟩
  | target number =>
      constructor
      · rintro ⟨header, index, content⟩
        have length : record.bytes.length = 54 := measured header
        obtain ⟨chapType, association, strings⟩ := (target_passes_iff _ length).mp content
        rw [cut_number cut (by omega)] at chapType association
        refine ⟨header, index _ rfl, chapType, association, ?_⟩
        simpa [cut_string_iff cut, length] using strings
      · intro sound
        have length : record.bytes.length = 54 := measured sound.header
        have strings := sound.strings
        refine ⟨sound.header, by simpa [Slot.number?] using sound.index, ?_⟩
        rw [auditContent, target_passes_iff _ length, cut_number cut (by omega),
          cut_number cut (by omega)]
        refine ⟨sound.chapType, sound.association, ?_⟩
        simpa [cut_string_iff cut, length] using strings

end Slot

section Body

variable {data : Bytes}

theorem sound_slot_header {slot : Slot} {place : Nat} (sound : SoundSlot IsAscii slot data place) :
    SoundHeader data place slot.id slot.length (slot.greatestFlag + 1) := by
  cases slot with
  | initiator => exact SoundInitiator.header sound
  | nic number => exact SoundNic.header sound
  | target number => exact SoundTarget.header sound

theorem slot_passes_iff (slot : Slot) (pointer : Nat) :
    (auditSlot ⟨seen data, 0⟩ slot pointer).Passes () ↔
      pointer = 0 ∨ 8 ∣ pointer ∧ SoundSlot IsAscii slot data pointer := by
  by_cases absent : pointer = 0
  · simp [auditSlot, absent]
  · have aligned : ¬ pointer % 8 ≠ 0 ↔ 8 ∣ pointer := by omega
    rw [auditSlot, if_neg absent, passes_then, passes_fail_if, aligned, or_iff_right absent]
    refine and_congr_right fun _ => ?_
    rw [passes_locate]
    · constructor
      · rintro ⟨record, cut, rfl, -, passes⟩
        exact (cut_slot_iff slot cut).mp passes
      · intro sound
        have header := sound_slot_header sound
        have long := slot_length_ge slot
        obtain ⟨record, cut, rfl, index⟩ := structure_at header.fits (by omega) header.length
        exact ⟨record, cut, rfl, index, (cut_slot_iff slot cut).mpr sound⟩
    · intro error passes
      exact passes

theorem control_passes_iff (control : Record) (passed : Bool) :
    (auditControl control).Passes passed ↔
      control.kind = 1 ∧ 18 ≤ control.bytes.length ∧ control.bytes.number 1 1 = 1 ∧
        control.bytes.number 4 1 = 0 ∧ ClearBits (control.bytes.number 5 1) 1 7 ∧
        passed = true := by
  by_cases long : 18 ≤ control.bytes.length
  · have version : 2 ≤ control.bytes.length := by omega
    have index : 5 ≤ control.bytes.length := by omega
    have flags : 6 ≤ control.bytes.length := by omega
    simp [auditControl, controlId, leastControlLength, passes_require (Rule.equals_decides _ _),
      passes_require (Rule.at_least_decides _ _), passes_expect (Rule.equals_decides _ _),
      passes_expect (Rule.clear_bits_decides _ _ _), Reader.u8, Record.reader, Reader.limit,
      Record.length, long, version, index, flags, eq_comm]
  · simp [auditControl, leastControlLength, passes_require (Rule.at_least_decides _ _),
      Record.length, long]

theorem slots_of_control {control : Record}
    (cut : control.CutFrom layout (seen data) (seen data).length) (place : control.offset = 48)
    (long : 18 ≤ control.bytes.length) :
    slots control = [(.initiator, data.number 56 2), (.nic 0, data.number 58 2),
      (.target 0, data.number 60 2), (.nic 1, data.number 62 2),
      (.target 1, data.number 64 2)] := by
  rw [slots, firstPointer, Bytes.words_drop (by omega), Bytes.words_drop (by omega),
    Bytes.words_drop (by omega), Bytes.words_drop (by omega), Bytes.words_drop (by omega),
    cut_number cut (by omega), cut_number cut (by omega), cut_number cut (by omega),
    cut_number cut (by omega), cut_number cut (by omega), place]
  rfl

theorem cut_control_iff {control : Record}
    (cut : control.CutFrom layout (seen data) (seen data).length) (place : control.offset = 48) :
    SoundControl data ↔
      control.kind = 1 ∧ 18 ≤ control.bytes.length ∧ data.number 49 1 = 1 ∧
        data.number 52 1 = 0 ∧ ClearBits (data.number 53 1) 1 7 := by
  have inside : 48 + control.bytes.length ≤ (seen data).length := place ▸ cut.inside
  have kind : control.kind = data.number 48 1 := place ▸ cut_kind cut
  have measured : control.bytes.length = data.number 50 2 := by
    rw [← Record.length, cut_measure cut, place]
  rw [kind, measured]
  constructor
  · intro sound
    exact ⟨sound.id, sound.length, sound.version, sound.index, sound.flags⟩
  · rintro ⟨id, length, version, index, flags⟩
    exact ⟨measured ▸ inside, id, version, length, index, flags⟩

theorem structures_pass_iff {control : Record}
    (cut : control.CutFrom layout (seen data) (seen data).length) (place : control.offset = 48) :
    (do
        if ← auditControl control then
          (slots control).forM fun entry => auditSlot ⟨seen data, 0⟩ entry.1 entry.2
        else return ()).Passes () ↔
      SoundControl data ∧ Leads data 56 (SoundInitiator IsAscii) ∧
        Leads data 58 (SoundNic IsAscii 0) ∧
        Leads data 60 (SoundTarget IsAscii 0) ∧ Leads data 62 (SoundNic IsAscii 1) ∧
        Leads data 64 (SoundTarget IsAscii 1) := by
  rw [cut_control_iff cut place, passes_bind]
  constructor
  · rintro ⟨passed, control, slots⟩
    obtain ⟨kind, long, version, index, flags, rfl⟩ := (control_passes_iff _ _).mp control
    rw [cut_number cut (by omega), place] at version index flags
    rw [if_pos rfl, passes_for_each, slots_of_control cut place long] at slots
    simp only [List.forall_mem_cons, slot_passes_iff] at slots
    exact ⟨⟨kind, long, version, index, flags⟩, slots.1, slots.2.1, slots.2.2.1, slots.2.2.2.1,
      slots.2.2.2.2.1⟩
  · rintro ⟨⟨kind, long, version, index, flags⟩, initiator, firstNic, firstTarget, secondNic,
      secondTarget⟩
    have control := (control_passes_iff control true).mpr
    rw [cut_number cut (by omega), cut_number cut (by omega), cut_number cut (by omega), place]
      at control
    refine ⟨true, control ⟨kind, long, version, index, flags, rfl⟩, ?_⟩
    rw [if_pos rfl, passes_for_each, slots_of_control cut place long]
    simp only [List.forall_mem_cons, slot_passes_iff]
    exact ⟨initiator, firstNic, firstTarget, secondNic, secondTarget, by simp⟩

theorem body_passes_iff (header : Header) (fits : 48 ≤ (seen data).length) :
    (body ⟨header, ⟨seen data, 0⟩⟩).Passes () ↔ SoundBody IsAscii data := by
  have room : Header.size + 12 ≤ Reader.limit ⟨seen data, 0⟩ := fits
  rw [body, passes_read, passes_then, passes_expect (Rule.zero_bytes_decides _), passes_locate]
  · rw [and_iff_right room, Header.size, seen_slice fits]
    constructor
    · rintro ⟨reserved, control, cut, place, -, passes⟩
      obtain ⟨sound, initiator, firstNic, firstTarget, secondNic, secondTarget⟩ :=
        (structures_pass_iff cut place).mp passes
      exact ⟨reserved, sound, initiator, firstNic, firstTarget, secondNic, secondTarget⟩
    · intro sound
      have long := sound.control.length
      obtain ⟨control, cut, place, index⟩ := structure_at sound.control.fits (by omega) rfl
      refine ⟨sound.reserved, control, cut, place, index, (structures_pass_iff cut place).mpr ?_⟩
      exact ⟨sound.control, sound.initiator, sound.firstNic, sound.firstTarget, sound.secondNic,
        sound.secondTarget⟩
  · intro error passes
    exact passes

end Body

theorem ibft_report_clean_iff {data : Bytes} {address ordinal : Nat} {image : Image}
    (loaded : Image.ofBytes data address ordinal = .ok image) (named : image.signature = .ibft) :
    ∃ report, (Registry.report? image).value = some report ∧
      (report.Clean ↔ Intact data 48 ∧ SoundBody IsAscii data) := by
  have registered : Registry.find? image.signature = some check := by
    rw [named]
    rfl
  refine registered_clean_iff loaded registered (Nat.le_add_right Header.size 12) ?_
  intro header _ fits
  exact body_passes_iff header fits

-- An initiator and a target that share a name of four letters.
def sharedName : Bytes :=
  [0x69, 0x42, 0x46, 0x54, 210, 0, 0, 0, 1, 1] ++ List.replicate 38 0 ++
    [1, 1, 18, 0, 0, 0, 0, 0, 72, 0, 0, 0, 152, 0, 0, 0, 0, 0] ++ List.replicate 6 0 ++
    [2, 1, 74, 0, 0, 3] ++ List.replicate 64 0 ++ [4, 0, 206, 0] ++ List.replicate 6 0 ++
    [4, 1, 54, 0, 0, 3] ++ List.replicate 26 0 ++ [2, 1, 4, 0, 206, 0] ++ List.replicate 16 0 ++
    [0x68, 0x6F, 0x73, 0x74]

-- Long enough that evaluating it needs more depth than the default.
set_option maxRecDepth 4000 in
theorem ibft_report_clean_iff_shared_name :
    ∃ image, Image.ofBytes sharedName 0 0 = .ok image ∧ image.signature = .ibft ∧
      ∃ report, (Registry.report? image).value = some report ∧ report.Clean := by
  have loaded : Image.ofBytes sharedName 0 0 = .ok ⟨.ibft, 210, 1, sharedName, 0, 0⟩ := rfl
  have control : SoundControl sharedName :=
    ⟨by decide, by decide, by decide, by decide, by decide, by decide⟩
  have initiator : SoundInitiator IsAscii sharedName 72 :=
    ⟨⟨by decide, by decide, by decide, by decide, by decide⟩, .inr (by decide)⟩
  have target : SoundTarget IsAscii 0 sharedName 152 := by
    refine ⟨⟨by decide, by decide, by decide, by decide, by decide⟩, by decide, by decide,
      by decide, ?_⟩
    simp only [List.forall_mem_cons]
    exact ⟨.inr (by decide), .inl (by decide), .inl (by decide), .inl (by decide),
      .inl (by decide), by simp⟩
  have body : SoundBody IsAscii sharedName :=
    ⟨by decide, control, .inr ⟨by decide, initiator⟩, .inl (by decide),
      .inr ⟨by decide, target⟩, .inl (by decide), .inl (by decide)⟩
  obtain ⟨report, reported, clean⟩ := ibft_report_clean_iff loaded rfl
  exact ⟨_, loaded, rfl, report, reported, clean.mpr ⟨⟨by decide, .inr (by decide)⟩, body⟩⟩

-- An initiator whose name lies inside the table and ends with a byte that is not ASCII.
def accentedName : Bytes :=
  [0x69, 0x42, 0x46, 0x54, 148, 0, 0, 0, 1, 138] ++ List.replicate 38 0 ++
    [1, 1, 18, 0, 0, 0, 0, 0, 72, 0] ++ List.replicate 14 0 ++
    [2, 1, 74, 0, 0, 3] ++ List.replicate 64 0 ++ [2, 0, 146, 0] ++ [0x68, 0xF4]

-- That all strings lie inside the table is not enough.
set_option maxRecDepth 2000 in
theorem ibft_report_not_clean_accented_name :
    ∃ image, Image.ofBytes accentedName 0 0 = .ok image ∧ image.signature = .ibft ∧
      Intact accentedName 48 ∧ SoundBody (fun _ => True) accentedName ∧
      ∃ report, (Registry.report? image).value = some report ∧ ¬ report.Clean := by
  have loaded : Image.ofBytes accentedName 0 0 = .ok ⟨.ibft, 148, 1, accentedName, 0, 0⟩ := rfl
  have control : SoundControl accentedName :=
    ⟨by decide, by decide, by decide, by decide, by decide, by decide⟩
  have initiator : SoundInitiator (fun _ => True) accentedName 72 :=
    ⟨⟨by decide, by decide, by decide, by decide, by decide⟩, .inr (by decide)⟩
  have body : SoundBody (fun _ => True) accentedName :=
    ⟨by decide, control, .inr ⟨by decide, initiator⟩, .inl (by decide), .inl (by decide),
      .inl (by decide), .inl (by decide)⟩
  have refused : ¬ SoundBody IsAscii accentedName := by
    intro sound
    rcases sound.initiator with absent | ⟨-, found⟩
    · exact absurd absent (by decide)
    · rcases found.name with empty | ⟨-, plain⟩
      · exact absurd empty (by decide)
      · exact absurd plain (by decide)
  have registered : Registry.find? .ibft = some check := rfl
  obtain ⟨report, reported, clean⟩ := registered_clean_iff loaded registered
    (Nat.le_add_right Header.size 12) fun header _ fits => body_passes_iff header fits
  exact ⟨_, loaded, rfl, ⟨by decide, .inr (by decide)⟩, body, report, reported,
    fun accepted => refused (clean.mp accepted).2⟩

end AcpiAudit.Ibft
