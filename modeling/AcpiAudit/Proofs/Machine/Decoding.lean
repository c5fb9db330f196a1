import AcpiAudit.Proofs.Audit.Acceptance
import AcpiAudit.Proofs.Bytes.Writing
import AcpiAudit.Proofs.Machine.Cursor

set_option autoImplicit false

namespace AcpiAudit

open Bytes

def Header.fields (header : Header) : List Field :=
  [.plain 0 header.signature.bytes.val, .number 4 4 header.length, .number 8 1 header.revision,
    .number 9 1 header.checksum, .plain 10 header.oemId.val, .plain 16 header.oemTableId.val,
    .number 24 4 header.oemRevision, .plain 28 header.creatorId.val,
    .number 32 4 header.creatorRevision]

def Register.fields (register : Register) : List Field :=
  [.number 0 1 register.space, .number 1 1 register.bitWidth, .number 2 1 register.bitOffset,
    .number 3 1 register.accessSize, .number 4 8 register.address]

def Guid.fields (guid : Guid) : List Field :=
  [.number 0 4 guid.first, .number 4 2 guid.second, .number 6 2 guid.third, .plain 8 guid.last]

theorem header_fields_end_to_end (header : Header) : EndToEnd 0 36 header.fields := by
  have signature := header.signature.bytes.property
  have oemId := header.oemId.property
  have oemTableId := header.oemTableId.property
  have creatorId := header.creatorId.property
  simp [Header.fields, EndToEnd, Field.offset, Field.bytes, length_ofNumber, signature, oemId,
    oemTableId, creatorId]

theorem register_fields_end_to_end (register : Register) : EndToEnd 0 12 register.fields := by
  simp [Register.fields, EndToEnd, Field.offset, Field.bytes, length_ofNumber]

theorem guid_fields_end_to_end (guid : Guid) : EndToEnd 0 16 guid.fields := by
  have last : guid.last.length = 8 := length_slice_of_fits (Nat.le_of_eq guid.bytes.property.symm)
  simp [Guid.fields, EndToEnd, Field.offset, Field.bytes, length_ofNumber, last]

namespace Reader

structure ReadsFields {α : Type} (reader : Reader) (offset size : Nat)
    (fields : α → List Field) (read : Except ReadError α) : Prop where
  whole : offset + size ≤ reader.limit → ∃ value, read = .ok value ∧
    ∀ field ∈ fields value, Field.TakenFrom reader.bytes offset field
  short : reader.limit < offset + size →
    read = .error (.truncated offset size (reader.limit - offset))

variable (reader : Reader)

theorem header_reads : reader.ReadsFields 0 36 Header.fields reader.header := by
  constructor
  · intro fits
    have room : 36 ≤ reader.bytes.length := by
      rw [Nat.zero_add] at fits
      exact fits
    have found := header_of_fits reader room
    have heads := (header_ok_iff _ _).mp found
    generalize headerOf reader.bytes room = header at found heads
    refine ⟨header, found, ?_⟩
    simp only [Header.fields, List.forall_mem_cons]
    exact ⟨plain_taken heads.signature header.signature.bytes.property,
      number_taken heads.length (by omega), number_taken heads.revision (by omega),
      number_taken heads.checksum (by omega), plain_taken heads.oemId header.oemId.property,
      plain_taken heads.oemTableId header.oemTableId.property,
      number_taken heads.oemRevision (by omega),
      plain_taken heads.creatorId header.creatorId.property,
      number_taken heads.creatorRevision (by omega), by simp⟩
  · intro short
    rw [Nat.zero_add] at short
    exact if_pos short

theorem register_reads (offset : Nat) :
    reader.ReadsFields offset 12 Register.fields (reader.register offset) := by
  constructor
  · intro fits
    have room : offset + 12 ≤ reader.bytes.length := fits
    refine ⟨registerOf reader.bytes offset, register_of_fits fits, ?_⟩
    simp only [Register.fields, List.forall_mem_cons]
    exact ⟨number_taken rfl (by omega), number_taken rfl (by omega),
      number_taken rfl (by omega), number_taken rfl (by omega),
      number_taken rfl (by omega), by simp⟩
  · intro short
    rw [register, window, Register.size, read_beyond short]
    rfl

theorem guid_reads (offset : Nat) :
    reader.ReadsFields offset 16 Guid.fields (reader.guid offset) := by
  constructor
  · intro fits
    have size : (reader.bytes.slice offset 16).length = 16 := length_slice_of_fits fits
    have room : offset + 16 ≤ reader.bytes.length := fits
    refine ⟨_, guid_of_fits fits, ?_⟩
    simp only [Guid.fields, List.forall_mem_cons]
    exact ⟨number_taken (number_slice (by decide)) (by omega),
      number_taken (number_slice (by decide)) (by omega),
      number_taken (number_slice (by decide)) (by omega),
      plain_taken (slice_slice (by decide)) (length_slice_of_fits (Nat.le_of_eq size.symm)),
      by simp⟩
  · intro short
    rw [guid, block_of_error (read_beyond short)]
    rfl

end Reader

namespace Cursor

-- What a decoder answers on a machine. Its fields are written over any bytes at all.
structure Decodes {α : Type} (cursor : Cursor) (offset size : Nat)
    (fields : α → List Field) (run : Run α) (read : Except ReadError α) : Prop where
  finishes : run = .finished (liftM read)
  succeeds : (∃ value, read = .ok value) ↔ offset + size ≤ cursor.limit
  truncated : cursor.limit < offset + size →
    read = .error (.truncated offset size (cursor.limit - offset))
  lossless : ∀ value, read = .ok value →
    EndToEnd 0 size (fields value) ∧ (∀ field ∈ fields value, field.Fits) ∧
      ∀ blank : Bytes, blank.length = size →
        blank.writeAll (fields value) = cursor.data.slice offset size

theorem decodes_of_fields {α : Type} {cursor : Cursor} {offset size : Nat}
    {fields : α → List Field} {run : Run α} {read : Except ReadError α}
    (ends : ∀ value, EndToEnd 0 size (fields value)) (finishes : run = .finished (liftM read))
    (reads : cursor.reader.ReadsFields offset size fields read) :
    cursor.Decodes offset size fields run read := by
  have limit := cursor.reader_limit
  have fits {value : α} (found : read = .ok value) : offset + size ≤ cursor.limit := by
    by_contra beyond
    have missing := reads.short (by omega)
    rw [found] at missing
    cases missing
  refine ⟨finishes, ⟨fun ⟨value, found⟩ => fits found, ?_⟩, ?_, ?_⟩
  · intro room
    obtain ⟨value, found, -⟩ := reads.whole (by omega)
    exact ⟨value, found⟩
  · intro beyond
    rw [reads.short (by omega), limit]
  · intro value found
    have room := fits found
    obtain ⟨same, whole, taken⟩ := reads.whole (by omega)
    rw [found] at whole
    cases whole
    refine ⟨ends value, fun field member => (taken field member).fits, fun blank filled => ?_⟩
    have written := write_taken (ends value) taken (Nat.le_of_eq filled.symm)
    have shown : cursor.reader.bytes.slice offset size = cursor.data.slice offset size :=
      slice_take room
    rw [written, List.take_zero, List.nil_append, Nat.add_zero, Nat.sub_zero, shown,
      List.drop_eq_nil_of_le (Nat.le_of_eq filled), List.append_nil]

end Cursor

theorem decoders_are_lossless (cursor : Cursor) (data : Bytes) (address ordinal : Nat) :
    cursor.Decodes 0 36 Header.fields cursor.header cursor.reader.header ∧
      (∀ offset, cursor.Decodes offset 12 Register.fields (cursor.register offset)
        (cursor.reader.register offset)) ∧
      (∀ offset, cursor.Decodes offset 16 Guid.fields (cursor.guid offset)
        (cursor.reader.guid offset)) ∧
      ((∃ image, Image.ofBytes data address ordinal = .ok image) ↔ 9 ≤ data.length) ∧
      ∀ image header, Image.ofBytes data address ordinal = .ok image →
        image.header = .ok header →
        header.signature = image.signature ∧ header.length = image.length ∧
          header.revision = image.revision := by
  refine ⟨Cursor.decodes_of_fields header_fields_end_to_end cursor.header_eq
      cursor.reader.header_reads,
    fun offset => Cursor.decodes_of_fields register_fields_end_to_end (cursor.register_eq offset)
      (cursor.reader.register_reads offset),
    fun offset => Cursor.decodes_of_fields guid_fields_end_to_end (cursor.guid_eq offset)
      (cursor.reader.guid_reads offset),
    ⟨fun ⟨image, loaded⟩ => (loaded_of_bytes loaded).room,
      fun room => loads_of_room room address ordinal⟩, ?_⟩
  intro image header loaded found
  have fields := loaded_of_bytes loaded
  have room : Header.size ≤ (seen data).length := by
    rw [Image.header, reader_of_loaded fields] at found
    exact ((Reader.header_ok_iff _ _).mp found).fits
  obtain ⟨other, read, signature, length, revision⟩ := header_of_loaded fields room
  rw [found] at read
  cases read
  exact ⟨signature, length.trans fields.length.symm, revision⟩

-- A header of 36 bytes that declares 40. It stands alone, and an offset at the end of the addresses
-- has no bytes behind it.
theorem decoders_are_lossless_short_table :
    let data : Bytes := [0x50, 0x43, 0x43, 0x54, 40, 0, 0, 0, 2] ++ List.replicate 27 7
    let image : Image := ⟨.pcct, 40, 2, data, 0, 0⟩
    ∃ (small : data.length < 2 ^ 63) (header : Header),
      let cursor := Cursor.upTo 40 data small
      Image.ofBytes data 0 0 = .ok image ∧ image.header = .ok header ∧
        header.signature = .pcct ∧ header.length = 40 ∧ header.revision = 2 ∧
        cursor.header = .finished (liftM cursor.reader.header) ∧
        cursor.reader.header = .ok header ∧
        writeAll (List.replicate 36 0xAA) header.fields = data ∧
        cursor.reader.register (2 ^ 64 - 1) = .error (.truncated (2 ^ 64 - 1) 12 0) ∧
        cursor.reader.guid 21 = .error (.truncated 21 16 15) := by
  intro data image
  have small : data.length < 2 ^ 63 := by decide
  obtain ⟨headers, registers, guids, -, agree⟩ :=
    decoders_are_lossless (.upTo 40 data small) data 0 0
  have limit : (Cursor.upTo 40 data small).limit = 36 := rfl
  have loaded : Image.ofBytes data 0 0 = .ok image := rfl
  obtain ⟨header, found⟩ := headers.succeeds.mpr (by omega)
  have read : image.header = .ok header := found
  obtain ⟨signature, length, revision⟩ := agree image header loaded read
  have distant := (registers (2 ^ 64 - 1)).truncated (by omega)
  have cutOff := (guids 21).truncated (by omega)
  rw [limit] at distant cutOff
  exact ⟨small, header, loaded, read, signature, length, revision, headers.finishes, found,
    (headers.lossless header found).2.2 _ (by decide), distant, cutOff⟩

end AcpiAudit
