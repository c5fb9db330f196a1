import AcpiAudit.Proofs.Bytes.Slice
import AcpiAudit.Table.Guid
import AcpiAudit.Table.Image
import AcpiAudit.Table.Register

set_option autoImplicit false

namespace AcpiAudit

theorem read_bind_ok_iff {α β : Type} (read : Except ReadError α) (next : α → Except ReadError β)
    (value : β) :
    (read >>= next) = .ok value ↔ ∃ middle, read = .ok middle ∧ next middle = .ok value := by
  cases read <;> simp [bind, Except.bind]

theorem signature_eq_of_bytes {one other : Signature} (same : one.bytes.val = other.bytes.val) :
    one = other := by
  cases one
  cases other
  exact congrArg Signature.mk (Subtype.ext same)

theorem text_length (signature : Signature) : signature.text.toList.length = 4 := by
  simp [Signature.text, Ascii.text, signature.bytes.property]

namespace Reader

theorem block_ok_iff (reader : Reader) (offset size : Nat) (block : Block size) :
    reader.block offset size = .ok block ↔
      offset + size ≤ reader.limit ∧ reader.bytes.slice offset size = block.val := by
  rw [← read_ok_iff]
  unfold Reader.block
  split
  · next bytes found =>
      simp only [found, Except.ok.injEq]
      exact Subtype.ext_iff
  · next error failed => simp [failed]

theorem signature_ok_iff (reader : Reader) (offset : Nat) (signature : Signature) :
    reader.signature offset = .ok signature ↔
      offset + 4 ≤ reader.limit ∧ reader.bytes.slice offset 4 = signature.bytes.val := by
  rw [← block_ok_iff]
  cases signature
  cases read : reader.block offset 4 <;> simp [Reader.signature, read, Except.map]

theorem guid_ok_iff (reader : Reader) (offset : Nat) (guid : Guid) :
    reader.guid offset = .ok guid ↔
      offset + 16 ≤ reader.limit ∧ reader.bytes.slice offset 16 = guid.bytes.val := by
  rw [← block_ok_iff]
  cases guid
  cases read : reader.block offset 16 <;> simp [Reader.guid, read, Except.map]

def registerOf (bytes : Bytes) (offset : Nat) : Register where
  space := bytes.number offset 1
  bitWidth := bytes.number (offset + 1) 1
  bitOffset := bytes.number (offset + 2) 1
  accessSize := bytes.number (offset + 3) 1
  address := bytes.number (offset + 4) 8

theorem register_ok_iff (reader : Reader) (offset : Nat) (register : Register) :
    reader.register offset = .ok register ↔
      offset + 12 ≤ reader.limit ∧ registerOf reader.bytes offset = register := by
  by_cases fits : offset + Register.size ≤ reader.limit
  · have size : (reader.bytes.slice offset Register.size).length = 12 :=
      Bytes.length_slice_of_fits fits
    have field (place width : Nat) (inside : place + width ≤ 12) :
        Bytes.number (reader.bytes.slice offset Register.size) place width =
          reader.bytes.number (offset + place) width := Bytes.number_slice inside
    have room : offset + 12 ≤ reader.bytes.length := fits
    simp only [Reader.register, read_bind_ok_iff, window_ok_iff, fits, true_and, exists_eq_left']
    simp [registerOf, u8, u64, number_ok_iff, limit, size, field, room, pure, Except.pure]
  · have room : ¬ offset + 12 ≤ reader.limit := fits
    simp [Reader.register, read_bind_ok_iff, window_ok_iff, fits, room]

structure Heads (reader : Reader) (header : Header) : Prop where
  fits : Header.size ≤ reader.limit
  signature : header.signature.bytes.val = reader.bytes.slice 0 4
  length : header.length = reader.bytes.number 4 4
  revision : header.revision = reader.bytes.number 8 1
  checksum : header.checksum = reader.bytes.number 9 1
  oemId : header.oemId.val = reader.bytes.slice 10 6
  oemTableId : header.oemTableId.val = reader.bytes.slice 16 8
  oemRevision : header.oemRevision = reader.bytes.number 24 4
  creatorId : header.creatorId.val = reader.bytes.slice 28 4
  creatorRevision : header.creatorRevision = reader.bytes.number 32 4

theorem header_ok_iff (reader : Reader) (header : Header) :
    reader.header = .ok header ↔ reader.Heads header := by
  by_cases short : reader.limit < Header.size
  · have missing : ¬ reader.Heads header := fun heads => by
      have fits := heads.fits
      omega
    simp [Reader.header, short, missing]
  · simp only [Reader.header, if_neg short, read_bind_ok_iff, signature_ok_iff, block_ok_iff,
      u8, u32, number_ok_iff, pure, Except.pure, Except.ok.injEq]
    constructor
    · rintro ⟨signature, ⟨-, signatureIs⟩, _, ⟨-, rfl⟩, _, ⟨-, rfl⟩, _, ⟨-, rfl⟩,
        oemId, ⟨-, oemIdIs⟩, oemTableId, ⟨-, oemTableIdIs⟩, _, ⟨-, rfl⟩,
        creatorId, ⟨-, creatorIdIs⟩, _, ⟨-, rfl⟩, rfl⟩
      exact ⟨by omega, signatureIs.symm, rfl, rfl, rfl, oemIdIs.symm, oemTableIdIs.symm, rfl,
        creatorIdIs.symm, rfl⟩
    · intro heads
      have fits : 36 ≤ reader.limit := heads.fits
      refine ⟨header.signature, ⟨by omega, heads.signature.symm⟩, _, ⟨by omega, rfl⟩,
        _, ⟨by omega, rfl⟩, _, ⟨by omega, rfl⟩, header.oemId, ⟨by omega, heads.oemId.symm⟩,
        header.oemTableId, ⟨by omega, heads.oemTableId.symm⟩, _, ⟨by omega, rfl⟩,
        header.creatorId, ⟨by omega, heads.creatorId.symm⟩, _, ⟨by omega, rfl⟩, ?_⟩
      rw [← heads.length, ← heads.revision, ← heads.checksum, ← heads.oemRevision,
        ← heads.creatorRevision]

def headerOf (bytes : Bytes) (fits : Header.size ≤ bytes.length) : Header :=
  have room : 36 ≤ bytes.length := fits
  { signature := ⟨⟨bytes.slice 0 4, Bytes.length_slice_of_fits (by omega)⟩⟩
    length := bytes.number 4 4
    revision := bytes.number 8 1
    checksum := bytes.number 9 1
    oemId := ⟨bytes.slice 10 6, Bytes.length_slice_of_fits (by omega)⟩
    oemTableId := ⟨bytes.slice 16 8, Bytes.length_slice_of_fits (by omega)⟩
    oemRevision := bytes.number 24 4
    creatorId := ⟨bytes.slice 28 4, Bytes.length_slice_of_fits (by omega)⟩
    creatorRevision := bytes.number 32 4 }

theorem header_of_fits (reader : Reader) (fits : Header.size ≤ reader.limit) :
    reader.header = .ok (headerOf reader.bytes fits) :=
  (header_ok_iff _ _).mpr ⟨fits, rfl, rfl, rfl, rfl, rfl, rfl, rfl, rfl, rfl⟩

end Reader

structure Image.LoadedFrom (image : Image) (data : Bytes) : Prop where
  room : 9 ≤ data.length
  bytes : image.data = data
  length : image.length = data.number 4 4
  revision : image.revision = data.number 8 1
  signature : image.signature.bytes.val = data.slice 0 4

theorem loaded_of_bytes {data : Bytes} {address ordinal : Nat} {image : Image}
    (loaded : Image.ofBytes data address ordinal = .ok image) : image.LoadedFrom data := by
  simp only [Image.ofBytes, read_bind_ok_iff, Reader.signature_ok_iff, Reader.u8, Reader.u32,
    Reader.number_ok_iff, pure, Except.pure, Except.ok.injEq] at loaded
  obtain ⟨signature, ⟨-, signatureIs⟩, _, ⟨-, rfl⟩, _, ⟨room, rfl⟩, rfl⟩ := loaded
  exact ⟨room, rfl, rfl, rfl, signatureIs.symm⟩

theorem loads_of_room {data : Bytes} (room : 9 ≤ data.length) (address ordinal : Nat) :
    ∃ image, Image.ofBytes data address ordinal = .ok image := by
  have four : (data.slice 0 4).length = 4 := Bytes.length_slice_of_fits (by omega)
  have signature : Reader.signature ⟨data, 0⟩ 0 = .ok ⟨⟨data.slice 0 4, four⟩⟩ :=
    (Reader.signature_ok_iff _ _ _).mpr ⟨show 0 + 4 ≤ data.length by omega, rfl⟩
  have length : Reader.u32 ⟨data, 0⟩ 4 = .ok (data.number 4 4) :=
    (Reader.number_ok_iff _ _ _ _).mpr ⟨show 4 + 4 ≤ data.length by omega, rfl⟩
  have revision : Reader.u8 ⟨data, 0⟩ 8 = .ok (data.number 8 1) :=
    (Reader.number_ok_iff _ _ _ _).mpr ⟨show 8 + 1 ≤ data.length by omega, rfl⟩
  refine ⟨⟨⟨⟨data.slice 0 4, four⟩⟩, data.number 4 4, data.number 8 1, data, address, ordinal⟩, ?_⟩
  simp only [Image.ofBytes, signature, length, revision, bind, Except.bind, pure, Except.pure]

end AcpiAudit
