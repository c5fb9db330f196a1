import AcpiAudit.Proofs.Machine.Run

set_option autoImplicit false

namespace AcpiAudit

structure Cursor where
  data : Bytes
  position : Nat
  limit : Nat
  placed : position ≤ limit
  bounded : limit ≤ data.length
  addressable : data.length < 2 ^ 63

namespace Cursor

def ofBytes (data : Bytes) (addressable : data.length < 2 ^ 63) : Cursor :=
  ⟨data, 0, data.length, Nat.zero_le _, Nat.le_refl _, addressable⟩

def upTo (limit : Nat) (data : Bytes) (addressable : data.length < 2 ^ 63) : Cursor :=
  ⟨data, 0, min limit data.length, Nat.zero_le _, Nat.min_le_right _ _, addressable⟩

def reader (cursor : Cursor) : Reader := ⟨cursor.data.take cursor.limit, cursor.position⟩

def truncated (cursor : Cursor) (offset needed : Nat) : ReadError :=
  .truncated offset needed (cursor.limit - offset)

def stop (cursor : Cursor) (offset needed : Nat) : Except ReadError Nat :=
  match Word.checkedAdd? addressBits offset needed with
  | some stop => if stop ≤ cursor.limit then .ok stop else .error (cursor.truncated offset needed)
  | none => .error (cursor.truncated offset needed)

def get? (data : Bytes) (start stop : Nat) : Option Bytes :=
  if start ≤ stop ∧ stop ≤ data.length then some (data.slice start (stop - start)) else none

def read (cursor : Cursor) (offset count : Nat) : Except ReadError Bytes := do
  let stop ← cursor.stop offset count
  match get? cursor.data offset stop with
  | some bytes => return bytes
  | none => throw (.truncated offset count 0)

def shown (cursor : Cursor) : Bytes := (get? cursor.data 0 cursor.limit).getD cursor.data

theorem stop_eq (cursor : Cursor) (offset needed : Nat) :
    cursor.stop offset needed =
      if offset + needed ≤ cursor.limit then .ok (offset + needed)
      else .error (cursor.truncated offset needed) := by
  have bounded := cursor.bounded
  have addressable := cursor.addressable
  by_cases fits : offset + needed < 2 ^ addressBits
  · simp only [stop, Word.checkedAdd?, if_pos fits]
  · have beyond : ¬ offset + needed ≤ cursor.limit := by
      simp only [addressBits] at fits
      omega
    simp only [stop, Word.checkedAdd?, if_neg fits, if_neg beyond]

theorem reader_limit (cursor : Cursor) : cursor.reader.limit = cursor.limit :=
  List.length_take_of_le cursor.bounded

theorem shown_eq (cursor : Cursor) : cursor.shown = cursor.reader.bytes := by
  have inside : 0 ≤ cursor.limit ∧ cursor.limit ≤ cursor.data.length := ⟨by omega, cursor.bounded⟩
  rw [shown, get?, if_pos inside]
  rfl

theorem read_eq (cursor : Cursor) (offset count : Nat) :
    cursor.read offset count = cursor.reader.read offset count := by
  have bounded := cursor.bounded
  rw [read, stop_eq, Reader.read, reader_limit]
  by_cases fits : offset + count ≤ cursor.limit
  · have inside : offset ≤ offset + count ∧ offset + count ≤ cursor.data.length := by omega
    have shown : Bytes.slice (cursor.data.take cursor.limit) offset count =
        cursor.data.slice offset count := Bytes.slice_take fits
    simp only [if_pos fits, bind, Except.bind, get?, if_pos inside, reader, shown,
      Nat.add_sub_cancel_left, pure, Except.pure]
  · simp only [if_neg fits, bind, Except.bind, truncated]

theorem up_to_reader (limit : Nat) (data : Bytes) (addressable : data.length < 2 ^ 63) :
    (upTo limit data addressable).reader = .upTo limit data := by
  rw [reader, upTo, Reader.upTo, ← List.take_eq_take_min]

theorem read_addressable {cursor : Cursor} {offset count : Nat} {bytes : Bytes}
    (found : cursor.read offset count = .ok bytes) : bytes.length < 2 ^ 63 := by
  rw [read_eq] at found
  have size := Reader.length_of_read found
  have fits := ((Reader.read_ok_iff _ _ _ _).mp found).1
  have bounded := cursor.bounded
  have addressable := cursor.addressable
  rw [reader_limit] at fits
  omega

def window (cursor : Cursor) (offset length : Nat) : Except ReadError Cursor :=
  match found : cursor.read offset length with
  | .ok bytes => .ok (ofBytes bytes (read_addressable found))
  | .error error => .error error

theorem of_bytes_reader (data : Bytes) (addressable : data.length < 2 ^ 63) :
    (ofBytes data addressable).reader = ⟨data, 0⟩ := by
  rw [reader, ofBytes, List.take_length]

theorem window_eq (cursor : Cursor) (offset length : Nat) :
    (cursor.window offset length).map reader = cursor.reader.window offset length := by
  rw [Reader.window, ← read_eq, window]
  split
  · next bytes found =>
      rw [Except.map, of_bytes_reader, found]
      rfl
  · next error failed =>
      rw [failed]
      rfl

theorem of_mapped {found : Except ReadError Cursor} {shown : Reader}
    (mapped : found.map reader = .ok shown) :
    ∃ cursor, found = .ok cursor ∧ cursor.reader = shown := by
  cases found with
  | error error => cases mapped
  | ok cursor => exact ⟨cursor, rfl, Except.ok.inj mapped⟩

def remaining (cursor : Cursor) : Checked Nat := Word.subtract cursor.limit cursor.position

theorem remaining_eq (cursor : Cursor) : cursor.remaining = .ok cursor.reader.remaining := by
  rw [remaining, Word.subtract_fits cursor.placed, Reader.remaining, reader_limit]
  rfl

theorem stop_placed {cursor : Cursor} {offset needed stop : Nat}
    (found : cursor.stop offset needed = .ok stop) :
    stop ≤ cursor.limit ∧ stop = offset + needed := by
  rw [stop_eq] at found
  split at found
  · next fits =>
      cases found
      exact ⟨fits, rfl⟩
  · cases found

theorem stop_refused {cursor : Cursor} {offset needed : Nat} {error : ReadError}
    (failed : cursor.stop offset needed = .error error) :
    ¬ offset + needed ≤ cursor.limit ∧ error = cursor.truncated offset needed := by
  rw [stop_eq] at failed
  split at failed
  · cases failed
  · next beyond =>
      cases failed
      exact ⟨beyond, rfl⟩

def advance (cursor : Cursor) (count : Nat) : Except ReadError Cursor :=
  match found : cursor.stop cursor.position count with
  | .ok stop => .ok { cursor with position := stop, placed := (stop_placed found).1 }
  | .error error => .error error

-- Nothing is read at the new position, which may be the limit.
def seek (cursor : Cursor) (offset : Nat) : Except ReadError Cursor :=
  match found : cursor.stop offset 0 with
  | .ok _ => .ok { cursor with position := offset, placed := by have := stop_placed found; omega }
  | .error error => .error error

theorem advance_eq (cursor : Cursor) (count : Nat) :
    (cursor.advance count).map reader = cursor.reader.advance count := by
  have place : cursor.reader.position = cursor.position := rfl
  rw [Reader.advance, reader_limit, place]
  unfold advance
  split
  · next stop found =>
      obtain ⟨fits, rfl⟩ := stop_placed found
      rw [if_pos fits]
      rfl
  · next error failed =>
      obtain ⟨beyond, rfl⟩ := stop_refused failed
      rw [if_neg beyond]
      rfl

theorem seek_eq (cursor : Cursor) (offset : Nat) :
    (cursor.seek offset).map reader = cursor.reader.seek offset := by
  rw [Reader.seek, reader_limit]
  unfold seek
  split
  · next stop found =>
      obtain ⟨fits, rfl⟩ := stop_placed found
      rw [if_pos fits]
      rfl
  · next error failed =>
      obtain ⟨beyond, rfl⟩ := stop_refused failed
      rw [Nat.add_zero] at beyond
      rw [if_neg beyond]
      rfl

section Fields

variable (cursor : Cursor)

def block (offset size : Nat) : Run (Block size) := do
  let bytes ← cursor.read offset size
  Word.copy size bytes

def number (offset width : Nat) : Run Nat := do
  let bytes ← cursor.block offset width
  return Bytes.littleEndian bytes.val

def u8 (offset : Nat) : Run Nat := cursor.number offset 1

def u16 (offset : Nat) : Run Nat := cursor.number offset 2

def u32 (offset : Nat) : Run Nat := cursor.number offset 4

def u64 (offset : Nat) : Run Nat := cursor.number offset 8

def signature (offset : Nat) : Run Signature := Signature.mk <$> cursor.block offset 4

def guid (offset : Nat) : Run Guid := Guid.mk <$> cursor.block offset 16

def register (offset : Nat) : Run Register := do
  let fields ← cursor.window offset Register.size
  return {
    space := ← fields.u8 0
    bitWidth := ← fields.u8 1
    bitOffset := ← fields.u8 2
    accessSize := ← fields.u8 3
    address := ← fields.u64 4 }

def header : Run Header := do
  if cursor.limit < Header.size then
    (.error (.truncated 0 Header.size cursor.limit) : Except ReadError Header)
  else
    return {
      signature := ← cursor.signature 0
      length := ← cursor.u32 4
      revision := ← cursor.u8 8
      checksum := ← cursor.u8 9
      oemId := ← cursor.block 10 6
      oemTableId := ← cursor.block 16 8
      oemRevision := ← cursor.u32 24
      creatorId := ← cursor.block 28 4
      creatorRevision := ← cursor.u32 32 }

def text (offset length : Nat) : Except ReadError String := do
  let field ← cursor.read offset length
  if field.all Ascii.isAscii then .ok (Ascii.text (Ascii.unpadded field))
  else .error (.nonAscii offset length)

end Fields

section Equal

variable (cursor : Cursor)

open Run Audit

@[simp]
theorem block_eq (offset size : Nat) :
    cursor.block offset size = finished (liftM (cursor.reader.block offset size)) := by
  rw [block, read_eq]
  cases found : cursor.reader.read offset size with
  | error error =>
      rw [Reader.block_of_error found]
      rfl
  | ok bytes =>
      rw [Reader.block_of_read found]
      simp [Word.copy_fits (Reader.length_of_read found)]

@[simp]
theorem number_eq (offset width : Nat) :
    cursor.number offset width = finished (liftM (cursor.reader.number offset width)) := by
  rw [number, block_eq, Reader.number]
  cases found : cursor.reader.read offset width with
  | error error =>
      rw [Reader.block_of_error found]
      rfl
  | ok bytes =>
      rw [Reader.block_of_read found]
      rfl

@[simp]
theorem u8_eq (offset : Nat) : cursor.u8 offset = finished (liftM (cursor.reader.u8 offset)) :=
  cursor.number_eq offset 1

@[simp]
theorem u16_eq (offset : Nat) : cursor.u16 offset = finished (liftM (cursor.reader.u16 offset)) :=
  cursor.number_eq offset 2

@[simp]
theorem u32_eq (offset : Nat) : cursor.u32 offset = finished (liftM (cursor.reader.u32 offset)) :=
  cursor.number_eq offset 4

@[simp]
theorem u64_eq (offset : Nat) : cursor.u64 offset = finished (liftM (cursor.reader.u64 offset)) :=
  cursor.number_eq offset 8

@[simp]
theorem signature_eq (offset : Nat) :
    cursor.signature offset = finished (liftM (cursor.reader.signature offset)) := by
  rw [signature, block_eq, Reader.signature]
  cases cursor.reader.block offset 4 <;> rfl

@[simp]
theorem guid_eq (offset : Nat) :
    cursor.guid offset = finished (liftM (cursor.reader.guid offset)) := by
  rw [guid, block_eq, Reader.guid]
  cases cursor.reader.block offset 16 <;> rfl

@[simp]
theorem register_eq (offset : Nat) :
    cursor.register offset = finished (liftM (cursor.reader.register offset)) := by
  have inner := cursor.window_eq offset Register.size
  rw [register, Reader.register, ← inner]
  cases cursor.window offset Register.size with
  | error error => rfl
  | ok fields => simp [Except.map]

theorem header_eq : cursor.header = finished (liftM cursor.reader.header) := by
  rw [header, Reader.header, reader_limit]
  by_cases short : cursor.limit < Header.size
  · simp [short]
  · simp [short]

theorem text_eq (offset length : Nat) :
    cursor.text offset length = cursor.reader.text offset length := by
  rw [text, Reader.text, read_eq]

end Equal

end Cursor

end AcpiAudit
