import AcpiAudit.Proofs.Machine.Walk

set_option autoImplicit false

namespace AcpiAudit

section Fault

variable {layout : Layout} {data : Bytes} {limit offset : Nat}

theorem truncated_fault_iff (place : Nat) (source : ReadError) :
    Fault layout data limit offset (.headerTruncated place source) ↔
      limit < offset + layout.headerSize ∧ place = offset ∧
        source = .truncated offset layout.headerSize (limit - offset) := by
  have positive := layout.headerSize_pos
  constructor
  · intro fault
    cases fault with
    | headerTruncated cutOff => exact ⟨by omega, rfl, rfl⟩
  · rintro ⟨beyond, rfl, rfl⟩
    exact .headerTruncated (by omega)

theorem zero_fault_iff (place : Nat) :
    Fault layout data limit offset (.zeroLength place) ↔
      offset + layout.headerSize ≤ limit ∧ layout.lengthAt data offset = 0 ∧ place = offset := by
  have positive := layout.headerSize_pos
  constructor
  · intro fault
    cases fault with
    | zeroLength header zero => exact ⟨by omega, zero, rfl⟩
  · rintro ⟨fits, zero, rfl⟩
    exact .zeroLength (by omega) zero

theorem short_fault_iff (place length minimum : Nat) :
    Fault layout data limit offset (.tooShort place length minimum) ↔
      offset + layout.headerSize ≤ limit ∧ 0 < layout.lengthAt data offset ∧
        layout.lengthAt data offset < layout.headerSize ∧ place = offset ∧
        length = layout.lengthAt data offset ∧ minimum = layout.headerSize := by
  have positive := layout.headerSize_pos
  constructor
  · intro fault
    cases fault with
    | tooShort header nonzero short => exact ⟨by omega, nonzero, short, rfl, rfl, rfl⟩
  · rintro ⟨fits, nonzero, short, rfl, rfl, rfl⟩
    exact .tooShort (by omega) nonzero short

theorem beyond_fault_iff (place length bound : Nat) :
    Fault layout data limit offset (.outOfRange place length bound) ↔
      offset + layout.headerSize ≤ limit ∧ layout.headerSize ≤ layout.lengthAt data offset ∧
        limit < offset + layout.lengthAt data offset ∧ place = offset ∧
        length = layout.lengthAt data offset ∧ bound = limit := by
  have positive := layout.headerSize_pos
  constructor
  · intro fault
    cases fault with
    | outOfRange header long beyond => exact ⟨by omega, long, beyond, rfl, rfl, rfl⟩
  · rintro ⟨fits, long, beyond, rfl, rfl, rfl⟩
    exact .outOfRange (by omega) long beyond

theorem cut_at_iff (bounded : limit ≤ data.length) (record : Record) :
    (record.CutFrom layout data limit ∧ record.offset = offset ∧ record.index = 0) ↔
      offset + layout.headerSize ≤ limit ∧
        layout.headerSize ≤ layout.lengthAt data offset ∧
        offset + layout.lengthAt data offset ≤ limit ∧
        record = ⟨layout.kindAt data offset, offset, 0,
          data.slice offset (layout.lengthAt data offset)⟩ := by
  constructor
  · rintro ⟨⟨kind, length, header, inside, bytes⟩, rfl, index⟩
    rw [length] at header inside bytes
    refine ⟨by omega, header, inside, ?_⟩
    rw [← kind, ← bytes, ← index]
  · rintro ⟨fits, header, inside, rfl⟩
    have whole : (data.slice offset (layout.lengthAt data offset)).length =
        layout.lengthAt data offset := Bytes.length_slice_of_fits (by omega)
    refine ⟨⟨rfl, whole, ?_, ?_, ?_⟩, rfl, rfl⟩
    · rwa [Record.length, whole]
    · rwa [Record.length, whole]
    · rw [Record.length, whole]

end Fault

-- The answers to a look at an offset, where `kind` and `length` are the numbers that the header
-- would hold there. No visitor takes part, so nothing is stopped.
structure Lookup (data : Bytes) (limit offset size kind length : Nat)
    (answer : Except WalkError Record) : Prop where
  truncated (place : Nat) (source : ReadError) :
    answer = .error (.headerTruncated place source) ↔
      limit < offset + size ∧ place = offset ∧ source = .truncated offset size (limit - offset)
  zeroLength (place : Nat) :
    answer = .error (.zeroLength place) ↔ offset + size ≤ limit ∧ length = 0 ∧ place = offset
  tooShort (place told minimum : Nat) :
    answer = .error (.tooShort place told minimum) ↔
      offset + size ≤ limit ∧ 0 < length ∧ length < size ∧
        place = offset ∧ told = length ∧ minimum = size
  outOfRange (place told bound : Nat) :
    answer = .error (.outOfRange place told bound) ↔
      offset + size ≤ limit ∧ size ≤ length ∧ limit < offset + length ∧
        place = offset ∧ told = length ∧ bound = limit
  found (record : Record) :
    answer = .ok record ↔
      offset + size ≤ limit ∧ size ≤ length ∧ offset + length ≤ limit ∧
        record = ⟨kind, offset, 0, data.slice offset length⟩
  unstopped (place : Nat) (reason : String) : answer ≠ .error (.stopped place reason)

namespace Cursor

open Run Audit

variable {layout : Layout}

def recordAt (cursor : Cursor) (layout : Layout) (offset : Nat) :
    Run (Except WalkError Record) := do
  return (← cursor.peek layout offset 0).map SubRecord.record

theorem record_at_finishes (cursor : Cursor) (told : layout.headerSize < 2 ^ addressBits)
    (offset : Nat) :
    cursor.recordAt layout offset = finished (cursor.reader.locate layout offset) := by
  obtain ⟨found, peeked, located⟩ := cursor.peek_locates told offset
  rw [recordAt, peeked, ← located]
  exact finished_bind found _

theorem lookup_of_cursor (cursor : Cursor) (layout : Layout) (offset : Nat) :
    Lookup cursor.data cursor.limit offset layout.headerSize (layout.kindAt cursor.data offset)
      (layout.lengthAt cursor.data offset) (cursor.reader.recordAt layout offset) := by
  have faulty (error : WalkError) : cursor.reader.recordAt layout offset = .error error ↔
      Fault layout cursor.data cursor.limit offset error := of_bytes_error_iff cursor.bounded
  refine ⟨?_, ?_, ?_, ?_, ?_, ?_⟩
  · intro place source
    rw [faulty, truncated_fault_iff]
  · intro place
    rw [faulty, zero_fault_iff]
  · intro place told minimum
    rw [faulty, short_fault_iff]
  · intro place told bound
    rw [faulty, beyond_fault_iff]
  · intro record
    rw [← cut_at_iff cursor.bounded]
    constructor
    · exact of_bytes_cut cursor.bounded
    · rintro ⟨cut, rfl, first⟩
      rw [← of_bytes_of_cut cursor.bounded cut, first]
      rfl
  · intro place reason
    rw [Ne, faulty]
    intro fault
    cases fault

theorem header_fields {cursor header : Cursor} {offset : Nat}
    (opened : cursor.window offset layout.headerSize = .ok header) :
    header.field layout.kind = finished (pure (layout.kindAt cursor.data offset)) ∧
      header.field layout.length = finished (pure (layout.lengthAt cursor.data offset)) := by
  have window := cursor.window_eq offset layout.headerSize
  rw [opened] at window
  obtain ⟨fits, shown⟩ := (cursor.reader.window_ok_iff _ _ _).mp window.symm
  rw [reader_limit] at fits
  have positive := layout.headerSize_pos
  have room : layout.headerSize ≤ cursor.limit - offset := by omega
  constructor
  · rw [field_of_header shown.symm fits (Nat.le_max_left _ _), ← kind_of_rest room]
    rfl
  · rw [field_of_header shown.symm fits (Nat.le_max_right _ _), ← length_of_rest room]
    rfl

end Cursor

theorem record_lookup_has_five_answers (cursor : Cursor) (layout : Layout) (offset : Nat)
    (told : layout.headerSize < 2 ^ addressBits) :
    let kind := cursor.data.number (offset + layout.kind.offset) layout.kind.width.bytes
    let length := cursor.data.number (offset + layout.length.offset) layout.length.width.bytes
    let answer := cursor.reader.recordAt layout offset
    cursor.recordAt layout offset =
        .finished ⟨[], (answer.toOption.map Record.entry).toList, .ok answer⟩ ∧
      Lookup cursor.data cursor.limit offset layout.headerSize kind length answer ∧
      ∀ header, cursor.window offset layout.headerSize = .ok header →
        header.field layout.kind = .finished (pure kind) ∧
          header.field layout.length = .finished (pure length) := by
  intro kind length answer
  refine ⟨?_, cursor.lookup_of_cursor layout offset, fun _ => Cursor.header_fields⟩
  rw [cursor.record_at_finishes told, Reader.locate]
  cases found : cursor.reader.recordAt layout offset with
  | error error => simp only [answer, found]; rfl
  | ok record => simp only [answer, found]; rfl

-- The two fields share a byte, and the last byte of the buffer is behind the limit.
theorem record_lookup_has_five_answers_shared_byte :
    let cursor := Cursor.upTo 8 [6, 0, 3, 0, 0, 7, 1, 9, 9] (by decide)
    let layout : Layout := ⟨⟨1, .four⟩, ⟨0, .two⟩⟩
    let record : Record := ⟨768, 0, 0, [6, 0, 3, 0, 0, 7]⟩
    layout.headerSize < 2 ^ addressBits ∧
      cursor.recordAt layout 0 = .finished ⟨[], [record.entry], .ok (.ok record)⟩ ∧
      cursor.recordAt layout 1 = .finished ⟨[], [], .ok (.error (.outOfRange 1 768 8))⟩ ∧
      cursor.recordAt layout 2 = .finished ⟨[], [], .ok (.error (.tooShort 2 3 5))⟩ ∧
      cursor.recordAt layout 3 = .finished ⟨[], [], .ok (.error (.zeroLength 3))⟩ ∧
      cursor.recordAt layout 4 =
        .finished ⟨[], [], .ok (.error (.headerTruncated 4 (.truncated 4 5 4)))⟩ ∧
      cursor.recordAt layout greatestOffset = .finished ⟨[], [],
        .ok (.error (.headerTruncated greatestOffset (.truncated greatestOffset 5 0)))⟩ := by
  intro cursor layout record
  have told : layout.headerSize < 2 ^ addressBits := by decide
  have look (offset : Nat) := record_lookup_has_five_answers cursor layout offset told
  have found : cursor.reader.recordAt layout 0 = .ok record :=
    ((look 0).2.1.found record).mpr (by decide)
  have beyond := ((look 1).2.1.outOfRange 1 768 8).mpr (by decide)
  have short := ((look 2).2.1.tooShort 2 3 5).mpr (by decide)
  have zero := ((look 3).2.1.zeroLength 3).mpr (by decide)
  have cut := ((look 4).2.1.truncated 4 (.truncated 4 5 4)).mpr (by decide)
  have past := ((look greatestOffset).2.1.truncated greatestOffset
    (.truncated greatestOffset 5 0)).mpr (by decide)
  have shown (offset : Nat) {answer : Except WalkError Record}
      (looked : cursor.reader.recordAt layout offset = answer) : cursor.recordAt layout offset =
        .finished ⟨[], (answer.toOption.map Record.entry).toList, .ok answer⟩ := by
    rw [(look offset).1, looked]
  exact ⟨told, shown 0 found, shown 1 beyond, shown 2 short, shown 3 zero, shown 4 cut,
    shown greatestOffset past⟩

end AcpiAudit
