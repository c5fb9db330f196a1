import AcpiAudit.Proofs.Machine.Cursor
import AcpiAudit.Proofs.Machine.Recorder

set_option autoImplicit false

namespace AcpiAudit

structure SubRecord where
  kind : Nat
  offset : Nat
  length : Nat
  index : Nat
  bytes : Bytes
  whole : bytes.length = length
  nonempty : 0 < length
  addressable : bytes.length < 2 ^ 63

namespace SubRecord

def record (sub : SubRecord) : Record := ⟨sub.kind, sub.offset, sub.index, sub.bytes⟩

def cursor (sub : SubRecord) : Cursor := .ofBytes sub.bytes sub.addressable

@[simp]
theorem record_kind (sub : SubRecord) : sub.record.kind = sub.kind := rfl

@[simp]
theorem record_offset (sub : SubRecord) : sub.record.offset = sub.offset := rfl

@[simp]
theorem record_index (sub : SubRecord) : sub.record.index = sub.index := rfl

@[simp]
theorem record_length (sub : SubRecord) : sub.record.length = sub.length := sub.whole

@[simp]
theorem cursor_reader (sub : SubRecord) : sub.cursor.reader = sub.record.reader :=
  Cursor.of_bytes_reader sub.bytes sub.addressable

end SubRecord

def Placement.runStop (place : Placement) : Checked Nat :=
  Word.add addressBits place.offset place.width.bytes

def Layout.runHeaderSize (layout : Layout) : Checked Nat := do
  let kind ← layout.kind.runStop
  let length ← layout.length.runStop
  return max kind length

theorem Layout.run_header_size {layout : Layout} (told : layout.headerSize < 2 ^ addressBits) :
    layout.runHeaderSize = .ok layout.headerSize := by
  have stops : max layout.kind.stop layout.length.stop < 2 ^ addressBits := told
  have kind : layout.kind.offset + layout.kind.width.bytes < 2 ^ addressBits :=
    Nat.lt_of_le_of_lt (Nat.le_max_left _ _) stops
  have length : layout.length.offset + layout.length.width.bytes < 2 ^ addressBits :=
    Nat.lt_of_le_of_lt (Nat.le_max_right _ _) stops
  simp only [runHeaderSize, Placement.runStop, Word.add_fits kind, Word.add_fits length, bind,
    Except.bind]
  rfl

namespace Cursor

open Run Audit

variable {σ : Type}

def field (cursor : Cursor) (place : Placement) : Run Nat :=
  cursor.number place.offset place.width.bytes

def cut (cursor : Cursor) (headerSize offset index kind length : Nat) :
    Run (Except WalkError SubRecord) :=
  if zero : length = 0 then return .error (.zeroLength offset)
  else if length < headerSize then return .error (.tooShort offset length headerSize)
  else
    match found : cursor.read offset length with
    | .error _ => return .error (.outOfRange offset length cursor.limit)
    | .ok bytes => do
      have whole := Reader.length_of_read (cursor.read_eq offset length ▸ found)
      let sub : SubRecord := ⟨kind, offset, length, index, bytes, whole, Nat.pos_of_ne_zero zero,
        read_addressable found⟩
      LogWriter.write sub.record.entry
      return .ok sub

def peek (cursor : Cursor) (layout : Layout) (offset index : Nat) :
    Run (Except WalkError SubRecord) := do
  let headerSize ← layout.runHeaderSize
  match cursor.window offset headerSize with
  | .error source => return .error (.headerTruncated offset source)
  | .ok header =>
    match ← attempt (header.field layout.kind) with
    | .error source => return .error (.headerTruncated offset source)
    | .ok kind =>
      match ← attempt (header.field layout.length) with
      | .error source => return .error (.headerTruncated offset source)
      | .ok length => cursor.cut headerSize offset index kind length

def walk (cursor : Cursor) (layout : Layout) (visit : SubRecord → Recorder σ Decision)
    (offset index records : Nat) : Recorder σ (Except WalkError Extent) := do
  if _done : cursor.limit ≤ offset then
    LogWriter.write (Course.doneEntry offset index)
    return .ok ⟨records, offset⟩
  else
    match ← cursor.peek layout offset index with
    | .error error => return .error error
    | .ok sub =>
      let next := Word.saturate addressBits (offset + sub.length)
      let index ← Word.add addressBits index 1
      let records ← Word.add addressBits records 1
      match ← visit sub with
      | .proceed => cursor.walk layout visit next index records
      | .stop reason =>
        LogWriter.write (Course.stoppedEntry sub.offset reason)
        return .error (.stopped sub.offset reason)
termination_by cursor.limit - offset
decreasing_by
  have bounded := cursor.bounded
  have addressable := cursor.addressable
  have nonempty := sub.nonempty
  simp only [Word.saturate, addressBits]
  omega

section Peek

variable {cursor : Cursor} {layout : Layout} {offset index : Nat}

theorem rest_length (cursor : Cursor) (offset : Nat) :
    (cursor.reader.bytes.drop offset).length = cursor.limit - offset := by
  rw [List.length_drop, ← cursor.reader_limit]
  rfl

theorem window_of_fits {length : Nat} (fits : offset + length ≤ cursor.limit) :
    ∃ header, cursor.window offset length = .ok header ∧
      header.reader = ⟨cursor.reader.bytes.slice offset length, 0⟩ := by
  have inside : offset + length ≤ cursor.reader.limit := cursor.reader_limit ▸ fits
  exact of_mapped ((cursor.window_eq offset length).trans (Reader.window_of_fits inside))

theorem read_beyond {count : Nat} (beyond : ¬ offset + count ≤ cursor.limit) :
    cursor.read offset count = .error (cursor.truncated offset count) := by
  rw [read, stop_eq, if_neg beyond]
  rfl

theorem window_beyond {length : Nat} (beyond : ¬ offset + length ≤ cursor.limit) :
    cursor.window offset length = .error (cursor.truncated offset length) := by
  have failed := read_beyond beyond
  unfold window
  split
  · next bytes found =>
      rw [failed] at found
      cases found
  · next error found =>
      rw [failed] at found
      cases found
      rfl

theorem field_of_header {header : Cursor} {place : Placement}
    (shown : header.reader = ⟨cursor.reader.bytes.slice offset layout.headerSize, 0⟩)
    (fits : offset + layout.headerSize ≤ cursor.limit) (inside : place.stop ≤ layout.headerSize) :
    header.field place = finished (pure (place.value (cursor.reader.bytes.drop offset))) := by
  have size : (cursor.reader.bytes.slice offset layout.headerSize).length = layout.headerSize :=
    Bytes.length_slice_of_fits (by rwa [← Reader.limit, reader_limit])
  have room : place.offset + place.width.bytes ≤ header.reader.limit := by
    rw [shown, Reader.limit, size]
    exact inside
  have value : header.reader.bytes.number place.offset place.width.bytes =
      place.value (cursor.reader.bytes.drop offset) := by
    rw [shown, Placement.value, Bytes.number_drop, Bytes.number, Bytes.slice_slice inside]
    rfl
  rw [field, number_eq, Reader.number_of_fits room, value]
  rfl

theorem cut_finishes (fits : offset + layout.headerSize ≤ cursor.limit) :
    let rest := cursor.reader.bytes.drop offset
    match Record.ofBytes layout offset index rest with
    | .error error => cursor.cut layout.headerSize offset index (layout.kind.value rest)
        (layout.length.value rest) = finished (pure (.error error))
    | .ok record => ∃ sub : SubRecord, sub.record = record ∧
        cursor.cut layout.headerSize offset index (layout.kind.value rest)
          (layout.length.value rest) =
          finished (do LogWriter.write record.entry; return .ok sub) := by
  intro rest
  have available : rest.length = cursor.limit - offset := cursor.rest_length offset
  have header : ¬ rest.length < layout.headerSize := by omega
  by_cases zero : layout.length.value rest = 0
  · have failed : Record.ofBytes layout offset index rest = .error (.zeroLength offset) := by
      simp [Record.ofBytes, header, zero]
    rw [failed]
    simp [cut, zero]
  · by_cases short : layout.length.value rest < layout.headerSize
    · have failed : Record.ofBytes layout offset index rest =
          .error (.tooShort offset (layout.length.value rest) layout.headerSize) := by
        simp [Record.ofBytes, header, zero, short]
      rw [failed]
      simp [cut, zero, short]
    · by_cases beyond : rest.length < layout.length.value rest
      · have failed : Record.ofBytes layout offset index rest =
            .error (.outOfRange offset (layout.length.value rest) (offset + rest.length)) := by
          simp [Record.ofBytes, header, zero, short, beyond]
        have past : ¬ offset + layout.length.value rest ≤ cursor.limit := by omega
        have limit : offset + rest.length = cursor.limit := by omega
        rw [failed, limit]
        simp only [cut, dif_neg zero, if_neg short]
        split
        · rfl
        · next bytes found =>
            rw [read_beyond past] at found
            cases found
      · have cutOut : Record.ofBytes layout offset index rest = .ok ⟨layout.kind.value rest, offset,
            index, rest.take (layout.length.value rest)⟩ := by
          simp [Record.ofBytes, header, zero, short, beyond]
        have inside : offset + layout.length.value rest ≤ cursor.reader.limit := by
          rw [reader_limit]
          omega
        have found : cursor.read offset (layout.length.value rest) =
            .ok (rest.take (layout.length.value rest)) := by
          rw [read_eq, Reader.read_of_fits inside]
          rfl
        rw [cutOut]
        simp only [cut, dif_neg zero, if_neg short]
        split
        · next error failed =>
            rw [found] at failed
            cases failed
        · next bytes same =>
            have taken := same
            rw [found] at taken
            cases taken
            exact ⟨_, rfl, rfl⟩

theorem peek_finishes (cursor : Cursor) (offset index : Nat)
    (told : layout.headerSize < 2 ^ addressBits) :
    match Record.ofBytes layout offset index (cursor.reader.bytes.drop offset) with
    | .error error => cursor.peek layout offset index = finished (pure (.error error))
    | .ok record => ∃ sub : SubRecord, sub.record = record ∧
        cursor.peek layout offset index =
          finished (do LogWriter.write record.entry; return .ok sub) := by
  have available := cursor.rest_length offset
  by_cases fits : offset + layout.headerSize ≤ cursor.limit
  · obtain ⟨header, opened, shown⟩ := window_of_fits fits
    have kind := field_of_header shown fits (Nat.le_max_left layout.kind.stop layout.length.stop)
    have length := field_of_header shown fits (Nat.le_max_right layout.kind.stop layout.length.stop)
    have reached : cursor.peek layout offset index =
        cursor.cut layout.headerSize offset index
          (layout.kind.value (cursor.reader.bytes.drop offset))
          (layout.length.value (cursor.reader.bytes.drop offset)) := by
      simp only [peek, Layout.run_header_size told, run_checked, pure_then, opened, kind, length,
        attempt_pure]
    rw [reached]
    exact cut_finishes fits
  · have positive := layout.headerSize_pos
    have header : cursor.limit - offset < layout.headerSize := by omega
    have failed : Record.ofBytes layout offset index (cursor.reader.bytes.drop offset) =
        .error (.headerTruncated offset
          (.truncated offset layout.headerSize (cursor.limit - offset))) := by
      simp only [Record.ofBytes, available, if_pos header]
    rw [failed]
    simp [peek, Layout.run_header_size told, window_beyond fits, truncated]

end Peek

section Walk

variable {cursor : Cursor} {layout : Layout}

theorem cut_inside {sub : SubRecord} {offset index : Nat}
    (found : Record.ofBytes layout offset index (cursor.reader.bytes.drop offset) =
      .ok sub.record) : sub.offset = offset ∧ offset + sub.length ≤ cursor.limit := by
  obtain ⟨cut, place, -⟩ := of_bytes_cut cursor.bounded found
  have inside := cut.inside
  rw [place, sub.record_length] at inside
  exact ⟨place, inside⟩

def eachRecord (cursor : Cursor) (layout : Layout) (start : Nat)
    (run : SubRecord → Recorder σ Unit) : Recorder σ (Except WalkError Extent) :=
  cursor.walk layout (fun sub => do
    Recorder.contain (run sub)
    return .proceed) start 0 0

section Each

open Recorder

variable {visit : SubRecord → Recorder σ Decision} {run : SubRecord → Recorder σ Unit}
  {audit : Record → Audit Unit} {gather : σ → Record → σ}

-- Every record takes up at least one byte, so the counters are at most the offset.
theorem walk_adds (told : layout.headerSize < 2 ^ addressBits)
    (visits : ∀ sub, visit sub = adding (do Audit.contain (audit sub.record); return .proceed)
      fun side => gather side sub.record)
    (offset index : Nat) (counted : index ≤ offset) :
    let course := Course.ofRest layout .declared offset index (cursor.reader.bytes.drop offset)
    cursor.walk layout visit offset index index =
      adding (Course.visitFrom (fun record => do Audit.contain (audit record); return .proceed)
        course.ending index course.records) fun side => course.records.foldl gather side := by
  intro course
  have available := cursor.rest_length offset
  rw [walk]
  by_cases done : cursor.limit ≤ offset
  · have empty : cursor.reader.bytes.drop offset = [] := by
      apply List.eq_nil_of_length_eq_zero
      omega
    have ended : course = ⟨[], .ok offset⟩ := by
      simp only [course, empty, Course.of_rest_nil]
    rw [dif_pos done, ended]
    simp [Course.visitFrom]
    rfl
  · have nonempty : 0 < (cursor.reader.bytes.drop offset).length := by omega
    have peeked := cursor.peek_finishes offset index told
    cases found : Record.ofBytes layout offset index (cursor.reader.bytes.drop offset) with
    | error error =>
        have ended : course = ⟨[], .error error⟩ := Course.of_rest_fault nonempty found
        rw [found] at peeked
        rw [dif_neg done, peeked, run_adds, ended]
        simp [Course.visitFrom]
        rfl
    | ok record =>
        rw [found] at peeked
        obtain ⟨sub, rfl, peeked⟩ := peeked
        obtain ⟨place, inside⟩ := cut_inside found
        have bounded := cursor.bounded
        have addressable := cursor.addressable
        have positive := sub.nonempty
        have counter : index + 1 < 2 ^ addressBits := by
          simp only [addressBits]
          omega
        have step : Word.saturate addressBits (offset + sub.length) = offset + sub.length :=
          Word.saturate_fits (by simp only [addressBits]; omega)
        have unsaturated : min (offset + sub.length) greatestOffset = offset + sub.length := by
          simp only [greatestOffset]
          omega
        let rest := Course.ofRest layout .declared (offset + sub.length) (index + 1)
          (cursor.reader.bytes.drop (offset + sub.length))
        have first : course = ⟨sub.record :: rest.records, rest.ending⟩ := by
          rw [show course = _ from Course.of_rest_record nonempty found]
          simp only [Advance.step, sub.record_length, unsaturated, List.drop_drop, rest]
        have others := walk_adds told visits (offset + sub.length) (index + 1) (by omega)
        have visited : (Audit.contain (audit sub.record) >>= fun _ => pure Decision.proceed).result
            = .ok .proceed := by
          rw [Audit.result_bind, (gives_contain _).result]
          rfl
        rw [dif_neg done, peeked, run_adds, Recorder.log_then, first, Course.visitFrom]
        refine bind_adds (fun side => rest.records.foldl gather (gather side sub.record))
          (fun _ _ => ⟨?_, rfl⟩) fun _ failed => by cases failed
        simp only [Word.add_fits counter, checked_adds, Recorder.pure_then, visits, step]
        refine bind_adds (fun side => rest.records.foldl gather side)
          (fun decision reached => ⟨?_, rfl⟩) fun _ failed => ?_
        · rw [visited] at reached
          cases reached
          exact others
        · rw [visited] at failed
          cases failed
termination_by cursor.limit - offset
decreasing_by omega

theorem each_record_adds (gather : σ → Record → σ)
    (told : layout.headerSize < 2 ^ addressBits) (start : Nat)
    (adds : ∀ sub, run sub = adding (audit sub.record) fun side => gather side sub.record) :
    let course := cursor.reader.course layout .declared start
    cursor.eachRecord layout start run =
      adding (Audit.eachRecord course audit) fun side => course.records.foldl gather side :=
  walk_adds told (fun sub => by simp [adds sub]) start 0 (Nat.zero_le start)

theorem each_record_adding (told : layout.headerSize < 2 ^ addressBits) (start : Nat)
    (adds : ∀ sub, run sub = adding (audit sub.record) id) :
    cursor.eachRecord layout start run =
      adding (Audit.eachRecord (cursor.reader.course layout .declared start) audit) id := by
  have idle (records : List Record) (side : σ) :
      records.foldl (fun side _ => side) side = side := by
    induction records with
    | nil => rfl
    | cons record rest ih => exact ih
  rw [each_record_adds (fun side _ => side) told start adds]
  congr 1
  funext side
  exact idle _ side

theorem walk_concludes (told : layout.headerSize < 2 ^ addressBits) (start : Nat)
    (adds : ∀ sub, run sub = adding (audit sub.record) id)
    {next : Except WalkError Extent → Recorder σ Unit} {rest : Except WalkError Extent → Audit Unit}
    (ends : ∀ ending, next ending = concluding (rest ending)) :
    (cursor.eachRecord layout start run >>= next) =
      concluding (Audit.eachRecord (cursor.reader.course layout .declared start) audit >>=
        rest) := by
  rw [each_record_adding told start adds]
  exact bind_concluding (gives_each_record _ audit).result (ends _)

end Each

theorem peek_locates (told : layout.headerSize < 2 ^ addressBits) (offset : Nat) :
    ∃ found : Audit (Except WalkError SubRecord),
      cursor.peek layout offset 0 = finished found ∧
        Except.map SubRecord.record <$> found = cursor.reader.locate layout offset := by
  have peeked := cursor.peek_finishes offset 0 told
  unfold Reader.locate Reader.recordAt
  cases found : Record.ofBytes layout offset 0 (cursor.reader.bytes.drop offset) with
  | error error =>
      rw [found] at peeked
      exact ⟨_, peeked, rfl⟩
  | ok record =>
      rw [found] at peeked
      obtain ⟨sub, rfl, peeked⟩ := peeked
      exact ⟨_, peeked, rfl⟩

section Look

open Recorder

theorem peek_adds (told : layout.headerSize < 2 ^ addressBits) (offset : Nat) {β : Type}
    {next : Except WalkError SubRecord → Recorder σ β} {rest : Except WalkError Record → Audit β}
    (failed : ∀ error, next (.error error) = adding (rest (.error error)) id)
    (located : ∀ sub, next (.ok sub) = adding (rest (.ok sub.record)) id) :
    (liftM (cursor.peek layout offset 0) >>= next) =
      adding (cursor.reader.locate layout offset >>= rest) id := by
  obtain ⟨found, peeked, same⟩ := cursor.peek_locates told offset
  rw [peeked, run_adds, ← same, bind_map_left]
  refine bind_adding fun answer _ => ?_
  cases answer with
  | error error => exact failed error
  | ok sub => exact located sub

end Look

end Walk

end Cursor

end AcpiAudit
