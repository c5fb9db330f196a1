import AcpiAudit.Proofs.Record.Course
import AcpiAudit.Proofs.Record.Cut
import AcpiAudit.Record.Stream

set_option autoImplicit false

namespace AcpiAudit

-- The looks at single offsets do not count records.
def Reader.Shows (reader : Reader) (layout : Layout) : Except WalkError Record → Prop
  | .ok record => reader.recordAt layout record.offset = .ok { record with index := 0 }
  | .error error => reader.recordAt layout error.offset = .error error

theorem shows_of_bytes {reader : Reader} {layout : Layout} {offset index : Nat} :
    reader.Shows layout (Record.ofBytes layout offset index (reader.bytes.drop offset)) := by
  have whole : reader.bytes.take reader.limit = reader.bytes := List.take_length
  cases found : Record.ofBytes layout offset index (reader.bytes.drop offset) with
  | ok record =>
      rw [← whole] at found
      obtain ⟨cut, rfl, -⟩ := of_bytes_cut (Nat.le_refl reader.limit) found
      obtain ⟨kind, length, header, inside, bytes⟩ := cut
      exact (reader.record_at_ok_iff layout _ _).mpr
        ⟨⟨kind, length, header, inside, bytes⟩, rfl, rfl⟩
  | error error =>
      rw [← whole] at found
      have fault := fault_of_error (Nat.le_refl reader.limit) found
      have place : error.offset = offset := by cases fault <;> rfl
      rw [Reader.Shows, place]
      exact (reader.record_at_error_iff layout offset error).mpr fault

namespace RecordStream

inductive Yields : RecordStream → List (Except WalkError Record) → RecordStream → Prop where
  | nothing {stream last : RecordStream} (ended : stream.next.value = (none, last)) :
      Yields stream [] last
  | item {stream next last : RecordStream} {item : Except WalkError Record}
      {items : List (Except WalkError Record)} (given : stream.next.value = (some item, next))
      (onward : Yields next items last) : Yields stream (item :: items) last

def front (stream : RecordStream) : Except WalkError Record :=
  Record.ofBytes stream.layout stream.offset stream.index (stream.reader.bytes.drop stream.offset)

def past (stream : RecordStream) (record : Record) : RecordStream :=
  { stream with
    offset := min (stream.offset + stream.advance.step record) greatestOffset
    index := stream.index + 1 }

def stopped (stream : RecordStream) : RecordStream := { stream with finished := true }

variable {stream : RecordStream}

theorem next_stopped (finished : stream.finished = true) :
    stream.next.value = (none, stream) := by
  rw [next, if_pos finished]
  rfl

theorem next_done (running : stream.finished = false)
    (done : stream.reader.limit ≤ stream.offset) :
    stream.next.value = (none, stream.stopped) := by
  rw [next, if_neg (Bool.not_eq_true _ ▸ running), if_pos done]
  rfl

theorem next_record {record : Record} (running : stream.finished = false)
    (more : stream.offset < stream.reader.limit) (found : stream.front = .ok record) :
    stream.next.value = (some (.ok record), stream.past record) := by
  rw [front] at found
  rw [next, if_neg (Bool.not_eq_true _ ▸ running), if_neg (Nat.not_le.mpr more)]
  simp only [found]
  rfl

theorem next_error {error : WalkError} (running : stream.finished = false)
    (more : stream.offset < stream.reader.limit) (failed : stream.front = .error error) :
    stream.next.value = (some (.error error), stream.stopped) := by
  rw [front] at failed
  rw [next, if_neg (Bool.not_eq_true _ ▸ running), if_neg (Nat.not_le.mpr more)]
  simp only [failed]
  rfl

theorem next_shows {next : RecordStream} {item : Except WalkError Record}
    (given : stream.next.value = (some item, next)) :
    stream.reader.Shows stream.layout item ∧ next.reader = stream.reader ∧
      next.layout = stream.layout := by
  have shows : stream.reader.Shows stream.layout stream.front := shows_of_bytes
  cases running : stream.finished with
  | true =>
      rw [next_stopped running] at given
      cases given
  | false =>
      by_cases done : stream.reader.limit ≤ stream.offset
      · rw [next_done running done] at given
        cases given
      · have more : stream.offset < stream.reader.limit := Nat.lt_of_not_le done
        cases found : stream.front with
        | ok record =>
            rw [next_record running more found] at given
            cases given
            exact ⟨found ▸ shows, rfl, rfl⟩
        | error error =>
            rw [next_error running more found] at given
            cases given
            exact ⟨found ▸ shows, rfl, rfl⟩

theorem yields_shows {items : List (Except WalkError Record)} {last : RecordStream}
    (yields : stream.Yields items last) :
    ∀ item ∈ items, stream.reader.Shows stream.layout item := by
  induction yields with
  | nothing ended => simp
  | item given onward ih =>
      obtain ⟨shows, reader, layout⟩ := next_shows given
      rw [reader, layout] at ih
      intro item member
      cases List.mem_cons.mp member with
      | inl same => exact same ▸ shows
      | inr later => exact ih item later

end RecordStream

def gained (items : List (Except WalkError Record)) : List Record :=
  items.filterMap Except.toOption

def breach? (items : List (Except WalkError Record)) : Option WalkError :=
  items.findSome? fun item =>
    match item with
    | .ok _ => none
    | .error error => some error

namespace Course

def failure? (course : Course) : Option WalkError :=
  match course.ending with
  | .ok _ => none
  | .error error => some error

def items (course : Course) : List (Except WalkError Record) :=
  course.records.map .ok ++ course.failure?.toList.map .error

theorem gained_items (course : Course) : gained course.items = course.records := by
  have none_from_error : gained (course.failure?.toList.map .error) = [] := by
    cases course.failure? <;> rfl
  rw [items, gained, List.filterMap_append, ← gained, ← gained, none_from_error, List.append_nil]
  induction course.records with
  | nil => rfl
  | cons record rest ih => exact congrArg (record :: ·) ih

theorem breach_items (course : Course) : breach? course.items = course.failure? := by
  have none_from_records : breach? (course.records.map .ok) = none := by
    induction course.records with
    | nil => rfl
    | cons record rest ih => exact ih
  rw [items, breach?, List.findSome?_append, ← breach?, ← breach?, none_from_records,
    Option.none_or]
  cases course.failure? <;> rfl

def ofStream (stream : RecordStream) : Course :=
  .ofRest stream.layout stream.advance stream.offset stream.index
    (stream.reader.bytes.drop stream.offset)

section OfStream

variable {stream : RecordStream}

theorem of_stream_done (done : stream.reader.limit ≤ stream.offset) :
    ofStream stream = ⟨[], .ok stream.offset⟩ := by
  have empty : stream.reader.bytes.drop stream.offset = [] := List.drop_eq_nil_of_le done
  rw [ofStream, empty, of_rest_nil]

theorem stream_rest_nonempty (more : stream.offset < stream.reader.limit) :
    0 < (stream.reader.bytes.drop stream.offset).length := by
  rw [List.length_drop]
  exact Nat.sub_pos_of_lt more

theorem of_stream_fault {error : WalkError} (more : stream.offset < stream.reader.limit)
    (failed : stream.front = .error error) : ofStream stream = ⟨[], .error error⟩ :=
  of_rest_fault (stream_rest_nonempty more) failed

theorem of_stream_record {record : Record}
    (told : stream.reader.limit ≤ greatestOffset) (more : stream.offset < stream.reader.limit)
    (found : stream.front = .ok record) :
    let rest := ofStream (stream.past record)
    ofStream stream = ⟨record :: rest.records, rest.ending⟩ := by
  intro rest
  have size : stream.reader.bytes.length = stream.reader.limit := rfl
  have onward : (stream.reader.bytes.drop stream.offset).drop (stream.advance.step record) =
      stream.reader.bytes.drop (min (stream.offset + stream.advance.step record)
        greatestOffset) := by
    rw [List.drop_drop]
    by_cases within : stream.offset + stream.advance.step record ≤ greatestOffset
    · rw [Nat.min_eq_left within]
    · rw [List.drop_eq_nil_of_le (by omega), List.drop_eq_nil_of_le (by omega)]
  rw [ofStream, of_rest_record (stream_rest_nonempty more) found, onward]
  rfl

end OfStream

end Course

namespace RecordStream

-- A step past the last offset there is leaves nothing in front, as every step does that leads past
-- the limit.
theorem yields_course (stream : RecordStream) (running : stream.finished = false)
    (told : stream.reader.limit ≤ greatestOffset) :
    ∃ last, stream.Yields (Course.ofStream stream).items last ∧
      ∀ stop, (Course.ofStream stream).ending = .ok stop → last.offset = stop := by
  by_cases done : stream.reader.limit ≤ stream.offset
  · rw [Course.of_stream_done done]
    refine ⟨stream.stopped, .nothing (next_done running done), ?_⟩
    intro stop ended
    cases ended
    rfl
  · have more : stream.offset < stream.reader.limit := Nat.lt_of_not_le done
    cases found : stream.front with
    | error error =>
        rw [Course.of_stream_fault more found]
        refine ⟨stream.stopped, ?_, ?_⟩
        · exact .item (next_error running more found) (.nothing (next_stopped rfl))
        · intro stop ended
          cases ended
    | ok record =>
        have positive := stream.advance.step_pos (Record.length_pos_of_ofBytes found)
        have further : stream.offset < (stream.past record).offset := by
          simp only [past]
          omega
        obtain ⟨last, yields, reached⟩ := yields_course (stream.past record) running told
        rw [Course.of_stream_record told more found]
        exact ⟨last, .item (next_record running more found) yields, reached⟩
termination_by stream.reader.limit - stream.offset
decreasing_by
  simp only [past] at further ⊢
  omega

end RecordStream

end AcpiAudit
