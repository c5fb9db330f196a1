import AcpiAudit.Proofs.Record.Visitor

set_option autoImplicit false

namespace AcpiAudit

def ReadError.moved (distance : Nat) : ReadError → ReadError
  | .truncated offset needed available => .truncated (distance + offset) needed available
  | .nonAscii offset length => .nonAscii (distance + offset) length

def Record.moved (distance : Nat) (record : Record) : Record :=
  { record with offset := distance + record.offset }

-- The lengths that an error tells are the same wherever the record stands; a limit is an offset.
def WalkError.moved (distance : Nat) : WalkError → WalkError
  | .headerTruncated offset source => .headerTruncated (distance + offset) (source.moved distance)
  | .zeroLength offset => .zeroLength (distance + offset)
  | .tooShort offset length minimum => .tooShort (distance + offset) length minimum
  | .outOfRange offset length limit => .outOfRange (distance + offset) length (distance + limit)
  | .stopped offset reason => .stopped (distance + offset) reason

def Extent.moved (distance : Nat) (extent : Extent) : Extent :=
  { extent with endOffset := distance + extent.endOffset }

def relocate {α : Type} (distance : Nat) (move : α → α) : Except WalkError α → Except WalkError α
  | .ok value => .ok (move value)
  | .error error => .error (error.moved distance)

def Course.moved (distance : Nat) (course : Course) : Course :=
  ⟨course.records.map (Record.moved distance), relocate distance (distance + ·) course.ending⟩

section Records

variable {layout : Layout} {offset index : Nat} {rest : Bytes}

theorem length_le_of_of_bytes {record : Record}
    (found : Record.ofBytes layout offset index rest = .ok record) :
    record.length ≤ rest.length := by
  obtain ⟨-, -, rfl⟩ := of_bytes_ok_iff.mp found
  exact List.length_take_le' _ _

theorem of_bytes_moved (layout : Layout) (distance offset index : Nat) (rest : Bytes) :
    Record.ofBytes layout (distance + offset) index rest =
      relocate distance (Record.moved distance) (Record.ofBytes layout offset index rest) := by
  simp only [Record.ofBytes, Nat.add_assoc]
  repeat' split
  all_goals rfl

-- As long as the walk stays below the greatest offset, it never matters how far in it began.
theorem of_rest_moved (layout : Layout) (distance offset index : Nat) (rest : Bytes)
    (told : 0 < rest.length → distance + offset + rest.length ≤ greatestOffset) :
    Course.ofRest layout .declared (distance + offset) index rest =
      (Course.ofRest layout .declared offset index rest).moved distance := by
  by_cases empty : rest.length = 0
  · rw [List.eq_nil_of_length_eq_zero empty, Course.of_rest_nil, Course.of_rest_nil]
    rfl
  · have nonempty : 0 < rest.length := Nat.pos_of_ne_zero empty
    have moved := of_bytes_moved layout distance offset index rest
    cases found : Record.ofBytes layout offset index rest with
    | error error =>
        rw [found] at moved
        rw [Course.of_rest_fault nonempty found, Course.of_rest_fault nonempty moved]
        rfl
    | ok record =>
        rw [found] at moved
        have positive := Record.length_pos_of_ofBytes found
        have within := length_le_of_of_bytes found
        have bound := told nonempty
        have near : min (offset + record.length) greatestOffset = offset + record.length := by omega
        have far : min (distance + offset + record.length) greatestOffset =
            distance + (offset + record.length) := by omega
        have onward : 0 < (rest.drop record.length).length →
            distance + (offset + record.length) + (rest.drop record.length).length ≤
              greatestOffset := by
          rw [List.length_drop]
          omega
        have tail := of_rest_moved layout distance (offset + record.length) (index + 1)
          (rest.drop record.length) onward
        have same : (record.moved distance).length = record.length := rfl
        rw [Course.of_rest_record nonempty found, Course.of_rest_record nonempty moved]
        simp only [Advance.step, same, near, far, tail]
        rfl
termination_by rest.length
decreasing_by
  rw [List.length_drop]
  omega

end Records

namespace Visitor

variable {σ : Type}

def shifted (visit : Visitor σ) (distance : Nat) : Visitor σ :=
  fun record => visit (record.moved distance)

theorem hands_shifted {visit : Visitor σ} {distance : Nat} {state last : σ}
    {records handed : List Record} {stop : Option (Record × String)}
    (hands : Hands (visit.shifted distance) state records handed stop last) :
    Hands visit state (records.map (Record.moved distance)) (handed.map (Record.moved distance))
      (stop.map fun stopped => (stopped.1.moved distance, stopped.2)) last := by
  induction hands with
  | nothing => exact .nothing
  | stops decided => exact .stops decided
  | proceeds decided onward ih => exact .proceeds decided ih

theorem answer_moved (distance : Nat) (stop : Option (Record × String))
    (ending : Except WalkError Extent) :
    answer (stop.map fun stopped => (stopped.1.moved distance, stopped.2))
        (relocate distance (Extent.moved distance) ending) =
      relocate distance (Extent.moved distance) (answer stop ending) := by
  cases stop <;> rfl

end Visitor

theorem outcome_moved (distance : Nat) (course : Course) :
    (course.moved distance).outcome =
      relocate distance (Extent.moved distance) course.outcome := by
  cases ended : course.ending <;>
    simp [Course.outcome, Course.moved, ended, relocate, Extent.moved, Except.map]

theorem visit_moved {σ : Type} (distance : Nat) (course : Course) (visit : Visitor σ) (state : σ) :
    (((course.moved distance).visit visit).run state).value =
      (relocate distance (Extent.moved distance)
          ((course.visit (visit.shifted distance)).run state).value.1,
        ((course.visit (visit.shifted distance)).run state).value.2) := by
  obtain ⟨handed, stop, last, hands⟩ := (visit.shifted distance).hands_some state course.records
  rw [Visitor.visit_hands hands, Visitor.visit_hands (Visitor.hands_shifted hands), outcome_moved,
    Visitor.answer_moved]

def Reader.Rebases (inner outer : Reader) (distance : Nat) : Prop :=
  ∀ (layout : Layout) (start : Nat),
    let nested := inner.course layout .declared start
    let whole := outer.course layout .declared (distance + start)
    whole.records = nested.records.map (Record.moved distance) ∧
      whole.outcome = relocate distance (Extent.moved distance) nested.outcome ∧
      ∀ (σ : Type) (visit : Visitor σ) (state : σ),
        let result := ((nested.visit (visit.shifted distance)).run state).value
        ((whole.visit visit).run state).value =
          (relocate distance (Extent.moved distance) result.1, result.2)

theorem window_rebases {reader inner : Reader} {data : Bytes} {limit offset length : Nat}
    (small : data.length < 2 ^ 63) (shown : reader.bytes = data.take limit)
    (opened : reader.window offset length = .ok inner) :
    inner.Rebases (Reader.upTo (offset + length) data) offset := by
  obtain ⟨fits, rfl⟩ := (reader.window_ok_iff inner offset length).mp opened
  rw [Reader.limit, shown, List.length_take] at fits
  intro layout start nested whole
  have same : ((data.take (offset + length)).drop (offset + start)) =
      (reader.bytes.slice offset length).drop start := by
    have piece : reader.bytes.slice offset length = data.slice offset length := by
      rw [shown, Bytes.slice_take (by omega)]
    rw [piece, Bytes.slice, ← List.drop_drop, List.drop_take, Nat.add_sub_cancel_left]
  have told : 0 < ((reader.bytes.slice offset length).drop start).length →
      offset + start + ((reader.bytes.slice offset length).drop start).length ≤
        greatestOffset := by
    rw [List.length_drop, Bytes.length_slice, greatestOffset]
    omega
  have moved : whole = nested.moved offset := by
    simp only [whole, nested, Reader.course, Reader.upTo, same]
    exact of_rest_moved layout offset start 0 _ told
  rw [moved]
  exact ⟨rfl, outcome_moved offset nested, fun σ visit state =>
    visit_moved offset nested visit state⟩

theorem course_shows {reader : Reader} {layout : Layout} {advance : Advance} {start : Nat}
    {record : Record} (told : reader.limit ≤ greatestOffset)
    (member : record ∈ (reader.course layout advance start).records) :
    reader.Shows layout (.ok record) := by
  let stream := reader.stream layout advance start
  obtain ⟨last, yields, -⟩ := stream.yields_course rfl told
  have item : .ok record ∈ (Course.ofStream stream).items :=
    List.mem_append_left _ (List.mem_map_of_mem member)
  exact RecordStream.yields_shows yields _ item

theorem window_of_record {reader : Reader} {layout : Layout} {advance : Advance} {start : Nat}
    {record : Record} (told : reader.limit ≤ greatestOffset)
    (member : record ∈ (reader.course layout advance start).records) :
    reader.window record.offset record.length = .ok record.reader := by
  obtain ⟨cut, -, -⟩ := (reader.record_at_ok_iff layout _ _).mp (course_shows told member)
  have bytes : record.bytes = reader.bytes.slice record.offset record.length := cut.bytes
  refine (reader.window_ok_iff _ _ _).mpr ⟨cut.inside, ?_⟩
  rw [← bytes]
  rfl

theorem nested_walk_is_outer_walk_rebased (data : Bytes) (limit : Nat)
    (small : data.length < 2 ^ 63) :
    (∀ (position offset length : Nat) (inner : Reader),
      Reader.window ⟨data.take limit, position⟩ offset length = .ok inner →
        inner.Rebases (Reader.upTo (offset + length) data) offset) ∧
    ∀ (layout : Layout) (advance : Advance) (start : Nat),
      ∀ record ∈ ((Reader.upTo limit data).course layout advance start).records,
        record.reader.Rebases (Reader.upTo (record.offset + record.length) data)
          record.offset := by
  refine ⟨fun position offset length inner opened => window_rebases small rfl opened, ?_⟩
  intro layout advance start record member
  have told : (Reader.upTo limit data).limit ≤ greatestOffset := by
    simp only [Reader.limit, Reader.upTo, List.length_take, greatestOffset]
    omega
  exact window_rebases small rfl (window_of_record told member)

def holder : Record := ⟨7, 1, 0, [7, 6, 1, 2, 5, 9]⟩

def holderData : Bytes := [0xAA, 7, 6, 1, 2, 5, 9, 0xBB]

-- The second record inside the holder is said to be longer than what is left of the holder.
theorem nested_walk_is_outer_walk_rebased_long_inside :
    let nested := holder.reader.course .kind8Length8 .declared 2
    let whole := (Reader.upTo 7 holderData).course .kind8Length8 .declared 3
    holderData.length < 2 ^ 63 ∧
      Reader.window ⟨holderData.take 8, 5⟩ 1 6 = .ok holder.reader ∧
      holder ∈ ((Reader.upTo 8 holderData).course .kind8Length8 .declared 1).records ∧
      nested.records = [⟨1, 2, 0, [1, 2]⟩] ∧ nested.outcome = .error (.outOfRange 4 9 6) ∧
      whole.records = [⟨1, 3, 0, [1, 2]⟩] ∧ whole.outcome = .error (.outOfRange 5 9 7) ∧
      holder.reader.Rebases (Reader.upTo 7 holderData) 1 := by
  have small : holderData.length < 2 ^ 63 := by decide
  have opened : Reader.window ⟨holderData.take 8, 5⟩ 1 6 = .ok holder.reader := rfl
  have outer : ((Reader.upTo 8 holderData).course .kind8Length8 .declared 1).records =
      [holder] := by cbv
  have member : holder ∈ ((Reader.upTo 8 holderData).course .kind8Length8 .declared 1).records := by
    simp [outer]
  have inside : (holder.reader.course .kind8Length8 .declared 2).records =
      [⟨1, 2, 0, [1, 2]⟩] := by cbv
  have fails : (holder.reader.course .kind8Length8 .declared 2).outcome =
      .error (.outOfRange 4 9 6) := by cbv
  obtain ⟨windows, dispatched⟩ := nested_walk_is_outer_walk_rebased holderData 8 small
  obtain ⟨records, outcome, -⟩ := windows 5 1 6 holder.reader opened .kind8Length8 2
  rw [inside] at records
  rw [fails] at outcome
  exact ⟨small, opened, member, inside, fails, records, outcome,
    dispatched .kind8Length8 .declared 1 holder member⟩

end AcpiAudit
