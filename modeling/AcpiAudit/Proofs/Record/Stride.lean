import AcpiAudit.Proofs.Record.Tiling
import Mathlib.Algebra.Order.Floor.Div

set_option autoImplicit false

namespace AcpiAudit

-- Records at a constant distance. They may overlap, and there may be gaps between them.
structure Spaced (layout : Layout) (data : Bytes) (limit start first step : Nat)
    (records : List Record) : Prop where
  cut : ∀ record ∈ records, record.CutFrom layout data limit
  placed : ∀ position (inside : position < records.length),
    records[position].offset = start + position * step
  numbered : ∀ position (inside : position < records.length),
    records[position].index = first + position

section Spaced

variable {layout : Layout} {data : Bytes} {limit start first step : Nat}

theorem spaced_nil : Spaced layout data limit start first step [] := by
  constructor <;> simp

theorem spaced_cons {record : Record} {rest : List Record}
    (cut : record.CutFrom layout data limit) (offset : record.offset = start)
    (index : record.index = first)
    (tail : Spaced layout data limit (start + step) (first + 1) step rest) :
    Spaced layout data limit start first step (record :: rest) := by
  constructor
  · simpa using ⟨cut, tail.cut⟩
  · intro position inside
    cases position with
    | zero => simpa using offset
    | succ position =>
        have placed := tail.placed position (by simpa using inside)
        rw [List.getElem_cons_succ, placed, Nat.succ_mul]
        omega
  · intro position inside
    cases position with
    | zero => simpa using index
    | succ position =>
        have numbered := tail.numbered position (by simpa using inside)
        rw [List.getElem_cons_succ, numbered]
        omega

theorem spaced_count {records : List Record} (positive : 0 < step)
    (spaced : Spaced layout data limit start first step records) :
    records.length ≤ (limit - start) ⌈/⌉ step := by
  cases count : records.length with
  | zero => exact Nat.zero_le _
  | succ last =>
      have inside : last < records.length := by omega
      have cut := spaced.cut records[last] (List.getElem_mem inside)
      have header := layout.headerSize_pos
      have long := cut.header
      have within := cut.inside
      rw [spaced.placed last inside] at within
      have below : ¬ (limit - start) ≤ step * last := by
        rw [Nat.mul_comm]
        omega
      have more : ¬ (limit - start) ⌈/⌉ step ≤ last := mt (ceilDiv_le_iff_le_mul positive).mp below
      omega

end Spaced

structure Course.Strides (course : Course) (layout : Layout) (data : Bytes)
    (limit start first step : Nat) : Prop where
  spaced : Spaced layout data limit start first step course.records
  reached : ∀ stop, course.ending = .ok stop →
    limit ≤ start + course.records.length * step ∧
      stop = min (start + course.records.length * step) greatestOffset
  failed : ∀ error, course.ending = .error error →
    start + course.records.length * step < limit ∧
      Fault layout data limit (start + course.records.length * step) error

-- A step past the limit is the last one, and only this step can be cut down to the greatest offset.
theorem course_strides (layout : Layout) {data : Bytes} {limit step : Nat} (positive : 0 < step)
    (start first : Nat) (bounded : limit ≤ data.length) (told : limit ≤ greatestOffset)
    (placed : start ≤ greatestOffset) :
    (Course.ofRest layout (.stride step positive) start first
      ((data.take limit).drop start)).Strides layout data limit start first step := by
  by_cases done : limit ≤ start
  · rw [rest_nil data done, Course.of_rest_nil]
    refine ⟨spaced_nil, ?_, ?_⟩
    · rintro stop ⟨⟩
      simp [done, placed]
    · rintro error ⟨⟩
  · have nonempty : 0 < ((data.take limit).drop start).length := by
      rw [rest_length bounded]
      omega
    cases found : Record.ofBytes layout start first ((data.take limit).drop start) with
    | error error =>
        rw [Course.of_rest_fault nonempty found]
        refine ⟨spaced_nil, ?_, ?_⟩
        · rintro stop ⟨⟩
        · rintro other ⟨⟩
          have fault := fault_of_error bounded found
          simpa using And.intro (Nat.lt_of_not_le done) fault
    | ok record =>
        obtain ⟨cut, offset, index⟩ := of_bytes_cut bounded found
        have rest :
            ((data.take limit).drop start).drop step = (data.take limit).drop (start + step) :=
          List.drop_drop
        rw [Course.of_rest_record nonempty found]
        simp only [Advance.step, rest]
        by_cases last : limit ≤ start + step
        · rw [rest_nil data last, Course.of_rest_nil]
          refine ⟨spaced_cons cut offset index spaced_nil, ?_, ?_⟩
          · rintro stop ⟨⟩
            simpa using last
          · rintro error ⟨⟩
        · have next : min (start + step) greatestOffset = start + step := by omega
          have tail := course_strides layout positive (start + step) (first + 1) bounded told
            (by omega)
          rw [next]
          generalize Course.ofRest layout (.stride step positive) (start + step) (first + 1)
            ((data.take limit).drop (start + step)) = course at tail
          have reach : start + (course.records.length + 1) * step =
              start + step + course.records.length * step := by
            rw [Nat.succ_mul]
            omega
          refine ⟨spaced_cons cut offset index tail.spaced, ?_, ?_⟩
          · intro stop ended
            simpa only [List.length_cons, reach] using tail.reached stop ended
          · intro error ended
            simpa only [List.length_cons, reach] using tail.failed error ended
termination_by limit - start
decreasing_by omega

-- Walks whose steps are equal on all records that one of them shows are the same walk.
theorem course_of_equal_steps {layout : Layout} {one other : Advance} (offset index : Nat)
    (rest : Bytes)
    (equal : ∀ record ∈ (Course.ofRest layout one offset index rest).records,
      one.step record = other.step record) :
    Course.ofRest layout other offset index rest = Course.ofRest layout one offset index rest := by
  by_cases empty : rest.length = 0
  · rw [List.eq_nil_of_length_eq_zero empty, Course.of_rest_nil, Course.of_rest_nil]
  · have nonempty : 0 < rest.length := Nat.pos_of_ne_zero empty
    cases found : Record.ofBytes layout offset index rest with
    | error error =>
        rw [Course.of_rest_fault nonempty found, Course.of_rest_fault nonempty found]
    | ok record =>
        have positive := one.step_pos (Record.length_pos_of_ofBytes found)
        rw [Course.of_rest_record nonempty found] at equal
        have here : one.step record = other.step record := equal record List.mem_cons_self
        have tail := course_of_equal_steps
          (min (offset + one.step record) greatestOffset) (index + 1)
          (rest.drop (one.step record))
          (fun later member => equal later (List.mem_cons_of_mem record member))
        rw [Course.of_rest_record nonempty found, Course.of_rest_record nonempty found, ← here,
          tail]
termination_by rest.length
decreasing_by
  rw [List.length_drop]
  omega

theorem course_of_steps_alike (reader : Reader) (layout : Layout) (start : Nat)
    (one other : Advance)
    (equal : ∀ record ∈ (reader.course layout one start).records,
      one.step record = other.step record) :
    reader.course layout other start = reader.course layout one start :=
  course_of_equal_steps start 0 (reader.bytes.drop start) equal

theorem of_bytes_renumber {layout : Layout} {offset index : Nat} {rest : Bytes} {record : Record}
    (found : Record.ofBytes layout offset index rest = .ok record) (other : Nat) :
    Record.ofBytes layout offset other rest = .ok { record with index := other } := by
  obtain ⟨header, within, rfl⟩ := of_bytes_ok_iff.mp found
  exact of_bytes_ok_iff.mpr ⟨header, within, rfl⟩

section Walk

variable {limit : Nat} {data : Bytes} {layout : Layout}

theorem record_at_up_to (limit : Nat) (data : Bytes) (layout : Layout) (offset : Nat) :
    (Reader.upTo limit data).recordAt layout offset =
      Record.ofBytes layout offset 0 ((data.take (min limit data.length)).drop offset) := by
  rw [Reader.recordAt, Reader.upTo, take_limit]

theorem record_at_of_cut {record : Record}
    (cut : record.CutFrom layout data (min limit data.length)) :
    (Reader.upTo limit data).recordAt layout record.offset = .ok { record with index := 0 } := by
  rw [record_at_up_to]
  exact of_bytes_renumber (of_bytes_of_cut (Nat.min_le_right _ _) cut) 0

theorem record_at_of_fault {offset : Nat} {error : WalkError}
    (fault : Fault layout data (min limit data.length) offset error) :
    (Reader.upTo limit data).recordAt layout offset = .error error := by
  rw [record_at_up_to]
  exact (of_bytes_error_iff (Nat.min_le_right _ _)).mpr fault

end Walk

section Strides

variable {layout : Layout} {data : Bytes} {limit start step : Nat} {course : Course}

theorem reader_course_strides (layout : Layout) (positive : 0 < step) (limit : Nat)
    (small : data.length < 2 ^ 63) (placed : start ≤ greatestOffset) :
    ((Reader.upTo limit data).course layout (.stride step positive) start).Strides layout data
      (min limit data.length) start 0 step := by
  have told : min limit data.length ≤ greatestOffset := by
    simp only [greatestOffset]
    omega
  have strides := course_strides layout positive start 0 (Nat.min_le_right _ _) told placed
  simpa only [Reader.course, Reader.upTo, take_limit data limit] using strides

theorem strides_whole {extent : Extent} (positive : 0 < step)
    (strides : course.Strides layout data limit start 0 step)
    (ended : course.outcome = .ok extent) :
    extent.records = course.records.length ∧ extent.records = (limit - start) ⌈/⌉ step ∧
      extent.endOffset = min (start + extent.records * step) greatestOffset := by
  obtain ⟨reached, count⟩ := (course_outcome_ok_iff course extent).mp ended
  obtain ⟨covered, stop⟩ := strides.reached _ reached
  have most := spaced_count positive strides.spaced
  have least : (limit - start) ⌈/⌉ step ≤ course.records.length := by
    rw [ceilDiv_le_iff_le_mul positive, Nat.mul_comm]
    omega
  rw [count]
  exact ⟨rfl, Nat.le_antisymm most least, stop⟩

theorem strides_found (strides : course.Strides layout data (min limit data.length) start 0 step)
    {position : Nat} (inside : position < course.records.length) :
    ∃ record, (Reader.upTo limit data).recordAt layout (start + position * step) = .ok record := by
  have cut := strides.spaced.cut course.records[position] (List.getElem_mem inside)
  have located := record_at_of_cut cut
  rw [strides.spaced.placed position inside] at located
  exact ⟨_, located⟩

theorem strides_broken {error : WalkError}
    (strides : course.Strides layout data (min limit data.length) start 0 step)
    (ended : course.outcome = .error error) :
    start + course.records.length * step < min limit data.length ∧
      (Reader.upTo limit data).recordAt layout (start + course.records.length * step) =
        .error error := by
  obtain ⟨below, fault⟩ := strides.failed error ((course_outcome_error_iff course error).mp ended)
  exact ⟨below, record_at_of_fault fault⟩

theorem strides_ok_iff (positive : 0 < step)
    (strides : course.Strides layout data (min limit data.length) start 0 step) :
    (∃ extent, course.outcome = .ok extent) ↔
      ∀ position, start + position * step < min limit data.length →
        ∃ record, (Reader.upTo limit data).recordAt layout (start + position * step) =
          .ok record := by
  constructor
  · rintro ⟨extent, ended⟩ position below
    obtain ⟨count, ceiling, -⟩ := strides_whole positive strides ended
    have inside : position < (min limit data.length - start) ⌈/⌉ step := by
      rw [← Nat.not_le, ceilDiv_le_iff_le_mul positive, Nat.mul_comm]
      omega
    exact strides_found strides (by omega)
  · intro all
    cases ended : course.outcome with
    | ok extent => exact ⟨extent, rfl⟩
    | error error =>
        obtain ⟨below, failed⟩ := strides_broken strides ended
        obtain ⟨record, located⟩ := all course.records.length below
        rw [failed] at located
        cases located

end Strides

theorem walk_keeps_its_stride {m : Type → Type} [Monad m] [LawfulMonad m] [LogWriter m]
    (look : Record → m Unit) (layout : Layout) (data : Bytes) (limit start step : Nat)
    (positive : 0 < step) (small : data.length < 2 ^ 63) (placed : start ≤ greatestOffset) :
    let bound := min limit data.length
    let reader := Reader.upTo limit data
    let course := reader.course layout (.stride step positive) start
    let declared := reader.course layout .declared start
    let found (position : Nat) : Prop :=
      ∃ record, reader.recordAt layout (start + position * step) = .ok record
    course.visit (fun record => do look record; return .proceed) =
        (do course.records.forM (Course.present look); course.close) ∧
      Spaced layout data bound start 0 step course.records ∧
      ((∃ extent, course.outcome = .ok extent) ↔
        ∀ position, start + position * step < bound → found position) ∧
      (∀ extent, course.outcome = .ok extent →
        extent.records = course.records.length ∧
          extent.records = (bound - start) ⌈/⌉ step ∧
          extent.endOffset = min (start + extent.records * step) greatestOffset) ∧
      (∀ error, course.outcome = .error error →
        let stop := start + course.records.length * step
        stop < bound ∧ reader.recordAt layout stop = .error error ∧
          ∀ position < course.records.length, found position) ∧
      ((∀ record ∈ course.records, record.length = step) ∨
        (∀ record ∈ declared.records, record.length = step) → declared = course) := by
  intro bound reader course declared found
  have strides : course.Strides layout data bound start 0 step :=
    reader_course_strides layout positive limit small placed
  refine ⟨Course.visit_proceed course look, strides.spaced, strides_ok_iff positive strides,
    fun extent ended => strides_whole positive strides ended, ?_, ?_⟩
  · intro error ended
    obtain ⟨below, failed⟩ := strides_broken strides ended
    exact ⟨below, failed, fun position inside => strides_found strides inside⟩
  · rintro (lengths | lengths)
    · exact course_of_steps_alike reader layout start (.stride step positive) .declared
        fun record member => (lengths record member).symm
    · exact
        (course_of_steps_alike reader layout start .declared (.stride step positive) lengths).symm

-- The first record leaves a gap, and the second one reaches over the offset of the third, where
-- there is none. A step past the greatest offset ends there. Records of the length of a step are tiles.
theorem walk_keeps_its_stride_overlapping :
    let broken := Reader.upTo 8 [1, 2, 0, 2, 4, 0, 3, 0]
    let course := broken.course .kind8Length8 (.stride 3 (by decide)) 0
    let single := Reader.upTo 3 [9, 1, 2]
    let far := single.course .kind8Length8 (.stride greatestOffset (by decide)) 1
    let even := Reader.upTo 4 [1, 2, 2, 2]
    let tiles := even.course .kind8Length8 (.stride 2 (by decide)) 0
    1 ≤ greatestOffset ∧
      Spaced .kind8Length8 [1, 2, 0, 2, 4, 0, 3, 0] 8 0 0 3 course.records ∧
      course.outcome = .error (.zeroLength 6) ∧
      broken.recordAt .kind8Length8 6 = .error (.zeroLength 6) ∧
      (∃ record, broken.recordAt .kind8Length8 3 = .ok record) ∧
      far.outcome = .ok ⟨1, greatestOffset⟩ ∧ 1 = (3 - 1) ⌈/⌉ greatestOffset ∧
      greatestOffset = min (1 + 1 * greatestOffset) greatestOffset ∧
      (∀ record ∈ tiles.records, record.length = 2) ∧
      even.course .kind8Length8 .declared 0 = tiles := by
  have placed : 1 ≤ greatestOffset := by decide
  obtain ⟨-, spaced, -, -, failed, -⟩ := walk_keeps_its_stride (m := Logged) (fun _ => pure ())
    .kind8Length8 [1, 2, 0, 2, 4, 0, 3, 0] 8 0 3 (by decide) (by decide) (Nat.zero_le _)
  have fault : ((Reader.upTo 8 [1, 2, 0, 2, 4, 0, 3, 0]).course .kind8Length8
      (.stride 3 (by decide)) 0).outcome = .error (.zeroLength 6) := by cbv
  have count : ((Reader.upTo 8 [1, 2, 0, 2, 4, 0, 3, 0]).course .kind8Length8
      (.stride 3 (by decide)) 0).records.length = 2 := by cbv
  obtain ⟨-, stopped, dispatched⟩ := failed _ fault
  rw [count] at stopped dispatched
  obtain ⟨-, -, -, whole, -, -⟩ := walk_keeps_its_stride (m := Logged) (fun _ => pure ())
    .kind8Length8 [9, 1, 2] 3 1 greatestOffset (by decide) (by decide) placed
  have ended : ((Reader.upTo 3 [9, 1, 2]).course .kind8Length8
      (.stride greatestOffset (by decide)) 1).outcome = .ok ⟨1, greatestOffset⟩ := by cbv
  obtain ⟨-, ceiling, stop⟩ := whole _ ended
  obtain ⟨-, -, -, -, -, alike⟩ := walk_keeps_its_stride (m := Logged) (fun _ => pure ())
    .kind8Length8 [1, 2, 2, 2] 4 0 2 (by decide) (by decide) (Nat.zero_le _)
  have records : ((Reader.upTo 4 [1, 2, 2, 2]).course .kind8Length8
      (.stride 2 (by decide)) 0).records = [⟨1, 0, 0, [1, 2]⟩, ⟨2, 2, 1, [2, 2]⟩] := by cbv
  have lengths : ∀ record ∈ ((Reader.upTo 4 [1, 2, 2, 2]).course .kind8Length8
      (.stride 2 (by decide)) 0).records, record.length = 2 := by
    rw [records]
    decide
  exact ⟨placed, spaced, fault, stopped, dispatched 1 (by decide), ended, ceiling, stop, lengths,
    alike (.inl lengths)⟩

end AcpiAudit
