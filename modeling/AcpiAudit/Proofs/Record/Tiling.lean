import AcpiAudit.Proofs.Record.Course
import AcpiAudit.Proofs.Record.Cut

set_option autoImplicit false

namespace AcpiAudit

structure Tiling (layout : Layout) (data : Bytes) (limit start first : Nat)
    (records : List Record) : Prop where
  cut : ∀ record ∈ records, record.CutFrom layout data limit
  numbered : ∀ position (inside : position < records.length),
    records[position].index = first + position
  starting : ∀ record, records.head? = some record → record.offset = start
  adjoining : ∀ position (inside : position + 1 < records.length),
    records[position + 1].offset = records[position].offset + records[position].length

def span (records : List Record) : Nat := (records.map Record.length).sum

variable {layout : Layout} {data : Bytes} {limit start first : Nat}

theorem tiling_nil : Tiling layout data limit start first [] := by
  constructor <;> simp

theorem tiling_cons {record : Record} {rest : List Record}
    (cut : record.CutFrom layout data limit) (offset : record.offset = start)
    (index : record.index = first)
    (tail : Tiling layout data limit (start + record.length) (first + 1) rest) :
    Tiling layout data limit start first (record :: rest) := by
  constructor
  · simpa using ⟨cut, tail.cut⟩
  · intro position inside
    cases position with
    | zero => simpa using index
    | succ position =>
        have numbered := tail.numbered position (by simpa using inside)
        simp only [List.getElem_cons_succ, numbered]
        omega
  · simpa using offset
  · intro position inside
    cases position with
    | zero =>
        cases rest with
        | nil => simp at inside
        | cons next others => simpa [offset] using tail.starting next rfl
    | succ position => simpa using tail.adjoining position (by simpa using inside)

theorem tiling_uncons {record : Record} {rest : List Record}
    (tiling : Tiling layout data limit start first (record :: rest)) :
    record.CutFrom layout data limit ∧ record.offset = start ∧ record.index = first ∧
      Tiling layout data limit (start + record.length) (first + 1) rest := by
  have offset : record.offset = start := tiling.starting record rfl
  refine ⟨tiling.cut record (by simp), offset, ?_, ?_, ?_, ?_, ?_⟩
  · exact tiling.numbered 0 (by simp)
  · intro other member
    exact tiling.cut other (by simp [member])
  · intro position inside
    have numbered := tiling.numbered (position + 1) (by simpa using inside)
    simp only [List.getElem_cons_succ] at numbered
    omega
  · intro other head
    cases rest with
    | nil => simp at head
    | cons next others =>
        have same : next = other := by simpa using head
        have adjoining := tiling.adjoining 0 (by simp)
        simpa [same, offset] using adjoining
  · intro position inside
    exact tiling.adjoining (position + 1) (by simpa using inside)

theorem tiling_append {front back : List Record}
    (tiling : Tiling layout data limit start first (front ++ back)) :
    Tiling layout data limit (start + span front) (first + front.length) back := by
  induction front generalizing start first with
  | nil => exact tiling
  | cons record rest ih =>
      obtain ⟨-, -, -, tail⟩ := tiling_uncons tiling
      have onward := ih tail
      rw [Nat.add_assoc, Nat.add_assoc, Nat.add_comm 1] at onward
      exact onward

theorem tiling_starts {records : List Record}
    (tiling : Tiling layout data limit start first records) :
    ∀ record ∈ records, start ≤ record.offset := by
  induction records generalizing start first with
  | nil => simp
  | cons record rest ih =>
      obtain ⟨-, offset, -, tail⟩ := tiling_uncons tiling
      intro other member
      cases List.mem_cons.mp member with
      | inl same => rw [same, offset]
      | inr member => exact Nat.le_trans (Nat.le_add_right _ _) (ih tail other member)

structure Course.Follows (course : Course) (layout : Layout) (data : Bytes)
    (limit start first : Nat) : Prop where
  tiling : Tiling layout data limit start first course.records
  reached : ∀ stop, course.ending = .ok stop →
    limit ≤ start + span course.records ∧ stop = max start limit
  failed : ∀ error, course.ending = .error error →
    start + span course.records < limit ∧
      Fault layout data limit (start + span course.records) error

-- The offsets of a course stay below the greatest one that can be told, so none of them is cut
-- down to it and each record starts where the one before it ends.
theorem course_follows (layout : Layout) {data : Bytes} {limit : Nat} (start first : Nat)
    (bounded : limit ≤ data.length) (told : limit ≤ greatestOffset) :
    (Course.ofRest layout .declared start first ((data.take limit).drop start)).Follows
      layout data limit start first := by
  by_cases done : limit ≤ start
  · rw [rest_nil data done, Course.of_rest_nil]
    refine ⟨tiling_nil, ?_, ?_⟩
    · rintro stop ⟨⟩
      exact ⟨by simpa [span] using done, (Nat.max_eq_left done).symm⟩
    · rintro error ⟨⟩
  · have nonempty : 0 < ((data.take limit).drop start).length := by
      rw [rest_length bounded]
      omega
    cases found : Record.ofBytes layout start first ((data.take limit).drop start) with
    | error error =>
        rw [Course.of_rest_fault nonempty found]
        refine ⟨tiling_nil, ?_, ?_⟩
        · rintro stop ⟨⟩
        · rintro other ⟨⟩
          exact ⟨by simpa [span] using done, fault_of_error bounded found⟩
    | ok record =>
        obtain ⟨cut, offset, index⟩ := of_bytes_cut bounded found
        have positive := Record.length_pos_of_ofBytes found
        have inside := cut.inside
        have next : min (start + record.length) greatestOffset = start + record.length := by omega
        have tail := course_follows layout (start + record.length) (first + 1) bounded told
        have rest : ((data.take limit).drop start).drop record.length =
            (data.take limit).drop (start + record.length) := List.drop_drop
        rw [Course.of_rest_record nonempty found]
        simp only [Advance.step, next, rest]
        generalize Course.ofRest layout .declared (start + record.length) (first + 1)
          ((data.take limit).drop (start + record.length)) = course at tail
        have reach : start + span (record :: course.records) =
            start + record.length + span course.records := by
          simp [span, Nat.add_assoc]
        refine ⟨tiling_cons cut offset index tail.tiling, ?_, ?_⟩
        · intro stop ended
          have reached := tail.reached stop ended
          simp only [reach]
          omega
        · intro error ended
          simpa only [reach] using tail.failed error ended
termination_by limit - start
decreasing_by omega

theorem course_of_tiling {tiles : List Record} (bounded : limit ≤ data.length)
    (told : limit ≤ greatestOffset) (tiling : Tiling layout data limit start first tiles)
    (whole : limit ≤ start + span tiles) :
    Course.ofRest layout .declared start first ((data.take limit).drop start) =
      ⟨tiles, .ok (max start limit)⟩ := by
  induction tiles generalizing start first with
  | nil =>
      have done : limit ≤ start := by simpa [span] using whole
      rw [rest_nil data done, Course.of_rest_nil, Nat.max_eq_left done]
  | cons record rest ih =>
      obtain ⟨cut, rfl, rfl, tail⟩ := tiling_uncons tiling
      have positive := layout.headerSize_pos
      have long := cut.header
      have inside := cut.inside
      have nonempty : 0 < ((data.take limit).drop record.offset).length := by
        rw [rest_length bounded]
        omega
      have next : min (record.offset + record.length) greatestOffset =
          record.offset + record.length := by omega
      have onward : ((data.take limit).drop record.offset).drop record.length =
          (data.take limit).drop (record.offset + record.length) := List.drop_drop
      have covered : limit ≤ record.offset + record.length + span rest := by
        simp only [span, List.map_cons, List.sum_cons] at whole ⊢
        omega
      have furthest : max (record.offset + record.length) limit = max record.offset limit := by
        omega
      rw [Course.of_rest_record nonempty (of_bytes_of_cut bounded cut)]
      simp only [Advance.step, next, onward, ih tail covered, furthest]

theorem course_outcome_ok_iff (course : Course) (extent : Extent) :
    course.outcome = .ok extent ↔
      course.ending = .ok extent.endOffset ∧ extent.records = course.records.length := by
  cases extent with
  | mk records endOffset =>
      cases ended : course.ending with
      | error error => simp [Course.outcome, ended, Except.map]
      | ok stop => simp [Course.outcome, ended, Except.map, and_comm, eq_comm]

theorem course_outcome_error_iff (course : Course) (error : WalkError) :
    course.outcome = .error error ↔ course.ending = .error error := by
  cases ended : course.ending <;> simp [Course.outcome, ended, Except.map]

theorem take_limit (data : Bytes) (limit : Nat) :
    data.take limit = data.take (min limit data.length) := by
  rw [List.take_eq_take_iff]
  omega

theorem reader_course_follows {reader : Reader} (layout : Layout) (start : Nat)
    (told : reader.limit ≤ greatestOffset) :
    (reader.course layout .declared start).Follows layout reader.bytes reader.limit start 0 := by
  have follows := course_follows layout start 0 (Nat.le_refl reader.bytes.length) told
  rwa [List.take_length] at follows

theorem walk_follows_tiling {m : Type → Type} [Monad m] [LawfulMonad m] [LogWriter m]
    (look : Record → m Unit) (layout : Layout) (data : Bytes) (limit start : Nat)
    (small : data.length < 2 ^ 63) :
    let bound := min limit data.length
    let course := (Reader.upTo limit data).course layout .declared start
    let stop := start + span course.records
    course.visit (fun record => do look record; return .proceed) =
        (do course.records.forM (Course.present look); course.close) ∧
      Tiling layout data bound start 0 course.records ∧
      ((∃ extent, course.outcome = .ok extent) ↔
        ∃ tiles, Tiling layout data bound start 0 tiles ∧ bound ≤ start + span tiles) ∧
      (∀ extent, course.outcome = .ok extent →
        bound ≤ stop ∧ extent = ⟨course.records.length, max start bound⟩) ∧
      (∀ error, course.outcome = .error error →
        stop < bound ∧ Fault layout data bound stop error) := by
  intro bound course stop
  have bounded : bound ≤ data.length := Nat.min_le_right _ _
  have told : bound ≤ greatestOffset := by
    simp only [greatestOffset]
    omega
  have seen : course = Course.ofRest layout .declared start 0 ((data.take bound).drop start) := by
    simp only [course, bound, Reader.course, Reader.upTo, take_limit data limit]
  have follows := course_follows layout start 0 bounded told
  rw [← seen] at follows
  refine ⟨Course.visit_proceed course look, follows.tiling, ⟨?_, ?_⟩, ?_, ?_⟩
  · intro holds
    obtain ⟨extent, ended⟩ := holds
    have reached := ((course_outcome_ok_iff course extent).mp ended).1
    exact ⟨course.records, follows.tiling, (follows.reached _ reached).1⟩
  · intro holds
    obtain ⟨tiles, tiling, whole⟩ := holds
    have same := course_of_tiling bounded told tiling whole
    rw [← seen] at same
    refine ⟨⟨tiles.length, max start bound⟩, ?_⟩
    rw [course_outcome_ok_iff, same]
    exact ⟨rfl, rfl⟩
  · intro extent ended
    obtain ⟨reached, count⟩ := (course_outcome_ok_iff course extent).mp ended
    obtain ⟨whole, furthest⟩ := follows.reached _ reached
    exact ⟨whole, by rw [← count, ← furthest]⟩
  · intro error ended
    exact follows.failed error ((course_outcome_error_iff course error).mp ended)

def pastLimit : Bytes := [1, 3, 9, 2, 2, 7, 4, 0, 0]

-- Two records, and a third one that the limit cuts in two although its bytes are there.
theorem walk_follows_tiling_past_limit :
    let course := (Reader.upTo 8 pastLimit).course .kind8Length8 .declared 0
    pastLimit.length < 2 ^ 63 ∧
      course.outcome = .error (.outOfRange 5 4 8) ∧
      Tiling .kind8Length8 pastLimit 8 0 0 course.records ∧
      0 + span course.records < 8 ∧
      Fault .kind8Length8 pastLimit 8 (0 + span course.records) (.outOfRange 5 4 8) := by
  have small : pastLimit.length < 2 ^ 63 := by decide
  have failed : ((Reader.upTo 8 pastLimit).course .kind8Length8 .declared 0).outcome =
      .error (.outOfRange 5 4 8) := by cbv
  obtain ⟨-, tiling, -, -, fault⟩ :=
    walk_follows_tiling (m := Logged) (fun _ => pure ()) .kind8Length8 pastLimit 8 0 small
  exact ⟨small, failed, tiling, fault _ failed⟩

end AcpiAudit
