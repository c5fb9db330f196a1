import AcpiAudit.Proofs.Audit.Passing
import AcpiAudit.Proofs.Record.Partition

set_option autoImplicit false

namespace AcpiAudit

namespace Audit

instance : LawfulMonad Audit := LawfulMonad.mk' Audit
  (fun audit => by
    cases audit with
    | mk findings log result => cases result <;> simp [Functor.map])
  (fun value next => by simp [bind, pure])
  (fun audit second third => by
    cases audit with
    | mk findings log result =>
        cases result with
        | error error => simp [bind]
        | ok value =>
            cases reached : (second value).result <;> simp [bind, reached, List.append_assoc])

theorem passes_close (course : Course) (ending : Except WalkError Extent) :
    (course.close : Audit (Except WalkError Extent)).Passes ending ↔ course.outcome = ending := by
  cases ended : course.outcome <;> simp [Course.close, ended]

theorem passes_each_record (course : Course) (audit : Record → Audit Unit)
    (ending : Except WalkError Extent) :
    (eachRecord course audit).Passes ending ↔
      (∀ record ∈ course.records, (audit record).Passes ()) ∧ course.outcome = ending := by
  rw [eachRecord, Course.visit_proceed course fun record => contain (audit record)]
  rw [passes_then, passes_for_each, passes_close]
  simp [Course.present]

theorem fault_not_passes {layout : Layout} {data : Bytes} {limit offset : Nat} {error : WalkError}
    (fault : Fault layout data limit offset error) (value : Unit) :
    ¬ (reportDefect error).Passes value := by
  cases fault <;> simp [reportDefect, WalkError.findings, Finding.isFailure]

theorem passes_locate {β : Type} (reader : Reader) (layout : Layout) (offset : Nat)
    (conclude : Except WalkError Record → Audit β) (value : β)
    (reports : ∀ error, (conclude (.error error)).Passes value → (reportDefect error).Passes ()) :
    (reader.locate layout offset >>= conclude).Passes value ↔
      ∃ record, record.CutFrom layout reader.bytes reader.limit ∧ record.offset = offset ∧
        record.index = 0 ∧ (conclude (.ok record)).Passes value := by
  cases found : reader.recordAt layout offset with
  | error error =>
      have fault := (reader.record_at_error_iff layout offset error).mp found
      have refused : ¬ (conclude (.error error)).Passes value :=
        fun passes => fault_not_passes fault () (reports error passes)
      have absent (record : Record) (cut : record.CutFrom layout reader.bytes reader.limit)
          (place : record.offset = offset) : False := cut_not_fault cut (place ▸ fault)
      simp only [Reader.locate, found, pure_bind, refused, false_iff]
      rintro ⟨record, cut, place, -⟩
      exact absent record cut place
  | ok record =>
      have only (other : Record) : other = record ↔
          other.CutFrom layout reader.bytes reader.limit ∧ other.offset = offset ∧
            other.index = 0 := by
        rw [← Reader.record_at_ok_iff, found, Except.ok.injEq, eq_comm]
      simp only [Reader.locate, found, bind_assoc, pure_bind, passes_then, passes_log, true_and]
      constructor
      · intro passes
        obtain ⟨cut, place, index⟩ := (only record).mp rfl
        exact ⟨record, cut, place, index, passes⟩
      · rintro ⟨other, cut, place, index, passes⟩
        rwa [(only other).mpr ⟨cut, place, index⟩] at passes

-- What follows the walk has to report the defect that broke it off, if there is one, and may
-- depend on how many records there are.
theorem passes_walk {β : Type} {reader : Reader} (layout : Layout) (start : Nat)
    (audit : Record → Audit Unit) (conclude : Except WalkError Extent → Audit β) (value : β)
    (told : reader.limit ≤ greatestOffset)
    (reports : ∀ error, (conclude (.error error)).Passes value → (reportDefect error).Passes ()) :
    (eachRecord (reader.course layout .declared start) audit >>= conclude).Passes value ↔
      ∃ pieces, Partition layout (reader.bytes.drop start) pieces ∧
        (∀ record ∈ lay layout start 0 pieces, (audit record).Passes ()) ∧
        (conclude (.ok ⟨pieces.length, max start reader.limit⟩)).Passes value := by
  rw [passes_bind]
  constructor
  · intro holds
    obtain ⟨ending, walked, concluded⟩ := holds
    obtain ⟨sound, outcome⟩ := (passes_each_record _ _ _).mp walked
    cases ending with
    | error error =>
        have ended := (course_outcome_error_iff _ _).mp outcome
        have fault := ((reader_course_follows layout start told).failed error ended).2
        exact absurd (reports error concluded) (fault_not_passes fault ())
    | ok extent =>
        have ended := ((course_outcome_ok_iff _ _).mp outcome).1
        obtain ⟨pieces, partition⟩ := partition_of_course told ended
        have course := course_of_partition told partition
        rw [course] at sound outcome
        have same : extent = ⟨pieces.length, max start reader.limit⟩ := by
          simpa [Course.outcome, Except.map, lay_length, eq_comm] using outcome
        rw [same] at concluded
        exact ⟨pieces, partition, sound, concluded⟩
  · intro holds
    obtain ⟨pieces, partition, sound, concluded⟩ := holds
    refine ⟨_, (passes_each_record _ _ _).mpr ⟨?_, ?_⟩, concluded⟩
    · rw [course_of_partition told partition]
      exact sound
    · rw [course_of_partition told partition]
      simp [Course.outcome, Except.map, lay_length]

end Audit

end AcpiAudit
