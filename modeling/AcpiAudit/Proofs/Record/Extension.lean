import AcpiAudit.Proofs.Record.Tiling

set_option autoImplicit false

namespace AcpiAudit

def WalkError.Lasts : WalkError → Prop
  | .zeroLength _ | .tooShort _ _ _ => True
  | .headerTruncated _ _ | .outOfRange _ _ _ | .stopped _ _ => False

section Append

variable {layout : Layout} {offset index : Nat} {rest : Bytes}

theorem of_bytes_append {record : Record} (more : Bytes)
    (found : Record.ofBytes layout offset index rest = .ok record) :
    Record.ofBytes layout offset index (rest ++ more) = .ok record := by
  obtain ⟨header, within, rfl⟩ := of_bytes_ok_iff.mp found
  have inside : layout.headerSize ≤ rest.length := Nat.le_trans header within
  have kind := layout.kind.value_append (Nat.le_trans (Nat.le_max_left _ _) inside) more
  have length := layout.length.value_append (Nat.le_trans (Nat.le_max_right _ _) inside) more
  refine of_bytes_ok_iff.mpr ⟨length ▸ header, ?_, ?_⟩
  · rw [length, List.length_append]
    omega
  · rw [kind, length, List.take_append_of_le_length within]

theorem of_bytes_error_append {error : WalkError} (more : Bytes)
    (failed : Record.ofBytes layout offset index rest = .error error) (lasts : error.Lasts) :
    Record.ofBytes layout offset index (rest ++ more) = .error error := by
  by_cases cutOff : rest.length < layout.headerSize
  · simp only [Record.ofBytes, if_pos cutOff] at failed
    cases failed
    cases lasts
  · have inside : layout.headerSize ≤ rest.length := by omega
    have longer : ¬ (rest ++ more).length < layout.headerSize := by
      rw [List.length_append]
      omega
    have length := layout.length.value_append (Nat.le_trans (Nat.le_max_right _ _) inside) more
    simp only [Record.ofBytes, if_neg cutOff, if_neg longer, length] at failed ⊢
    by_cases zero : layout.length.value rest = 0
    · rwa [if_pos zero] at failed ⊢
    by_cases short : layout.length.value rest < layout.headerSize
    · rwa [if_neg zero, if_pos short] at failed ⊢
    · rw [if_neg zero, if_neg short] at failed
      split at failed
      all_goals cases failed
      cases lasts

theorem course_append (layout : Layout) (advance : Advance) (offset index : Nat)
    (rest more : Bytes) :
    let short := Course.ofRest layout advance offset index rest
    let long := Course.ofRest layout advance offset index (rest ++ more)
    short.records <+: long.records ∧
      ∀ error, short.ending = .error error → error.Lasts → long = short := by
  intro short long
  by_cases empty : rest.length = 0
  · have ended : short = ⟨[], .ok offset⟩ := by
      simp only [short, List.eq_nil_of_length_eq_zero empty, Course.of_rest_nil]
    rw [ended]
    refine ⟨List.nil_prefix, ?_⟩
    rintro error ⟨⟩
  · have nonempty : 0 < rest.length := Nat.pos_of_ne_zero empty
    have longer : 0 < (rest ++ more).length := by
      rw [List.length_append]
      omega
    cases found : Record.ofBytes layout offset index rest with
    | error error =>
        have broken : short = ⟨[], .error error⟩ := Course.of_rest_fault nonempty found
        rw [broken]
        refine ⟨List.nil_prefix, ?_⟩
        rintro other ⟨⟩ lasts
        exact Course.of_rest_fault longer (of_bytes_error_append more found lasts)
    | ok record =>
        have positive := advance.step_pos (Record.length_pos_of_ofBytes found)
        have first : short = _ := Course.of_rest_record nonempty found
        have same : long = _ := Course.of_rest_record longer (of_bytes_append more found)
        rw [List.drop_append] at same
        have tail := course_append layout advance
          (min (offset + advance.step record) greatestOffset) (index + 1)
          (rest.drop (advance.step record)) (more.drop (advance.step record - rest.length))
        rw [first, same]
        refine ⟨(List.prefix_cons_inj record).mpr tail.1, ?_⟩
        intro error broken lasts
        rw [tail.2 error broken lasts]
termination_by rest.length
decreasing_by
  rw [List.length_drop]
  omega

end Append

theorem course_of_beginning {less more : Reader} (beginning : less.bytes <+: more.bytes)
    (layout : Layout) (advance : Advance) (start : Nat) :
    let short := less.course layout advance start
    let long := more.course layout advance start
    short.records <+: long.records ∧
      ∀ error, short.ending = .error error → error.Lasts → long = short := by
  obtain ⟨rest, whole⟩ := beginning
  rw [Reader.course, Reader.course, ← whole, List.drop_append]
  exact course_append layout advance start 0 _ _

theorem course_further {less more : Reader} (beginning : less.bytes <+: more.bytes)
    (told : more.limit ≤ greatestOffset) (layout : Layout) (start : Nat) :
    let short := less.course layout .declared start
    let long := more.course layout .declared start
    let stop := start + span short.records
    short.records ⊆ long.records ∧
      (∀ record ∈ long.records, record.offset < stop → record ∈ short.records) ∧
      ∀ error, long.outcome = .error error → stop ≤ error.offset := by
  intro short long stop
  have follows := reader_course_follows layout start told
  obtain ⟨records, -⟩ := course_of_beginning beginning layout .declared start
  have kept := records.subset
  obtain ⟨further, whole⟩ := records
  refine ⟨kept, ?_, ?_⟩
  · have tiling := follows.tiling
    rw [← whole] at tiling
    intro record member before
    rw [← whole] at member
    cases List.mem_append.mp member with
    | inl member => exact member
    | inr member =>
        have behind := tiling_starts (tiling_append tiling) record member
        exact absurd before (Nat.not_lt_of_le behind)
  · intro error failed
    obtain ⟨-, fault⟩ := follows.failed error ((course_outcome_error_iff long error).mp failed)
    rw [fault_offset fault, ← whole, span, List.map_append, List.sum_append]
    exact Nat.add_le_add_left (Nat.le_add_right _ _) start

theorem beginning_of_agreement {data longerData : Bytes} {limit longerLimit : Nat}
    (within : (Reader.upTo limit data).limit ≤ (Reader.upTo longerLimit longerData).limit)
    (agree : data.take (Reader.upTo limit data).limit =
      longerData.take (Reader.upTo limit data).limit) :
    (Reader.upTo limit data).bytes <+: (Reader.upTo longerLimit longerData).bytes := by
  simp only [Reader.upTo, Reader.limit, List.length_take] at within agree ⊢
  rw [take_limit data limit, agree]
  exact List.take_prefix_take_left (Nat.le_trans within (Nat.min_le_left _ _))

theorem walk_of_less_is_beginning {m : Type → Type} [Monad m] [LawfulMonad m] [LogWriter m]
    (look : Record → m Unit) (layout : Layout) (advance : Advance) (start : Nat)
    (data longerData : Bytes) (limit longerLimit : Nat) :
    let less := Reader.upTo limit data
    let more := Reader.upTo longerLimit longerData
    let short := less.course layout advance start
    let long := more.course layout advance start
    let walked (course : Course) : m (Except WalkError Extent) :=
      course.visit fun record => do look record; return .proceed
    less.limit ≤ more.limit → data.take less.limit = longerData.take less.limit →
      walked short = (do short.records.forM (Course.present look); short.close) ∧
        walked long = (do long.records.forM (Course.present look); long.close) ∧
        short.records <+: long.records ∧
        ∀ error, short.outcome = .error error → error.Lasts →
          long.records = short.records ∧ long.outcome = .error error := by
  intro less more short long walked within agree
  obtain ⟨records, stable⟩ := course_of_beginning (beginning_of_agreement within agree) layout
    advance start
  refine ⟨Course.visit_proceed short look, Course.visit_proceed long look, records, ?_⟩
  intro error broken lasts
  have same : long = short :=
    stable error ((course_outcome_error_iff short error).mp broken) lasts
  exact ⟨by rw [same], by rw [same, broken]⟩

-- The buffers differ behind the shorter limit, where a whole record follows in the longer one.
theorem walk_of_less_is_beginning_zero_length :
    let less := Reader.upTo 4 [1, 2, 3, 0, 7]
    let more := Reader.upTo 9 [1, 2, 3, 0, 5, 2]
    let short := less.course .kind8Length8 .declared 0
    let long := more.course .kind8Length8 .declared 0
    less.limit ≤ more.limit ∧
      List.take less.limit [1, 2, 3, 0, 7] = List.take less.limit [1, 2, 3, 0, 5, 2] ∧
      short.outcome = .error (.zeroLength 2) ∧ (WalkError.zeroLength 2).Lasts ∧
      short.records <+: long.records ∧ long.records = short.records ∧
      long.outcome = .error (.zeroLength 2) := by
  have within : (Reader.upTo 4 [1, 2, 3, 0, 7]).limit ≤
      (Reader.upTo 9 [1, 2, 3, 0, 5, 2]).limit := by decide
  have failed : ((Reader.upTo 4 [1, 2, 3, 0, 7]).course .kind8Length8 .declared 0).outcome =
      .error (.zeroLength 2) := by cbv
  obtain ⟨-, -, beginning, stable⟩ := walk_of_less_is_beginning (m := Logged) (fun _ => pure ())
    .kind8Length8 .declared 0 [1, 2, 3, 0, 7] [1, 2, 3, 0, 5, 2] 4 9 within rfl
  obtain ⟨records, outcome⟩ := stable _ failed trivial
  exact ⟨within, rfl, failed, trivial, beginning, records, outcome⟩

end AcpiAudit
