import AcpiAudit.Proofs.Record.Tiling

set_option autoImplicit false

namespace AcpiAudit

structure Partition (layout : Layout) (bytes : Bytes) (pieces : List Bytes) : Prop where
  whole : pieces.flatten = bytes
  measured : ∀ piece ∈ pieces,
    layout.headerSize ≤ piece.length ∧ layout.length.value piece = piece.length

def lay (layout : Layout) (start first : Nat) : List Bytes → List Record
  | [] => []
  | piece :: rest =>
      ⟨layout.kind.value piece, start, first, piece⟩ ::
        lay layout (start + piece.length) (first + 1) rest

theorem lay_length (layout : Layout) (start first : Nat) (pieces : List Bytes) :
    (lay layout start first pieces).length = pieces.length := by
  induction pieces generalizing start first with
  | nil => rfl
  | cons piece rest ih => simp [lay, ih]

theorem mem_lay (layout : Layout) (start first : Nat) (pieces : List Bytes) (record : Record) :
    record ∈ lay layout start first pieces ↔
      ∃ before piece after, pieces = before ++ piece :: after ∧
        record = ⟨layout.kind.value piece, start + before.flatten.length, first + before.length,
          piece⟩ := by
  induction pieces generalizing start first with
  | nil => simp [lay]
  | cons piece rest ih =>
      rw [lay, List.mem_cons, ih]
      constructor
      · rintro (rfl | ⟨before, other, after, rfl, rfl⟩)
        · exact ⟨[], piece, rest, rfl, rfl⟩
        · refine ⟨piece :: before, other, after, rfl, ?_⟩
          simp [Nat.add_assoc, Nat.add_comm 1]
      · intro holds
        obtain ⟨before, other, after, split, rfl⟩ := holds
        cases before with
        | nil =>
            cases split
            exact .inl rfl
        | cons first others =>
            cases split
            refine .inr ⟨others, other, after, rfl, ?_⟩
            simp [Nat.add_assoc, Nat.add_comm 1]

-- For a property of records that their offset and index do not matter to.
theorem forall_lay_iff {layout : Layout} {start first : Nat} {pieces : List Bytes}
    {property : Record → Prop} {sound : Bytes → Prop}
    (agree : ∀ record, record.kind = layout.kind.value record.bytes →
      record.bytes ∈ pieces → (property record ↔ sound record.bytes)) :
    (∀ record ∈ lay layout start first pieces, property record) ↔
      ∀ piece ∈ pieces, sound piece := by
  constructor
  · intro holds piece member
    obtain ⟨before, after, split⟩ := List.append_of_mem member
    have laid := (mem_lay layout start first pieces _).mpr ⟨before, piece, after, split, rfl⟩
    exact (agree _ rfl member).mp (holds _ laid)
  · intro holds record laid
    obtain ⟨before, piece, after, split, rfl⟩ := (mem_lay _ _ _ _ _).mp laid
    have member : piece ∈ pieces := by simp [split]
    exact (agree _ rfl member).mpr (holds piece member)

section Limit

variable {layout : Layout} {data : Bytes} {limit start first : Nat}

theorem placed_in_piece {place : Placement} {piece : Bytes} {offset : Nat}
    (inside : place.stop ≤ piece.length) (same : piece = data.slice offset piece.length) :
    place.value piece = data.number (offset + place.offset) place.width.bytes := by
  rw [same, Placement.value, Bytes.number_slice inside]

theorem kind_of_piece {piece : Bytes} {offset : Nat} (header : layout.headerSize ≤ piece.length)
    (same : piece = data.slice offset piece.length) :
    layout.kind.value piece = layout.kindAt data offset :=
  placed_in_piece (Nat.le_trans (Nat.le_max_left _ _) header) same

theorem length_of_piece {piece : Bytes} {offset : Nat} (header : layout.headerSize ≤ piece.length)
    (same : piece = data.slice offset piece.length) :
    layout.length.value piece = layout.lengthAt data offset :=
  placed_in_piece (Nat.le_trans (Nat.le_max_right _ _) header) same

theorem partition_of_tiling {tiles : List Record}
    (tiling : Tiling layout data limit start first tiles) (whole : limit ≤ start + span tiles) :
    Partition layout ((data.take limit).drop start) (tiles.map Record.bytes) := by
  induction tiles generalizing start first with
  | nil =>
      have done : limit ≤ start := by simpa [span] using whole
      refine ⟨?_, by simp⟩
      simp only [List.map_nil, List.flatten_nil, List.drop_take]
      rw [Nat.sub_eq_zero_of_le done, List.take_zero]
  | cons record rest ih =>
      obtain ⟨cut, rfl, rfl, tail⟩ := tiling_uncons tiling
      have covered : limit ≤ record.offset + record.length + span rest := by
        simp only [span, List.map_cons, List.sum_cons] at whole ⊢
        omega
      have parts := ih tail covered
      constructor
      · rw [List.map_cons, List.flatten_cons, parts.whole, cut.bytes, ← rest_take cut.inside,
          ← List.drop_drop, List.take_append_drop]
      · intro piece member
        rcases List.mem_cons.mp member with rfl | member
        · refine ⟨cut.header, ?_⟩
          rw [length_of_piece cut.header cut.bytes, ← cut.length]
          rfl
        · exact parts.measured piece member

theorem tiling_of_partition (index : Nat) {pieces : List Bytes} (bounded : limit ≤ data.length)
    (partition : Partition layout ((data.take limit).drop start) pieces) :
    Tiling layout data limit start index (lay layout start index pieces) ∧
      limit ≤ start + span (lay layout start index pieces) := by
  induction pieces generalizing start index with
  | nil =>
      have size := congrArg List.length partition.whole
      rw [rest_length bounded] at size
      refine ⟨tiling_nil, ?_⟩
      simp only [List.flatten_nil, List.length_nil] at size
      omega
  | cons piece rest ih =>
      obtain ⟨header, measured⟩ := partition.measured piece (by simp)
      have positive := layout.headerSize_pos
      have whole : piece ++ rest.flatten = (data.take limit).drop start := partition.whole
      have size := congrArg List.length whole
      rw [rest_length bounded, List.length_append] at size
      have inside : start + piece.length ≤ limit := by omega
      have same : piece = data.slice start piece.length := by
        rw [← rest_take inside, ← whole, List.take_left]
      have onward : Partition layout ((data.take limit).drop (start + piece.length)) rest := by
        refine ⟨?_, fun other member => partition.measured other (by simp [member])⟩
        rw [← List.drop_drop, ← whole, List.drop_left]
      obtain ⟨tiling, covered⟩ := ih (index + 1) onward
      have cut : Record.CutFrom layout data limit
          ⟨layout.kind.value piece, start, index, piece⟩ :=
        ⟨kind_of_piece header same, measured.symm.trans (length_of_piece header same), header,
          inside, same⟩
      refine ⟨tiling_cons cut rfl rfl tiling, ?_⟩
      have reach : span (lay layout start index (piece :: rest)) =
          piece.length + span (lay layout (start + piece.length) (index + 1) rest) := rfl
      omega

end Limit

theorem course_of_partition {reader : Reader} {layout : Layout} {start : Nat} {pieces : List Bytes}
    (told : reader.limit ≤ greatestOffset)
    (partition : Partition layout (reader.bytes.drop start) pieces) :
    reader.course layout .declared start =
      ⟨lay layout start 0 pieces, .ok (max start reader.limit)⟩ := by
  have full : reader.bytes.take reader.bytes.length = reader.bytes := List.take_length
  rw [← full] at partition
  obtain ⟨tiling, whole⟩ := tiling_of_partition 0 (Nat.le_refl _) partition
  have course := course_of_tiling (Nat.le_refl _) told tiling whole
  rwa [full] at course

theorem partition_of_course {reader : Reader} {layout : Layout} {start stop : Nat}
    (told : reader.limit ≤ greatestOffset)
    (ended : (reader.course layout .declared start).ending = .ok stop) :
    ∃ pieces, Partition layout (reader.bytes.drop start) pieces := by
  have follows := reader_course_follows layout start told
  have partition := partition_of_tiling follows.tiling (follows.reached stop ended).1
  rw [Reader.limit, List.take_length] at partition
  exact ⟨_, partition⟩

end AcpiAudit
