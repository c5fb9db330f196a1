import AcpiAudit.Proofs.Record.Partition

set_option autoImplicit false

namespace AcpiAudit

section Uniform

variable {size : Nat} {pieces : List Bytes}

theorem uniform_length (uniform : ∀ piece ∈ pieces, piece.length = size) :
    pieces.flatten.length = size * pieces.length := by
  induction pieces with
  | nil => rfl
  | cons piece rest ih =>
      have head := uniform piece (by simp)
      have tail := ih fun other member => uniform other (by simp [member])
      rw [List.flatten_cons, List.length_append, List.length_cons, head, tail, Nat.mul_succ,
        Nat.add_comm]

theorem uniform_slice (uniform : ∀ piece ∈ pieces, piece.length = size) (position : Nat)
    (inside : position < pieces.length) :
    Bytes.slice pieces.flatten (size * position) size = pieces[position] := by
  induction pieces generalizing position with
  | nil => simp at inside
  | cons piece rest ih =>
      have head := uniform piece (by simp)
      cases position with
      | zero => simp [Bytes.slice, ← head]
      | succ position =>
          have tail := ih (fun other member => uniform other (by simp [member])) position
            (by simpa using inside)
          have onward : size * (position + 1) = piece.length + size * position := by
            rw [head, Nat.mul_succ, Nat.add_comm]
          rw [onward, ← Bytes.slice_drop, List.flatten_cons, List.drop_left, tail]
          rfl

end Uniform

def gridPieces (size count : Nat) (bytes : Bytes) : List Bytes :=
  (List.range count).map fun position => bytes.slice (size * position) size

theorem grid_pieces_flatten (size count : Nat) (bytes : Bytes) :
    (gridPieces size count bytes).flatten = bytes.take (size * count) := by
  induction count with
  | zero => simp [gridPieces]
  | succ count ih =>
      rw [gridPieces] at ih ⊢
      rw [List.range_succ, List.map_append, List.flatten_append, ih, Nat.mul_succ, List.take_add]
      simp [Bytes.slice]

theorem partition_grid_iff {layout : Layout} {size : Nat} {bytes : Bytes} {sound : Bytes → Prop}
    (header : layout.headerSize ≤ size)
    (measured : ∀ piece, sound piece → layout.length.value piece = size) :
    (∃ pieces, Partition layout bytes pieces ∧
        ∀ piece ∈ pieces, piece.length = size ∧ sound piece) ↔
      size ∣ bytes.length ∧
        ∀ position, size * position < bytes.length →
          sound (bytes.slice (size * position) size) := by
  have positive : 0 < size := Nat.lt_of_lt_of_le layout.headerSize_pos header
  constructor
  · rintro ⟨pieces, partition, each⟩
    have uniform : ∀ piece ∈ pieces, piece.length = size :=
      fun piece member => (each piece member).1
    have length := uniform_length uniform
    rw [partition.whole] at length
    refine ⟨⟨pieces.length, length⟩, ?_⟩
    intro position inside
    rw [length] at inside
    have within : position < pieces.length := Nat.lt_of_mul_lt_mul_left inside
    rw [← partition.whole, uniform_slice uniform position within]
    exact (each _ (List.getElem_mem within)).2
  · rintro ⟨⟨count, length⟩, each⟩
    have fits (position : Nat) (within : position < count) :
        (bytes.slice (size * position) size).length = size := by
      apply Bytes.length_slice_of_fits
      calc
        size * position + size = size * (position + 1) := (Nat.mul_succ size position).symm
        _ ≤ size * count := Nat.mul_le_mul_left size within
        _ = bytes.length := length.symm
    have sound_piece (piece : Bytes) (member : piece ∈ gridPieces size count bytes) :
        piece.length = size ∧ sound piece := by
      obtain ⟨position, within, rfl⟩ := List.mem_map.mp member
      have inside : position < count := List.mem_range.mp within
      refine ⟨fits position inside, each position ?_⟩
      rw [length]
      exact Nat.mul_lt_mul_of_pos_left inside positive
    refine ⟨gridPieces size count bytes, ⟨?_, ?_⟩, sound_piece⟩
    · rw [grid_pieces_flatten, ← length, List.take_length]
    · intro piece member
      obtain ⟨long, holds⟩ := sound_piece piece member
      exact ⟨long.symm ▸ header, (measured piece holds).trans long.symm⟩

end AcpiAudit
