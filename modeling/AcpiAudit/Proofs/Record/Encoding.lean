import AcpiAudit.Checks.Ibft
import AcpiAudit.Proofs.Bytes.Writing
import AcpiAudit.Proofs.Record.Partition

set_option autoImplicit false

namespace AcpiAudit

namespace Placement

def write (place : Placement) (value : Nat) (bytes : Bytes) : Bytes :=
  bytes.overwrite place.offset (Bytes.ofNumber place.width.bytes value)

variable {place : Placement} {value : Nat} {bytes : Bytes}

theorem length_write (inside : place.stop ≤ bytes.length) :
    (place.write value bytes).length = bytes.length := by
  apply Bytes.length_overwrite
  rwa [Bytes.length_ofNumber]

theorem value_write (inside : place.stop ≤ bytes.length)
    (fits : value < 256 ^ place.width.bytes) : place.value (place.write value bytes) = value := by
  have start : place.offset ≤ bytes.length := Nat.le_trans (Nat.le_add_right _ _) inside
  have written := Bytes.slice_overwrite (Bytes.ofNumber place.width.bytes value) start
  rw [Bytes.length_ofNumber] at written
  rw [Placement.value, write, Bytes.number, written, Bytes.little_endian_of_number fits]

theorem value_write_apart {other : Placement}
    (apart : place.stop ≤ other.offset ∨ other.stop ≤ place.offset)
    (inside : place.stop ≤ bytes.length) :
    other.value (place.write value bytes) = other.value bytes := by
  have start : place.offset ≤ bytes.length := Nat.le_trans (Nat.le_add_right _ _) inside
  rw [Placement.value, Placement.value, write, Bytes.number, Bytes.number]
  cases apart with
  | inl before =>
      rw [Bytes.slice_overwrite_after _ start]
      rwa [Bytes.length_ofNumber]
  | inr after => rw [Bytes.slice_overwrite_before after start]

end Placement

namespace Layout

def Apart (layout : Layout) : Prop :=
  layout.length.stop ≤ layout.kind.offset ∨ layout.kind.stop ≤ layout.length.offset

instance (layout : Layout) : Decidable layout.Apart :=
  inferInstanceAs (Decidable (_ ∨ _))

def inUse : List Layout :=
  [kind8Length8, kind8Length16, kind8Gap8Length16, kind16Length16, length16Gap8Kind8, Ibft.layout]

theorem in_use_apart : ∀ layout ∈ inUse, layout.Apart := by
  decide

end Layout

-- A record to be written: its kind, and bytes of the length that it is to have. The header is
-- written over them, and the others are as they are.
structure Draft (layout : Layout) where
  kind : Nat
  filling : Bytes
  kindFits : kind < 256 ^ layout.kind.width.bytes
  lengthFits : filling.length < 256 ^ layout.length.width.bytes
  holdsHeader : layout.headerSize ≤ filling.length

namespace Draft

variable {layout : Layout}

def bytes (draft : Draft layout) : Bytes :=
  layout.length.write draft.filling.length (layout.kind.write draft.kind draft.filling)

def encode (drafts : List (Draft layout)) : Bytes := (drafts.map bytes).flatten

theorem kind_inside (draft : Draft layout) : layout.kind.stop ≤ draft.filling.length :=
  Nat.le_trans (Nat.le_max_left _ _) draft.holdsHeader

theorem length_inside (draft : Draft layout) :
    layout.length.stop ≤ (layout.kind.write draft.kind draft.filling).length := by
  rw [Placement.length_write draft.kind_inside]
  exact Nat.le_trans (Nat.le_max_right _ _) draft.holdsHeader

theorem length_bytes (draft : Draft layout) : draft.bytes.length = draft.filling.length := by
  rw [bytes, Placement.length_write draft.length_inside, Placement.length_write draft.kind_inside]

theorem length_of_bytes (draft : Draft layout) :
    layout.length.value draft.bytes = draft.bytes.length := by
  rw [length_bytes]
  exact Placement.value_write draft.length_inside draft.lengthFits

theorem kind_of_bytes (apart : layout.Apart) (draft : Draft layout) :
    layout.kind.value draft.bytes = draft.kind := by
  rw [bytes, Placement.value_write_apart apart draft.length_inside]
  exact Placement.value_write draft.kind_inside draft.kindFits

end Draft

section Pieces

variable {layout : Layout}

theorem of_bytes_piece {piece : Bytes} (offset index : Nat) (more : Bytes)
    (header : layout.headerSize ≤ piece.length)
    (measured : layout.length.value piece = piece.length) :
    Record.ofBytes layout offset index (piece ++ more) =
      .ok ⟨layout.kind.value piece, offset, index, piece⟩ := by
  have positive := layout.headerSize_pos
  have kind : layout.kind.value (piece ++ more) = layout.kind.value piece :=
    Placement.value_append (Nat.le_trans (Nat.le_max_left _ _) header) more
  have length : layout.length.value (piece ++ more) = piece.length :=
    (Placement.value_append (Nat.le_trans (Nat.le_max_right _ _) header) more).trans measured
  simp only [Record.ofBytes, kind, length, List.length_append, List.take_left]
  rw [if_neg (by omega), if_neg (by omega), if_neg (by omega), if_neg (by omega)]

theorem course_of_pieces {pieces : List Bytes} (start first : Nat) (more : Bytes)
    (measured : ∀ piece ∈ pieces,
      layout.headerSize ≤ piece.length ∧ layout.length.value piece = piece.length)
    (told : start + pieces.flatten.length ≤ greatestOffset) :
    let rest := Course.ofRest layout .declared (start + pieces.flatten.length)
      (first + pieces.length) more
    Course.ofRest layout .declared start first (pieces.flatten ++ more) =
      ⟨lay layout start first pieces ++ rest.records, rest.ending⟩ := by
  induction pieces generalizing start first with
  | nil => rfl
  | cons piece others ih =>
      intro rest
      obtain ⟨header, length⟩ := measured piece (by simp)
      have positive := layout.headerSize_pos
      have size : (piece :: others).flatten.length = piece.length + others.flatten.length := by
        rw [List.flatten_cons, List.length_append]
      have nonempty : 0 < (piece ++ (others.flatten ++ more)).length := by
        rw [List.length_append]
        omega
      have next : min (start + piece.length) greatestOffset = start + piece.length := by omega
      have onward := ih (start + piece.length) (first + 1)
        (fun other member => measured other (by simp [member])) (by omega)
      have place : start + piece.length + others.flatten.length =
          start + (piece :: others).flatten.length := by omega
      have count : first + 1 + others.length = first + (piece :: others).length := by
        rw [List.length_cons]
        omega
      rw [List.flatten_cons, List.append_assoc,
        Course.of_rest_record nonempty (of_bytes_piece start first _ header length)]
      simp only [Advance.step, Record.length, next, List.drop_left, onward, place, count]
      rfl

end Pieces

inductive Broken (layout : Layout) (offset : Nat) (tail : Bytes) : WalkError → Prop where
  | zeroLength (header : layout.headerSize ≤ tail.length) (zero : layout.length.value tail = 0) :
      Broken layout offset tail (.zeroLength offset)
  | tooShort (header : layout.headerSize ≤ tail.length) (nonzero : 0 < layout.length.value tail)
      (short : layout.length.value tail < layout.headerSize) :
      Broken layout offset tail
        (.tooShort offset (layout.length.value tail) layout.headerSize)
  | outOfRange (header : layout.headerSize ≤ tail.length)
      (beyond : tail.length < layout.length.value tail) :
      Broken layout offset tail
        (.outOfRange offset (layout.length.value tail) (offset + tail.length))
  | headerTruncated (nonempty : 0 < tail.length) (cutOff : tail.length < layout.headerSize) :
      Broken layout offset tail
        (.headerTruncated offset (.truncated offset layout.headerSize tail.length))

theorem course_of_broken {layout : Layout} {offset : Nat} {tail : Bytes} {error : WalkError}
    (broken : Broken layout offset tail error) (index : Nat) :
    Course.ofRest layout .declared offset index tail = ⟨[], .error error⟩ := by
  have positive := layout.headerSize_pos
  have failed : 0 < tail.length ∧ Record.ofBytes layout offset index tail = .error error := by
    simp only [Record.ofBytes]
    cases broken with
    | zeroLength header zero =>
        exact ⟨by omega, by rw [if_neg (by omega), if_pos zero]⟩
    | tooShort header nonzero short =>
        exact ⟨by omega, by rw [if_neg (by omega), if_neg (by omega), if_pos short]⟩
    | outOfRange header beyond =>
        exact ⟨by omega,
          by rw [if_neg (by omega), if_neg (by omega), if_neg (by omega), if_pos beyond]⟩
    | headerTruncated nonempty cutOff => exact ⟨nonempty, by rw [if_pos cutOff]⟩
  exact Course.of_rest_fault failed.1 failed.2

def contents (records : List Record) : List (Nat × Bytes) :=
  records.map fun record => (record.kind, record.bytes)

def Draft.contents {layout : Layout} (drafts : List (Draft layout)) : List (Nat × Bytes) :=
  drafts.map fun draft => (draft.kind, draft.bytes)

theorem contents_lay {layout : Layout} (apart : layout.Apart) (drafts : List (Draft layout))
    (start first : Nat) :
    contents (lay layout start first (drafts.map Draft.bytes)) = Draft.contents drafts := by
  induction drafts generalizing start first with
  | nil => rfl
  | cons draft rest ih =>
      have kind := Draft.kind_of_bytes apart draft
      have others := ih (start + draft.bytes.length) (first + 1)
      simp only [contents, Draft.contents] at others
      simp only [contents, Draft.contents, List.map_cons, lay, kind, others]

theorem course_of_drafts {layout : Layout} (drafts : List (Draft layout)) (front tail : Bytes)
    (told : (front ++ Draft.encode drafts ++ tail).length ≤ greatestOffset) :
    let rest := Course.ofRest layout .declared (front.length + (Draft.encode drafts).length)
      drafts.length tail
    Reader.course ⟨front ++ Draft.encode drafts ++ tail, 0⟩ layout .declared front.length =
      ⟨lay layout front.length 0 (drafts.map Draft.bytes) ++ rest.records, rest.ending⟩ := by
  have measured : ∀ piece ∈ drafts.map Draft.bytes,
      layout.headerSize ≤ piece.length ∧ layout.length.value piece = piece.length := by
    intro piece member
    obtain ⟨draft, -, rfl⟩ := List.mem_map.mp member
    exact ⟨draft.length_bytes ▸ draft.holdsHeader, draft.length_of_bytes⟩
  have reach : front.length + (drafts.map Draft.bytes).flatten.length ≤ greatestOffset := by
    simp only [List.length_append, Draft.encode] at told
    omega
  have course := course_of_pieces front.length 0 tail measured reach
  rw [List.length_map, Nat.zero_add] at course
  rw [Reader.course, List.append_assoc, List.drop_left]
  exact course

theorem walk_undoes_encoding {m : Type → Type} [Monad m] [LawfulMonad m] [LogWriter m]
    (look : Record → m Unit) (front tail : Bytes) :
    (∀ layout ∈ Layout.inUse, layout.Apart) ∧
    ∀ (layout : Layout) (drafts : List (Draft layout)), layout.Apart →
      let data := front ++ Draft.encode drafts ++ tail
      let stop := front.length + (Draft.encode drafts).length
      let course := Reader.course ⟨data, 0⟩ layout .declared front.length
      data.length ≤ greatestOffset →
        course.visit (fun record => do look record; return .proceed) =
            (do course.records.forM (Course.present look); course.close) ∧
          (tail = [] →
            contents course.records = Draft.contents drafts ∧
              course.outcome = .ok ⟨drafts.length, data.length⟩) ∧
          ∀ error, Broken layout stop tail error →
            contents course.records = Draft.contents drafts ∧ course.outcome = .error error := by
  refine ⟨Layout.in_use_apart, ?_⟩
  intro layout drafts apart data stop course told
  have split : course = _ := course_of_drafts drafts front tail told
  refine ⟨Course.visit_proceed course look, ?_, ?_⟩
  · intro nothing
    subst nothing
    have size : data.length = stop := by
      simp only [data, stop, List.length_append, List.length_nil, Nat.add_zero]
    rw [Course.of_rest_nil, List.append_nil] at split
    refine ⟨?_, ?_⟩
    · rw [split, contents_lay apart]
    · rw [course_outcome_ok_iff, split, size, lay_length, List.length_map]
      exact ⟨rfl, rfl⟩
  · intro error broken
    rw [course_of_broken broken, List.append_nil] at split
    refine ⟨?_, ?_⟩
    · rw [split, contents_lay apart]
    · rw [course_outcome_error_iff, split]

def nestedHeader : Draft .length16Gap8Kind8 where
  kind := 7
  filling := [0, 0, 5, 0, 4, 0, 9, 1]
  kindFits := by decide
  lengthFits := by decide
  holdsHeader := by decide

def bareHeader : Draft .length16Gap8Kind8 where
  kind := 255
  filling := [1, 2, 3, 4]
  kindFits := by decide
  lengthFits := by decide
  holdsHeader := by decide

-- The body of the first record looks like the header of a record of its own.
theorem walk_undoes_encoding_nested_header :
    let layout := Layout.length16Gap8Kind8
    let data := [0xAA] ++ Draft.encode [nestedHeader, bareHeader] ++ [0, 0, 0, 1, 9]
    let course := Reader.course ⟨data, 0⟩ layout .declared 1
    layout.Apart ∧ data.length ≤ greatestOffset ∧
      Broken layout 13 [0, 0, 0, 1, 9] (.zeroLength 13) ∧
      contents course.records = [(7, [8, 0, 5, 7, 4, 0, 9, 1]), (255, [4, 0, 3, 255])] ∧
      course.outcome = .error (.zeroLength 13) := by
  intro layout data course
  have apart : layout.Apart := by decide
  have told : data.length ≤ greatestOffset := by decide
  have broken : Broken layout 13 [0, 0, 0, 1, 9] (.zeroLength 13) :=
    .zeroLength (by decide) (by decide)
  obtain ⟨-, walks⟩ := walk_undoes_encoding (m := Logged) (fun _ => pure ()) [0xAA] [0, 0, 0, 1, 9]
  obtain ⟨-, -, fails⟩ := walks layout [nestedHeader, bareHeader] apart told
  obtain ⟨records, outcome⟩ := fails _ broken
  have encoded : Draft.contents [nestedHeader, bareHeader] =
      [(7, [8, 0, 5, 7, 4, 0, 9, 1]), (255, [4, 0, 3, 255])] := by decide
  exact ⟨apart, told, broken, records.trans encoded, outcome⟩

end AcpiAudit
