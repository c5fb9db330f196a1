import AcpiAudit.Proofs.Bytes.Slice
import AcpiAudit.Record.Course

set_option autoImplicit false

namespace AcpiAudit

def Layout.kindAt (layout : Layout) (data : Bytes) (offset : Nat) : Nat :=
  data.number (offset + layout.kind.offset) layout.kind.width.bytes

def Layout.lengthAt (layout : Layout) (data : Bytes) (offset : Nat) : Nat :=
  data.number (offset + layout.length.offset) layout.length.width.bytes

structure Record.CutFrom (layout : Layout) (data : Bytes) (limit : Nat) (record : Record) :
    Prop where
  kind : record.kind = layout.kindAt data record.offset
  length : record.length = layout.lengthAt data record.offset
  header : layout.headerSize ≤ record.length
  inside : record.offset + record.length ≤ limit
  bytes : record.bytes = data.slice record.offset record.length

-- The conditions of two constructors never hold together, so each names the only fault there is.
inductive Fault (layout : Layout) (data : Bytes) (limit offset : Nat) : WalkError → Prop where
  | headerTruncated (cutOff : limit - offset < layout.headerSize) :
      Fault layout data limit offset
        (.headerTruncated offset (.truncated offset layout.headerSize (limit - offset)))
  | zeroLength (header : layout.headerSize ≤ limit - offset)
      (zero : layout.lengthAt data offset = 0) :
      Fault layout data limit offset (.zeroLength offset)
  | tooShort (header : layout.headerSize ≤ limit - offset)
      (nonzero : 0 < layout.lengthAt data offset)
      (short : layout.lengthAt data offset < layout.headerSize) :
      Fault layout data limit offset
        (.tooShort offset (layout.lengthAt data offset) layout.headerSize)
  | outOfRange (header : layout.headerSize ≤ limit - offset)
      (long : layout.headerSize ≤ layout.lengthAt data offset)
      (beyond : limit < offset + layout.lengthAt data offset) :
      Fault layout data limit offset (.outOfRange offset (layout.lengthAt data offset) limit)

theorem fault_unique {layout : Layout} {data : Bytes} {limit offset : Nat}
    {one other : WalkError} (first : Fault layout data limit offset one)
    (second : Fault layout data limit offset other) : one = other := by
  have positive := layout.headerSize_pos
  cases first <;> cases second <;> first | rfl | omega

theorem fault_offset {layout : Layout} {data : Bytes} {limit offset : Nat} {error : WalkError}
    (fault : Fault layout data limit offset error) : error.offset = offset := by
  cases fault <;> rfl

theorem cut_not_fault {layout : Layout} {data : Bytes} {limit : Nat} {record : Record}
    {error : WalkError} (cut : record.CutFrom layout data limit) :
    ¬ Fault layout data limit record.offset error := by
  have positive := layout.headerSize_pos
  have length := cut.length
  have header := cut.header
  have inside := cut.inside
  intro fault
  cases fault <;> omega

theorem Placement.value_append {place : Placement} {bytes : Bytes}
    (inside : place.stop ≤ bytes.length) (more : Bytes) :
    place.value (bytes ++ more) = place.value bytes := by
  have front : (bytes ++ more).take bytes.length = bytes := List.take_left
  rw [Placement.value, Placement.value, ← Bytes.number_take inside, front]

theorem of_bytes_ok_iff {layout : Layout} {offset index : Nat} {rest : Bytes} {record : Record} :
    Record.ofBytes layout offset index rest = .ok record ↔
      layout.headerSize ≤ layout.length.value rest ∧ layout.length.value rest ≤ rest.length ∧
        ⟨layout.kind.value rest, offset, index, rest.take (layout.length.value rest)⟩ = record := by
  have positive := layout.headerSize_pos
  constructor
  · intro found
    simp only [Record.ofBytes] at found
    repeat' split at found
    all_goals cases found
    exact ⟨by omega, by omega, rfl⟩
  · rintro ⟨header, within, rfl⟩
    simp only [Record.ofBytes]
    rw [if_neg (by omega), if_neg (by omega), if_neg (by omega), if_neg (by omega)]

theorem placed_in_rest {place : Placement} {limit offset : Nat} (data : Bytes)
    (inside : place.stop ≤ limit - offset) :
    place.value ((data.take limit).drop offset) =
      data.number (offset + place.offset) place.width.bytes := by
  have positive := place.width.bytes_pos
  simp only [Placement.stop] at inside
  rw [Placement.value, Bytes.number_drop, Bytes.number_take (by omega)]

theorem kind_of_rest {layout : Layout} {data : Bytes} {limit offset : Nat}
    (header : layout.headerSize ≤ limit - offset) :
    layout.kind.value ((data.take limit).drop offset) = layout.kindAt data offset :=
  placed_in_rest data (Nat.le_trans (Nat.le_max_left _ _) header)

theorem length_of_rest {layout : Layout} {data : Bytes} {limit offset : Nat}
    (header : layout.headerSize ≤ limit - offset) :
    layout.length.value ((data.take limit).drop offset) = layout.lengthAt data offset :=
  placed_in_rest data (Nat.le_trans (Nat.le_max_right _ _) header)

theorem rest_length {data : Bytes} {limit : Nat} (bounded : limit ≤ data.length) (offset : Nat) :
    ((data.take limit).drop offset).length = limit - offset := by
  rw [List.length_drop, List.length_take, Nat.min_eq_left bounded]

theorem rest_nil (data : Bytes) {limit offset : Nat} (done : limit ≤ offset) :
    (data.take limit).drop offset = [] := by
  apply List.drop_eq_nil_of_le
  rw [List.length_take]
  omega

theorem rest_take {data : Bytes} {limit offset length : Nat} (inside : offset + length ≤ limit) :
    ((data.take limit).drop offset).take length = data.slice offset length :=
  Bytes.slice_take inside

theorem of_bytes_cut {layout : Layout} {data : Bytes} {limit offset index : Nat} {record : Record}
    (bounded : limit ≤ data.length)
    (found : Record.ofBytes layout offset index ((data.take limit).drop offset) = .ok record) :
    record.CutFrom layout data limit ∧ record.offset = offset ∧ record.index = index := by
  simp only [Record.ofBytes, rest_length bounded] at found
  by_cases cutOff : limit - offset < layout.headerSize
  · simp [cutOff] at found
  · have header : layout.headerSize ≤ limit - offset := by omega
    rw [if_neg cutOff, length_of_rest header, kind_of_rest header] at found
    split at found
    · cases found
    split at found
    · cases found
    split at found
    · cases found
    next nonzero long within =>
      have inside : offset + layout.lengthAt data offset ≤ limit := by
        have positive := layout.headerSize_pos
        omega
      rw [rest_take inside] at found
      cases found
      have size : (data.slice offset (layout.lengthAt data offset)).length =
          layout.lengthAt data offset := Bytes.length_slice_of_fits (by omega)
      refine ⟨⟨rfl, size, ?_, ?_, ?_⟩, rfl, rfl⟩
      · simp only [Record.length, size]
        omega
      · simpa only [Record.length, size] using inside
      · simp only [Record.length, size]

theorem of_bytes_of_cut {layout : Layout} {data : Bytes} {limit : Nat} {record : Record}
    (bounded : limit ≤ data.length) (cut : record.CutFrom layout data limit) :
    Record.ofBytes layout record.offset record.index ((data.take limit).drop record.offset) =
      .ok record := by
  have positive := layout.headerSize_pos
  have long := cut.header
  have inside := cut.inside
  have header : layout.headerSize ≤ limit - record.offset := by omega
  simp only [Record.ofBytes, rest_length bounded]
  rw [if_neg (by omega), length_of_rest header, kind_of_rest header, ← cut.length, ← cut.kind,
    if_neg (by omega), if_neg (by omega), if_neg (by omega), rest_take inside, ← cut.bytes]

theorem fault_of_error {layout : Layout} {data : Bytes} {limit offset index : Nat}
    {error : WalkError} (bounded : limit ≤ data.length)
    (failed : Record.ofBytes layout offset index ((data.take limit).drop offset) = .error error) :
    Fault layout data limit offset error := by
  simp only [Record.ofBytes, rest_length bounded] at failed
  by_cases cutOff : limit - offset < layout.headerSize
  · rw [if_pos cutOff] at failed
    cases failed
    exact .headerTruncated cutOff
  · have header : layout.headerSize ≤ limit - offset := by omega
    rw [if_neg cutOff, length_of_rest header] at failed
    split at failed
    · next zero =>
        cases failed
        exact .zeroLength header zero
    split at failed
    · next nonzero short =>
        cases failed
        exact .tooShort header (by omega) short
    split at failed
    · next nonzero long beyond =>
        have positive := layout.headerSize_pos
        have reach : offset + (limit - offset) = limit := by omega
        rw [reach] at failed
        cases failed
        exact .outOfRange header (by omega) (by omega)
    · cases failed

theorem of_bytes_error_iff {layout : Layout} {data : Bytes} {limit offset index : Nat}
    {error : WalkError} (bounded : limit ≤ data.length) :
    Record.ofBytes layout offset index ((data.take limit).drop offset) = .error error ↔
      Fault layout data limit offset error := by
  constructor
  · exact fault_of_error bounded
  · intro fault
    cases found : Record.ofBytes layout offset index ((data.take limit).drop offset) with
    | ok record =>
        obtain ⟨cut, rfl, -⟩ := of_bytes_cut bounded found
        exact absurd fault (cut_not_fault cut)
    | error other => rw [fault_unique (fault_of_error bounded found) fault]

namespace Reader

theorem record_at_ok_iff (reader : Reader) (layout : Layout) (offset : Nat) (record : Record) :
    reader.recordAt layout offset = .ok record ↔
      record.CutFrom layout reader.bytes reader.limit ∧ record.offset = offset ∧
        record.index = 0 := by
  have whole : reader.bytes.take reader.limit = reader.bytes := List.take_length
  constructor
  · intro found
    rw [recordAt, ← whole] at found
    exact of_bytes_cut (Nat.le_refl reader.limit) found
  · rintro ⟨cut, rfl, index⟩
    have found := of_bytes_of_cut (Nat.le_refl reader.limit) cut
    rwa [whole, index] at found

theorem record_at_error_iff (reader : Reader) (layout : Layout) (offset : Nat)
    (error : WalkError) :
    reader.recordAt layout offset = .error error ↔
      Fault layout reader.bytes reader.limit offset error := by
  have whole : reader.bytes.take reader.limit = reader.bytes := List.take_length
  have decided : Record.ofBytes layout offset 0
      ((reader.bytes.take reader.limit).drop offset) = .error error ↔
      Fault layout reader.bytes reader.limit offset error :=
    of_bytes_error_iff (Nat.le_refl reader.limit)
  rwa [whole] at decided

end Reader

end AcpiAudit
