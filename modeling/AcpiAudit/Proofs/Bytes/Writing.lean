import AcpiAudit.Proofs.Bytes.Slice

set_option autoImplicit false

namespace AcpiAudit.Bytes

def overwrite (bytes : Bytes) (offset : Nat) (field : Bytes) : Bytes :=
  bytes.take offset ++ field ++ bytes.drop (offset + field.length)

section Overwrite

variable {bytes : Bytes} {offset : Nat}

theorem length_overwrite {field : Bytes} (fits : offset + field.length ≤ bytes.length) :
    (overwrite bytes offset field).length = bytes.length := by
  simp only [overwrite, List.length_append, List.length_take, List.length_drop]
  omega

theorem slice_overwrite (field : Bytes) (inside : offset ≤ bytes.length) :
    slice (overwrite bytes offset field) offset field.length = field := by
  have front := List.length_take_of_le inside
  rw [slice, overwrite, List.append_assoc, List.drop_left' front, List.take_left]

theorem slice_overwrite_before {field : Bytes} {start count : Nat} (before : start + count ≤ offset)
    (inside : offset ≤ bytes.length) :
    slice (overwrite bytes offset field) start count = slice bytes start count := by
  have front := List.length_take_of_le inside
  have kept : (overwrite bytes offset field).take offset = bytes.take offset := by
    rw [overwrite, List.append_assoc, List.take_left' front]
  rw [← slice_take before, kept, slice_take before]

theorem drop_overwrite {field : Bytes} {stop : Nat} (after : offset + field.length ≤ stop)
    (inside : offset ≤ bytes.length) :
    (overwrite bytes offset field).drop stop = bytes.drop stop := by
  have front : (bytes.take offset ++ field).length = offset + field.length := by
    rw [List.length_append, List.length_take_of_le inside]
  obtain ⟨gap, rfl⟩ := Nat.exists_eq_add_of_le after
  rw [← List.drop_drop, overwrite, List.drop_left' front, List.drop_drop]

theorem slice_overwrite_after {field : Bytes} {start count : Nat}
    (after : offset + field.length ≤ start) (inside : offset ≤ bytes.length) :
    slice (overwrite bytes offset field) start count = slice bytes start count := by
  rw [slice, slice, drop_overwrite after inside]

end Overwrite

theorem little_endian_of_number {width value : Nat} (fits : value < 256 ^ width) :
    littleEndian (ofNumber width value) = value := by
  induction width generalizing value with
  | zero =>
      have zero : value = 0 := by simpa using fits
      rw [zero]
      rfl
  | succ width ih =>
      have rest : value / 256 < 256 ^ width := by
        rw [Nat.pow_succ, Nat.mul_comm] at fits
        exact Nat.div_lt_of_lt_mul fits
      have low : (UInt8.ofNat value).toNat = value % 256 := UInt8.toNat_ofNat'
      rw [ofNumber, littleEndian, low, ih rest, Nat.mod_add_div]

theorem of_number_little_endian (bytes : Bytes) :
    ofNumber bytes.length (littleEndian bytes) = bytes := by
  induction bytes with
  | nil => rfl
  | cons byte rest ih =>
      have bounded : byte.toNat < 256 := byte.toNat_lt
      have low : UInt8.ofNat (byte.toNat + 256 * littleEndian rest) = byte := by
        apply UInt8.toNat_inj.mp
        rw [UInt8.toNat_ofNat']
        omega
      have high : (byte.toNat + 256 * littleEndian rest) / 256 = littleEndian rest := by omega
      rw [List.length_cons, littleEndian, ofNumber, low, high, ih]

theorem of_number_number {bytes : Bytes} {offset width : Nat}
    (inside : offset + width ≤ bytes.length) :
    ofNumber width (number bytes offset width) = slice bytes offset width := by
  have written := of_number_little_endian (slice bytes offset width)
  rwa [length_slice_of_fits inside] at written

theorem number_of_number {width value : Nat} (room : value < 256 ^ width) (front back : Bytes) :
    number (front ++ (ofNumber width value ++ back)) front.length width = value := by
  have piece : slice (front ++ (ofNumber width value ++ back)) front.length width =
      ofNumber width value := by
    rw [slice, List.drop_left, List.take_left' (length_ofNumber width value)]
  rw [number, piece, little_endian_of_number room]

inductive Field where
  | plain (offset : Nat) (bytes : Bytes)
  | number (offset width value : Nat)
deriving Repr, DecidableEq

namespace Field

def offset : Field → Nat
  | .plain offset _ | .number offset _ _ => offset

def bytes : Field → Bytes
  | .plain _ bytes => bytes
  | .number _ width value => ofNumber width value

def Fits : Field → Prop
  | .plain _ _ => True
  | .number _ width value => value < 256 ^ width

end Field

def writeAll (bytes : Bytes) (fields : List Field) : Bytes :=
  fields.foldl (fun written field => overwrite written field.offset field.bytes) bytes

def EndToEnd (start stop : Nat) : List Field → Prop
  | [] => start = stop
  | field :: rest => field.offset = start ∧ EndToEnd (start + field.bytes.length) stop rest

structure Field.TakenFrom (source : Bytes) (base : Nat) (field : Field) : Prop where
  fits : field.Fits
  piece : field.bytes = slice source (base + field.offset) field.bytes.length

theorem plain_taken {source bytes : Bytes} {base offset width : Nat}
    (same : bytes = slice source (base + offset) width) (size : bytes.length = width) :
    (Field.plain offset bytes).TakenFrom source base := by
  refine ⟨trivial, ?_⟩
  rw [Field.bytes, size]
  exact same

theorem number_taken {source : Bytes} {base offset width value : Nat}
    (same : value = number source (base + offset) width)
    (inside : base + offset + width ≤ source.length) :
    (Field.number offset width value).TakenFrom source base := by
  refine ⟨same ▸ number_lt _ _ _, ?_⟩
  rw [Field.bytes, length_ofNumber, same]
  exact of_number_number inside

theorem end_to_end_le {start stop : Nat} {fields : List Field}
    (ends : EndToEnd start stop fields) : start ≤ stop := by
  induction fields generalizing start with
  | nil => exact Nat.le_of_eq ends
  | cons field rest ih =>
      have onward := ih ends.2
      omega

-- Fields that lie end to end make up all that lies between the first and the last of them.
theorem write_taken {source : Bytes} {base start stop : Nat} {fields : List Field}
    (ends : EndToEnd start stop fields)
    (taken : ∀ field ∈ fields, Field.TakenFrom source base field) {bytes : Bytes}
    (room : stop ≤ bytes.length) :
    writeAll bytes fields =
      bytes.take start ++ slice source (base + start) (stop - start) ++ bytes.drop stop := by
  induction fields generalizing start bytes with
  | nil =>
      cases ends
      simp [writeAll, slice]
  | cons field rest ih =>
      obtain ⟨rfl, onward⟩ := ends
      have within : field.offset + field.bytes.length ≤ stop := end_to_end_le onward
      have inside : field.offset ≤ bytes.length := by omega
      have piece := (taken field List.mem_cons_self).piece
      have fits : stop ≤ (overwrite bytes field.offset field.bytes).length := by
        rwa [length_overwrite (Nat.le_trans within room)]
      have front : (overwrite bytes field.offset field.bytes).take
          (field.offset + field.bytes.length) = bytes.take field.offset ++ field.bytes := by
        apply List.take_left'
        rw [List.length_append, List.length_take_of_le inside]
      have joined : field.bytes ++ slice source (base + (field.offset + field.bytes.length))
          (stop - (field.offset + field.bytes.length)) =
            slice source (base + field.offset) (stop - field.offset) := by
        have split : stop - field.offset =
            field.bytes.length + (stop - (field.offset + field.bytes.length)) := by omega
        rw [split, ← slice_append, ← piece, Nat.add_assoc]
      have tail := ih onward (fun later member => taken later (List.mem_cons_of_mem _ member)) fits
      rw [writeAll, List.foldl_cons, ← writeAll, tail, front, drop_overwrite within inside,
        List.append_assoc (bytes.take field.offset), joined]

end AcpiAudit.Bytes
