import AcpiAudit.Bytes.Reader
import Mathlib.Algebra.Ring.Nat

set_option autoImplicit false

namespace AcpiAudit

namespace Bytes

theorem slice_take {bytes : Bytes} {offset count limit : Nat} (inside : offset + count ≤ limit) :
    slice (bytes.take limit) offset count = slice bytes offset count := by
  have enough : min count (limit - offset) = count := by omega
  simp only [slice, List.drop_take, List.take_take, enough]

theorem slice_drop (bytes : Bytes) (start offset count : Nat) :
    slice (bytes.drop start) offset count = slice bytes (start + offset) count := by
  simp only [slice, List.drop_drop]

theorem slice_append (bytes : Bytes) (offset count more : Nat) :
    slice bytes offset count ++ slice bytes (offset + count) more =
      slice bytes offset (count + more) := by
  rw [slice, slice, slice, List.take_add, List.drop_drop]

theorem slice_slice {bytes : Bytes} {start length offset count : Nat}
    (inside : offset + count ≤ length) :
    slice (slice bytes start length) offset count = slice bytes (start + offset) count := by
  rw [slice.eq_def bytes start length, slice_take inside, slice_drop]

theorem number_slice {bytes : Bytes} {start length offset width : Nat}
    (inside : offset + width ≤ length) :
    number (slice bytes start length) offset width = number bytes (start + offset) width :=
  congrArg littleEndian (slice_slice inside)

theorem number_take {bytes : Bytes} {offset width limit : Nat} (inside : offset + width ≤ limit) :
    number (bytes.take limit) offset width = number bytes offset width := by
  simp only [number, slice_take inside]

theorem number_drop (bytes : Bytes) (start offset width : Nat) :
    number (bytes.drop start) offset width = number bytes (start + offset) width := by
  simp only [number, slice_drop]

theorem little_endian_lt (bytes : Bytes) : littleEndian bytes < 256 ^ bytes.length := by
  induction bytes with
  | nil => decide
  | cons byte rest ih =>
      have bounded := byte.toNat_lt
      simp only [littleEndian, List.length_cons, Nat.pow_succ]
      omega

theorem number_lt (bytes : Bytes) (offset width : Nat) :
    number bytes offset width < 256 ^ width := by
  have bound := little_endian_lt (slice bytes offset width)
  have short : (slice bytes offset width).length ≤ width := by
    rw [length_slice]
    omega
  exact Nat.lt_of_lt_of_le bound (Nat.pow_le_pow_right (by decide) short)

theorem words_drop {bytes : Bytes} {offset : Nat} (room : offset + 2 ≤ bytes.length) :
    words (bytes.drop offset) = bytes.number offset 2 :: words (bytes.drop (offset + 2)) := by
  rw [← List.drop_drop, number, slice]
  have size : 2 ≤ (bytes.drop offset).length := by
    rw [List.length_drop]
    omega
  cases dropped : bytes.drop offset with
  | nil => simp [dropped] at size
  | cons low others =>
      cases others with
      | nil => simp [dropped] at size
      | cons high rest => rfl

theorem words_short {bytes : Bytes} (short : bytes.length < 2) : words bytes = [] := by
  cases bytes with
  | nil => rfl
  | cons first others =>
      cases others with
      | nil => rfl
      | cons second rest =>
          simp only [List.length_cons] at short
          omega

theorem words_at {bytes : Bytes} {position : Nat} (inside : position < bytes.words.length) :
    2 * position + 2 ≤ bytes.length ∧ bytes.words[position] = bytes.number (2 * position) 2 := by
  induction bytes using words.induct generalizing position with
  | case1 low high rest ih =>
      cases position with
      | zero => simp [words, number, slice]
      | succ position =>
          obtain ⟨room, word⟩ := ih (Nat.lt_of_succ_lt_succ inside)
          refine ⟨by simp only [List.length_cons]; omega, ?_⟩
          have shifted := number_drop (low :: high :: rest) 2 (2 * position) 2
          rw [List.drop_succ_cons, List.drop_one, List.tail_cons] at shifted
          simp only [words, List.getElem_cons_succ, word, shifted]
          congr 1
          omega
  | case2 bytes short => simp [words] at inside

theorem byte_sum_from (bytes : Bytes) (start : UInt8) :
    (bytes.foldl (· + ·) start).toNat = (start.toNat + (bytes.map UInt8.toNat).sum) % 256 := by
  induction bytes generalizing start with
  | nil => simp [Nat.mod_eq_of_lt start.toNat_lt]
  | cons byte rest ih =>
      rw [List.foldl_cons, ih, UInt8.toNat_add, List.map_cons, List.sum_cons]
      omega

theorem byte_sum_zero_iff (bytes : Bytes) :
    bytes.byteSum = 0 ↔ (bytes.map UInt8.toNat).sum % 256 = 0 := by
  have total := byte_sum_from bytes 0
  rw [← UInt8.toNat_inj, byteSum, total]
  simp

theorem first_where_none_iff (bytes : Bytes) (wanted : UInt8 → Bool) :
    bytes.firstWhere wanted = none ↔ ∀ byte ∈ bytes, wanted byte = false := by
  have erased : bytes = bytes.zipIdx.map Prod.fst := by simp
  constructor
  · intro missing byte member
    rw [erased] at member
    obtain ⟨entry, inside, rfl⟩ := List.mem_map.mp member
    simpa using List.find?_eq_none.mp missing entry inside
  · intro none
    apply List.find?_eq_none.mpr
    intro entry member
    have inside : entry.1 ∈ bytes := by
      rw [erased]
      exact List.mem_map_of_mem member
    simp [none entry.1 inside]

theorem first_from (bytes : Bytes) (wanted : UInt8 → Bool) (start : Nat) :
    (bytes.zipIdx start).find? (fun entry => wanted entry.1) =
      (bytes.findIdx? wanted).bind fun index =>
        bytes[index]?.map fun byte => (byte, start + index) := by
  induction bytes generalizing start with
  | nil => rfl
  | cons byte rest ih =>
      rw [List.zipIdx_cons, List.find?_cons, List.findIdx?_cons]
      by_cases here : wanted byte = true
      · simp [here]
      · have next (index : Nat) : start + 1 + index = start + (index + 1) := by omega
        rw [ih]
        cases rest.findIdx? wanted <;> simp [here, next]

end Bytes

namespace Reader

theorem read_ok_iff (reader : Reader) (offset count : Nat) (bytes : Bytes) :
    reader.read offset count = .ok bytes ↔
      offset + count ≤ reader.limit ∧ reader.bytes.slice offset count = bytes := by
  by_cases fits : offset + count ≤ reader.limit <;> simp [read, fits]

theorem number_ok_iff (reader : Reader) (offset width value : Nat) :
    reader.number offset width = .ok value ↔
      offset + width ≤ reader.limit ∧ reader.bytes.number offset width = value := by
  by_cases fits : offset + width ≤ reader.limit <;>
    simp [number, read, fits, Except.map, Bytes.number]

theorem text_reads_iff (reader : Reader) (offset length : Nat) :
    (∃ content, reader.text offset length = .ok content) ↔
      offset + length ≤ reader.limit ∧
        ∀ byte ∈ reader.bytes.slice offset length, byte < 0x80 := by
  by_cases fits : offset + length ≤ reader.limit
  · by_cases plain : (reader.bytes.slice offset length).all Ascii.isAscii
    · have each : ∀ byte ∈ reader.bytes.slice offset length, byte < 0x80 := by
        simpa [Ascii.isAscii] using plain
      simpa [text, read, fits, plain, bind, Except.bind] using each
    · have some_high : ¬ ∀ byte ∈ reader.bytes.slice offset length, byte < 0x80 := by
        simpa [Ascii.isAscii] using plain
      simp [text, read, fits, plain, some_high, bind, Except.bind]
  · simp [text, read, fits, bind, Except.bind]

theorem window_ok_iff (reader inner : Reader) (offset length : Nat) :
    reader.window offset length = .ok inner ↔
      offset + length ≤ reader.limit ∧ ⟨reader.bytes.slice offset length, 0⟩ = inner := by
  by_cases fits : offset + length ≤ reader.limit <;>
    simp [window, read, fits, bind, Except.bind, pure, Except.pure]

end Reader

end AcpiAudit
