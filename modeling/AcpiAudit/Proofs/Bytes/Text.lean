import AcpiAudit.Proofs.Bytes.Slice
import Mathlib.Data.List.DropRight

set_option autoImplicit false

namespace AcpiAudit

namespace Ascii

def nuls (count : Nat) : String := String.ofList (List.replicate count '\x00')

def trimmed (text : String) : String := String.ofList (text.toList.rdropWhile (· == '\x00'))

theorem trimmed_end (text : String) : (trimmed text).toList.getLast? ≠ some '\x00' := by
  rw [trimmed, String.toList_ofList]
  intro last
  by_cases empty : text.toList.rdropWhile (· == '\x00') = []
  · rw [empty] at last
    cases last
  · have kept := List.rdropWhile_last_not _ _ empty
    rw [List.getLast?_eq_some_getLast empty] at last
    exact kept (beq_iff_eq.mpr (Option.some.inj last))

theorem trimmed_then_nuls {text : String} (bare : text.toList.getLast? ≠ some '\x00')
    (count : Nat) : trimmed (text ++ nuls count) = text := by
  have kept : text.toList.rdropWhile (· == '\x00') = text.toList := by
    rw [List.rdropWhile_eq_self_iff]
    intro nonempty last
    apply bare
    rw [List.getLast?_eq_some_getLast nonempty, eq_of_beq last]
  have gone : ∀ character ∈ List.replicate count '\x00', (character == '\x00') = true := by
    intro character member
    exact beq_iff_eq.mpr (List.eq_of_mem_replicate member)
  rw [trimmed, nuls, String.toList_append, String.toList_ofList, List.rdropWhile,
    List.reverse_append, List.reverse_replicate, List.dropWhile_append_of_pos gone,
    ← List.rdropWhile, kept, String.ofList_toList]

theorem trimmed_ascii (bytes : Bytes) : trimmed (text bytes) = text (unpadded bytes) := by
  have zero (byte : UInt8) : (Char.ofUInt8 byte == '\x00') = (byte == 0) := by
    rw [Bool.eq_iff_iff, beq_iff_eq, beq_iff_eq]
    constructor
    · intro same
      have code : byte.toUInt32 = 0 := congrArg Char.val same
      rw [← byte.toUInt8_toUInt32, code]
      rfl
    · rintro rfl
      rfl
  rw [trimmed, text, text, String.toList_ofList, List.rdropWhile, ← List.map_reverse,
    List.dropWhile_map, ← List.map_reverse]
  simp only [Function.comp_def, zero]
  rfl

end Ascii

namespace Bytes

def ofText (text : String) : Bytes := text.toByteArray.data.toList

theorem of_text_append (front back : String) :
    ofText (front ++ back) = ofText front ++ ofText back := by
  rw [ofText, String.toByteArray_append, ByteArray.toList_data_append]
  rfl

theorem of_text_bytes (text : String) : (ofText text).toByteArray = text.toByteArray :=
  ByteArray.ext (Array.toList_inj.mp List.toList_data_toByteArray)

theorem of_text_injective {one other : String} (same : ofText one = ofText other) :
    one = other := by
  apply String.toByteArray_inj.mp
  rw [← of_text_bytes, same, of_text_bytes]

theorem byte_of_character {byte : UInt8} (ascii : byte < 0x80) :
    String.utf8EncodeChar (Char.ofUInt8 byte) = [byte] := by
  have code : (Char.ofUInt8 byte).val = byte.toUInt32 := rfl
  have small : (Char.ofUInt8 byte).utf8Size = 1 := by
    rw [Char.utf8Size_eq_one_iff, code, UInt32.le_iff_toNat_le, UInt8.toNat_toUInt32]
    exact Nat.le_of_lt_succ (UInt8.lt_iff_toNat_lt.mp ascii)
  rw [String.utf8EncodeChar_eq_singleton small, code, UInt8.toUInt8_toUInt32]

def AllAscii (bytes : Bytes) : Prop := ∀ byte ∈ bytes, byte < 0x80

-- Named, since the search may find an enumeration of all 256 bytes first.
instance (bytes : Bytes) : Decidable bytes.AllAscii := List.decidableBAll (· < 0x80) bytes

theorem all_ascii_iff (bytes : Bytes) : bytes.all Ascii.isAscii = true ↔ bytes.AllAscii := by
  simp only [List.all_eq_true, Ascii.isAscii, decide_eq_true_eq, AllAscii]

theorem of_text_ascii {bytes : Bytes} (ascii : bytes.AllAscii) :
    ofText (Ascii.text bytes) = bytes := by
  rw [ofText, Ascii.text, String.toByteArray_ofList]
  induction bytes with
  | nil => rfl
  | cons byte rest ih =>
      have others := ih fun other member => ascii other (List.mem_cons_of_mem _ member)
      have head := byte_of_character (ascii byte List.mem_cons_self)
      rw [List.map_cons, List.utf8Encode_cons, List.utf8Encode_singleton, head,
        ByteArray.toList_data_append, others, List.toList_data_toByteArray]
      rfl

theorem of_text_nuls (count : Nat) : ofText (Ascii.nuls count) = List.replicate count 0 := by
  have ascii : AllAscii (List.replicate count 0) := by
    intro byte member
    rw [List.eq_of_mem_replicate member]
    decide
  have zeros : Ascii.text (List.replicate count 0) = Ascii.nuls count := by
    rw [Ascii.text, List.map_replicate]
    rfl
  rw [← zeros, of_text_ascii ascii]

-- The text of a field that zero bytes fill up. Only those at the end are not part of the text.
structure Padded (field : Bytes) (text : String) : Prop where
  filled : ∃ count, field = ofText text ++ List.replicate count 0
  bare : text.toList.getLast? ≠ some '\x00'

theorem padded_unique {field : Bytes} {one other : String} (first : field.Padded one)
    (second : field.Padded other) : one = other := by
  obtain ⟨⟨less, filled⟩, bare⟩ := first
  obtain ⟨⟨more, refilled⟩, rebare⟩ := second
  have same : one ++ Ascii.nuls less = other ++ Ascii.nuls more := by
    apply of_text_injective
    rw [of_text_append, of_text_append, of_text_nuls, of_text_nuls, ← filled, ← refilled]
  rw [← Ascii.trimmed_then_nuls bare less, same, Ascii.trimmed_then_nuls rebare]

theorem padded_ascii {field : Bytes} (ascii : field.AllAscii) :
    field.Padded (Ascii.text (Ascii.unpadded field)) := by
  have front : Ascii.unpadded field = field.rdropWhile (· == 0) := rfl
  have kept : AllAscii (Ascii.unpadded field) := by
    intro byte member
    exact ascii byte ((List.rdropWhile_prefix _ field).subset member)
  have back : field.rtakeWhile (· == 0) =
      List.replicate (field.rtakeWhile (· == 0)).length 0 := by
    refine List.eq_replicate_iff.mpr ⟨rfl, fun byte member => ?_⟩
    have zero : (byte == 0) = true := List.mem_rtakeWhile_imp (p := (· == 0)) member
    exact eq_of_beq zero
  refine ⟨⟨(field.rtakeWhile (· == 0)).length, ?_⟩, ?_⟩
  · rw [of_text_ascii kept, ← back, front, List.rdropWhile_append_rtakeWhile]
  · rw [← Ascii.trimmed_ascii]
    exact Ascii.trimmed_end _

end Bytes

namespace Reader

variable (reader : Reader) (offset length : Nat)

theorem text_eq :
    reader.text offset length =
      if offset + length ≤ reader.limit then
        if (reader.bytes.slice offset length).AllAscii then
          .ok (Ascii.text (Ascii.unpadded (reader.bytes.slice offset length)))
        else .error (.nonAscii offset length)
      else .error (.truncated offset length (reader.limit - offset)) := by
  rw [text, read]
  by_cases fits : offset + length ≤ reader.limit
  · by_cases ascii : (reader.bytes.slice offset length).AllAscii
    · simp only [if_pos fits, bind, Except.bind, if_pos ascii, (Bytes.all_ascii_iff _).mpr ascii]
      rfl
    · simp only [if_pos fits, bind, Except.bind, if_neg ascii, Bytes.all_ascii_iff]
  · simp only [if_neg fits, bind, Except.bind]

theorem text_ok_iff (content : String) :
    reader.text offset length = .ok content ↔
      offset + length ≤ reader.limit ∧
        (reader.bytes.slice offset length).AllAscii ∧
        (reader.bytes.slice offset length).Padded content := by
  rw [text_eq]
  constructor
  · intro found
    split_ifs at found with fits ascii
    · cases found
      exact ⟨fits, ascii, Bytes.padded_ascii ascii⟩
  · rintro ⟨fits, ascii, padded⟩
    rw [if_pos fits, if_pos ascii, Bytes.padded_unique (Bytes.padded_ascii ascii) padded]

theorem text_truncated_iff (place needed available : Nat) :
    reader.text offset length = .error (.truncated place needed available) ↔
      reader.limit < offset + length ∧
        place = offset ∧ needed = length ∧ available = reader.limit - offset := by
  rw [text_eq]
  constructor
  · intro failed
    split_ifs at failed with fits ascii
    · cases failed
    · cases failed
      exact ⟨Nat.lt_of_not_le fits, rfl, rfl, rfl⟩
  · rintro ⟨beyond, rfl, rfl, rfl⟩
    exact if_neg (Nat.not_le_of_lt beyond)

theorem text_non_ascii_iff (place size : Nat) :
    reader.text offset length = .error (.nonAscii place size) ↔
      offset + length ≤ reader.limit ∧
        (∃ byte ∈ reader.bytes.slice offset length, 0x80 ≤ byte) ∧
        place = offset ∧ size = length := by
  have outside : (∃ byte ∈ reader.bytes.slice offset length, 0x80 ≤ byte) ↔
      ¬ (reader.bytes.slice offset length).AllAscii := by
    simp only [Bytes.AllAscii, not_forall, UInt8.not_lt, exists_prop]
  rw [text_eq, outside]
  constructor
  · intro failed
    split_ifs at failed with fits ascii
    · cases failed
      exact ⟨fits, ascii, rfl, rfl⟩
    · cases failed
  · rintro ⟨fits, mixed, rfl, rfl⟩
    rw [if_pos fits, if_neg mixed]

end Reader

end AcpiAudit
