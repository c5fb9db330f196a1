import AcpiAudit.Proofs.Checks.Gate

set_option autoImplicit false

namespace AcpiAudit

namespace Bytes

theorem byte_sum_eq (bytes : Bytes) : bytes.byteSum = bytes.sum := by
  rw [List.sum_eq_foldl, byteSum]

theorem byte_sum_append (front back : Bytes) :
    (front ++ back).byteSum = front.byteSum + back.byteSum := by
  simp only [byte_sum_eq, List.sum_append]

theorem byte_sum_perm {one other : Bytes} (same : one.Perm other) :
    one.byteSum = other.byteSum := by
  rw [byte_sum_eq, byte_sum_eq, same.sum_eq]

def withByte (bytes : Bytes) (index : Nat) (value : UInt8) : Bytes := bytes.set index value

section Change

variable {bytes : Bytes} {index : Nat}

theorem length_with_byte (bytes : Bytes) (index : Nat) (value : UInt8) :
    (bytes.withByte index value).length = bytes.length := List.length_set

theorem with_own_byte (inside : index < bytes.length) :
    bytes.withByte index bytes[index] = bytes := List.set_getElem_self inside

theorem slice_before_byte {offset count : Nat} (before : offset + count ≤ index) (value : UInt8) :
    slice (bytes.withByte index value) offset count = slice bytes offset count := by
  have kept : (bytes.withByte index value).take index = bytes.take index :=
    List.take_set_of_le (Nat.le_refl index)
  rw [← slice_take before, kept, slice_take before]

theorem number_before_byte {offset width : Nat} (before : offset + width ≤ index)
    (value : UInt8) :
    (bytes.withByte index value).number offset width = bytes.number offset width :=
  congrArg littleEndian (slice_before_byte before value)

theorem byte_sum_with_byte (inside : index < bytes.length) (value : UInt8) :
    (bytes.withByte index value).byteSum = value + (bytes.withByte index 0).byteSum := by
  have parts (byte : UInt8) : (bytes.withByte index byte).byteSum =
      (bytes.take index).sum + (byte + (bytes.drop (index + 1)).sum) := by
    rw [byte_sum_eq, withByte, List.sum_set, if_pos inside, add_assoc]
  rw [parts value, parts 0, zero_add, add_left_comm]

theorem zero_sum_iff (inside : index < bytes.length) (value : UInt8) :
    (bytes.withByte index value).byteSum = 0 ↔
      value = 0 - (bytes.withByte index 0).byteSum := by
  rw [byte_sum_with_byte inside, eq_sub_iff_add_eq]

theorem changed_sum_nonzero (inside : index < bytes.length) {value : UInt8}
    (zero : bytes.byteSum = 0) (changed : value ≠ bytes[index]) :
    (bytes.withByte index value).byteSum ≠ 0 := by
  intro still
  have own : (bytes.withByte index bytes[index]).byteSum = 0 := by rwa [with_own_byte inside]
  apply changed
  rw [(zero_sum_iff inside _).mp still, ← (zero_sum_iff inside _).mp own]

end Change

end Bytes

namespace Rule

theorem zero_sum_passes_iff (bytes : Bytes) : zeroSum bytes = .passed ↔ bytes.byteSum = 0 := by
  by_cases zero : bytes.byteSum = 0
  · exact ⟨fun _ => zero, fun _ => if_pos zero⟩
  · refine ⟨?_, fun sum => absurd sum zero⟩
    intro passed
    rw [zeroSum, if_neg zero] at passed
    cases passed

theorem zero_sum_fails {bytes : Bytes} (nonzero : bytes.byteSum ≠ 0) :
    ∃ message, zeroSum bytes = .failure "BadChecksum" message := ⟨_, if_neg nonzero⟩

end Rule

def Admission.sumFinding (bytes : Bytes) : Finding :=
  let sum := Hex.byteText bytes.byteSum.toNat
  .failure .medium "BadChecksum"
    ("Checksum: " ++ s!"checksum over {bytes.length} bytes is {sum}, expected 0x00")

section Table

variable {data : Bytes} {image : Image} {label : String} {signature : Signature} {minimum : Nat}

theorem whole_sum_zero (loaded : image.LoadedFrom data) (whole : data.number 4 4 = data.length)
    {admitted : Admitted}
    (passes : (Image.admission image label signature minimum).Passes (some admitted)) :
    data.byteSum = 0 := by
  obtain ⟨header, -, -, -, -, complete, -⟩ := (Audit.passes_admission _ _ _ _ _).mp passes
  have sound := (Audit.passes_completeness loaded header ()).mp complete
  exact (Bytes.byte_sum_zero_iff data).mpr (sound.resolve_left (absurd whole))

theorem whole_sum_found (whole : data.number 4 4 = data.length) (nonzero : data.byteSum ≠ 0)
    (told : Nat) : Admission.completenessFindings data told = [Admission.sumFinding data] := by
  have unsound : ¬ SumsToZero data := fun sum => nonzero ((Bytes.byte_sum_zero_iff data).mpr sum)
  rw [Admission.completenessFindings, if_neg (not_not.mpr whole), if_neg unsound]
  rfl

-- The first eight bytes hold all that an admission asks for besides the sum and the size.
theorem changed_admission {index : Nat} (inside : index < data.length) (behind : 8 ≤ index)
    {value : UInt8} (changed : value ≠ data[index]) (loaded : image.LoadedFrom data)
    (whole : data.number 4 4 = data.length) {admitted : Admitted}
    (passes : (Image.admission image label signature minimum).Passes (some admitted))
    {other : Image} (reloaded : other.LoadedFrom (data.withByte index value)) :
    ∃ kept, (Image.admission other label signature minimum).Gives
      [Admission.sumFinding (data.withByte index value)] (some kept) := by
  obtain ⟨header, read, named, -, fits, -, -⟩ := (Audit.passes_admission _ _ _ _ _).mp passes
  have room : 36 ≤ (seen data).length := (header_length loaded read).1
  have declared : (data.withByte index value).number 4 4 = data.number 4 4 :=
    Bytes.number_before_byte behind value
  have visible : visibleSize (data.withByte index value) = visibleSize data := by
    rw [visibleSize, declared, Bytes.length_with_byte, visibleSize]
  have same : other.signature = image.signature := by
    apply signature_eq_of_bytes
    rw [reloaded.signature, loaded.signature, Bytes.slice_before_byte (by omega)]
  have signed : image.signature = signature := by
    obtain ⟨own, found, agrees, -⟩ := header_of_loaded loaded room
    obtain rfl : own = header := Except.ok.inj (found.symm.trans read)
    exact agrees.symm.trans named
  have still : (data.withByte index value).number 4 4 = (data.withByte index value).length := by
    rw [declared, whole, Bytes.length_with_byte]
  have nonzero := Bytes.changed_sum_nonzero inside (whole_sum_zero loaded whole passes) changed
  have settles := admission_settles reloaded label signature minimum
  obtain ⟨kept, -, gives⟩ := settles.admitted
    (by rwa [visible, visibleSize, ← seen_length]) (same.trans signed)
    (by rwa [visible, ← visible_limit loaded])
  rw [whole_sum_found still nonzero] at gives
  exact ⟨kept, gives⟩

end Table

theorem checksum_fixes_each_byte :
    (∀ front back : Bytes, (front ++ back).byteSum = front.byteSum + back.byteSum) ∧
    (∀ one other : Bytes, one.Perm other → one.byteSum = other.byteSum) ∧
    (∀ (bytes : Bytes) (index : Nat), index < bytes.length → ∀ value : UInt8,
      Rule.zeroSum (bytes.withByte index value) = .passed ↔
        value = 0 - (bytes.withByte index 0).byteSum) ∧
    (∀ (bytes : Bytes) (index : Nat) (inside : index < bytes.length) (value : UInt8),
      Rule.zeroSum bytes = .passed → value ≠ bytes[index] →
        ∃ message, Rule.zeroSum (bytes.withByte index value) = .failure "BadChecksum" message) ∧
    ∀ (data : Bytes) (address ordinal : Nat) (image : Image) (label : String)
      (signature : Signature) (minimum : Nat) (admitted : Admitted),
      Image.ofBytes data address ordinal = .ok image → image.length = data.length →
      (Image.admission image label signature minimum).Passes (some admitted) →
      ∀ (index : Nat) (inside : index < data.length) (value : UInt8),
        8 ≤ index → value ≠ data[index] →
        let corrupted := data.withByte index value
        ∃ other kept, Image.ofBytes corrupted address ordinal = .ok other ∧
          (Image.admission other label signature minimum).Gives
            [Admission.sumFinding corrupted] (some kept) ∧
          ∀ report : Report,
            (report.addFindings label [Admission.sumFinding corrupted]).hasFailure
              (label ++ "BadChecksum") = true := by
  refine ⟨Bytes.byte_sum_append, fun _ _ => Bytes.byte_sum_perm, ?_, ?_, ?_⟩
  · intro bytes index inside value
    rw [Rule.zero_sum_passes_iff, Bytes.zero_sum_iff inside]
  · intro bytes index inside value passed changed
    have zero := (Rule.zero_sum_passes_iff bytes).mp passed
    exact Rule.zero_sum_fails (Bytes.changed_sum_nonzero inside zero changed)
  · intro data address ordinal image label signature minimum admitted loads length passes
      index inside value behind changed corrupted
    have loaded := loaded_of_bytes loads
    have room : 9 ≤ corrupted.length := by
      rw [Bytes.length_with_byte]
      exact loaded.room
    obtain ⟨other, reloads⟩ := loads_of_room room address ordinal
    obtain ⟨kept, gives⟩ := changed_admission inside behind changed loaded
      (loaded.length.symm.trans length) passes (loaded_of_bytes reloads)
    refine ⟨other, kept, reloads, gives, ?_⟩
    intro report
    rw [Report.has_failure_iff]
    exact ⟨.medium, _, List.mem_append_right _ (List.mem_singleton_self _)⟩

-- The byte behind the declared length is the revision, which an admission does not ask for.
theorem checksum_fixes_each_byte_bare_apmt :
    let image : Image := ⟨.apmt, 36, 0, bareApmt, 0, 0⟩
    Image.ofBytes bareApmt 0 0 = .ok image ∧ image.length = bareApmt.length ∧
      Rule.zeroSum bareApmt = .passed ∧
      (∀ value, Rule.zeroSum (bareApmt.withByte 9 value) = .passed ↔ value = 170) ∧
      (∃ message, Rule.zeroSum (bareApmt.withByte 35 1) = .failure "BadChecksum" message) ∧
      ∃ admitted, (Image.admission image "APMT" .apmt 36).Passes (some admitted) ∧
        ∃ other kept, Image.ofBytes (bareApmt.withByte 8 1) 0 0 = .ok other ∧
          (Image.admission other "APMT" .apmt 36).Gives [.failure .medium "BadChecksum"
            "Checksum: checksum over 36 bytes is 0x01, expected 0x00"] (some kept) := by
  intro image
  have loads : Image.ofBytes bareApmt 0 0 = .ok image := rfl
  have length : image.length = bareApmt.length := rfl
  have zero : Rule.zeroSum bareApmt = .passed := by decide
  have passes : (Image.admission image "APMT" .apmt 36).Passes
      (some ⟨Reader.headerOf bareApmt (by decide), image.reader⟩) := ⟨by decide, rfl⟩
  obtain ⟨-, -, only, fails, admissions⟩ := checksum_fixes_each_byte
  obtain ⟨other, kept, reloads, gives, -⟩ := admissions bareApmt 0 0 image "APMT" .apmt 36 _
    loads length passes 8 (by decide) 1 (by decide) (by decide)
  have finding : Admission.sumFinding (bareApmt.withByte 8 1) = .failure .medium "BadChecksum"
      "Checksum: checksum over 36 bytes is 0x01, expected 0x00" := by cbv
  rw [finding] at gives
  have own : 0 - (bareApmt.withByte 9 0).byteSum = 170 := by decide
  refine ⟨loads, length, zero, ?_, fails bareApmt 35 (by decide) 1 zero (by decide), _, passes,
    other, kept, reloads, gives⟩
  intro value
  rw [only bareApmt 9 (by decide) value, own]

end AcpiAudit
