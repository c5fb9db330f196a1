import AcpiAudit.Proofs.Bytes.Slice
import AcpiAudit.Rule

set_option autoImplicit false

namespace AcpiAudit

def Bytes.AllZero (bytes : Bytes) : Prop := ∀ byte ∈ bytes, byte = 0

-- Named, since the search may find an enumeration of all 256 bytes first.
instance (bytes : Bytes) : Decidable bytes.AllZero := List.decidableBAll (· = 0) bytes

def ClearBits (value low high : Nat) : Prop :=
  ∀ bit ≤ high, low ≤ bit → value.testBit bit = false

instance (value low high : Nat) : Decidable (ClearBits value low high) :=
  inferInstanceAs (Decidable (∀ bit ≤ high, low ≤ bit → value.testBit bit = false))

theorem shifted_zero_iff {value low high : Nat} (bounded : value < 2 ^ (high + 1)) :
    value >>> low = 0 ↔ ClearBits value low high := by
  constructor
  · intro zero bit below above
    have shifted := congrArg (fun number => number.testBit (bit - low)) zero
    have place : low + (bit - low) = bit := by omega
    simpa [place] using shifted
  · intro clear
    apply Nat.eq_of_testBit_eq
    intro bit
    rw [Nat.testBit_shiftRight, Nat.zero_testBit]
    by_cases below : low + bit ≤ high
    · exact clear (low + bit) below (by omega)
    · apply Nat.testBit_lt_two_pow
      exact Nat.lt_of_lt_of_le bounded (Nat.pow_le_pow_right (by decide) (by omega))

theorem field_shifted_zero_iff (bytes : Bytes) (offset width low : Nat) :
    bytes.number offset width >>> low = 0 ↔
      ClearBits (bytes.number offset width) low (8 * width - 1) := by
  apply shifted_zero_iff
  have bound := Bytes.number_lt bytes offset width
  have power : 256 ^ width = 2 ^ (8 * width) := by rw [Nat.pow_mul]
  rw [power] at bound
  exact Nat.lt_of_lt_of_le bound (Nat.pow_le_pow_right (by decide) (by omega))

namespace Rule

theorem mask_test_bit {low high : Nat} (ordered : low ≤ high) (bit : Nat) :
    (mask low high).testBit bit = decide (low ≤ bit ∧ bit ≤ high) := by
  rw [mask, Nat.testBit_shiftLeft, Nat.one_shiftLeft, Nat.testBit_two_pow_sub_one]
  by_cases above : low ≤ bit
  · have inside : bit - low < high - low + 1 ↔ bit ≤ high := by omega
    simp [above, inside]
  · simp [above]

theorem masked_zero_iff {low high : Nat} (ordered : low ≤ high) (value : Nat) :
    value &&& mask low high = 0 ↔ ClearBits value low high := by
  constructor
  · intro zero bit below above
    have masked := congrArg (fun number => number.testBit bit) zero
    simpa [mask_test_bit ordered, above, below] using masked
  · intro clear
    apply Nat.eq_of_testBit_eq
    intro bit
    rw [Nat.testBit_and, mask_test_bit ordered, Nat.zero_testBit]
    by_cases inside : low ≤ bit ∧ bit ≤ high
    · simp [clear bit inside.2 inside.1]
    · simp [inside]

end Rule

def Outcome.Decides (outcome : Outcome) (condition : Prop) : Prop :=
  (condition ∧ outcome = .passed) ∨ (¬ condition ∧ outcome.isFailed = true)

theorem decides_failed_iff {outcome : Outcome} {condition : Prop}
    (decided : outcome.Decides condition) : outcome.isFailed = true ↔ ¬ condition := by
  obtain ⟨holds, rfl⟩ | ⟨fails, failed⟩ := decided
  · exact iff_of_false Bool.false_ne_true (not_not_intro holds)
  · exact iff_of_true failed fails

theorem decides_ite (condition : Prop) [Decidable condition] (code message : String) :
    (if condition then Outcome.passed else .failure code message).Decides condition := by
  by_cases holds : condition
  · exact .inl ⟨holds, if_pos holds⟩
  · exact .inr ⟨holds, by rw [if_neg holds]; rfl⟩

namespace Rule

theorem zero_decides (value : Nat) : (zero value).Decides (value = 0) := decides_ite _ _ _

theorem equals_decides (value expected : Nat) :
    (equals value expected).Decides (value = expected) := decides_ite _ _ _

theorem one_of_decides (value : Nat) (allowed : List Nat) :
    (oneOf value allowed).Decides (value ∈ allowed) := decides_ite _ _ _

theorem within_decides (value least greatest : Nat) :
    (within value least greatest).Decides (least ≤ value ∧ value ≤ greatest) := decides_ite _ _ _

theorem address_space_decides (id : Nat) (allowed : List Nat) :
    (addressSpace id allowed).Decides (id ∈ allowed) := decides_ite _ _ _

theorem known_guid_decides (guid : Guid) (allowed : List Guid) :
    (knownGuid guid allowed).Decides (guid ∈ allowed) := decides_ite _ _ _

theorem at_least_decides (length minimum : Nat) :
    (atLeast length minimum).Decides (minimum ≤ length) := decides_ite _ _ _

theorem zero_sum_decides (bytes : Bytes) :
    (zeroSum bytes).Decides ((bytes.map UInt8.toNat).sum % 256 = 0) := by
  rw [← Bytes.byte_sum_zero_iff]
  exact decides_ite _ _ _

theorem zero_bytes_decides (bytes : Bytes) :
    (zeroBytes bytes).Decides bytes.AllZero := by
  have clean := Bytes.first_where_none_iff bytes (· != 0)
  simp only [bne_eq_false_iff_eq] at clean
  rw [Bytes.AllZero, ← clean, zeroBytes]
  cases bytes.firstWhere (· != 0) with
  | none => exact .inl ⟨rfl, rfl⟩
  | some entry => exact .inr ⟨by simp, rfl⟩

theorem clear_bits_decides (value one other : Nat) :
    (clearBits value one other).Decides
      (ClearBits value (min one other) (min (max one other) 127)) := by
  by_cases beyond : 127 < min one other
  · have vacuous : ClearBits value (min one other) (min (max one other) 127) := by
      intro bit below above
      omega
    exact .inl ⟨vacuous, by simp [clearBits, beyond]⟩
  · have ordered : min one other ≤ min (max one other) 127 := by omega
    rw [← masked_zero_iff ordered]
    simp only [clearBits, if_neg beyond]
    exact decides_ite _ _ _

theorem clear_bits_fails_iff (value one other : Nat) :
    (clearBits value one other).isFailed = true ↔
      ∃ bit, min one other ≤ bit ∧ bit ≤ min (max one other) 127 ∧ value.testBit bit = true := by
  rw [decides_failed_iff (clear_bits_decides value one other)]
  simp only [ClearBits, not_forall, Bool.not_eq_false]
  constructor
  · rintro ⟨bit, below, above, set⟩
    exact ⟨bit, above, below, set⟩
  · rintro ⟨bit, above, below, set⟩
    exact ⟨bit, below, above, set⟩

theorem clear_bits_swapped (value one other : Nat) :
    clearBits value other one = clearBits value one other := by
  rw [clearBits, clearBits, Nat.min_comm, Nat.max_comm]

def Between (value low high set : Nat) : Prop :=
  ∀ bit, set.testBit bit = (decide (low ≤ bit ∧ bit ≤ high) && value.testBit bit)

theorem masked_between {low high : Nat} (ordered : low ≤ high) (value : Nat) :
    Between value low high (value &&& mask low high) := by
  intro bit
  rw [Nat.testBit_and, mask_test_bit ordered, Bool.and_comm]

theorem clear_bits_reports (value one other : Nat) :
    let low := min one other
    let high := min (max one other) 127
    ∃ set, Between value low high set ∧ clearBits value one other =
      if set = 0 then .passed
      else
        let shown := Hex.text value
        let offending := Hex.text set
        .failure "ReservedBitsSet"
          s!"reserved bits [{high}:{low}] must be zero, got {shown} (set: {offending})" := by
  intro low high
  by_cases beyond : 127 < low
  · refine ⟨0, fun bit => ?_, if_pos beyond⟩
    have outside : ¬ (low ≤ bit ∧ bit ≤ high) := by omega
    simp [outside]
  · have ordered : low ≤ high := by omega
    exact ⟨value &&& mask low high, masked_between ordered value, if_neg beyond⟩

end Rule

end AcpiAudit
