import AcpiAudit.Proofs.Machine.Word
import AcpiAudit.Proofs.Rule

set_option autoImplicit false

namespace AcpiAudit

namespace Rule

def fieldBits : Nat := 128

def runMask (low high : Nat) : Checked Nat := do
  let distance ← Word.subtract high low
  let width ← Word.add 32 distance 1
  if width = fieldBits then return 2 ^ fieldBits - 1
  else
    let next ← Word.shiftLeft fieldBits 1 width
    let ones ← Word.subtract next 1
    Word.shiftLeft fieldBits ones low

def runClearBits (value one other : Nat) : Checked Outcome := do
  let low := min one other
  let high := min (max one other) 127
  if 127 < low then return .passed
  else
    let mask ← runMask low high
    let set := value &&& mask
    if set = 0 then return .passed
    else
      let shown := Hex.text value
      let offending := Hex.text set
      return .failure "ReservedBitsSet"
        s!"reserved bits [{high}:{low}] must be zero, got {shown} (set: {offending})"

def runZeroBytes (bytes : Bytes) : Checked Outcome :=
  match bytes.findIdx? (· != 0) with
  | none => return .passed
  | some index => do
    let byte ← Word.byteAt bytes index
    let shown := Hex.byteText byte.toNat
    return .failure "ReservedNonZero"
      s!"reserved bytes must be zero, byte {index} is {shown}"

theorem mask_lt {low high : Nat} (ordered : low ≤ high) : mask low high < 2 ^ (high + 1) := by
  apply Nat.lt_pow_two_of_testBit
  intro bit beyond
  rw [mask_test_bit ordered]
  simp only [decide_eq_false_iff_not]
  omega

theorem run_mask {low high : Nat} (ordered : low ≤ high) (inside : high ≤ 127) :
    runMask low high = .ok (mask low high) := by
  have distance : high - low + 1 < 2 ^ 32 := by omega
  rw [runMask, Word.subtract_fits ordered]
  simp only [bind, Except.bind, Word.add_fits distance]
  by_cases whole : high - low + 1 = fieldBits
  · have ends : low = 0 ∧ high = 127 := by
      simp only [fieldBits] at whole
      omega
    obtain ⟨rfl, rfl⟩ := ends
    rfl
  · have narrow : high - low + 1 < fieldBits := by
      simp only [fieldBits] at whole ⊢
      omega
    have top : 1 <<< (high - low + 1) < 2 ^ fieldBits := by
      rw [Nat.one_shiftLeft]
      exact Nat.pow_lt_pow_right (by decide) narrow
    have positive : 1 ≤ 1 <<< (high - low + 1) := by
      rw [Nat.one_shiftLeft]
      exact Nat.one_le_two_pow
    have whole_mask : mask low high < 2 ^ fieldBits := by
      refine Nat.lt_of_lt_of_le (mask_lt ordered) (Nat.pow_le_pow_right (by decide) ?_)
      simp only [fieldBits]
      omega
    have below : low < fieldBits := by
      simp only [fieldBits]
      omega
    rw [if_neg whole, Word.shift_fits narrow top]
    simp only [Word.subtract_fits positive]
    exact Word.shift_fits below whole_mask

theorem run_clear_bits (value one other : Nat) :
    runClearBits value one other = .ok (clearBits value one other) := by
  unfold runClearBits clearBits
  by_cases beyond : 127 < min one other
  · simp only [if_pos beyond]
    rfl
  · have ordered : min one other ≤ min (max one other) 127 := by omega
    simp only [if_neg beyond, run_mask ordered (Nat.min_le_right _ _), bind, Except.bind]
    split <;> rfl

theorem run_zero_bytes (bytes : Bytes) : runZeroBytes bytes = .ok (zeroBytes bytes) := by
  unfold runZeroBytes zeroBytes Bytes.firstWhere
  rw [Bytes.first_from bytes (· != 0)]
  cases found : bytes.findIdx? (· != 0) with
  | none => rfl
  | some index =>
      obtain ⟨inside, -⟩ := List.findIdx?_eq_some_iff_getElem.mp found
      simp only [Word.byte_inside inside, List.getElem?_eq_getElem inside, Option.bind_some,
        Option.map_some, Nat.zero_add]
      rfl

end Rule

theorem reserved_bits_are_those_between (value one other : Nat) :
    let low := min one other
    let high := min (max one other) 127
    let outcome := Rule.clearBits value one other
    Rule.runClearBits value one other = .ok outcome ∧
      Rule.clearBits value other one = outcome ∧
      (outcome.isFailed = true ↔
        ∃ bit, low ≤ bit ∧ bit ≤ high ∧ value.testBit bit = true) ∧
      ∃ set, Rule.Between value low high set ∧ outcome =
        if set = 0 then .passed
        else
          let shown := Hex.text value
          let offending := Hex.text set
          .failure "ReservedBitsSet"
            s!"reserved bits [{high}:{low}] must be zero, got {shown} (set: {offending})" :=
  ⟨Rule.run_clear_bits value one other, Rule.clear_bits_swapped value one other,
    Rule.clear_bits_fails_iff value one other, Rule.clear_bits_reports value one other⟩

end AcpiAudit
