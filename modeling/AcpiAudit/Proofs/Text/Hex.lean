import AcpiAudit.Bytes.Basic
import AcpiAudit.Text.Hex
import Mathlib.Algebra.Ring.Nat
import Mathlib.Data.List.Induction

set_option autoImplicit false

namespace AcpiAudit.Hex

def alphabet : List Char :=
  ['0', '1', '2', '3', '4', '5', '6', '7', '8', '9', 'A', 'B', 'C', 'D', 'E', 'F']

def digit? (character : Char) : Option Nat := alphabet.findIdx? (· == character)

def number? (digits : List Char) : Option Nat :=
  digits.foldlM (fun value digit => (digit? digit).map (16 * value + ·)) 0

def bytes? : List Char → Option Bytes
  | [] => some []
  | high :: low :: rest => do
    let byte ← number? [high, low]
    return UInt8.ofNat byte :: (← bytes? rest)
  | [_] => none

theorem digit_iff (character : Char) (value : Nat) :
    digit? character = some value ↔ value < 16 ∧ character = upperDigit value := by
  have written : ∀ value < 16, alphabet[value]? = some (upperDigit value) := by decide
  have read : ∀ value < 16, digit? (upperDigit value) = some value := by decide
  constructor
  · intro found
    obtain ⟨inside, same, -⟩ := List.findIdx?_eq_some_iff_getElem.mp found
    refine ⟨inside, ?_⟩
    have digit := written value inside
    rw [List.getElem?_eq_getElem inside] at digit
    rw [← eq_of_beq same, Option.some.inj digit]
  · rintro ⟨small, rfl⟩
    exact read value small

theorem digit_of_upper {width value : Nat} {character : Char}
    (member : character ∈ upper width value) : ∃ digit < 16, character = upperDigit digit := by
  induction width generalizing value with
  | zero => cases member
  | succ width ih =>
      rcases List.mem_append.mp member with front | last
      · exact ih front
      · exact ⟨value % 16, Nat.mod_lt _ (by decide), List.mem_singleton.mp last⟩

theorem number_then (digits : List Char) (digit : Char) :
    number? (digits ++ [digit]) =
      (number? digits).bind fun value => (digit? digit).map (16 * value + ·) := by
  rw [number?, List.foldlM_append]
  simp [number?]

theorem number_iff (digits : List Char) (value : Nat) :
    number? digits = some value ↔
      value < 16 ^ digits.length ∧ digits = upper digits.length value := by
  induction digits using List.reverseRecOn generalizing value with
  | nil => simp [number?, upper, eq_comm]
  | append_singleton digits digit ih =>
      rw [number_then, List.length_append, List.length_singleton, upper, Nat.pow_succ]
      simp only [Option.bind_eq_some_iff, Option.map_eq_some_iff, digit_iff, ih]
      constructor
      · rintro ⟨front, ⟨room, same⟩, last, ⟨small, rfl⟩, rfl⟩
        have high : (16 * front + last) / 16 = front := by omega
        have low : (16 * front + last) % 16 = last := by omega
        refine ⟨by omega, ?_⟩
        rw [high, low, ← same]
      · rintro ⟨room, same⟩
        obtain ⟨front, last⟩ := List.append_inj' same rfl
        have first := List.cons.inj last
        refine ⟨value / 16, ⟨by omega, front⟩, value % 16, ⟨by omega, first.1⟩, by omega⟩

theorem number_upper {width value : Nat} (room : value < 16 ^ width) :
    number? (upper width value) = some value := by
  rw [number_iff, length_upper]
  exact ⟨room, rfl⟩

theorem length_bytes (bytes : Bytes) :
    (bytes.flatMap fun byte => upper 2 byte.toNat).length = 2 * bytes.length := by
  induction bytes with
  | nil => rfl
  | cons byte rest ih =>
      rw [List.flatMap_cons, List.length_append, length_upper, ih, List.length_cons]
      omega

theorem bytes_iff (digits : List Char) (bytes : Bytes) :
    bytes? digits = some bytes ↔ digits = bytes.flatMap fun byte => upper 2 byte.toNat := by
  induction digits using bytes?.induct generalizing bytes with
  | case1 => cases bytes <;> simp [bytes?, upper]
  | case2 high low rest ih =>
      simp only [bytes?, Option.bind_eq_bind, Option.bind_eq_some_iff, Option.pure_def,
        Option.some.injEq, number_iff, ih]
      constructor
      · rintro ⟨byte, ⟨room, same⟩, tail, rfl, rfl⟩
        have value : (UInt8.ofNat byte).toNat = byte := UInt8.toNat_ofNat_of_lt' room
        have pair : [high, low] = upper 2 byte := same
        rw [List.flatMap_cons, value, ← pair]
        rfl
      · intro same
        cases bytes with
        | nil => cases same
        | cons byte tail =>
            have joined : [high, low] ++ rest = upper 2 byte.toNat ++
                tail.flatMap fun byte => upper 2 byte.toNat := same
            obtain ⟨front, back⟩ := List.append_inj joined rfl
            refine ⟨byte.toNat, ⟨byte.toNat_lt, front⟩, tail, back, ?_⟩
            rw [UInt8.ofNat_toNat]
  | case3 single =>
      refine iff_of_false (by simp [bytes?]) fun same => ?_
      have odd := congrArg List.length same
      rw [length_bytes, List.length_singleton] at odd
      omega

end AcpiAudit.Hex
