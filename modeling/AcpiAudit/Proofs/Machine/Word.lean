import AcpiAudit.Bytes.Basic
import Mathlib.Algebra.Ring.Nat

set_option autoImplicit false

namespace AcpiAudit

inductive Panic where
  | overflow
  | underflow
  | shift
  | index
  | size
deriving Repr, DecidableEq

abbrev Checked := Except Panic

def addressBits : Nat := 64

namespace Word

def add (bits left right : Nat) : Checked Nat :=
  if left + right < 2 ^ bits then .ok (left + right) else .error .overflow

def subtract (left right : Nat) : Checked Nat :=
  if right ≤ left then .ok (left - right) else .error .underflow

def multiply (bits left right : Nat) : Checked Nat :=
  if left * right < 2 ^ bits then .ok (left * right) else .error .overflow

-- Bits that are shifted out at the top are lost; only the distance is checked.
def shiftLeft (bits value distance : Nat) : Checked Nat :=
  if distance < bits then .ok ((value <<< distance) % 2 ^ bits) else .error .shift

def byteAt (bytes : Bytes) (index : Nat) : Checked UInt8 :=
  match bytes[index]? with
  | some byte => .ok byte
  | none => .error .index

def copy (size : Nat) (source : Bytes) : Checked (Block size) :=
  if same : source.length = size then .ok ⟨source, same⟩ else .error .size

def checkedAdd? (bits left right : Nat) : Option Nat :=
  if left + right < 2 ^ bits then some (left + right) else none

def saturate (bits value : Nat) : Nat := min value (2 ^ bits - 1)

variable {bits left right : Nat}

theorem add_fits (fits : left + right < 2 ^ bits) : add bits left right = .ok (left + right) :=
  if_pos fits

theorem subtract_fits (fits : right ≤ left) : subtract left right = .ok (left - right) :=
  if_pos fits

theorem multiply_fits (fits : left * right < 2 ^ bits) :
    multiply bits left right = .ok (left * right) := if_pos fits

example : multiply addressBits (2 ^ 32) (2 ^ 32) = .error .overflow := rfl

theorem shift_fits {value distance : Nat} (inside : distance < bits)
    (fits : value <<< distance < 2 ^ bits) :
    shiftLeft bits value distance = .ok (value <<< distance) := by
  rw [shiftLeft, if_pos inside, Nat.mod_eq_of_lt fits]

theorem byte_inside {bytes : Bytes} {index : Nat} (inside : index < bytes.length) :
    byteAt bytes index = .ok bytes[index] := by
  rw [byteAt, List.getElem?_eq_getElem inside]

theorem copy_fits {size : Nat} {source : Bytes} (same : source.length = size) :
    copy size source = .ok ⟨source, same⟩ := dif_pos same

theorem saturate_fits {value : Nat} (fits : value < 2 ^ bits) : saturate bits value = value :=
  Nat.min_eq_left (by omega)

end Word

end AcpiAudit
