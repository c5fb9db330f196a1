set_option autoImplicit false

namespace AcpiAudit

abbrev Bytes := List UInt8

abbrev Block (size : Nat) := { bytes : Bytes // bytes.length = size }

namespace Bytes

-- The `count` bytes from `offset` on, or as many of them as there are.
def slice (bytes : Bytes) (offset count : Nat) : Bytes :=
  (bytes.drop offset).take count

def littleEndian : Bytes → Nat
  | [] => 0
  | byte :: rest => byte.toNat + 256 * littleEndian rest

def number (bytes : Bytes) (offset width : Nat) : Nat :=
  littleEndian (slice bytes offset width)

def ofNumber : Nat → Nat → Bytes
  | 0, _ => []
  | width + 1, value => UInt8.ofNat value :: ofNumber width (value / 256)

-- The consecutive little-endian words of a byte string; a last odd byte belongs to none.
def words : Bytes → List Nat
  | low :: high :: rest => littleEndian [low, high] :: words rest
  | _ => []

def byteSum (bytes : Bytes) : UInt8 := bytes.foldl (· + ·) 0

def firstWhere (bytes : Bytes) (wanted : UInt8 → Bool) : Option (UInt8 × Nat) :=
  bytes.zipIdx.find? fun entry => wanted entry.1

theorem length_slice (bytes : Bytes) (offset count : Nat) :
    (slice bytes offset count).length = min count (bytes.length - offset) := by
  simp [slice]

theorem length_slice_of_fits {bytes : Bytes} {offset count : Nat}
    (fits : offset + count ≤ bytes.length) : (slice bytes offset count).length = count := by
  rw [length_slice]
  omega

theorem length_ofNumber (width value : Nat) : (ofNumber width value).length = width := by
  induction width generalizing value with
  | zero => rfl
  | succ width ih => simp [ofNumber, ih]

end Bytes

end AcpiAudit
