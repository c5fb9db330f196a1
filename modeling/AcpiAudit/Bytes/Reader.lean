import AcpiAudit.Text.Ascii
import AcpiAudit.Text.Hex

/-!
Bounds-checked reads. A reader shows a byte string from its start up to a limit; every read names
an offset from that start and fails when it would pass the limit. The position matters only to
`advance`, `seek` and `remaining`.
-/

set_option autoImplicit false

namespace AcpiAudit

inductive ReadError where
  | truncated (offset needed available : Nat)
  | nonAscii (offset length : Nat)
deriving Repr, DecidableEq

namespace ReadError

def suffix : ReadError → String
  | .truncated .. => "TruncatedRead"
  | .nonAscii .. => "NonAsciiField"

def message : ReadError → String
  | .truncated offset needed available =>
    let place := Hex.text offset
    s!"read of {needed} bytes at offset {place} exceeds table bounds ({available} bytes available)"
  | .nonAscii offset length =>
    let place := Hex.text offset
    s!"field of {length} bytes at offset {place} contains non-ASCII bytes"

end ReadError

inductive Width where
  | one
  | two
  | four
deriving Repr, DecidableEq

namespace Width

def bytes : Width → Nat
  | one => 1
  | two => 2
  | four => 4

theorem bytes_pos (width : Width) : 0 < width.bytes := by
  cases width <;> decide

end Width

structure Reader where
  bytes : Bytes
  position : Nat := 0
deriving Repr, DecidableEq

namespace Reader

def upTo (limit : Nat) (data : Bytes) : Reader := ⟨data.take limit, 0⟩

def limit (reader : Reader) : Nat := reader.bytes.length

def remaining (reader : Reader) : Nat := reader.limit - reader.position

def read (reader : Reader) (offset count : Nat) : Except ReadError Bytes :=
  if offset + count ≤ reader.limit then .ok (reader.bytes.slice offset count)
  else .error (.truncated offset count (reader.limit - offset))

theorem length_of_read {reader : Reader} {offset count : Nat} {bytes : Bytes}
    (found : reader.read offset count = .ok bytes) : bytes.length = count := by
  unfold read at found
  split at found
  · next fits =>
    cases found
    exact Bytes.length_slice_of_fits fits
  · cases found

def block (reader : Reader) (offset size : Nat) : Except ReadError (Block size) :=
  match found : reader.read offset size with
  | .ok bytes => .ok ⟨bytes, length_of_read found⟩
  | .error error => .error error

def number (reader : Reader) (offset width : Nat) : Except ReadError Nat :=
  (reader.read offset width).map Bytes.littleEndian

def u8 (reader : Reader) (offset : Nat) : Except ReadError Nat := reader.number offset 1

def u16 (reader : Reader) (offset : Nat) : Except ReadError Nat := reader.number offset 2

def u32 (reader : Reader) (offset : Nat) : Except ReadError Nat := reader.number offset 4

def u64 (reader : Reader) (offset : Nat) : Except ReadError Nat := reader.number offset 8

-- A text field: ASCII characters, padded with zero bytes at the end. That the field fits is judged
-- before its characters.
def text (reader : Reader) (offset length : Nat) : Except ReadError String := do
  let field ← reader.read offset length
  if field.all Ascii.isAscii then .ok (Ascii.text (Ascii.unpadded field))
  else .error (.nonAscii offset length)

def window (reader : Reader) (offset length : Nat) : Except ReadError Reader := do
  let bytes ← reader.read offset length
  return ⟨bytes, 0⟩

def advance (reader : Reader) (count : Nat) : Except ReadError Reader :=
  if reader.position + count ≤ reader.limit then
    .ok { reader with position := reader.position + count }
  else .error (.truncated reader.position count (reader.limit - reader.position))

def seek (reader : Reader) (offset : Nat) : Except ReadError Reader :=
  if offset ≤ reader.limit then .ok { reader with position := offset }
  else .error (.truncated offset 0 (reader.limit - offset))

end Reader

end AcpiAudit
