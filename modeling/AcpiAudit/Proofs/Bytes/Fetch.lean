import AcpiAudit.Proofs.Bytes.Slice

set_option autoImplicit false

namespace AcpiAudit

inductive Fetch where
  | bytes (offset length : Nat)
  | block (offset size : Nat)
  | u8 (offset : Nat)
  | u16 (offset : Nat)
  | u32 (offset : Nat)
  | u64 (offset : Nat)
  | number (offset : Nat) (width : Width)
deriving Repr, DecidableEq

inductive Fetched where
  | bytes (bytes : Bytes)
  | number (value : Nat)
deriving Repr, DecidableEq

namespace Fetch

def offset : Fetch → Nat
  | .bytes offset _ | .block offset _ | .u8 offset | .u16 offset | .u32 offset | .u64 offset
  | .number offset _ => offset

def size : Fetch → Nat
  | .bytes _ length => length
  | .block _ size => size
  | .u8 _ => 1
  | .u16 _ => 2
  | .u32 _ => 4
  | .u64 _ => 8
  | .number _ width => width.bytes

def value (fetch : Fetch) (piece : Bytes) : Fetched :=
  match fetch with
  | .bytes _ _ | .block _ _ => .bytes piece
  | .u8 _ | .u16 _ | .u32 _ | .u64 _ | .number _ _ => .number piece.littleEndian

def moved (distance : Nat) : Fetch → Fetch
  | .bytes offset length => .bytes (distance + offset) length
  | .block offset size => .block (distance + offset) size
  | .u8 offset => .u8 (distance + offset)
  | .u16 offset => .u16 (distance + offset)
  | .u32 offset => .u32 (distance + offset)
  | .u64 offset => .u64 (distance + offset)
  | .number offset width => .number (distance + offset) width

@[simp]
theorem moved_offset (distance : Nat) (fetch : Fetch) :
    (fetch.moved distance).offset = distance + fetch.offset := by
  cases fetch <;> rfl

@[simp]
theorem moved_size (distance : Nat) (fetch : Fetch) : (fetch.moved distance).size = fetch.size := by
  cases fetch <;> rfl

@[simp]
theorem moved_value (distance : Nat) (fetch : Fetch) :
    (fetch.moved distance).value = fetch.value := by
  cases fetch <;> rfl

end Fetch

namespace Reader

def fetch (reader : Reader) : Fetch → Except ReadError Fetched
  | .bytes offset length => (reader.read offset length).map .bytes
  | .block offset size => (reader.block offset size).map fun block => .bytes block.val
  | .u8 offset => (reader.u8 offset).map .number
  | .u16 offset => (reader.u16 offset).map .number
  | .u32 offset => (reader.u32 offset).map .number
  | .u64 offset => (reader.u64 offset).map .number
  | .number offset width => (reader.number offset width.bytes).map .number

theorem block_eq_read (reader : Reader) (offset size : Nat) :
    (reader.block offset size).map Subtype.val = reader.read offset size := by
  unfold block
  split
  · next bytes found => exact found.symm
  · next error failed => exact failed.symm

theorem fetch_eq_read (reader : Reader) (fetch : Fetch) :
    reader.fetch fetch = (reader.read fetch.offset fetch.size).map fetch.value := by
  have numbers (offset width : Nat) : (reader.number offset width).map Fetched.number =
      (reader.read offset width).map fun piece => .number piece.littleEndian := by
    rw [number]
    cases reader.read offset width <;> rfl
  cases fetch with
  | bytes offset length => rfl
  | block offset size =>
      change (reader.block offset size).map _ = (reader.read offset size).map Fetched.bytes
      rw [← block_eq_read]
      cases reader.block offset size <;> rfl
  | u8 offset => exact numbers offset 1
  | u16 offset => exact numbers offset 2
  | u32 offset => exact numbers offset 4
  | u64 offset => exact numbers offset 8
  | number offset width => exact numbers offset width.bytes

theorem fetch_eq (reader : Reader) (fetch : Fetch) :
    reader.fetch fetch =
      if fetch.offset + fetch.size ≤ reader.limit then
        .ok (fetch.value (reader.bytes.slice fetch.offset fetch.size))
      else .error (.truncated fetch.offset fetch.size (reader.limit - fetch.offset)) := by
  rw [fetch_eq_read, read]
  split <;> rfl

end Reader

end AcpiAudit
