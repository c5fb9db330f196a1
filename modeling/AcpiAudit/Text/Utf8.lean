import AcpiAudit.Bytes.Basic

/-!
Decoding of bytes as UTF-8 that never fails: every maximal ill-formed part becomes one
replacement character.
-/

set_option autoImplicit false

namespace AcpiAudit.Utf8

-- A character of which some bytes have been read: the bits so far, how many bytes are still owed,
-- and the range in which the next one has to lie.
structure Pending where
  bits : Nat
  owed : Nat
  low : UInt8
  high : UInt8

inductive Lead where
  | complete (character : Char)
  | incomplete (pending : Pending)
  | illFormed

def replacement : Char := Char.ofNat 0xFFFD

-- The lead bytes of well-formed UTF-8. The second byte after `E0`, `ED`, `F0` and `F4` has a
-- narrower range, which keeps out long forms, surrogates and values past `10FFFF`.
def lead (byte : UInt8) : Lead :=
  if byte < 0x80 then .complete (Char.ofUInt8 byte)
  else if byte < 0xC2 then .illFormed
  else if byte < 0xE0 then .incomplete ⟨byte.toNat - 0xC0, 1, 0x80, 0xBF⟩
  else if byte = 0xE0 then .incomplete ⟨0, 2, 0xA0, 0xBF⟩
  else if byte = 0xED then .incomplete ⟨0xD, 2, 0x80, 0x9F⟩
  else if byte < 0xF0 then .incomplete ⟨byte.toNat - 0xE0, 2, 0x80, 0xBF⟩
  else if byte = 0xF0 then .incomplete ⟨0, 3, 0x90, 0xBF⟩
  else if byte < 0xF4 then .incomplete ⟨byte.toNat - 0xF0, 3, 0x80, 0xBF⟩
  else if byte = 0xF4 then .incomplete ⟨4, 3, 0x80, 0x8F⟩
  else .illFormed

def start (byte : UInt8) : List Char × Option Pending :=
  match lead byte with
  | .complete character => ([character], none)
  | .incomplete pending => ([], some pending)
  | .illFormed => ([replacement], none)

-- The same with a byte at any point. A byte that cannot continue the character begun ends it as
-- ill-formed, and stands between characters itself.
def step : Option Pending → UInt8 → List Char × Option Pending
  | none, byte => start byte
  | some ⟨bits, owed, low, high⟩, byte =>
    if low ≤ byte && byte ≤ high then
      let read := bits * 64 + (byte.toNat - 0x80)
      if owed = 1 then ([Char.ofNat read], none)
      else ([], some ⟨read, owed - 1, 0x80, 0xBF⟩)
    else (replacement :: (start byte).1, (start byte).2)

def decodeFrom : Option Pending → Bytes → List Char
  | none, [] => []
  | some _, [] => [replacement]
  | pending, byte :: rest =>
    (step pending byte).1 ++ decodeFrom (step pending byte).2 rest

def text (bytes : Bytes) : String := String.ofList (decodeFrom none bytes)

end AcpiAudit.Utf8
