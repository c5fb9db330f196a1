import AcpiAudit.Table.Header

set_option autoImplicit false

namespace AcpiAudit

structure Image where
  signature : Signature
  -- The length that the header declares, which may differ from the number of bytes.
  length : Nat
  revision : Nat
  data : Bytes
  address : Nat := 0
  ordinal : Nat := 0
deriving Repr, DecidableEq

namespace Image

def ofBytes (data : Bytes) (address ordinal : Nat) : Except ReadError Image := do
  let reader : Reader := ⟨data, 0⟩
  return {
    signature := ← reader.signature 0
    length := ← reader.u32 4
    revision := ← reader.u8 8
    data, address, ordinal }

def reader (image : Image) : Reader := .upTo image.length image.data

def header (image : Image) : Except ReadError Header := image.reader.header

def lengthMatches (image : Image) : Bool := image.length == image.data.length

end Image

end AcpiAudit
