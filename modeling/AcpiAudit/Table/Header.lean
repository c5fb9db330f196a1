import AcpiAudit.Table.Signature
import AcpiAudit.Text.Utf8

set_option autoImplicit false

namespace AcpiAudit

structure Header where
  signature : Signature
  length : Nat
  revision : Nat
  checksum : Nat
  oemId : Block 6
  oemTableId : Block 8
  oemRevision : Nat
  creatorId : Block 4
  creatorRevision : Nat
deriving Repr, DecidableEq

namespace Header

def size : Nat := 36

def oemIdText (header : Header) : String := Utf8.text header.oemId.val

def oemTableIdText (header : Header) : String := Utf8.text header.oemTableId.val

def creatorIdText (header : Header) : String := Utf8.text header.creatorId.val

end Header

-- The header at the start. Only its own bytes have to be there, whatever length it declares.
def Reader.header (reader : Reader) : Except ReadError Header := do
  if reader.limit < Header.size then .error (.truncated 0 Header.size reader.limit)
  else
    return {
      signature := ← reader.signature 0
      length := ← reader.u32 4
      revision := ← reader.u8 8
      checksum := ← reader.u8 9
      oemId := ← reader.block 10 6
      oemTableId := ← reader.block 16 8
      oemRevision := ← reader.u32 24
      creatorId := ← reader.block 28 4
      creatorRevision := ← reader.u32 32 }

end AcpiAudit
