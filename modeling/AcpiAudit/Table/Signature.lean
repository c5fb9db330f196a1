import AcpiAudit.Bytes.Reader

set_option autoImplicit false

namespace AcpiAudit

structure Signature where
  bytes : Block 4
deriving Repr, DecidableEq

namespace Signature

def apmt : Signature := ⟨⟨[0x41, 0x50, 0x4D, 0x54], rfl⟩⟩

def gtdt : Signature := ⟨⟨[0x47, 0x54, 0x44, 0x54], rfl⟩⟩

-- The first four of the six bytes that name this table.
def ibft : Signature := ⟨⟨[0x69, 0x42, 0x46, 0x54], rfl⟩⟩

def nfit : Signature := ⟨⟨[0x4E, 0x46, 0x49, 0x54], rfl⟩⟩

def pcct : Signature := ⟨⟨[0x50, 0x43, 0x43, 0x54], rfl⟩⟩

def viot : Signature := ⟨⟨[0x56, 0x49, 0x4F, 0x54], rfl⟩⟩

def ofBytes? (bytes : Bytes) : Option Signature :=
  if size : bytes.length = 4 then some ⟨⟨bytes, size⟩⟩ else none

def ofText? (input : String) : Option Signature :=
  let bytes := input.toUTF8.toList
  if bytes.all Ascii.isAscii then ofBytes? bytes else none

def unknownText (input : String) : String := s!"'{input}' is not a four-character signature"

def shown (byte : UInt8) : UInt8 := if Ascii.isGraphic byte then byte else 0x3F

def text (signature : Signature) : String := Ascii.text (signature.bytes.val.map shown)

def order (left right : Signature) : Ordering := compare left.bytes.val right.bytes.val

end Signature

def Reader.signature (reader : Reader) (offset : Nat) : Except ReadError Signature :=
  (reader.block offset 4).map Signature.mk

end AcpiAudit
