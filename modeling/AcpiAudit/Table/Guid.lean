import AcpiAudit.Bytes.Reader

set_option autoImplicit false

namespace AcpiAudit

structure Guid where
  bytes : Block 16
deriving Repr, DecidableEq

namespace Guid

def ofBytes? (bytes : Bytes) : Option Guid :=
  if size : bytes.length = 16 then some ⟨⟨bytes, size⟩⟩ else none

def ofFields (first second third : Nat) (last : Block 8) : Guid :=
  ⟨⟨Bytes.ofNumber 4 first ++ Bytes.ofNumber 2 second ++ Bytes.ofNumber 2 third ++ last.val, by
    simp [Bytes.length_ofNumber, last.property]⟩⟩

def first (guid : Guid) : Nat := guid.bytes.val.number 0 4

def second (guid : Guid) : Nat := guid.bytes.val.number 4 2

def third (guid : Guid) : Nat := guid.bytes.val.number 6 2

def last (guid : Guid) : Bytes := guid.bytes.val.slice 8 8

def isNil (guid : Guid) : Bool := guid.bytes.val.all (· == 0)

def plain (bytes : Bytes) : List Char := bytes.flatMap fun byte => Hex.upper 2 byte.toNat

def text (guid : Guid) : String :=
  String.ofList (Hex.upper 8 guid.first ++ ['-'] ++ Hex.upper 4 guid.second ++ ['-'] ++
    Hex.upper 4 guid.third ++ ['-'] ++ plain (guid.last.take 2) ++ ['-'] ++
    plain (guid.last.drop 2))

end Guid

def Reader.guid (reader : Reader) (offset : Nat) : Except ReadError Guid :=
  (reader.block offset 16).map Guid.mk

end AcpiAudit
