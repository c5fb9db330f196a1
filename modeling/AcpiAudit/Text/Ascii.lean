import AcpiAudit.Bytes.Basic

set_option autoImplicit false

namespace AcpiAudit.Ascii

def isAscii (byte : UInt8) : Bool := byte < 0x80

def isGraphic (byte : UInt8) : Bool := 0x21 ≤ byte && byte ≤ 0x7E

def text (bytes : Bytes) : String := String.ofList (bytes.map Char.ofUInt8)

def unpadded (field : Bytes) : Bytes := (field.reverse.dropWhile (· == 0)).reverse

def sameLetters (left right : String) : Bool :=
  left.toList.map Char.toLower == right.toList.map Char.toLower

end AcpiAudit.Ascii
