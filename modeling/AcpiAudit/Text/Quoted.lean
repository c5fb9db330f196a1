import AcpiAudit.Text.Hex

set_option autoImplicit false

namespace AcpiAudit.Quoted

def escape (character : Char) : String :=
  if character = '\x00' then "\\0"
  else if character = '\t' then "\\t"
  else if character = '\n' then "\\n"
  else if character = '\r' then "\\r"
  else if character = '"' then "\\\""
  else if character = '\\' then "\\\\"
  else if character.toNat < 0x20 || character.toNat = 0x7F then
    "\\u\x7b" ++ Hex.digits character.toNat ++ "\x7d"
  else String.singleton character

def text (content : String) : String :=
  "\"" ++ String.join (content.toList.map escape) ++ "\""

end AcpiAudit.Quoted
