set_option autoImplicit false

namespace AcpiAudit.Hex

def digits (value : Nat) : String := String.ofList (Nat.toDigits 16 value)

def text (value : Nat) : String := "0x" ++ digits value

def byteText (value : Nat) : String :=
  if value < 16 then "0x0" ++ digits value else text value

def upperDigit (value : Nat) : Char :=
  if value < 10 then Char.ofNat (48 + value) else Char.ofNat (55 + value)

def upper : Nat → Nat → List Char
  | 0, _ => []
  | width + 1, value => upper width (value / 16) ++ [upperDigit (value % 16)]

theorem length_upper (width value : Nat) : (upper width value).length = width := by
  induction width generalizing value with
  | zero => rfl
  | succ width ih => simp [upper, ih]

end AcpiAudit.Hex
