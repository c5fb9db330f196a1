import AcpiAudit.Rule

set_option autoImplicit false

namespace AcpiAudit

structure Register where
  space : Nat
  bitWidth : Nat
  bitOffset : Nat
  accessSize : Nat
  address : Nat
deriving Repr, DecidableEq

namespace Register

def size : Nat := 12

def addressSpace (register : Register) : AddressSpace := .ofId register.space

-- The access size is undefined or that of one to eight bytes.
def accessSizeRule (register : Register) : Outcome := Rule.within register.accessSize 0 4

end Register

def Reader.register (reader : Reader) (offset : Nat) : Except ReadError Register := do
  let fields ← reader.window offset Register.size
  return {
    space := ← fields.u8 0
    bitWidth := ← fields.u8 1
    bitOffset := ← fields.u8 2
    accessSize := ← fields.u8 3
    address := ← fields.u64 4 }

end AcpiAudit
